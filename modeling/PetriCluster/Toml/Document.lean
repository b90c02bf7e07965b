import PetriCluster.Toml.Lexeme

/-!
# TOML documents

A document is a list of lines: keys with their values, and headers that open a table or add a table to
a list. No table may be defined twice, so a document under construction knows how each of its tables
came about (`Origin`).
-/

namespace PetriCluster.Toml

open PetriCluster.Config (Value)

/-- How a table came about. -/
inductive Origin where
  | header
  | implied
  | dotted
  | braces
  deriving DecidableEq, Repr

/-- A part of a document under construction. -/
inductive Item where
  | value (v : Value)
  | date (text : String)
  | list (elements : List Item)
  | table (origin : Origin) (entries : List (String × Item))
  | tables (elements : List (List (String × Item)))
  deriving Inhabited

/-- The named parts of a table under construction. -/
abbrev Entries := List (String × Item)

namespace Entries

/-- The entry of a name. -/
def find? (es : Entries) (name : String) : Option Item :=
  (List.find? (fun e => e.1 == name) es).map (·.2)

/-- Put a part in, in place of one of the same name. -/
def put (name : String) (item : Item) : Entries → Entries
  | [] => [(name, item)]
  | e :: rest => if e.1 = name then (name, item) :: rest else e :: put name item rest

/-- Work on the table at the end of the steps of a header; steps that are missing are made, and a
list of tables stands for its last element. -/
def descend (f : Entries → Option Entries) : List String → Entries → Option Entries
  | [], es => f es
  | step :: path, es =>
    match es.find? step with
    | none => (descend f path []).map fun child => es.put step (.table .implied child)
    | some (.table origin child) =>
      if origin = .braces then none
      else (descend f path child).map fun child => es.put step (.table origin child)
    | some (.tables elements) =>
      match elements.getLast? with
      | none => none
      | some last =>
        (descend f path last).map fun last => es.put step (.tables (elements.dropLast ++ [last]))
    | some _ => none

/-- Give a key its item. The steps of a key with points may go through tables that came about in
the same way, and end in one; a key has one value. -/
def assign (name : String) (item : Item) : List String → Entries → Option Entries
  | [], es => if (es.find? name).isSome then none else some (es.put name item)
  | step :: path, es =>
    match es.find? step with
    | none => (assign name item path []).map fun child => es.put step (.table .dotted child)
    | some (.table origin child) =>
      if origin = .header ∨ origin = .braces ∨ path = [] ∧ origin ≠ .dotted then none
      else (assign name item path child).map fun child => es.put step (.table origin child)
    | some (.tables elements) =>
      match path, elements.getLast? with
      | _ :: _, some last =>
        (assign name item path last).map fun last => es.put step (.tables (elements.dropLast ++ [last]))
      | _, _ => none
    | some _ => none

/-- Open a table by its header: it must be new, or only implied so far, and stands at the end. -/
def openTable (name : String) (es : Entries) : Option Entries :=
  match es.find? name with
  | none => some (es.put name (.table .header []))
  | some (.table .implied child) => some (es.filter (·.1 ≠ name) ++ [(name, .table .header child)])
  | some _ => none

/-- Add a table to a list of tables, which may be new. -/
def addTable (name : String) (es : Entries) : Option Entries :=
  match es.find? name with
  | none => some (es.put name (.tables [[]]))
  | some (.tables elements) => some (es.put name (.tables (elements ++ [[]])))
  | some _ => none

/-- The key that makes a table a date, if it is the first one. -/
def dateKey : String := "$__toml_private_datetime"

/-- The date that an item stands for: only a text can. -/
def dateText? : Item → Option String
  | .value (.str s) => dateTime? s.toList
  | _ => none

/-- A table as a value, given its named values; those of a date do not count. -/
def asValue? (es : Entries) (values : Option (List (String × Value))) : Option Value :=
  match es with
  | (name, item) :: _ =>
    if name = dateKey then (dateText? item).map .str else values.map .table
  | [] => some (.table [])

mutual

/-- The value of an item. -/
def itemValue? : Item → Option Value
  | .value v => some v
  | .date text => some (.str text)
  | .list elements => (elementValues? elements).map .list
  | .table _ entries => asValue? entries (entryValues? entries)
  | .tables elements => (tableValues? elements).map .list

/-- The values of elements. -/
def elementValues? : List Item → Option (List Value)
  | [] => some []
  | item :: rest => do
    return (← itemValue? item) :: (← elementValues? rest)

/-- The values of entries. -/
def entryValues? : List (String × Item) → Option (List (String × Value))
  | [] => some []
  | (name, item) :: rest => do
    return (name, ← itemValue? item) :: (← entryValues? rest)

/-- The values of tables. -/
def tableValues? : List (List (String × Item)) → Option (List Value)
  | [] => some []
  | entries :: rest => do
    return (← asValue? entries (entryValues? entries)) :: (← tableValues? rest)

end

/-- The value of all entries. -/
def toValue? (es : Entries) : Option Value :=
  asValue? es (entryValues? es)

end Entries

/-! ## Values -/

/-- Read a truth value, a number or a date. A date may go on behind one blank with a time. -/
def scalar? (i : Input) : Option (Item × Input) :=
  let word := i.takeWhile isWordChar
  let rest := i.dropWhile isWordChar
  let long := word ++ ' ' :: (rest.drop 1).takeWhile isWordChar
  match rest.head?, date? word, dateTime? long with
  | some ' ', some (_, []), some text => some (.date text, (rest.drop 1).dropWhile isWordChar)
  | _, _, _ =>
    match dateTime? word with
    | some text => some (.date text, rest)
    | none => (word? word).map fun v => (.value v, rest)

/-- Read the elements of a list from behind its opening bracket or a comma. -/
def elements? (read : Input → Option (Item × Input)) :
    (fuel : Nat) → List Item → Input → Option (List Item × Input)
  | 0, _, _ => none
  | fuel + 1, done, i =>
    match skipLines i.length i with
    | ']' :: rest => some (done.reverse, rest)
    | i => do
      let (item, rest) ← read i
      match skipLines rest.length rest with
      | ',' :: rest => elements? read fuel (item :: done) rest
      | ']' :: rest => some ((item :: done).reverse, rest)
      | _ => none

/-- Read a key, the sign between it and its value, and the value. -/
def keyValue? (read : Input → Option (Item × Input)) (i : Input) :
    Option (List String × Item × Input) := do
  let (path, rest) ← dottedKey? i
  let rest ← char? '=' rest
  let (item, rest) ← read (skipBlanks rest)
  return (path, item, rest)

/-- Bind a dotted key. -/
def assignPath (path : List String) (item : Item) (es : Entries) : Option Entries :=
  match path.getLast? with
  | some name => es.assign name item path.dropLast
  | none => none

/-- Read the members of a table in braces from behind the opening brace or a comma. -/
def members? (read : Input → Option (Item × Input)) :
    (fuel : Nat) → Entries → Input → Option (Entries × Input)
  | 0, _, _ => none
  | fuel + 1, es, i => do
    let (path, item, rest) ← keyValue? read i
    let es ← assignPath path item es
    match skipBlanks rest with
    | ',' :: rest => members? read fuel es rest
    | '\x7d' :: rest => some (es, rest)
    | _ => none

/-- Read a value in which lists and tables are nested at most `depth` deep. -/
def value? (depth : Nat) (i : Input) : Option (Item × Input) :=
  match depth, i with
  | _, '"' :: _ | _, '\'' :: _ => (string? i).map fun (s, rest) => (.value (.str s), rest)
  | depth + 1, '[' :: rest =>
    (elements? (value? depth) (rest.length + 1) [] rest).map fun (l, rest) => (.list l, rest)
  | depth + 1, '\x7b' :: rest =>
    match skipBlanks rest with
    | '\x7d' :: rest => some (.table .braces [], rest)
    | rest =>
      (members? (value? depth) (rest.length + 1) [] rest).map fun (es, rest) =>
        (.table .braces es, rest)
  | _, _ => scalar? i

/-- How deep lists and tables may be nested. -/
def maxDepth : Nat := 79

/-! ## Documents -/

/-- Read a header from behind its opening brackets up to the end of its line. -/
def header? (brackets : Nat) (i : Input) : Option (List String × Input) := do
  let (path, rest) ← dottedKey? i
  guard (rest.take brackets = List.replicate brackets ']')
  let rest ← endOfLine? (rest.drop brackets)
  return (path, rest)

/-- Work on the table that a header names, seen from the table around it. -/
def withHeader (f : String → Entries → Option Entries) (path : List String) (es : Entries) :
    Option Entries :=
  match path.getLast? with
  | some name => es.descend (f name) path.dropLast
  | none => none

/-- Read the lines of a document; `current` is the table that keys go to. -/
def lines? : (fuel : Nat) → (current : List String) → Entries → Input → Option Entries
  | 0, _, _, _ => none
  | fuel + 1, current, es, i =>
    match skipBlanks i with
    | [] => some es
    | '[' :: '[' :: rest => do
      let (path, rest) ← header? 2 rest
      lines? fuel path (← withHeader (fun name es => es.addTable name) path es) rest
    | '[' :: rest => do
      let (path, rest) ← header? 1 rest
      lines? fuel path (← withHeader (fun name es => es.openTable name) path es) rest
    | c :: rest =>
      if c = '#' ∨ c = '\n' ∨ c = '\r' then do
        lines? fuel current es (← endOfLine? (c :: rest))
      else do
        let (path, item, rest) ← keyValue? (value? maxDepth) (c :: rest)
        lines? fuel current (← es.descend (assignPath path item) current) (← endOfLine? rest)

/-- A mark at the front of a text that only says how the text is encoded. -/
def skipMark (i : Input) : Input :=
  match i with
  | c :: rest => if c.toNat = 0xfeff then rest else i
  | [] => []

/-- The settings in a document. -/
def read? (text : String) : Option (List (String × Value)) := do
  let i := skipMark text.toList
  match ← (← lines? (i.length + 1) [] [] i).toValue? with
  | .table values => return values
  | _ => none

end PetriCluster.Toml
