/-!
# JSON values and their text

Reports are JSON values. `Json.pretty` writes a value over several lines, two blanks to a level,
one member or element to a line, `[]` and `{}` for what is empty, and no line end after the last
bracket; `Json.compact` writes it on one line without blanks.
-/

namespace PetriCluster

/-- A JSON value; the members of an object keep the order they are given in. -/
inductive Json where
  | null
  | bool (b : Bool)
  | num (n : Nat)
  | str (s : String)
  | arr (elements : List Json)
  | obj (members : List (String × Json))
  deriving Inhabited, BEq

namespace Json

/-- A number that may be missing. -/
def ofNat? : Option Nat → Json
  | some n => num n
  | none => null

/-- A text that may be missing. -/
def ofString? : Option String → Json
  | some s => str s
  | none => null

/-- The escape of a character inside a string, if it has one. -/
def escape? (c : Char) : Option String :=
  if c = '"' then some "\\\""
  else if c = '\\' then some "\\\\"
  else if c = '\n' then some "\\n"
  else if c = '\r' then some "\\r"
  else if c = '\t' then some "\\t"
  else if c = Char.ofNat 8 then some "\\b"
  else if c = Char.ofNat 12 then some "\\f"
  else if c.toNat < 32 then
    let digit := fun n => if n < 10 then Char.ofNat (48 + n) else Char.ofNat (87 + n)
    some (String.ofList ['\\', 'u', '0', '0', digit (c.toNat / 16), digit (c.toNat % 16)])
  else none

/-- A text in quotes. -/
def quoted (s : String) : String :=
  "\"" ++ String.join (s.toList.map fun c => (escape? c).getD (String.singleton c)) ++ "\""

/-- A line break with indentation. -/
def newline (level : Nat) : String :=
  "\n" ++ String.ofList (List.replicate (2 * level) ' ')

mutual

/-- The text of a value whose first line starts at the given level. -/
def prettyAt (level : Nat) : Json → String
  | null => "null"
  | bool b => if b then "true" else "false"
  | num n => toString n
  | str s => quoted s
  | arr [] => "[]"
  | arr (x :: rest) =>
    "[" ++ newline (level + 1) ++ prettyAt (level + 1) x ++ prettyElements (level + 1) rest ++
      newline level ++ "]"
  | obj [] => "\x7b\x7d"
  | obj ((k, v) :: rest) =>
    "\x7b" ++ newline (level + 1) ++ quoted k ++ ": " ++ prettyAt (level + 1) v ++
      prettyMembers (level + 1) rest ++ newline level ++ "\x7d"

/-- The further elements of a list, each on its own line. -/
def prettyElements (level : Nat) : List Json → String
  | [] => ""
  | x :: rest => "," ++ newline level ++ prettyAt level x ++ prettyElements level rest

/-- The further members of an object, each on its own line. -/
def prettyMembers (level : Nat) : List (String × Json) → String
  | [] => ""
  | (k, v) :: rest =>
    "," ++ newline level ++ quoted k ++ ": " ++ prettyAt level v ++ prettyMembers level rest

end

/-- The text of a value over several lines. -/
def pretty (j : Json) : String :=
  prettyAt 0 j

mutual

/-- A value without blanks. -/
def compact : Json → String
  | null => "null"
  | bool b => if b then "true" else "false"
  | num n => toString n
  | str s => quoted s
  | arr elements => "[" ++ compactElements true elements ++ "]"
  | obj members => "\x7b" ++ compactMembers true members ++ "\x7d"

/-- Elements on one line; the first has no comma before it. -/
def compactElements (first : Bool) : List Json → String
  | [] => ""
  | x :: rest => (if first then "" else ",") ++ compact x ++ compactElements false rest

/-- Members on one line; the first has no comma before it. -/
def compactMembers (first : Bool) : List (String × Json) → String
  | [] => ""
  | (k, v) :: rest =>
    (if first then "" else ",") ++ quoted k ++ ":" ++ compact v ++ compactMembers false rest

end

end Json

end PetriCluster
