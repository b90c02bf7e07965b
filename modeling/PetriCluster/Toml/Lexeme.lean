import PetriCluster.Config.Value

/-!
# The small parts of a TOML text

Blanks, line ends, comments, keys, strings, numbers and dates. Each reader takes the rest of the
text and gives what it read and what is left, or nothing if the text is not well formed.
-/

namespace PetriCluster.Toml

/-- The rest of a text. -/
abbrev Input := List Char

/-! ## Blanks, comments and line ends -/

/-- Whether a character is a blank inside a line. -/
def isBlank (c : Char) : Bool := c = ' ' || c = '\t'

/-- Whether a character may stand in a comment or a string: no control character but the tab. -/
def isPrintable (c : Char) : Bool :=
  c = '\t' || (decide (32 ≤ c.toNat) && c.toNat != 127)

/-- Skip blanks. -/
def skipBlanks (i : Input) : Input := i.dropWhile isBlank

/-- Skip a comment. -/
def skipComment : Input → Input
  | '#' :: rest => rest.dropWhile isPrintable
  | i => i

/-- Read a line break. -/
def newline? : Input → Option Input
  | '\n' :: rest => some rest
  | '\r' :: '\n' :: rest => some rest
  | _ => none

/-- Pass over the end of a line: blanks, a comment, and a line end or the end of the text. -/
def endOfLine? (i : Input) : Option Input :=
  match skipComment (skipBlanks i) with
  | [] => some []
  | rest => newline? rest

/-- Pass over blanks, comments and line ends, at most `fuel` lines of them. -/
def skipLines : (fuel : Nat) → Input → Input
  | 0, i => i
  | fuel + 1, i =>
    let rest := skipComment (skipBlanks i)
    match newline? rest with
    | some rest => skipLines fuel rest
    | none => rest

/-! ## Strings -/

/-- The value of a digit. -/
def hexDigit? (c : Char) : Option Nat :=
  if c.isDigit then some (c.toNat - 48)
  else if decide ('a' ≤ c) && decide (c ≤ 'f') then some (c.toNat - 87)
  else if decide ('A' ≤ c) && decide (c ≤ 'F') then some (c.toNat - 55)
  else none

/-- Read a character given by `count` hexadecimal digits. -/
def codePoint? (count : Nat) (i : Input) : Option (Char × Input) := do
  let digits := i.take count
  guard (digits.length = count)
  let n ← digits.foldlM (fun n c => (hexDigit? c).map (16 * n + ·)) 0
  guard (n < 0xd800 ∨ 0xdfff < n ∧ n < 0x110000)
  return (Char.ofNat n, i.drop count)

/-- Read an escape. -/
def escape? : Input → Option (Char × Input)
  | 'b' :: rest => some (Char.ofNat 8, rest)
  | 't' :: rest => some ('\t', rest)
  | 'n' :: rest => some ('\n', rest)
  | 'f' :: rest => some (Char.ofNat 12, rest)
  | 'r' :: rest => some ('\r', rest)
  | '"' :: rest => some ('"', rest)
  | '\\' :: rest => some ('\\', rest)
  | 'u' :: rest => codePoint? 4 rest
  | 'U' :: rest => codePoint? 8 rest
  | _ => none

/-- Read a string in double quotes from behind the opening quote. -/
def basicString? : (fuel : Nat) → List Char → Input → Option (String × Input)
  | 0, _, _ => none
  | fuel + 1, done, i =>
    match i with
    | [] => none
    | '"' :: rest => some (String.ofList done.reverse, rest)
    | '\\' :: rest => do
      let (c, rest) ← escape? rest
      basicString? fuel (c :: done) rest
    | c :: rest => if isPrintable c then basicString? fuel (c :: done) rest else none

/-- Read a string in single quotes from behind the opening quote. -/
def literalString? (i : Input) : Option (String × Input) :=
  match i.dropWhile fun c => isPrintable c && c != '\'' with
  | '\'' :: rest => some (String.ofList (i.takeWhile fun c => isPrintable c && c != '\''), rest)
  | _ => none

/-- The closing quotes of a string over several lines, if they stand here: three of them, in front
of which one or two more belong to the string. -/
def closing? (quote : Char) (i : Input) : Option (List Char × Input) :=
  let run := (i.takeWhile (· == quote)).length
  if 3 ≤ run then
    let inner := min (run - 3) 2
    some (List.replicate inner quote, i.drop (inner + 3))
  else none

/-- Pass over blanks and line ends, at most `fuel` lines of them. -/
def skipSpace : (fuel : Nat) → Input → Input
  | 0, i => i
  | fuel + 1, i =>
    match newline? (skipBlanks i) with
    | some rest => skipSpace fuel rest
    | none => skipBlanks i

/-- Pass over the end of a line behind a backslash and all blanks and line ends behind it. -/
def continuation? (i : Input) : Option Input :=
  (newline? (skipBlanks i)).map fun rest => skipSpace (rest.length + 1) rest

/-- Read a string over several lines from behind the opening quotes. Escapes are only read between
double quotes. -/
def multilineString? (quote : Char) : (fuel : Nat) → List Char → Input → Option (String × Input)
  | 0, _, _ => none
  | fuel + 1, done, i =>
    match closing? quote i with
    | some (inner, rest) => some (String.ofList ((inner ++ done).reverse), rest)
    | none =>
      match newline? i with
      | some rest => multilineString? quote fuel ('\n' :: done) rest
      | none =>
        match i with
        | [] => none
        | c :: rest =>
          if c = '\\' ∧ quote = '"' then
            match continuation? rest with
            | some rest => multilineString? quote fuel done rest
            | none => do
              let (c, rest) ← escape? rest
              multilineString? quote fuel (c :: done) rest
          else if isPrintable c then multilineString? quote fuel (c :: done) rest
          else none

/-- A line end right behind the opening quotes does not belong to the string. -/
def skipFirstNewline (i : Input) : Input := (newline? i).getD i

/-- Read a text in quotes. -/
def string? : Input → Option (String × Input)
  | '"' :: '"' :: '"' :: rest => multilineString? '"' (rest.length + 1) [] (skipFirstNewline rest)
  | '\'' :: '\'' :: '\'' :: rest =>
    multilineString? '\'' (rest.length + 1) [] (skipFirstNewline rest)
  | '"' :: rest => basicString? (rest.length + 1) [] rest
  | '\'' :: rest => literalString? rest
  | _ => none

/-! ## Keys -/

/-- Whether a character may stand in a key without quotes. -/
def isKeyChar (c : Char) : Bool :=
  (decide (c.toNat < 128) && c.isAlphanum) || c = '_' || c = '-'

/-- Read a key without dots. -/
def simpleKey? : Input → Option (String × Input)
  | '"' :: rest => basicString? (rest.length + 1) [] rest
  | '\'' :: rest => literalString? rest
  | i =>
    let name := i.takeWhile isKeyChar
    if name.isEmpty then none else some (String.ofList name, i.dropWhile isKeyChar)

/-- Read at most `count` keys joined by points. -/
def keys? : (count : Nat) → Input → Option (List String × Input)
  | 0, _ => none
  | count + 1, i => do
    let (name, rest) ← simpleKey? (skipBlanks i)
    match skipBlanks rest with
    | '.' :: rest =>
      let (names, rest) ← keys? count rest
      return (name :: names, rest)
    | rest => return ([name], rest)

/-- The most keys that can be joined by points. -/
def maxKeys : Nat := 79

/-- Read a key with dots. -/
def dottedKey? (i : Input) : Option (List String × Input) :=
  keys? maxKeys i

/-! ## Numbers -/

/-- The digits of a number without the underscores between them; an underscore has to stand between
two digits. -/
def plainDigits? (isDigit : Char → Bool) (cs : List Char) : Option (List Char) :=
  match cs with
  | [] => none
  | [c] => if isDigit c then some [c] else none
  | c :: '_' :: d :: rest =>
    if isDigit c then (plainDigits? isDigit (d :: rest)).map (c :: ·) else none
  | c :: d :: rest => if isDigit c then (plainDigits? isDigit (d :: rest)).map (c :: ·) else none

/-- Digits of a number in decimal notation: no zero in front of other digits. -/
def decimalDigits? (cs : List Char) : Option (List Char) := do
  let digits ← plainDigits? Char.isDigit cs
  guard (digits.length = 1 ∨ digits.head? ≠ some '0')
  return digits

/-- A whole number in the range of a signed 64-bit word. -/
def inRange? (n : Int) : Option Config.Value :=
  if Int64.minValue.toInt ≤ n ∧ n ≤ Int64.maxValue.toInt then some (.int n) else none

/-- A number in a base. -/
def based? (base : Nat) (cs : List Char) : Option Config.Value := do
  let isDigit := fun c => match hexDigit? c with
    | some d => decide (d < base)
    | none => false
  let digits ← plainDigits? isDigit cs
  inRange? (digits.foldl (fun n c => base * n + (hexDigit? c).getD 0) 0)

/-- A whole number. -/
def integer? : List Char → Option Config.Value
  | '0' :: 'x' :: rest => based? 16 rest
  | '0' :: 'o' :: rest => based? 8 rest
  | '0' :: 'b' :: rest => based? 2 rest
  | cs => do
    let (negative, rest) := Binary64.splitSign cs
    let n : Int := Binary64.digitsValue (← decimalDigits? rest)
    inRange? (if negative then -n else n)

/-- The exponent at the end of a floating-point number. -/
def floatExponent? : List Char → Option Int
  | [] => none
  | c :: rest => do
    guard (c = 'e' ∨ c = 'E')
    let (negative, digits) := Binary64.splitSign rest
    let n : Int := Binary64.digitsValue (← plainDigits? Char.isDigit digits)
    return if negative then -n else n

/-- A floating-point number in decimal notation; one beyond all finite numbers is no number. -/
def decimalFloat? (cs : List Char) : Option Config.Value := do
  let (negative, cs) := Binary64.splitSign cs
  let isPart := fun c => c.isDigit || c = '_'
  let whole ← decimalDigits? (cs.takeWhile isPart)
  let rest := cs.dropWhile isPart
  let (places, exponent) ← match rest with
    | '.' :: rest => do
      let places ← plainDigits? Char.isDigit (rest.takeWhile isPart)
      match rest.dropWhile isPart with
      | [] => some (places, 0)
      | rest => some (places, ← floatExponent? rest)
    | rest => some ([], ← floatExponent? rest)
  let x := Binary64.ofDecimal negative (Binary64.digitsValue (whole ++ places))
    (exponent - places.length)
  guard (x ≠ .infinity false)
  return .float x

/-- A floating-point number that has a name. -/
def namedFloat? (cs : List Char) : Option Config.Value :=
  let (negative, word) := Binary64.splitSign cs
  if word = ['i', 'n', 'f'] then some (.float (.infinity negative))
  else if word = ['n', 'a', 'n'] then some (.float .nan)
  else none

/-! ## Dates and times -/

/-- Read so many digits. -/
def fixedDigits? (count : Nat) (cs : List Char) : Option (Nat × List Char) :=
  let digits := cs.take count
  if digits.length = count ∧ digits.all Char.isDigit then
    some (Binary64.digitsValue digits, cs.drop count)
  else none

/-- Read the given character. -/
def char? (wanted : Char) : List Char → Option (List Char)
  | c :: rest => if c = wanted then some rest else none
  | [] => none

/-- The days of a month. -/
def daysInMonth (year month : Nat) : Nat :=
  if month = 2 then
    if year % 4 = 0 ∧ (year % 100 ≠ 0 ∨ year % 400 = 0) then 29 else 28
  else if month = 4 ∨ month = 6 ∨ month = 9 ∨ month = 11 then 30
  else 31

/-- A number of two digits. -/
def twoDigits (n : Nat) : String := (if n < 10 then "0" else "") ++ toString n

/-- Read a date. -/
def date? (cs : List Char) : Option (String × List Char) := do
  let (year, rest) ← fixedDigits? 4 cs
  let (month, rest) ← fixedDigits? 2 (← char? '-' rest)
  let (day, rest) ← fixedDigits? 2 (← char? '-' rest)
  guard (1 ≤ month ∧ month ≤ 12 ∧ 1 ≤ day ∧ day ≤ daysInMonth year month)
  return (String.ofList (cs.take 4) ++ s!"-{twoDigits month}-{twoDigits day}", rest)

/-- The fraction of a second: at most nine places count, and zeros at the end do not show. -/
def fraction (digits : List Char) : String :=
  let shown := ((digits.take 9).reverse.dropWhile (· == '0')).reverse
  if shown.isEmpty then "" else "." ++ String.ofList shown

/-- Read a time of day. -/
def time? (cs : List Char) : Option (String × List Char) := do
  let (hour, rest) ← fixedDigits? 2 cs
  let (minute, rest) ← fixedDigits? 2 (← char? ':' rest)
  let (second, rest) ← fixedDigits? 2 (← char? ':' rest)
  guard (hour ≤ 23 ∧ minute ≤ 59 ∧ second ≤ 60)
  let text := s!"{twoDigits hour}:{twoDigits minute}:{twoDigits second}"
  match rest with
  | '.' :: rest =>
    let digits := rest.takeWhile Char.isDigit
    guard (digits ≠ [])
    return (text ++ fraction digits, rest.dropWhile Char.isDigit)
  | rest => return (text, rest)

/-- The distance from universal time, if it is given. -/
def offset? : List Char → Option String
  | [] => some ""
  | [c] => if c = 'Z' ∨ c = 'z' then some "Z" else none
  | sign :: rest => do
    guard (sign = '+' ∨ sign = '-')
    let (hours, rest) ← fixedDigits? 2 rest
    let (minutes, rest) ← fixedDigits? 2 (← char? ':' rest)
    guard (hours ≤ 23 ∧ minutes ≤ 59 ∧ rest = [])
    let sign := if hours = 0 ∧ minutes = 0 then '+' else sign
    return String.singleton sign ++ s!"{twoDigits hours}:{twoDigits minutes}"

/-- A date, a time, or both with a `T` or a blank between them; as text in its usual form. -/
def dateTime? (cs : List Char) : Option String :=
  match date? cs with
  | some (day, []) => some day
  | some (day, mark :: rest) => do
    guard (mark = 'T' ∨ mark = 't' ∨ mark = ' ')
    let (clock, rest) ← time? rest
    return day ++ "T" ++ clock ++ (← offset? rest)
  | none =>
    match time? cs with
    | some (clock, []) => some clock
    | _ => none

/-! ## Values that are one word -/

/-- Whether a character may stand in a number or a date. -/
def isWordChar (c : Char) : Bool :=
  (decide (c.toNat < 128) && c.isAlphanum) || c = '_' || c = '-' || c = '+' || c = '.' || c = ':'

/-- The truth value or the number that a word stands for. -/
def word? (cs : List Char) : Option Config.Value :=
  if cs = ['t', 'r', 'u', 'e'] then some (.bool true)
  else if cs = ['f', 'a', 'l', 's', 'e'] then some (.bool false)
  else decimalFloat? cs <|> namedFloat? cs <|> integer? cs

end PetriCluster.Toml
