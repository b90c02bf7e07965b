/-!
# Texts in TOML

A text can be written in four ways: in double or in single quotes, on one line or over several.
Between double quotes characters can be escaped, between single quotes they cannot.
-/

namespace PetriCluster.Toml

/-- The ways to write a text. -/
inductive Quoting where
  | basic
  | literal
  | longBasic
  | longLiteral
  deriving DecidableEq, Repr

/-- The longest run of a character, where the text follows a run of the given length. -/
def longestRun (c : Char) (run : Nat) : List Char → Nat
  | [] => run
  | d :: rest => if d = c then longestRun c (run + 1) rest else max run (longestRun c 0 rest)

/-- The longest run of one quote a text may have. -/
def maxQuoteRun : Nat := 255

/-- Whether the quotes of a text can be counted. -/
def isCountable (s : String) : Bool :=
  ['"', '\''].all fun c => decide (longestRun c 0 s.toList ≤ maxQuoteRun)

/-- Whether a character can only be written with an escape: control characters except the tab and
the line end. -/
def needsCode (c : Char) : Bool :=
  (decide (c.toNat < 32) && c != '\t' && c != '\n') || c.toNat == 127

/-- The quotes a text needs. -/
def Quoting.of (s : List Char) : Quoting :=
  let codes := s.any needsCode
  let newline := s.contains '\n'
  let backslash := s.contains '\\'
  let doubles := longestRun '"' 0 s
  let singles := longestRun '\'' 0 s
  if ¬codes ∧ ¬newline ∧ ¬backslash ∧ doubles = 0 then basic
  else if ¬codes ∧ ¬newline ∧ singles = 0 then literal
  else if ¬codes ∧ ¬backslash ∧ doubles ≤ 2 then longBasic
  else if ¬codes ∧ singles ≤ 2 then longLiteral
  else if newline then longBasic
  else basic

namespace Quoting

/-- Whether a text may go over several lines. -/
def isLong : Quoting → Bool
  | basic | literal => false
  | longBasic | longLiteral => true

/-- What stands before and after the text. -/
def delimiter : Quoting → List Char
  | basic => ['"']
  | literal => ['\'']
  | longBasic => ['"', '"', '"']
  | longLiteral => ['\'', '\'', '\'']

end Quoting

/-- A hexadecimal digit with large letters. -/
def largeHexDigit (n : Nat) : Char :=
  if n < 10 then Char.ofNat (48 + n) else Char.ofNat (55 + n)

/-- The escape of a character between double quotes, if it needs one; double quotes themselves are
left aside. -/
def Quoting.escape? (long : Bool) (c : Char) : Option (List Char) :=
  if c = '\\' then some ['\\', '\\']
  else if c = '\t' then some ['\\', 't']
  else if c = '\r' then some ['\\', 'r']
  else if c = '\n' then if long then none else some ['\\', 'n']
  else if c = Char.ofNat 8 then some ['\\', 'b']
  else if c = Char.ofNat 12 then some ['\\', 'f']
  else if c.toNat < 32 ∨ c.toNat = 127 then
    some ['\\', 'u', '0', '0', largeHexDigit (c.toNat / 16), largeHexDigit (c.toNat % 16)]
  else none

/-- A text between double quotes, after a run of bare double quotes. Two in a row may stand bare if
the text goes over several lines, and none otherwise. -/
def Quoting.escaped (long : Bool) (run : Nat) : List Char → List Char
  | [] => []
  | c :: rest =>
    if c = '"' then
      if run < (if long then 2 else 0) then '"' :: escaped long (run + 1) rest
      else '\\' :: '"' :: escaped long 0 rest
    else
      match escape? long c with
      | some code => code ++ escaped long 0 rest
      | none => c :: escaped long 0 rest

/-- A text between its quotes. -/
def Quoting.body : Quoting → List Char → List Char
  | basic, s => escaped false 0 s
  | longBasic, s => escaped true 0 s
  | literal, s | longLiteral, s => s

/-- A text in quotes; one that goes over several lines starts on a line of its own. -/
def quoted (s : String) : String :=
  let cs := s.toList
  let way := Quoting.of cs
  let lead := if way.isLong ∧ cs.contains '\n' then ['\n'] else []
  String.ofList (way.delimiter ++ lead ++ way.body cs ++ way.delimiter)

end PetriCluster.Toml
