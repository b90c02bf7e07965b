import PetriCluster.Text.Hidden

/-!
# Text in quotes

Messages show a text in double quotes. A quote, a backslash and the usual control characters are
written with a backslash; a character that does not show by itself is written by its number, as
`\u{301}`.
-/

namespace PetriCluster.Quoted

/-- A character inside quotes. -/
def escape (c : Char) : List Char :=
  if c = '"' then ['\\', '"']
  else if c = '\\' then ['\\', '\\']
  else if c = '\n' then ['\\', 'n']
  else if c = '\r' then ['\\', 'r']
  else if c = '\t' then ['\\', 't']
  else if c = Char.ofNat 0 then ['\\', '0']
  else if CharSet.hidden.contains c then ['\\', 'u', '\x7b'] ++ Nat.toDigits 16 c.toNat ++ ['\x7d']
  else [c]

/-- A text in quotes. -/
def quote (s : String) : String :=
  String.ofList ('"' :: (s.toList.flatMap escape ++ ['"']))

end PetriCluster.Quoted
