import PetriCluster.Config.Value
import PetriCluster.Error
import PetriCluster.Text.Lowercase

/-!
# Settings over settings

A source of settings names each of them by a key, and a key may be a path: a name, then steps into a
table (`.name`) or into a list (`[3]`, or `[-1]` from the end).
-/

namespace PetriCluster.Config

/-- A step of a path. -/
inductive Step where
  | name (s : String)
  | index (n : Int)
  deriving DecidableEq, Repr

namespace Step

/-- Whether a character may stand in a name of a path. -/
def isNameChar (c : Char) : Bool :=
  c.isAlphanum || c == ' ' || c == '_' || c == '-'

/-- Whether a character may stand around a position. -/
def isBlank (c : Char) : Bool :=
  c == ' ' || c == '\t'

/-- A name at the start of a text, and the rest. -/
def takeName? (cs : List Char) : Option (String × List Char) :=
  let name := cs.takeWhile isNameChar
  if name = [] then none else some (String.ofList name, cs.dropWhile isNameChar)

/-- The minus sign that a text may start with, and the rest. -/
def takeMinus : List Char → Bool × List Char
  | '-' :: rest => (true, rest)
  | cs => (false, cs)

/-- A position and its closing bracket at the start of a text, and the rest. A position has 64
bits. -/
def takeIndex? (cs : List Char) : Option (Int × List Char) := do
  let (negative, cs) := takeMinus (cs.dropWhile isBlank)
  let digits := cs.takeWhile Char.isDigit
  guard (digits ≠ [])
  let n : Int := Binary64.digitsValue digits
  let n := if negative then -n else n
  guard (Int64.minValue.toInt ≤ n ∧ n ≤ Int64.maxValue.toInt)
  match (cs.dropWhile Char.isDigit).dropWhile isBlank with
  | ']' :: rest => return (n, rest)
  | _ => none

/-- The steps of a text after its first name; there are fewer than `fuel`. -/
def further? : Nat → List Char → Option (List Step)
  | 0, _ => none
  | fuel + 1, cs =>
    match cs with
    | [] => some []
    | '.' :: rest => do
      let (s, rest) ← takeName? rest
      return name s :: (← further? fuel rest)
    | '[' :: rest => do
      let (n, rest) ← takeIndex? rest
      return index n :: (← further? fuel rest)
    | _ => none

/-- A step with its name in small letters. -/
def lowered : Step → Step
  | name s => name (Text.lowercase s)
  | index n => index n

end Step

/-- The path a key stands for; a key that is no path stands for itself. -/
def pathOfKey (key : String) : List Step :=
  let steps? : Option (List Step) := do
    let (s, rest) ← Step.takeName? key.toList
    return .name s :: (← Step.further? (rest.length + 1) rest)
  (steps?.getD [.name key]).map Step.lowered

namespace Value

mutual

/-- A value put where another may be: tables are merged name by name, anything else replaces what is
there. -/
def mergeInto (old : Option Value) : Value → Value
  | table es =>
    match es with
    | [] => old.getD (table [])
    | _ => table (mergeEntries ((old.map entries).getD []) es)
  | v => v

/-- Named values put into the entries of a table. -/
def mergeEntries (old : List (String × Value)) : List (String × Value) → List (String × Value)
  | [] => old
  | (name, v) :: rest =>
    let name := Text.lowercase name
    mergeEntries (store name (mergeInto (lookup name old) v) old) rest

end

/-- The elements of a list; none for anything else. -/
def elements : Value → List Value
  | list l => l
  | _ => []

/-- The most elements a list can have: each takes 96 bytes, and their size is a number of 63 bits. -/
def maxElements : Nat := (UInt64.size / 2 - 1) / 96

/-- The place in a list of the given length that a position means. It may lie behind the end, but
neither before the start nor beyond what a list can hold. -/
def place (length : Nat) (n : Int) : Except Crash Nat :=
  if n < 0 then
    if n.natAbs ≤ length then .ok (length - n.natAbs) else .error .subtractOverflow
  else if length ≤ n.toNat ∧ maxElements ≤ n.toNat then .error .capacityOverflow
  else .ok n.toNat

/-- A list with an element put at a place, and nulls in between if it was shorter. -/
def putAt (l : List Value) (n : Nat) (v : Value) : List Value :=
  (l ++ List.replicate (n + 1 - l.length) null).set n v

/-- Set a path inside a value, of which there may be none yet. -/
def setPath (new : Value) : List Step → Option Value → Except Crash Value
  | [], _ => return new
  | [.name s], old =>
    let es := (old.map entries).getD []
    return table (store s (mergeInto (lookup s es) new) es)
  | .name s :: rest, old => do
    let es := (old.map entries).getD []
    return table (store s (← setPath new rest (lookup s es)) es)
  | .index n :: rest, old => do
    let l := (old.map elements).getD []
    let n ← place l.length n
    return list (putAt l n (← setPath new rest l[n]?))

/-- Set all keys of a source over what is there. -/
def overlay (settings : Value) (source : List (String × Value)) : Except Crash Value :=
  source.foldlM (fun v e => setPath e.2 (pathOfKey e.1) (some v)) settings

end Value

end PetriCluster.Config
