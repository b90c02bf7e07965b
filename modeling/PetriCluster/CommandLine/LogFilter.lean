import PetriCluster.CommandLine.Pattern
import PetriCluster.Error
import PetriCluster.Number.Binary64

/-!
# Filters for messages

A filter is a list of directives with commas between them. A directive is a level, or a target, or a
span in brackets, or a target and a span, and after either of the latter there may be an equals sign
and a level.
-/

namespace PetriCluster.LogFilter

/-- Why a text is no filter. -/
inductive FilterFault where
  | malformed
  | crashed (cause : Crash)
  deriving DecidableEq, Repr

/-! ## Parts of a text -/

/-- Split a text behind the given number of bytes. -/
def splitAtByte : Nat → List Char → Except FilterFault (List Char × List Char)
  | 0, cs => .ok ([], cs)
  | _ + 1, [] => .error (.crashed .cutCharacter)
  | n + 1, c :: cs =>
    if c.utf8Size ≤ n + 1 then
      (splitAtByte (n + 1 - c.utf8Size) cs).map fun (front, rest) => (c :: front, rest)
    else .error (.crashed .cutCharacter)

/-- The text from a byte position on. -/
def suffixFrom (start : Nat) (cs : List Char) : Except FilterFault (List Char) :=
  (splitAtByte start cs).map (·.2)

/-- The text between two byte positions. -/
def slice (start stop : Nat) (cs : List Char) : Except FilterFault (List Char) := do
  let (_, rest) ← splitAtByte start cs
  return (← splitAtByte (stop - start) rest).1

/-! ## Levels and fields -/

/-- The names of the levels, from nothing to everything. -/
def levelNames : List String := ["off", "error", "warn", "info", "debug", "trace"]

/-- Whether a text is a level: a name in any case, a number up to five, or nothing. -/
def isLevel (s : List Char) : Bool :=
  let digits := match s with
    | '+' :: rest => rest
    | _ => s
  s.isEmpty || levelNames.contains (String.ofList s).toLower ||
    (match (digits.dropWhile (· == '0')) with
      | [] => !digits.isEmpty
      | [d] => decide ('1' ≤ d) && decide (d ≤ '5')
      | _ => false)

/-- Whether a text can be the value of a field: a number or a pattern. -/
def isValue (s : List Char) : Bool :=
  (Binary64.read? (String.ofList s)).isSome || Pattern.isValid s

/-- Whether a text is a field: a name, and maybe an equals sign and a value. What follows a second
equals sign does not count. -/
def isField (s : List Char) : Bool :=
  !s.isEmpty &&
    match s.dropWhile (· ≠ '=') with
    | '=' :: value => isValue (value.takeWhile (· ≠ '='))
    | _ => true

/-! ## Directives -/

/-- How far a directive has been read. The numbers are positions of bytes. -/
inductive Progress where
  | outset
  | target
  | span (start : Nat)
  | field (start : Nat)
  | fields
  | spanEnd
  | level (start : Nat)
  deriving DecidableEq, Repr

/-- Whether a character can start a target. -/
def startsTarget (c : Char) : Bool :=
  c == '-' || c == ':' || c == '_' || Text.isAlphanumeric c

/-- Read the character at a position of a directive. -/
def Progress.step (directive : List Char) (position : Nat) (c : Char) :
    Progress → Except FilterFault Progress
  | outset =>
    if c = '[' then return .span (position + 1)
    else if startsTarget c then return .target
    else throw .malformed
  | target => do
    if c = '=' then
      let _ ← slice 0 position directive
      return .level (position + 1)
    else if c = '[' then
      let _ ← slice 0 position directive
      return .span (position + 1)
    else return .target
  | span start => do
    if c = ']' then
      let _ ← slice start position directive
      return .spanEnd
    else if c = '\x7b' then
      let _ ← slice start position directive
      return .field (position + 1)
    else return .span start
  | field start => do
    if c = '\x7d' then
      if isField (← slice start position directive) then return .fields else throw .malformed
    else return .field start
  | fields => if c = ']' then return .spanEnd else throw .malformed
  | spanEnd => if c = '=' then return .level (position + 1) else throw .malformed
  | level start => return .level start

/-- Read characters from a position of a directive on. -/
def Progress.steps (directive : List Char) :
    Nat → List Char → Progress → Except FilterFault Progress
  | _, [], p => return p
  | position, c :: rest, p => do
    steps directive (position + c.utf8Size) rest (← p.step directive position c)

/-- Check a directive that has been read to its end. -/
def Progress.finish (directive : List Char) : Progress → Except FilterFault Unit
  | target | spanEnd => return ()
  | level start => do
    if isLevel (← suffixFrom start directive) then return () else throw .malformed
  | _ => throw .malformed

/-- Check one directive. -/
def checkDirective (directive : List Char) : Except FilterFault Unit := do
  (← Progress.steps directive 0 (Text.trim directive) .outset).finish directive

/-- Check a filter; between two commas there may be nothing. -/
def check (s : String) : Except FilterFault Unit :=
  (s.splitOn ",").forM fun d => if d.isEmpty then return () else checkDirective d.toList

end PetriCluster.LogFilter
