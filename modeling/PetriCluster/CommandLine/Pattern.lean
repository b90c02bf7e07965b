import PetriCluster.Text.Blank
import PetriCluster.Text.Numeric

/-!
# Patterns

A filter may compare the value of a field with a pattern: characters that stand for themselves,
classes in brackets, groups in parentheses, alternatives, repetitions and anchors.
-/

namespace PetriCluster.Pattern

/-- The switches that matter for whether a pattern is valid. -/
structure Flags where
  ignoreCase : Bool := false
  unicode : Bool := true
  spaced : Bool := false
  deriving DecidableEq, Repr

/-- A text without the comment it starts with. -/
def skipComment : List Char → List Char
  | [] => []
  | '\n' :: rest => rest
  | _ :: rest => skipComment rest

/-- A text without the blanks and comments it starts with, of which there are fewer than `fuel`. -/
def skipBlanks : (fuel : Nat) → List Char → List Char
  | 0, cs => cs
  | fuel + 1, cs =>
    match cs with
    | [] => []
    | '#' :: rest => skipBlanks fuel (skipComment rest)
    | c :: rest => if CharSet.blank.contains c then skipBlanks fuel rest else cs

/-- Skip blanks and comments where they are ignored. -/
def Flags.skip (f : Flags) (cs : List Char) : List Char :=
  if f.spaced then skipBlanks (cs.length + 1) cs else cs

/-- A text without the blanks it starts with. -/
def dropBlanks (cs : List Char) : List Char :=
  cs.dropWhile CharSet.blank.contains

/-- The next character that counts, as far as one can tell without reading on: a comment is taken to
end where its first word begins. -/
def Flags.peek? (f : Flags) (cs : List Char) : Option Char :=
  if f.spaced then
    match dropBlanks cs with
    | '#' :: rest => (dropBlanks rest).head?
    | cs => cs.head?
  else cs.head?

/-! ## Nesting -/

/-- How deep a pattern may be nested. Groups, classes, repetitions and operators of classes each nest
what they hold, and so do parts that stand side by side. -/
def maxDepth : Nat := 250

/-- How deep parts side by side are nested, given how deep each of them is. -/
def joined : List Nat → Nat
  | [] => 0
  | [d] => d
  | ds => 1 + ds.foldl max 0

/-! ## Single characters -/

/-- The smallest parts of a pattern. -/
inductive Atom where
  /-- A character that stands for itself; it may have been given as a byte. -/
  | literal (c : Char) (isByte : Bool)
  | any
  | anchor
  | boundary
  | family (negated : Bool)
  deriving DecidableEq, Repr

/-- Whether an atom may stand in a pattern. -/
def Flags.permits (f : Flags) : Atom → Bool
  | .literal c isByte => if f.unicode then !f.ignoreCase else !isByte || decide (c.toNat < 128)
  | .any => f.unicode
  | .anchor => true
  | .boundary => !f.unicode
  | .family negated => !f.unicode && !negated

/-- The value of a hexadecimal digit. -/
def hexValue? (c : Char) : Option Nat :=
  if '0' ≤ c ∧ c ≤ '9' then some (c.toNat - '0'.toNat)
  else if 'a' ≤ c ∧ c ≤ 'f' then some (c.toNat - 'a'.toNat + 10)
  else if 'A' ≤ c ∧ c ≤ 'F' then some (c.toNat - 'A'.toNat + 10)
  else none

/-- A number of the given count of hexadecimal digits at the start of a text, and the rest. -/
def hex? (f : Flags) : (digits : Nat) → (value : Nat) → List Char → Option (Nat × List Char)
  | 0, value, cs => some (value, cs)
  | digits + 1, value, cs =>
    match f.skip cs with
    | [] => none
    | c :: rest => do hex? f digits (value * 16 + (← hexValue? c)) rest

/-- The character of a number of so many digits. -/
def numbered? (f : Flags) (digits : Nat) (cs : List Char) : Option (Atom × List Char) := do
  let (n, rest) ← hex? f digits 0 cs
  guard n.isValidChar
  return (.literal (Char.ofNat n) (digits == 2), f.skip rest)

/-- Whether a character stands for itself after a backslash. -/
def isEscapable (c : Char) : Bool :=
  decide (c.toNat < 128) && !c.isAlphanum && c != '<' && c != '>'

/-- The control characters that have letters behind a backslash. -/
def controlLetters : List (Char × Nat) :=
  [('a', 7), ('t', 9), ('n', 10), ('v', 11), ('f', 12), ('r', 13)]

/-- What a backslash and the text behind it stand for. -/
def escape? (f : Flags) : List Char → Option (Atom × List Char)
  | [] => none
  | c :: rest =>
    if c = 'x' then numbered? f 2 rest
    else if c = 'u' then numbered? f 4 rest
    else if c = 'U' then numbered? f 8 rest
    else if c ∈ ['d', 's', 'w'] then some (.family false, rest)
    else if c ∈ ['D', 'S', 'W'] then some (.family true, rest)
    else if c ∈ ['A', 'z'] then some (.anchor, rest)
    else if c ∈ ['b', 'B', '<', '>'] then some (.boundary, rest)
    else if isEscapable c then some (.literal c false, rest)
    else (controlLetters.lookup c).map fun n => (.literal (Char.ofNat n) false, rest)

/-! ## Classes -/

/-- The names of the classes in brackets. -/
def classNames : List String := [
  "alnum", "alpha", "ascii", "blank", "cntrl", "digit", "graph", "lower", "print", "punct", "space",
  "upper", "word", "xdigit"]

/-- A named class behind its opening bracket: whether it is negated, and the rest. -/
def namedClass? (cs : List Char) : Option (Bool × List Char) := do
  let (negated, cs) ← match cs with
    | ':' :: '^' :: rest => some (true, rest)
    | ':' :: rest => some (false, rest)
    | _ => none
  guard (String.ofList (cs.takeWhile (· ≠ ':')) ∈ classNames)
  match cs.dropWhile (· ≠ ':') with
  | ':' :: ']' :: rest => return (negated, rest)
  | _ => none

/-- Whether a class in brackets can be matched, if all its parts can. -/
def Flags.permitsClass (f : Flags) (negated : Bool) : Bool :=
  f.unicode || !negated

/-- Whether a named class may stand in a pattern. -/
def Flags.permitsNamed (f : Flags) (negated : Bool) : Bool :=
  if f.unicode then !f.ignoreCase else !negated

/-- What is known of a class when part of it has been read. -/
structure Bracket where
  before : Option Nat := none
  parts : List Nat

namespace Bracket

/-- How deep a class is nested without its brackets. -/
def depth (b : Bracket) : Nat :=
  match b.before with
  | none => joined b.parts
  | some d => 1 + max d (joined b.parts)

/-- Add a part of depth `d`. -/
def add (b : Bracket) (d : Nat) : Bracket :=
  { b with parts := d :: b.parts }

/-- Begin the right side of a set operation. -/
def operate (b : Bracket) : Bracket where
  before := some b.depth
  parts := []

end Bracket

/-- Whether an atom may stand in a bracket. -/
def Flags.permitsInClass (f : Flags) : Atom → Bool
  | .literal c _ => if f.unicode then !f.ignoreCase else decide (c.toNat < 128)
  | .family negated => !f.unicode && !negated
  | _ => false

/-- The number of minus signs at the start of a class, and the rest. -/
def countMinus (f : Flags) : (fuel : Nat) → List Char → Nat × List Char
  | 0, cs => (0, cs)
  | fuel + 1, cs =>
    match cs with
    | '-' :: rest =>
      let (n, rest) := countMinus f fuel (f.skip rest)
      (n + 1, rest)
    | _ => (0, cs)

/-- Go into a class behind its opening bracket: it may be negated, and minus signs or a closing
bracket in front stand for themselves. -/
def openClass? (f : Flags) (cs : List Char) : Option (Bracket × List Char) := do
  let cs := f.skip cs
  let (negated, cs) := match cs with
    | '^' :: rest => (true, f.skip rest)
    | _ => (false, cs)
  guard (f.permitsClass negated)
  let (parts, rest) := match countMinus f cs.length cs with
    | (0, ']' :: rest) => ([0], f.skip rest)
    | (n, rest) => (List.replicate n 0, rest)
  guard (parts = [] ∨ f.permitsInClass (.literal '-' false))
  return ({ parts }, rest)

/-- An atom of a bracket. -/
def classAtom? (f : Flags) : List Char → Option (Atom × List Char)
  | [] => none
  | '\\' :: rest => escape? f rest
  | c :: rest => some (.literal c false, rest)

/-- A range of a bracket, or one atom. -/
def classRange? (f : Flags) (cs : List Char) : Option (List Char) := do
  let (first, rest) ← classAtom? f cs
  guard (f.permitsInClass first)
  match f.skip rest with
  | [] => none
  | '-' :: behind =>
    match f.peek? behind with
    | some ']' | some '-' => return '-' :: behind
    | _ =>
      let (last, rest) ← classAtom? f (f.skip behind)
      guard (f.permitsInClass last)
      match first, last with
      | .literal c _, .literal d _ => if c ≤ d then return rest else none
      | _, _ => none
  | rest => return rest

/-- Read the rest of a class, given the classes around it from the inside out: how deep the outermost
is nested, and what follows it. -/
def class? (f : Flags) :
    (fuel : Nat) → Bracket → (outer : List Bracket) → List Char → Option (Nat × List Char)
  | 0, _, _, _ => none
  | fuel + 1, b, outer, cs =>
    match f.skip cs with
    | [] => none
    | '[' :: rest =>
      match namedClass? rest with
      | some (negated, rest) =>
        if f.permitsNamed negated then class? f fuel (b.add 0) outer rest else none
      | none => do
        let (inner, rest) ← openClass? f rest
        class? f fuel inner (b :: outer) rest
    | ']' :: rest =>
      match outer with
      | [] => some (1 + b.depth, rest)
      | around :: outer => class? f fuel (around.add (1 + b.depth)) outer rest
    | '&' :: '&' :: rest | '-' :: '-' :: rest | '~' :: '~' :: rest =>
      class? f fuel b.operate outer rest
    | cs => do class? f fuel (b.add 0) outer (← classRange? f cs)

/-! ## Groups -/

/-- Switch a flag. -/
def Flags.set (f : Flags) (c : Char) (on : Bool) : Flags :=
  if c = 'i' then { f with ignoreCase := on }
  else if c = 'u' then { f with unicode := on }
  else if c = 'x' then { f with spaced := on }
  else f

/-- The letters that switch flags. -/
def switches : List Char := ['i', 'm', 's', 'U', 'u', 'R', 'x']

/-- Switches at the start of a text up to a colon or a closing parenthesis: those before a minus sign
go on, those behind it off, and none comes twice. -/
def switches? : (on : Bool) → (seen : List Char) → Flags → List Char → Option (Flags × List Char)
  | _, _, _, [] => none
  | on, seen, f, c :: rest =>
    if c = ':' ∨ c = ')' then
      if seen.head? = some '-' then none else some (f, c :: rest)
    else if c ∈ seen then none
    else if c = '-' then switches? false (c :: seen) f rest
    else if c ∈ switches then switches? on (c :: seen) (f.set c on) rest
    else none

/-- Whether a character can be in the name of a group. -/
def isNameChar (isFirst : Bool) (c : Char) : Bool :=
  if isFirst then c == '_' || CharSet.alphabetic.contains c
  else c == '_' || c == '.' || c == '[' || c == ']' || Text.isAlphanumeric c

/-- The name of a group up to its closing angle, and the rest. -/
def groupName? (cs : List Char) : Option (String × List Char) := do
  let name := cs.takeWhile (· ≠ '>')
  guard (name.head?.any (isNameChar true) && name.all (isNameChar false))
  match cs.dropWhile (· ≠ '>') with
  | '>' :: rest => return (String.ofList name, rest)
  | _ => none

/-! ## Whole patterns -/

/-- What is known of a group, or of the pattern around all groups, when part of it has been read. -/
structure Level where
  flags : Flags := {}
  alternatives : List Nat := []
  parts : List Nat := []

namespace Level

/-- How deep a group is nested without its parentheses. -/
def depth (l : Level) : Nat :=
  joined (joined l.parts :: l.alternatives)

/-- Add a part of depth `d`. -/
def add (l : Level) (d : Nat) : Level :=
  { l with parts := d :: l.parts }

/-- Begin the next alternative. -/
def alternate (l : Level) : Level :=
  { l with alternatives := joined l.parts :: l.alternatives, parts := [] }

/-- The last part is repeated, which is one deeper. -/
def repeated (l : Level) : Level :=
  match l.parts with
  | [] => l
  | d :: rest => { l with parts := (d + 1) :: rest }

end Level

/-- What is known when part of a pattern has been read. -/
structure Progress where
  level : Level := {}
  outer : List Level := []
  names : List String := []
  repeatable : Bool := false

namespace Progress

/-- The flags in force. -/
def flags (p : Progress) : Flags := p.level.flags

/-- Go into a group with the given switches. -/
def enter (p : Progress) (flags : Flags) : Progress :=
  { p with level := { flags }, outer := p.level :: p.outer, repeatable := false }

/-- What opens behind a parenthesis: a group that may have a name or switches, or switches for the
rest of the group around. -/
def group? (p : Progress) (cs : List Char) : Option (Progress × List Char) :=
  let named := fun rest => do
    let (name, rest) ← groupName? rest
    guard (name ∉ p.names)
    return ({ p.enter p.flags with names := name :: p.names }, rest)
  match p.flags.skip cs with
  | '?' :: 'P' :: '<' :: rest | '?' :: '<' :: rest => named rest
  | '?' :: rest => do
    let (flags, behind) ← switches? true [] p.flags rest
    match behind with
    | ')' :: behind =>
      if behind.length + 1 = rest.length then none
      else return ({ p with level := { p.level.add 0 with flags }, repeatable := false }, behind)
    | _ :: behind => return (p.enter flags, behind)
    | [] => none
  | rest => return (p.enter p.flags, rest)

/-- Add a part of depth `d` to the innermost level. -/
def add (p : Progress) (d : Nat) : Progress :=
  { p with level := p.level.add d, repeatable := true }

/-- Take an atom. -/
def atom? (p : Progress) (a : Atom) (rest : List Char) : Option (Progress × List Char) :=
  if p.flags.permits a then some (p.add 0, rest) else none

/-- Read the part of a pattern that starts with a character. -/
def step? (p : Progress) (c : Char) (rest : List Char) : Option (Progress × List Char) :=
  match c with
  | '(' => p.group? rest
  | ')' =>
    match p.outer with
    | [] => none
    | around :: outer => some ({ p with level := around, outer }.add (1 + p.level.depth), rest)
  | '|' => some ({ p with level := p.level.alternate, repeatable := false }, rest)
  | '[' => do
    let (b, inside) ← openClass? p.flags rest
    let (d, rest) ← class? p.flags (inside.length + 1) b [] inside
    return (p.add d, rest)
  | '?' | '*' | '+' =>
    if p.repeatable then
      let p := { p with level := p.level.repeated }
      match rest with
      | '?' :: rest => some (p, rest)
      | _ => some (p, rest)
    else none
  | '\x7b' => none
  | '.' => p.atom? .any rest
  | '^' | '$' => p.atom? .anchor rest
  | '\\' => do
    let (a, rest) ← escape? p.flags rest
    p.atom? a rest
  | c => p.atom? (.literal c false) rest

/-- Whether the rest of a pattern can be read. -/
def completes : (fuel : Nat) → Progress → List Char → Bool
  | 0, _, _ => false
  | fuel + 1, p, cs =>
    match p.flags.skip cs with
    | [] => p.outer.isEmpty && decide (p.level.depth ≤ maxDepth)
    | c :: rest =>
      match p.step? c rest with
      | some (p, rest) => completes fuel p rest
      | none => false

end Progress

/-- Whether a text is a pattern. -/
def isValid (cs : List Char) : Bool :=
  Progress.completes (cs.length + 1) {} cs

end PetriCluster.Pattern
