/-!
# Sets of characters

A class of characters is given by the numbers at which it starts and ends: a character is in the set
if an odd number of these bounds lies at or below it. Large classes are written down by the lengths of
the stretches between the bounds.
-/

namespace PetriCluster

/-- A set of characters. -/
structure CharSet where
  /-- The numbers at which the set starts, ends, starts again, and so on, in rising order. -/
  bounds : List Nat

namespace CharSet

/-- Whether a character is in a set. -/
def contains (s : CharSet) (c : Char) : Bool :=
  (s.bounds.takeWhile fun bound => decide (bound ≤ c.toNat)).length % 2 == 1

/-- The bounds of stretches that follow one another from a number on. -/
def boundsFrom (start : Nat) : List Nat → List Nat
  | [] => []
  | length :: rest => (start + length) :: boundsFrom (start + length) rest

/-- A set by the lengths of the stretches that are, in turn, outside it and in it. -/
def ofStretches (lengths : List Nat) : CharSet := ⟨boundsFrom 0 lengths⟩

end CharSet

end PetriCluster
