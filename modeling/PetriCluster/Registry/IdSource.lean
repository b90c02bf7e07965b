import PetriCluster.Error

/-!
# New net names

Process `p` of a cluster of `n` names its nets `p`, `p + n`, `p + 2n` and so on. The supply ends
where the next name would leave 32 bits, or where the count of names drawn would.
-/

namespace PetriCluster

/-- The supply of net names of one process. -/
structure IdSource where
  process : Nat
  count : Nat
  drawn : Nat
  deriving DecidableEq, Repr

namespace IdSource

/-- The number of names a word can hold. -/
def wordSize : Nat := 4294967296

/-- The supply of a process that has drawn nothing yet. -/
def create (process : ProcessId) (count : Nat) : Except RuntimeError IdSource :=
  if count = 0 ∨ wordSize ≤ count then .error (.configuration (.processCount count))
  else if count ≤ process.index then .error (.configuration (.outsideCluster process count))
  else .ok ⟨process.index, count, 0⟩

/-- The next name, if there is one left (`next`). -/
def draw (s : IdSource) : Except RuntimeError (NetId × IdSource) :=
  let id := s.drawn * s.count + s.process
  if wordSize ≤ id ∨ wordSize ≤ s.drawn + 1 then .error .idSpaceExhausted
  else .ok (⟨UInt32.ofNat id⟩, { s with drawn := s.drawn + 1 })

end IdSource

end PetriCluster
