import PetriCluster.Fifo
import PetriCluster.Id
import Std.Data.HashSet

/-!
# Recently retired names

A process remembers the names of the nets it released most recently, so that a late message for one of
them can be told from a message for a net that never was.
-/

namespace PetriCluster

/-- The most recently retired names. -/
structure Retired where
  order : Fifo NetId
  length : Nat
  ids : Std.HashSet NetId
  capacity : Nat
  total : Nat

namespace Retired

/-- An empty memory of a size. -/
def create (window : Nat) : Retired :=
  ⟨.empty, 0, ∅, max window 1, 0⟩

/-- Whether a name is remembered. -/
def contains (r : Retired) (net : NetId) : Bool :=
  r.ids.contains net

/-- Forget the oldest name if there are more than the capacity. -/
def evict (r : Retired) : Retired :=
  if r.length ≤ r.capacity then r
  else
    match r.order.pop? with
    | some (oldest, order) =>
      { r with order, length := r.length - 1, ids := r.ids.erase oldest }
    | none => r

/-- Remember a name; the oldest may be forgotten. -/
def insert (r : Retired) (net : NetId) : Retired :=
  if r.contains net then r
  else
    evict { r with
      order := r.order.push net
      length := r.length + 1
      ids := r.ids.insert net
      total := r.total + 1 }

end Retired

end PetriCluster
