import PetriCluster.Transport.Error

/-!
# Cluster barriers

For each phase a process keeps the set of processes it has heard of having reached it, itself
included. An arrival may be heard of before the process gets there itself. The phase is complete
when as many processes as the cluster has are in its set.
-/

namespace PetriCluster

/-- The arrivals a process has heard of. -/
structure Barrier where
  processCount : Nat
  start : OrderedMap ProcessId Unit
  teardown : OrderedMap ProcessId Unit

namespace Barrier

/-- A barrier at which nobody has arrived. -/
def create (processCount : Nat) : Barrier :=
  ⟨processCount, ∅, ∅⟩

/-- The processes that reached a phase. -/
def arrivals (b : Barrier) : BarrierPhase → OrderedMap ProcessId Unit
  | .start => b.start
  | .teardown => b.teardown

/-- Note that a process reached a phase; a second arrival changes nothing. -/
def arrive (b : Barrier) (phase : BarrierPhase) (process : ProcessId) : Barrier :=
  match phase with
  | .start => { b with start := b.start.insert process () }
  | .teardown => { b with teardown := b.teardown.insert process () }

/-- Whether a process has not been noted for a phase yet. -/
def isFresh (b : Barrier) (phase : BarrierPhase) (process : ProcessId) : Bool :=
  !(b.arrivals phase).contains process

/-- Whether enough processes reached a phase. -/
def isComplete (b : Barrier) (phase : BarrierPhase) : Bool :=
  decide (b.processCount ≤ (b.arrivals phase).size)

/-- The processes that have not reached a phase; positions are 32-bit words. -/
def missing (b : Barrier) (phase : BarrierPhase) : List ProcessId :=
  (ProcessId.all (b.processCount % 4294967296)).filter fun p => !(b.arrivals phase).contains p

end Barrier

end PetriCluster
