import PetriCluster.OrderedMap

/-!
# Names of processes, workers and nets

Processes, workers and nets are known by 32-bit numbers. Net numbers are interleaved over the
cluster: process `p` of `n` hands out `p`, `p + n`, `p + 2n` and so on, so that two processes never
name a net alike and every number tells which process keeps the initial marking (`mainProcess`).
-/

namespace PetriCluster

/-- A process of the cluster. -/
structure ProcessId where
  raw : UInt32
  deriving DecidableEq, Hashable, Repr

/-- A worker of a process. -/
structure WorkerId where
  raw : UInt32
  deriving DecidableEq, Hashable, Repr

/-- A net instance. The copies of a global net share one name. -/
structure NetId where
  raw : UInt32
  deriving DecidableEq, Hashable, Repr

/-- The number of a place inside a net. -/
abbrev Place := UInt32

/-- The number of a transition inside a net. -/
abbrev TransitionIndex := UInt32

instance : Inhabited ProcessId := ⟨⟨0⟩⟩
instance : Inhabited WorkerId := ⟨⟨0⟩⟩
instance : Inhabited NetId := ⟨⟨0⟩⟩

/-- The position of a process in the cluster. -/
def ProcessId.index (p : ProcessId) : Nat := p.raw.toNat

/-- The position of a worker in its process. -/
def WorkerId.index (w : WorkerId) : Nat := w.raw.toNat

/-- A name as a number. -/
def NetId.index (n : NetId) : Nat := n.raw.toNat

theorem ProcessId.index_inj {p q : ProcessId} (h : p.index = q.index) : p = q := by
  cases p; cases q; simpa [ProcessId.index, UInt32.toNat_inj] using h

theorem WorkerId.index_inj {v w : WorkerId} (h : v.index = w.index) : v = w := by
  cases v; cases w; simpa [WorkerId.index, UInt32.toNat_inj] using h

theorem NetId.index_inj {m n : NetId} (h : m.index = n.index) : m = n := by
  cases m; cases n; simpa [NetId.index, UInt32.toNat_inj] using h

instance : Numbered ProcessId := ⟨ProcessId.index, ProcessId.index_inj⟩
instance : Numbered WorkerId := ⟨WorkerId.index, WorkerId.index_inj⟩
instance : Numbered NetId := ⟨NetId.index, NetId.index_inj⟩

instance : ToString ProcessId := ⟨fun p => s!"P{p.index}"⟩
instance : ToString WorkerId := ⟨fun w => s!"W{w.index}"⟩
instance : ToString NetId := ⟨fun n => s!"N{n.index}"⟩

/-- The process at a position. -/
def ProcessId.ofIndex (i : Nat) : ProcessId := ⟨UInt32.ofNat i⟩

/-- The worker at a position. -/
def WorkerId.ofIndex (i : Nat) : WorkerId := ⟨UInt32.ofNat i⟩

/-- The process whose copy of a global net holds the initial marking. -/
def NetId.mainProcess (n : NetId) (processCount : Nat) : ProcessId :=
  .ofIndex (n.index % max processCount 1)

/-- The processes in order. -/
def ProcessId.all (processCount : Nat) : List ProcessId :=
  (List.range processCount).map .ofIndex

/-- The workers in order. -/
def WorkerId.all (threads : Nat) : List WorkerId :=
  (List.range threads).map .ofIndex

end PetriCluster
