import PetriCluster.Report
import PetriCluster.Worker.Item
import PetriCluster.Worker.Log

/-!
# Workers

A worker owns net instances: active ones, whose transitions it fires, and halting ones, which wait
to be released.
-/

namespace PetriCluster

/-- A worker of a process. -/
structure Worker (σ : Type) where
  nets : OrderedMap NetId σ := ∅
  halting : OrderedMap NetId σ := ∅
  stats : WorkerStats := {}
  log : Option WorkerLog := none

namespace Worker

variable {σ : Type} [NetBehaviour σ]

/-- What a worker says of itself: its active nets, then its halting ones. -/
def report (w : Worker σ) (id : WorkerId) : WorkerReport where
  worker := id
  stats := w.stats
  nets := w.nets.toList.map (fun e => ⟨e.1, .active, NetBehaviour.report e.2⟩) ++
    w.halting.toList.map (fun e => ⟨e.1, .halting, NetBehaviour.report e.2⟩)

/-- A worker in words. -/
def text (w : Worker σ) (process : ProcessId) (id : WorkerId) : String :=
  "Worker \x7b " ++ s!"process: ProcessId({process.index}), id: WorkerId({id.index}), " ++
    s!"nets: {names w.nets.keys}, halting: {names w.halting.keys}" ++ " \x7d"
where
  names (nets : List NetId) : String :=
    "[" ++ ", ".intercalate (nets.map fun n => s!"NetId({n.index})") ++ "]"

end Worker

end PetriCluster
