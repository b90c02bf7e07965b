import PetriCluster.Json
import PetriCluster.Packet.Basic
import PetriCluster.Storage

/-!
# Worker logs

A worker may keep a log of what it does to its nets. The log is a file with one JSON object to a
line: the microseconds since the log was opened, the process, the worker, and the event.
-/

namespace PetriCluster

/-- What a worker does to a net. -/
inductive LogEvent where
  | adopt (net : NetId)
  | tokens (net : NetId) (place : Place) (count : UInt32)
  | fire (net : NetId) (transition : TransitionIndex)
  | halt (net : NetId)
  | reclaim (net : NetId)
  deriving DecidableEq, Repr

namespace LogEvent

/-- The net of an event. -/
def net : LogEvent → NetId
  | adopt net | tokens net _ _ | fire net _ | halt net | reclaim net => net

/-- The members of an event. -/
def members : LogEvent → List (String × Json)
  | adopt net => [("event", .str "adopt"), ("net", .num net.index)]
  | tokens net place count =>
    [("event", .str "tokens"), ("net", .num net.index), ("place", .num place.toNat),
      ("tokens", .num count.toNat)]
  | fire net transition =>
    [("event", .str "fire"), ("net", .num net.index), ("transition", .num transition.toNat)]
  | halt net => [("event", .str "halt"), ("net", .num net.index)]
  | reclaim net => [("event", .str "reclaim"), ("net", .num net.index)]

end LogEvent

/-- A log that is open. -/
structure WorkerLog where
  location : Location
  opened : Nat
  events : List (Nat × LogEvent)

namespace WorkerLog

/-- The name of the file of a worker. -/
def fileName (name : String) (process : ProcessId) (worker : WorkerId) : String :=
  s!"{name}.{process.index}.{worker.index}.trace"

/-- Open a log at a path: the directories on the way are made and the file is emptied. -/
def create (path : Path) (now : Nat) : StorageM WorkerLog := do
  match path.parent? with
  | some directory => StorageM.makeDirectories directory
  | none => pure ()
  return ⟨← StorageM.create path, now, []⟩

/-- Note an event. -/
def record (l : WorkerLog) (now : Nat) (event : LogEvent) : WorkerLog :=
  { l with events := (now, event) :: l.events }

/-- An event as a line. -/
def line (l : WorkerLog) (process : ProcessId) (worker : WorkerId) (entry : Nat × LogEvent) :
    String :=
  (Json.obj ([("us", .num ((entry.1 - l.opened) * 1000)), ("process", .num process.index),
    ("worker", .num worker.index)] ++ entry.2.members)).compact ++ "\n"

/-- Write the events to the file, from its start on. Two logs that are open on the same file write
over each other. -/
def flush (l : WorkerLog) (storage : Storage) (process : ProcessId) (worker : WorkerId) :
    Storage :=
  storage.overwrite l.location (String.join (l.events.reverse.map (l.line process worker)))

end WorkerLog

end PetriCluster
