import PetriCluster.Barrier
import PetriCluster.Registry.IdSource
import PetriCluster.Termination
import PetriCluster.Worker.Basic

/-!
# Processes

A process is a member of the cluster: it has workers with their inboxes, a registry of the net
instances that live in it, and counters. A `Node` is a process together with what it works on: its end
of the transport, the files, and the time. Where an operation of the runtime goes by another name, that
name follows in parentheses, here and in the other modules.
-/

namespace PetriCluster

/-- How a process is run. -/
structure Settings where
  threads : Nat
  autohalt : Bool
  probeInterval : Nat
  idleSleep : Nat
  traceDir : Option String
  deriving DecidableEq, Repr

/-- A member of the cluster. -/
structure Process (σ : Type) where
  id : ProcessId
  processCount : Nat
  settings : Settings
  templates : List (Template σ)
  ids : IdSource
  registry : Registry
  inboxes : List (List (WorkItem σ))
  /-- The number of obligations: items that wait or are being dealt with. -/
  obligations : Nat
  quitting : Bool
  quitSent : Bool
  copies : Nat
  termination : Termination
  barrier : Barrier
  stats : ProcessStats
  workers : List (Worker σ)
  reports : List WorkerReport
  started : Bool
  launched : Bool
  joined : Bool

/-- A process with its end of the transport, the files and the time. -/
structure Node (σ τ : Type) where
  process : Process σ
  link : τ
  storage : Storage
  now : Nat

/-- How an operation can end short of its goal. -/
inductive Fault where
  | refused (error : RuntimeError)
  | crashed (cause : Crash)
  deriving DecidableEq, Repr

/-- Operations on a node. -/
abbrev NodeM (σ τ : Type) := EStateM Fault (Node σ τ)

namespace Process

variable {σ : Type}

/-- A process at the given end of a transport. -/
def create (settings : Settings) (templates : List (Template σ)) (id : ProcessId)
    (processCount : Nat) : Except RuntimeError (Process σ) :=
  if settings.threads = 0 then .error (.configuration .noWorkers)
  else
    match IdSource.create id processCount with
    | .error e => .error e
    | .ok ids => .ok {
        id, processCount, settings, templates, ids
        registry := .create Registry.retiredWindow
        inboxes := List.replicate settings.threads []
        obligations := 0
        quitting := false
        quitSent := false
        copies := 0
        termination := .create id processCount settings.probeInterval
        barrier := .create processCount
        stats := {}
        workers := List.replicate settings.threads {}
        reports := []
        started := false
        launched := false
        joined := false }

variable (p : Process σ)

/-- Whether there is such a worker. -/
def hasWorker (w : WorkerId) : Bool :=
  decide (w.index < p.inboxes.length)

/-- The items that wait for a worker. -/
def inbox (w : WorkerId) : List (WorkItem σ) :=
  p.inboxes[w.index]?.getD []

/-- A worker; one without nets if there is none. -/
def worker (w : WorkerId) : Worker σ :=
  p.workers[w.index]?.getD {}

/-- Change one worker. -/
def updateWorker (w : WorkerId) (f : Worker σ → Worker σ) : Process σ :=
  { p with workers := p.workers.modify w.index f }

/-- A process in words. -/
def text (backend : Backend) : String :=
  "Process \x7b " ++ s!"id: ProcessId({p.id.index}), process_count: {p.processCount}, " ++
    s!"threads: {p.settings.threads}, templates: {p.templates.length}, " ++
    s!"transport: {backend.name}" ++ " \x7d"

end Process

namespace Node

variable {σ τ α : Type}

/-- A new process at its end of a transport. -/
def create [Transport τ] (settings : Settings) (templates : List (Template σ)) (link : τ)
    (storage : Storage) : Except RuntimeError (Node σ τ) :=
  (Process.create settings templates (Transport.process link) (Transport.processCount link)).map
    fun process => ⟨process, link, storage, 0⟩

/-- A process and its transport in words. -/
def text [Transport τ] (n : Node σ τ) : String :=
  n.process.text (Transport.backend τ)

/-- Refuse an operation. -/
def refuse (e : RuntimeError) : NodeM σ τ α :=
  throw (.refused e)

/-- Panic. -/
def crash (c : Crash) : NodeM σ τ α :=
  throw (.crashed c)

/-- Carry out an operation and take a refusal as its answer; a crash goes through. -/
def attempt (x : NodeM σ τ α) : NodeM σ τ (Except RuntimeError α) := fun n =>
  match x n with
  | .ok a n => .ok (.ok a) n
  | .error (.refused e) n => .ok (.error e) n
  | .error (.crashed c) n => .error (.crashed c) n

/-- Carry out an operation and pass over a refusal. -/
def tolerate (x : NodeM σ τ Unit) : NodeM σ τ Unit := do
  let _ ← attempt x

/-- The process as it is now. -/
def getProcess : NodeM σ τ (Process σ) := do
  return (← get).process

/-- Change the process. -/
def modifyProcess (f : Process σ → Process σ) : NodeM σ τ Unit :=
  modify fun n => { n with process := f n.process }

/-- Change the counters. -/
def tally (f : ProcessStats → ProcessStats) : NodeM σ τ Unit :=
  modifyProcess fun p => { p with stats := f p.stats }

/-- Count a packet nobody understands. -/
def tallyProtocolError : NodeM σ τ Unit :=
  tally fun s => { s with protocolErrors := s.protocolErrors + 1 }

/-- Count sends that failed. -/
def tallyTransportErrors (count : Nat) : NodeM σ τ Unit :=
  tally fun s => { s with transportErrors := s.transportErrors + count }

/-- Carry out a change of the registry that has an answer. -/
def withRegistry (f : Registry → Except RuntimeError (α × Registry)) : NodeM σ τ α := do
  match f (← getProcess).registry with
  | .error e => refuse e
  | .ok (a, registry) =>
    modifyProcess fun p => { p with registry }
    return a

/-- Carry out a change of the registry. -/
def changeRegistry (f : Registry → Except RuntimeError Registry) : NodeM σ τ Unit :=
  withRegistry fun r => (f r).map ((), ·)

/-- Do something with the files. -/
def onFiles (x : StorageM α) : NodeM σ τ (Except StorageError α) := fun n =>
  match x n.storage with
  | .ok a storage => .ok (.ok a) { n with storage }
  | .error e storage => .ok (.error e) { n with storage }

/-- Refuse a worker the process does not have (`check_worker`). -/
def checkWorker (w : WorkerId) : NodeM σ τ Unit := do
  unless (← getProcess).hasWorker w do refuse (.unknownWorker w)

/-- Whether the process is to stop. -/
def isQuitting : NodeM σ τ Bool := do
  return (← getProcess).quitting

/-- Draw a new name (`new_net_id`). -/
def drawId : NodeM σ τ NetId := do
  match (← getProcess).ids.draw with
  | .error e => refuse e
  | .ok (net, ids) =>
    modifyProcess fun p => { p with ids }
    return net

/-! ## Obligations -/

/-- Take on an obligation before its item exists. -/
def takeObligation : NodeM σ τ Unit :=
  modifyProcess fun p => { p with obligations := p.obligations + 1 }

/-- Give an obligation back; one too many panics. -/
def completeObligation : NodeM σ τ Unit := do
  if (← getProcess).obligations = 0 then crash .obligationUnderflow
  else modifyProcess fun p => { p with obligations := p.obligations - 1 }

/-- Put an item at the end of an inbox without counting it. -/
def enqueue (w : WorkerId) (item : WorkItem σ) : NodeM σ τ Unit :=
  modifyProcess fun p => { p with inboxes := p.inboxes.modify w.index (· ++ [item]) }

/-- Put an item into the inbox of a worker, which may take on an obligation. -/
def post (w : WorkerId) (item : WorkItem σ) : NodeM σ τ Unit := do
  checkWorker w
  modifyProcess fun p => { p with obligations := p.obligations + item.weight }
  enqueue w item

/-- Put an item into an inbox whose obligation was taken on before (`post_counted`). -/
def postCounted (w : WorkerId) (item : WorkItem σ) : NodeM σ τ Unit := do
  if (← getProcess).hasWorker w then enqueue w item else completeObligation

end Node

end PetriCluster
