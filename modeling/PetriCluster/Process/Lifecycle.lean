import PetriCluster.Worker.Step

/-!
# Starting, running and joining

A process waits at a barrier until all have arrived, lets its workers run until the run ends, waits at
a second barrier, and closes its end of the transport.
-/

namespace PetriCluster

/-- What a caller wants of a process. -/
inductive Goal where
  | start
  | join
  | run
  deriving DecidableEq, Repr

/-- How far a process is on its way to a goal. -/
inductive Stage (σ : Type) where
  | outset
  | atStart
  | joining
  /-- Some of its workers run. The workers as they were before the run are kept; some may have
  crashed. -/
  | working (parked : List (Worker σ)) (running : List WorkerId) (crashed : Nat)
  | atTeardown (crashed : Nat)
  | ended (result : Except RuntimeError Unit)

namespace Node

variable {σ τ : Type} [NetBehaviour σ] [Transport τ]

/-! ## Barriers -/

/-- Arrive at a barrier and tell all peers. -/
def enterBarrier (phase : BarrierPhase) : NodeM σ τ Unit := do
  let p ← getProcess
  modifyProcess fun p => { p with barrier := p.barrier.arrive phase p.id }
  let report ← broadcastControl (.barrier phase p.id)
  match report.toExcept with
  | .ok () => return ()
  | .error e => refuse e

/-- Take in what has arrived and see whether all have reached a barrier. If the transport has
failed, arrivals may still be queued; if they do not complete the barrier, the wait is over. -/
def pollBarrier (phase : BarrierPhase) : NodeM σ τ Bool := do
  let _ ← processPackets
  let _ ← pollSends
  if (← getProcess).barrier.isComplete phase then return true
  if Transport.isHealthy (← get).link then return false
  let _ ← processPackets
  let barrier := (← getProcess).barrier
  if barrier.isComplete phase then return true
  refuse (.transport (.closed (.atBarrier phase (barrier.missing phase))))

/-- Let the background work of the transport go on. -/
def settle : NodeM σ τ Unit :=
  modify fun n => { n with link := Transport.settle n.link }

/-- Wait at a barrier for at most the given number of looks; tells whether it was passed. -/
def awaitBarrier (phase : BarrierPhase) : (looks : Nat) → NodeM σ τ Bool
  | 0 => return false
  | looks + 1 => do
    if ← pollBarrier phase then return true
    settle
    awaitBarrier phase looks

/-- Arrive at a barrier and wait while something can still arrive (`cluster_barrier`); tells whether
it was passed. -/
def barrier (phase : BarrierPhase) : NodeM σ τ Bool := do
  enterBarrier phase
  awaitBarrier phase (Transport.patience (← get).link)

/-! ## Running the workers -/

/-- Carry out an operation and take a crash as its answer. -/
def survive {α : Type} (x : NodeM σ τ α) : NodeM σ τ (Except Crash α) := fun n =>
  match x n with
  | .ok a n => .ok (.ok a) n
  | .error (.crashed c) n => .ok (.error c) n
  | .error (.refused e) n => .error (.refused e) n

/-- Let workers take a turn each. A worker that is to stop drops what is in its inbox; one that
crashes ends the run for all. Gives the workers that go on and the number of crashes. -/
def takeTurns : List WorkerId → NodeM σ τ (List WorkerId × Nat)
  | [] => return ([], 0)
  | w :: rest => do
    if ← isQuitting then
      let _ ← survive (cleanMessages w)
      takeTurns rest
    else
      match ← survive (runOnce w) with
      | .ok _ =>
        let (running, crashed) ← takeTurns rest
        return (w :: running, crashed)
      | .error _ =>
        quitAll
        let _ ← survive (cleanMessages w)
        let (running, crashed) ← takeTurns rest
        return (running, crashed + 1)

/-- Workers that have stopped close their logs and leave a report (`store_worker_report`). -/
def dismiss : List WorkerId → NodeM σ τ Unit
  | [] => return ()
  | w :: rest => do
    closeLog w
    let report := (← getWorker w).report w
    modifyProcess fun p => { p with reports := p.reports ++ [report] }
    dismiss rest

/-- The workers are gone: go to the last barrier. -/
def tearDown (crashed : Nat) : NodeM σ τ (Stage σ) := do
  match ← attempt (enterBarrier .teardown) with
  | .ok () => return .atTeardown crashed
  | .error e => return .ended (.error e)

/-! ## The way to a goal -/

/-- Begin to start a process. -/
def beginStart : NodeM σ τ (Stage σ) := do
  let p ← getProcess
  if p.started then return .ended (.error (.lifecycle (.alreadyStarted p.id)))
  modifyProcess fun p => { p with started := true }
  match ← attempt (enterBarrier .start) with
  | .ok () => return .atStart
  | .error e => return .ended (.error e)

/-- Begin to join a process; the workers start afresh. -/
def beginJoin : NodeM σ τ (Stage σ) := do
  let p ← getProcess
  if ¬ p.started then return .ended (.error (.lifecycle (.neverStarted p.id)))
  if p.joined then return .ended (.error (.lifecycle (.alreadyJoined p.id)))
  modifyProcess fun p => { p with joined := true }
  if p.launched then
    modifyProcess fun p => { p with
      launched := false
      workers := List.replicate p.settings.threads {} }
    return .working p.workers (WorkerId.all p.settings.threads) 0
  else tearDown 0

/-- One step on the way to a goal. -/
def advance (goal : Goal) : Stage σ → NodeM σ τ (Stage σ)
  | .outset => if goal = .join then beginJoin else beginStart
  | .atStart => do
    match ← attempt (pollBarrier .start) with
    | .error e => return .ended (.error e)
    | .ok false => return .atStart
    | .ok true =>
      modifyProcess fun p => { p with launched := true }
      return if goal = .start then .ended (.ok ()) else .joining
  | .joining => beginJoin
  | .working parked running crashed => do
    let (running, more) ← takeTurns running
    if running.isEmpty then
      dismiss (WorkerId.all (← getProcess).settings.threads)
      modifyProcess fun p => { p with workers := parked }
      tearDown (crashed + more)
    else return .working parked running (crashed + more)
  | .atTeardown crashed => do
    match ← attempt (pollBarrier .teardown) with
    | .error e => return .ended (.error e)
    | .ok false => return .atTeardown crashed
    | .ok true =>
      modify fun n => { n with link := Transport.shutdown n.link }
      if crashed = 0 then return .ended (.ok ())
      else return .ended (.error (.lifecycle (.workersCrashed crashed (← getProcess).id)))
  | .ended result => return .ended result

/-- Take a process to a goal in at most the given number of steps, a millisecond each. -/
def driveFrom (goal : Goal) : (steps : Nat) → Stage σ → NodeM σ τ (Option (Except RuntimeError Unit))
  | _, .ended result => return some result
  | 0, _ => return none
  | steps + 1, stage => do
    let stage ← advance goal stage
    settle
    modify fun n => { n with now := n.now + 1 }
    driveFrom goal steps stage

/-- Take a process to a goal; nothing comes out if it does not get there in the given number of
steps. -/
def drive (goal : Goal) (steps : Nat) : NodeM σ τ (Option (Except RuntimeError Unit)) :=
  driveFrom goal steps .outset

/-! ## Logs and reports -/

/-- Post items one after the other. -/
def postEach : List (WorkerId × WorkItem σ) → NodeM σ τ Unit
  | [] => return ()
  | (w, item) :: rest => do
    post w item
    postEach rest

/-- Have every worker keep a log of the given name (`start_logging`). -/
def startLogs (name : String) : NodeM σ τ Unit := do
  let p ← getProcess
  let directory := p.settings.traceDir.getD "."
  postEach <| (WorkerId.all p.settings.threads).map fun w =>
    (w, .startLog (Path.join directory (WorkerLog.fileName name p.id w)))

/-- Have every worker close its log (`stop_logging`). -/
def stopLogs : NodeM σ τ Unit := do
  postEach ((WorkerId.all (← getProcess).settings.threads).map fun w => (w, .stopLog))

/-- What a process says of itself (`write_reports`). -/
def report (n : Node σ τ) : ProcessReport :=
  let p := n.process
  { process := p.id
    processCount := p.processCount
    threads := p.settings.threads
    backend := Transport.backend τ
    liveNets := p.registry.liveCount
    haltingNets := p.registry.haltingCount
    retiredNets := p.registry.retiredCount
    nets := p.registry.slots.toList.map fun e =>
      ⟨e.1, (p.templates[e.2.template]?.map (·.name)).getD "", e.2⟩
    workers := p.reports.mergeSort fun a b => decide (a.worker.index ≤ b.worker.index)
    stats := p.stats
    transport := Transport.stats n.link
    workSent := p.termination.sent
    workReceived := p.termination.received
    wavesCompleted := p.termination.completed }

/-- Write the report of the process to a file (`write_reports_to`). -/
def writeReport (path : String) : NodeM σ τ Unit := do
  match ← onFiles (StorageM.create ⟨path⟩) with
  | .error e => refuse (.io e.text)
  | .ok l =>
    match ← onFiles (StorageM.fill l (← get).report.toJson.pretty) with
    | .error e => refuse (.report e.text)
    | .ok () => return ()

end Node

end PetriCluster
