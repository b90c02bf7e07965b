import PetriCluster.Worker.Firing

/-!
# What a worker does

A worker deals with what is in its inbox, gives every transition of its nets a chance to fire, and
takes its turn at the network. An item about a net that the worker does not own goes on to the owner.
-/

namespace PetriCluster.Node

variable {σ τ : Type} [NetBehaviour σ] [Transport τ]

/-- A worker as it is now. -/
def getWorker (w : WorkerId) : NodeM σ τ (Worker σ) := do
  return (← getProcess).worker w

/-- Change a worker. -/
def modifyWorker (w : WorkerId) (f : Worker σ → Worker σ) : NodeM σ τ Unit :=
  modifyProcess fun p => p.updateWorker w f

/-- Change the counters of a worker. -/
def tallyWorker (w : WorkerId) (f : WorkerStats → WorkerStats) : NodeM σ τ Unit :=
  modifyWorker w fun worker => { worker with stats := f worker.stats }

/-- Keep the state of an active net. -/
def storeNet (w : WorkerId) (net : NetId) (state : σ) : NodeM σ τ Unit :=
  modifyWorker w fun worker => { worker with nets := worker.nets.insert net state }

/-! ## The log -/

/-- Note an event in the log of a worker, if it keeps one. -/
def record (w : WorkerId) (event : LogEvent) : NodeM σ τ Unit := do
  let now := (← get).now
  modifyWorker w fun worker => { worker with log := worker.log.map (·.record now event) }

/-- Write the log of a worker and close it (`close_trace`). -/
def closeLog (w : WorkerId) : NodeM σ τ Unit := do
  let n ← get
  match (n.process.worker w).log with
  | none => return ()
  | some log =>
    set { n with storage := log.flush n.storage n.process.id w }
    modifyWorker w fun worker => { worker with log := none }

/-- Open a log (`open_trace`); a worker whose log cannot be opened keeps none. -/
def openLog (w : WorkerId) (path : String) : NodeM σ τ Unit := do
  closeLog w
  match ← onFiles (WorkerLog.create ⟨path⟩ (← get).now) with
  | .error _ => return ()
  | .ok log => modifyWorker w fun worker => { worker with log := some log }

/-! ## Dealing with an item -/

/-- Take an instance over, if the registry lets the worker have it. One without a slot panics. -/
def adopt (w : WorkerId) (made : σ) : NodeM σ τ Unit := do
  let net := NetBehaviour.id made
  match ← attempt (activate net w) with
  | .ok _ =>
    record w (.adopt net)
    storeNet w net made
  | .error _ =>
    tallyWorker w fun s => { s with dropped := s.dropped + 1 }
    if ((← getProcess).registry.owner? net).isNone then crash (.adoptedWithoutSlot net)

/-- An item about a net that the worker does not have active: drop it if the net is stopping or
gone, else hand it to the owner. If that is the worker itself, the instance is still behind in the
inbox and the item goes behind it. -/
def reroute (w : WorkerId) (net : NetId) (item : WorkItem σ) : NodeM σ τ Unit := do
  let p ← getProcess
  if (p.worker w).halting.contains net then
    tallyWorker w fun s => { s with dropped := s.dropped + 1 }
  else
    match p.registry.owner? net with
    | some owner =>
      if owner ≠ w then
        tallyWorker w fun s => { s with forwarded := s.forwarded + 1 }
      tolerate (post owner item)
    | none =>
      tallyWorker w fun s => { s with dropped := s.dropped + 1 }
      if (p.registry.state? net).isNone then crash (.strayMessage w net)

/-- Hand tokens to a net (`deliver`). A net may refuse them. -/
def handTokens (w : WorkerId) (parcel : Parcel) : NodeM σ τ Unit := do
  match (← getWorker w).nets.find? parcel.net with
  | none => reroute w parcel.net (.tokens parcel)
  | some state =>
    tallyWorker w fun s => { s with tokensReceived := s.tokensReceived + parcel.batch.count.toNat }
    let reception := NetBehaviour.receive state parcel.place parcel.batch
    storeNet w parcel.net reception.state
    match reception with
    | .crashed _ c => crash c
    | _ => record w (.tokens parcel.net parcel.place parcel.batch.count)

/-- Ask a transition of an active instance to fire. -/
def fireTransition (w : WorkerId) (net : NetId) (state : σ) (transition : TransitionIndex) :
    NodeM σ τ (FiringEnd σ) := do
  let p ← getProcess
  let context : FireContext := ⟨net, w, p.id, p.processCount⟩
  let outcome ← perform w net false (NetBehaviour.fire state context transition)
  storeNet w net outcome.state
  match outcome.result with
  | .crashed c => crash c
  | _ => return outcome

/-- Fire a transition that was asked for (`fire_one`). -/
def fireOne (w : WorkerId) (net : NetId) (transition : TransitionIndex) : NodeM σ τ Unit := do
  match (← getWorker w).nets.find? net with
  | none => reroute w net (.fire net transition)
  | some state =>
    let outcome ← fireTransition w net state transition
    if outcome.result = .fired then
      tallyWorker w fun s => { s with firings := s.firings + 1 }
      record w (.fire net transition)

/-- Stop a net: its instance is put aside until it is released. -/
def stop (w : WorkerId) (net : NetId) (origin : Option ProcessId) : NodeM σ τ Unit := do
  let worker ← getWorker w
  match worker.nets.find? net with
  | some state =>
    modifyWorker w fun worker =>
      { worker with nets := worker.nets.erase net, halting := worker.halting.insert net state }
    record w (.halt net)
    noteStopped net w origin
  | none =>
    unless worker.halting.contains net do reroute w net (.halt net origin)

/-- Release a stopped net; tells whether there was one to release. -/
def reclaim (w : WorkerId) (net : NetId) : NodeM σ τ Bool := do
  modifyWorker w fun worker => { worker with halting := worker.halting.erase net }
  match ← attempt (withRegistry fun r => r.retire net) with
  | .ok _ =>
    tallyWorker w fun s => { s with reclaimed := s.reclaimed + 1 }
    record w (.reclaim net)
    return true
  | .error _ => return false

/-- Deal with an item (`handle_message`); tells whether a net was released. -/
def handle (w : WorkerId) : WorkItem σ → NodeM σ τ Bool
  | .adopt made => do adopt w made; return false
  | .tokens parcel => do handTokens w parcel; return false
  | .halt net origin => do stop w net origin; return false
  | .reclaim net => reclaim w net
  | .fire net transition => do fireOne w net transition; return false
  | .startLog path => do openLog w path; return false
  | .stopLog => do closeLog w; return false

/-! ## The inbox -/

/-- Take all items out of an inbox (`drain`). -/
def drainInbox (w : WorkerId) : NodeM σ τ (List (WorkItem σ)) := do
  let items := (← getProcess).inbox w
  modifyProcess fun p => { p with inboxes := p.inboxes.set w.index [] }
  return items

/-- Deal with items in order; each gives its obligation back. -/
def handleAll (w : WorkerId) : List (WorkItem σ) → NodeM σ τ Unit
  | [] => return ()
  | item :: rest => do
    let released ← handle w item
    if item.isObligation then completeObligation
    if released then noteReclaimed
    handleAll w rest

/-- Deal with everything in the inbox of a worker (`process_messages`); gives the number of items.
-/
def processMessages (w : WorkerId) : NodeM σ τ Nat := do
  let items ← drainInbox w
  handleAll w items
  tallyWorker w fun s => { s with messages := s.messages + items.length }
  return items.length

/-- Give up items that nobody will deal with any more. -/
def discardAll : List (WorkItem σ) → NodeM σ τ Unit
  | [] => return ()
  | item :: rest => do
    if item.isObligation then completeObligation
    discardAll rest

/-- Drop everything in the inbox of a worker (`clean_thread_messages`); gives the number of items.
-/
def cleanMessages (w : WorkerId) : NodeM σ τ Nat := do
  let items ← drainInbox w
  discardAll items
  return items.length

/-! ## Firing -/

/-- Give transitions of a net a chance to fire, in order, until the net halts or the run ends;
gives how many fired. -/
def fireEach (w : WorkerId) (net : NetId) :
    (state : σ) → List TransitionIndex → (fired : Nat) → NodeM σ τ Nat
  | _, [], fired => return fired
  | state, transition :: rest, fired => do
    if ← isQuitting then return fired
    let outcome ← fireTransition w net state transition
    let hit := decide (outcome.result = .fired)
    if hit then record w (.fire net transition)
    let fired := if hit then fired + 1 else fired
    if outcome.halted then return fired
    fireEach w net outcome.state rest fired

/-- The transitions of an instance in order. -/
def transitions (state : σ) : List TransitionIndex :=
  (List.range (NetBehaviour.transitionCount state).toNat).map UInt32.ofNat

/-- Give all transitions of the given nets a chance to fire. -/
def fireNets (w : WorkerId) : List NetId → (fired : Nat) → NodeM σ τ Nat
  | [], fired => return fired
  | net :: rest, fired => do
    if ← isQuitting then return fired
    match (← getWorker w).nets.find? net with
    | none => fireNets w rest fired
    | some state => fireNets w rest (← fireEach w net state (transitions state) fired)

/-- Give every transition of every net of a worker a chance to fire (`fire_ready`); gives how many
fired. -/
def fireReady (w : WorkerId) : NodeM σ τ Nat := do
  let fired ← fireNets w (← getWorker w).nets.keys 0
  tallyWorker w fun s => { s with firings := s.firings + fired }
  return fired

/-! ## One round -/

/-- One round of a worker (`run_once`): the inbox, the nets, the network, and for worker 0 the
question whether the run can end. Gives how much was done. -/
def runOnce (w : WorkerId) : NodeM σ τ Nat := do
  let handled ← processMessages w
  let fired ← fireReady w
  let received ← processPackets
  let _ ← pollSends
  if w.index = 0 then tick
  return handled + fired + received

/-- Move an active net of a worker to another worker (`migrate_net`). -/
def migrate (w : WorkerId) (net : NetId) (target : WorkerId) : NodeM σ τ Unit := do
  checkWorker target
  match (← getWorker w).nets.find? net with
  | none => refuse (.unknownNet net)
  | some state =>
    modifyWorker w fun worker => { worker with nets := worker.nets.erase net }
    handOver state target

end PetriCluster.Node
