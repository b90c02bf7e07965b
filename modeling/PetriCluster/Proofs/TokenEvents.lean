import PetriCluster.Proofs.Scene

/-!
# What an operation does to batches of tokens

Running an operation at a node, some sends are accepted, some batches are handed to the instances of
their nets, and some are dropped. The functions here list these events in order. Each follows the
operation it is about: where the operation carries out another one, the events of that one are taken
at the node it is carried out at.
-/

namespace PetriCluster.Node

variable {σ τ α : Type}

/-- The events of an operation, and then those of what comes after it if it succeeds. -/
def andThen (events : List TokenEvent) (result : EStateM.Result Fault (Node σ τ) α)
    (next : α → Node σ τ → List TokenEvent) : List TokenEvent :=
  events ++ match result with
    | .ok a n => next a n
    | .error _ _ => []

variable [Transport τ]

/-- The events of a send. -/
def sendEvents (target : ProcessId) (parcel : Parcel) (n : Node σ τ) : List TokenEvent :=
  match sendTokens target parcel n with
  | .ok _ _ => [.accepted target parcel]
  | .error _ _ => []

/-- The events of sending to one target after the other. -/
def multicastEvents (parcel : Parcel) : List ProcessId → Node σ τ → List TokenEvent
  | [], _ => []
  | target :: rest, n =>
    andThen (sendEvents target parcel n) (attempt (sendTokens target parcel) n) fun _ n =>
      multicastEvents parcel rest n

variable [NetBehaviour σ]

/-- The events of a firing. -/
def performEvents (worker : WorkerId) (net : NetId) : Firing σ → Node σ τ → List TokenEvent
  | .fired _, _ | .notEnabled _, _ | .failed _ _, _ | .crashed _ _, _ => []
  | .send target parcel next, n =>
    andThen (sendEvents target parcel n) (attempt (sendTokens target parcel) n) fun r n =>
      performEvents worker net (next r) n
  | .multicast targets parcel next, n =>
    andThen (multicastEvents parcel targets.eraseDups n) (multicast targets parcel n) fun r n =>
      performEvents worker net (next r) n
  | .spawn template isGlobal next, n =>
    andThen [] (attempt (spawn worker template none (some net) isGlobal) n) fun r n =>
      performEvents worker net (next r) n
  | .halt next, n =>
    andThen [] (attempt (halt worker net) n) fun r n => performEvents worker net (next r) n
  | .haltNet other next, n =>
    andThen [] (attempt (halt worker other) n) fun r n => performEvents worker net (next r) n
  | .quit next, n => andThen [] (quitAll n) fun _ n => performEvents worker net next n

/-- The events of a transition that is asked to fire. -/
def firingEvents (w : WorkerId) (net : NetId) (state : σ) (transition : TransitionIndex)
    (n : Node σ τ) : List TokenEvent :=
  performEvents w net
    (NetBehaviour.fire state ⟨net, w, n.process.id, n.process.processCount⟩ transition) n

/-- The events of dealing with an item. Tokens for a net that the worker does not have active are
dropped if the net is stopping or gone, else they go on to the owner. -/
def itemEvents (w : WorkerId) : WorkItem σ → Node σ τ → List TokenEvent
  | .tokens parcel, n =>
    if ((n.process.worker w).nets.find? parcel.net).isSome then [.handed parcel]
    else if (n.process.worker w).halting.contains parcel.net ||
        (n.process.registry.owner? parcel.net).isNone then
      [.dropped parcel (n.process.registry.liveOwner? parcel.net).isSome]
    else []
  | .fire net transition, n =>
    match (n.process.worker w).nets.find? net with
    | some state => firingEvents w net state transition n
    | none => []
  | _, _ => []

/-- Deal with one item of an inbox up to the end of its obligation; tells whether a net was released. -/
def complete (w : WorkerId) (item : WorkItem σ) : NodeM σ τ Bool := do
  let released ← handle w item
  if item.isObligation then completeObligation
  return released

/-- Deal with an item, and see whether the run can end. -/
def dealWith (w : WorkerId) (item : WorkItem σ) : NodeM σ τ Unit := do
  if ← complete w item then noteReclaimed

/-- The events while a worker deals with items. -/
def handleEvents (w : WorkerId) : List (WorkItem σ) → Node σ τ → List TokenEvent
  | [], _ => []
  | item :: rest, n =>
    andThen (itemEvents w item n) (dealWith w item n) fun _ n => handleEvents w rest n

/-- The events of dealing with everything in the inbox of a worker. -/
def messageEvents (w : WorkerId) (n : Node σ τ) : List TokenEvent :=
  andThen [] (drainInbox w n) (handleEvents w)

/-- Ask a transition to fire, and note in the log if it did. -/
def fireAndRecord (w : WorkerId) (net : NetId) (state : σ) (transition : TransitionIndex) :
    NodeM σ τ (FiringEnd σ) := do
  let outcome ← fireTransition w net state transition
  if outcome.result = .fired then record w (.fire net transition)
  return outcome

/-- The events of giving transitions of a net a chance to fire. -/
def fireEachEvents (w : WorkerId) (net : NetId) :
    σ → List TransitionIndex → Node σ τ → List TokenEvent
  | _, [], _ => []
  | state, transition :: rest, n =>
    if n.process.quitting then []
    else
      andThen (firingEvents w net state transition n) (fireAndRecord w net state transition n)
        fun outcome n =>
          if outcome.halted then [] else fireEachEvents w net outcome.state rest n

/-- The events of giving all transitions of the given nets a chance to fire. -/
def fireNetsEvents (w : WorkerId) : List NetId → (fired : Nat) → Node σ τ → List TokenEvent
  | [], _, _ => []
  | net :: rest, fired, n =>
    if n.process.quitting then []
    else
      match (n.process.worker w).nets.find? net with
      | none => fireNetsEvents w rest fired n
      | some state =>
        andThen (fireEachEvents w net state (transitions state) n)
          (fireEach w net state (transitions state) fired n) fun fired n =>
            fireNetsEvents w rest fired n

/-- The events of giving every transition of every net of a worker a chance to fire. -/
def fireReadyEvents (w : WorkerId) (n : Node σ τ) : List TokenEvent :=
  fireNetsEvents w (n.process.worker w).nets.keys 0 n

/-- The events of acting on a packet: its tokens are dropped if their net is not live. -/
def packetEvents (packet : Packet) (n : Node σ τ) : List TokenEvent :=
  match packet.parcel with
  | .ok parcel =>
    let live := (n.process.registry.liveOwner? parcel.net).isSome
    if live then [] else [.dropped parcel live]
  | .error _ => []

/-- The events while packets are taken in. -/
def receiveEvents : (limit : Nat) → Node σ τ → List TokenEvent
  | 0, _ => []
  | limit + 1, n =>
    match Transport.receive n.link with
    | (.ok (some packet), link) =>
      andThen (packetEvents packet n) (dispatch packet { n with link }) fun _ n =>
        receiveEvents limit n
    | _ => []

/-- The events of a round. -/
def roundEvents (w : WorkerId) (n : Node σ τ) : List TokenEvent :=
  andThen (messageEvents w n) (processMessages w n) fun _ n =>
    andThen (fireReadyEvents w n) (fireReady w n) fun _ n => receiveEvents packetBatch n

end PetriCluster.Node
