import PetriCluster.Proofs.Contents
import PetriCluster.Proofs.Refinement

/-!
# The moments at which nets are made

A process makes a net on two occasions: somebody asks for one, a caller from outside or a net that
fires; or a packet has arrived, and it tells of a net that a peer has made. The functions here list
these moments of an operation in order, each with the process as it was then.
-/

namespace PetriCluster

/-- What may lead a process to make a net. -/
inductive Occasion where
  | spawn (owner : WorkerId) (template : Nat) (requested parent : Option NetId) (isGlobal : Bool)
  | packet (packet : Packet)

/-- A packet is dispatched. -/
def Occasion.isPacket : Occasion → Bool
  | packet _ => true
  | spawn .. => false

/-- The name a spawn asks for. -/
def Occasion.requested? : Occasion → Option NetId
  | spawn _ _ requested _ _ => requested
  | packet _ => none

/-- The packet that is dispatched. -/
def Occasion.packet? : Occasion → Option Packet
  | packet p => some p
  | spawn .. => none

/-- An occasion, and the process that meets it. -/
structure Moment (σ τ : Type) where
  occasion : Occasion
  node : Node σ τ

namespace Node

variable {σ τ α : Type}

/-- Why an operation is refused. -/
def refusal? (x : NodeM σ τ α) (n : Node σ τ) : Option RuntimeError :=
  match x n with
  | .error (.refused e) _ => some e
  | _ => none

/-- What an operation that has succeeded answers. -/
def answer? (result : EStateM.Result Fault (Node σ τ) α) : Option α :=
  match result with
  | .ok a _ => some a
  | .error _ _ => none

/-- The name that a request for a net has used up: a request that is refused leaves it unused. -/
def spent? (requested : Option NetId) (result : EStateM.Result Fault (Node σ τ) α) : Option NetId :=
  match result with
  | .error (.refused _) _ => none
  | _ => requested

/-- The moments of what comes after an operation that has succeeded. -/
def follow (result : EStateM.Result Fault (Node σ τ) α)
    (next : α → Node σ τ → List (Moment σ τ)) : List (Moment σ τ) :=
  match result with
  | .ok a n => next a n
  | .error _ _ => []

end Node

namespace Moment

variable {σ τ : Type} [NetBehaviour σ] [Transport τ] (m : Moment σ τ)

/-- The process after it has met the occasion. -/
def after : Node σ τ :=
  match m.occasion with
  | .spawn owner template requested parent isGlobal =>
    Node.final (Node.spawn owner template requested parent isGlobal m.node)
  | .packet packet => Node.final (Node.dispatch packet m.node)

/-- The name of the net that was asked for, if it was made. -/
def spawned? : Option NetId :=
  match m.occasion with
  | .spawn owner template requested parent isGlobal =>
    Node.answer? (Node.spawn owner template requested parent isGlobal m.node)
  | .packet _ => none

/-- The name that was asked for, if it is used up. -/
def spent? : Option NetId :=
  match m.occasion with
  | .spawn owner template requested parent isGlobal =>
    Node.spent? requested (Node.spawn owner template requested parent isGlobal m.node)
  | .packet _ => none

/-- Why the net was not made that was asked for, or that a packet told of. -/
def refusal? : Option RuntimeError :=
  match m.occasion with
  | .spawn owner template requested parent isGlobal =>
    Node.refusal? (Node.spawn owner template requested parent isGlobal) m.node
  | .packet packet =>
    match packet.message? with
    | some (.spawned net template parent _) =>
      Node.refusal? (do Node.recordReceived; Node.spawnCopy template.toNat net parent) m.node
    | _ => none

/-- Whether a slot for the net came into being. -/
def makes (net : NetId) : Bool :=
  (m.node.process.registry.slot? net).isNone && (m.after.process.registry.slot? net).isSome

end Moment

namespace Node

variable {σ τ : Type} [NetBehaviour σ] [Transport τ]

/-- The moments of a firing. -/
def performMoments (worker : WorkerId) (net : NetId) : Firing σ → Node σ τ → List (Moment σ τ)
  | .fired _, _ | .notEnabled _, _ | .failed _ _, _ | .crashed _ _, _ => []
  | .send target parcel next, n =>
    follow (attempt (sendTokens target parcel) n) fun r n => performMoments worker net (next r) n
  | .multicast targets parcel next, n =>
    follow (multicast targets parcel n) fun r n => performMoments worker net (next r) n
  | .spawn template isGlobal next, n =>
    ⟨.spawn worker template none (some net) isGlobal, n⟩ ::
      follow (attempt (spawn worker template none (some net) isGlobal) n) fun r n =>
        performMoments worker net (next r) n
  | .halt next, n =>
    follow (attempt (halt worker net) n) fun r n => performMoments worker net (next r) n
  | .haltNet other next, n =>
    follow (attempt (halt worker other) n) fun r n => performMoments worker net (next r) n
  | .quit next, n => follow (quitAll n) fun _ n => performMoments worker net next n

/-- The moments of asking a transition to fire. -/
def firingMoments (w : WorkerId) (net : NetId) (state : σ) (transition : TransitionIndex)
    (n : Node σ τ) : List (Moment σ τ) :=
  performMoments w net
    (NetBehaviour.fire state ⟨net, w, n.process.id, n.process.processCount⟩ transition) n

/-- The moments of an item. -/
def itemMoments (w : WorkerId) : WorkItem σ → Node σ τ → List (Moment σ τ)
  | .fire net transition, n =>
    match (n.process.worker w).nets.find? net with
    | some state => firingMoments w net state transition n
    | none => []
  | _, _ => []

/-- The moments of dealing with items in order. -/
def handleMoments (w : WorkerId) : List (WorkItem σ) → Node σ τ → List (Moment σ τ)
  | [], _ => []
  | item :: rest, n =>
    itemMoments w item n ++ follow (dealWith w item n) fun _ n => handleMoments w rest n

/-- The moments of dealing with everything in the inbox of a worker. -/
def messageMoments (w : WorkerId) (n : Node σ τ) : List (Moment σ τ) :=
  follow (drainInbox w n) (handleMoments w)

/-- The moments of giving transitions of a net a chance to fire. -/
def fireEachMoments (w : WorkerId) (net : NetId) :
    σ → List TransitionIndex → Node σ τ → List (Moment σ τ)
  | _, [], _ => []
  | state, transition :: rest, n =>
    if n.process.quitting then []
    else
      firingMoments w net state transition n ++
        follow (fireAndRecord w net state transition n) fun outcome n =>
          if outcome.halted then [] else fireEachMoments w net outcome.state rest n

/-- The moments of giving all transitions of the given nets a chance to fire. -/
def fireNetsMoments (w : WorkerId) : List NetId → (fired : Nat) → Node σ τ → List (Moment σ τ)
  | [], _, _ => []
  | net :: rest, fired, n =>
    if n.process.quitting then []
    else
      match (n.process.worker w).nets.find? net with
      | none => fireNetsMoments w rest fired n
      | some state =>
        fireEachMoments w net state (transitions state) n ++
          follow (fireEach w net state (transitions state) fired n) fun fired n =>
            fireNetsMoments w rest fired n

/-- The moments of giving every transition of every net of a worker a chance to fire. -/
def fireReadyMoments (w : WorkerId) (n : Node σ τ) : List (Moment σ τ) :=
  fireNetsMoments w (n.process.worker w).nets.keys 0 n

/-- The moments while packets are taken in. -/
def receiveMoments : (limit : Nat) → Node σ τ → List (Moment σ τ)
  | 0, _ => []
  | limit + 1, n =>
    match Transport.receive n.link with
    | (.ok (some packet), link) =>
      ⟨.packet packet, { n with link }⟩ ::
        follow (dispatch packet { n with link }) fun _ n => receiveMoments limit n
    | _ => []

/-- The moments of a round. -/
def roundMoments (w : WorkerId) (n : Node σ τ) : List (Moment σ τ) :=
  messageMoments w n ++ follow (processMessages w n) fun _ n =>
    fireReadyMoments w n ++ follow (fireReady w n) fun _ n => receiveMoments packetBatch n

/-- The moments of a look at a barrier: if the transport has failed, packets are taken in again. -/
def barrierMoments (phase : BarrierPhase) (n : Node σ τ) : List (Moment σ τ) :=
  receiveMoments packetBatch n ++ follow (processPackets n) fun _ n =>
    follow (pollSends n) fun _ n =>
      if n.process.barrier.isComplete phase || Transport.isHealthy n.link then []
      else receiveMoments packetBatch n

end Node

end PetriCluster
