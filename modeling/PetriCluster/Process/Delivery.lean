import PetriCluster.Control.Codec
import PetriCluster.Process.Basic

/-!
# Sending

Tokens for a net in the same process go to the inbox of the worker that owns it; tokens for another
process become a packet. Packets that bring work are counted as sent once the transport has accepted
them, so that the end of all work can be found.
-/

namespace PetriCluster.Node

variable {σ τ : Type} [Transport τ]

/-- Hand a packet to the transport. -/
def send (target : ProcessId) (packet : Packet) : NodeM σ τ Unit := do
  let n ← get
  let (result, link) := Transport.send n.link target packet
  set { n with link }
  match result with
  | .ok () => return ()
  | .error e => refuse (.transport e)

/-- Carry out an operation for each target, and tell what became of each. -/
def forEachTarget (f : ProcessId → NodeM σ τ Unit) :
    List ProcessId → NodeM σ τ (List (ProcessId × Except RuntimeError Unit))
  | [] => return []
  | target :: rest => do
    let result ← attempt (f target)
    return (target, result) :: (← forEachTarget f rest)

/-- Send a packet to all peers but one (`broadcast_packet`). -/
def broadcast (packet : Packet) (exclude : Option ProcessId) : NodeM σ τ MulticastReport := do
  let p ← getProcess
  let targets := (ProcessId.all p.processCount).filter fun t => t ≠ p.id ∧ some t ≠ exclude
  return ⟨← forEachTarget (send · packet) targets⟩

/-- Count work packets that the transport accepted. -/
def recordSent (count : Nat) : NodeM σ τ Unit :=
  modifyProcess fun p => { p with termination := p.termination.recordSent count }

/-- Send a message to all peers (`broadcast_service`). -/
def broadcastControl (message : ControlMessage) : NodeM σ τ MulticastReport := do
  let report ← broadcast (message.toPacket (← getProcess).id) none
  if message.isWork then recordSent report.delivered
  return report

/-- Send a message to a peer (`send_service`). -/
def sendControl (target : ProcessId) (message : ControlMessage) : NodeM σ τ Unit := do
  send target (message.toPacket (← getProcess).id)
  if message.isWork then recordSent 1

/-- Send tokens to a place of a net in some process (`multisend`). -/
def sendTokens (target : ProcessId) (parcel : Parcel) : NodeM σ τ Unit := do
  let p ← getProcess
  if target = p.id then
    match p.registry.liveOwner? parcel.net with
    | none => refuse (.unknownNet parcel.net)
    | some owner =>
      post owner (.tokens parcel)
      tally fun s => { s with localDeliveries := s.localDeliveries + 1 }
  else
    match ← attempt (send target (.ofTokens p.id parcel)) with
    | .error e =>
      tallyTransportErrors 1
      refuse e
    | .ok () =>
      recordSent 1
      tally fun s => { s with remoteDeliveries := s.remoteDeliveries + 1 }

/-- Send the same tokens to several processes (`multisend_multicast`). A target named twice gets
them once, and a failure does not stop the others. -/
def multicast (targets : List ProcessId) (parcel : Parcel) : NodeM σ τ MulticastReport :=
  return ⟨← forEachTarget (sendTokens · parcel) targets.eraseDups⟩

/-- Ask the owner of a net to fire a transition (`fire_transition`). -/
def requestFiring (net : NetId) (transition : TransitionIndex) : NodeM σ τ Unit := do
  match (← getProcess).registry.liveOwner? net with
  | none => refuse (.unknownNet net)
  | some owner => post owner (.fire net transition)

end PetriCluster.Node
