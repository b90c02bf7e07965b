import PetriCluster.Process.Ending
import PetriCluster.Process.Halting
import PetriCluster.Process.Spawning

/-!
# Taking packets in

What arrives is dispatched packet by packet. A packet that cannot be understood, or that is for a net
the process does not have any more, is counted and dropped.
-/

namespace PetriCluster.Node

variable {σ τ : Type} [NetBehaviour σ] [Transport τ]

/-- Count a work packet that was received. -/
def recordReceived : NodeM σ τ Unit :=
  modifyProcess fun p => { p with termination := p.termination.recordReceived }

/-- Hand tokens from a peer to the owner of their net (`deliver_remote`). -/
def deliver (parcel : Parcel) : NodeM σ τ Unit := do
  match (← getProcess).registry.liveOwner? parcel.net with
  | some owner => tolerate (post owner (.tokens parcel))
  | none => tallyProtocolError

/-- Deal with a control message (`process_service_message`). -/
def handleControl : ControlMessage → NodeM σ τ Unit
  | .spawned net template parent _ => do
    recordReceived
    match ← attempt (spawnCopy template.toNat net parent) with
    | .ok () => return ()
    | .error _ => tallyProtocolError
  | .halted net origin => haltCopy net origin
  | .haltAck net _ => do
    match ← attempt (countAck net) with
    | .ok () => return ()
    | .error _ => tallyProtocolError
  | .quit _ => modifyProcess fun p => { p with quitting := true }
  | .barrier phase sender =>
    modifyProcess fun p => { p with barrier := p.barrier.arrive phase sender }
  | .probe wave => answerProbe wave
  | .probeReply wave sender answer => collectReply wave sender answer

/-- Deal with a packet; a malformed one is counted and dropped (`process_packet`). -/
def dispatch (packet : Packet) : NodeM σ τ Unit :=
  match packet.tag with
  | .tokens => do
    recordReceived
    match packet.parcel with
    | .ok parcel => deliver parcel
    | .error _ => tallyProtocolError
  | .service =>
    match ControlMessage.ofPacket packet with
    | .ok message => handleControl message
    | .error _ => tallyProtocolError

/-- Take the next packet out of the transport. -/
def receive : NodeM σ τ (Option Packet) := do
  let n ← get
  let (result, link) := Transport.receive n.link
  set { n with link }
  match result with
  | .ok packet => return packet
  | .error e => refuse (.transport e)

/-- How many packets are taken in at once. -/
def packetBatch : Nat := 256

/-- Take in at most `limit` packets; gives their number. -/
def receivePackets : (limit : Nat) → NodeM σ τ Nat
  | 0 => return 0
  | limit + 1 => do
    match ← attempt receive with
    | .ok (some packet) =>
      dispatch packet
      return (← receivePackets limit) + 1
    | .ok none => return 0
    | .error _ =>
      tallyTransportErrors 1
      return 0

/-- Take in a batch of packets; gives their number. -/
def processPackets : NodeM σ τ Nat :=
  receivePackets packetBatch

/-- Learn what became of sends that were under way (`poll_requests`); gives how many are finished.
-/
def pollSends : NodeM σ τ Nat := do
  let n ← get
  let (report, link) := Transport.poll n.link
  set { n with link }
  tallyTransportErrors report.failures.length
  return report.completed + report.failures.length

end PetriCluster.Node
