import PetriCluster.Transport.Duration
import PetriCluster.Transport.Error

/-!
# Writers

A channel has a writer for each peer. The writer takes frames out of its queue in the order they were
put in, connects when it has its first frame, writes, and tells what became of each frame.
-/

namespace PetriCluster.Tcp

/-- A frame that waits to be written. By its ticket the sender learns what became of it. -/
structure OutboundFrame where
  bytes : Bytes
  ticket : Nat
  deriving DecidableEq, Repr

/-- What became of the frame with a ticket. -/
structure Answer where
  ticket : Nat
  outcome : Except TransportError Unit

/-- What a writer is about to do. -/
inductive WriterStage where
  | waiting
  | connecting (frame : OutboundFrame)
  | writing (frame : OutboundFrame)
  | answering (frame : OutboundFrame) (outcome : Except TransportError Unit)
  | losing (frame : OutboundFrame) (cause : TransportError)
  /-- Say that the frame in hand failed, now that the peer is marked as gone. -/
  | reporting (frame : OutboundFrame) (cause : TransportError)
  | closing
  | draining
  | ended

/-- Which part of a write failed. -/
inductive WriteFault where
  | write
  | flush
  deriving DecidableEq, Repr

/-- What is wrong, in words. -/
def WriteFault.text : WriteFault → String
  | write => "Failed to write frame"
  | flush => "Failed to flush TCP stream"

/-- What makes a writer move. -/
inductive Event where
  | proceed
  | connected
  | gaveUp
  | written
  | broken (fault : WriteFault)
  deriving DecidableEq, Repr

/-- The writer of a peer with its queue. -/
structure Writer where
  peer : ProcessId
  address : SocketAddress
  connectTimeout : Nat
  queue : List OutboundFrame := []
  isOpen : Bool := true
  isHealthy : Bool := true
  isConnected : Bool := false
  stage : WriterStage := .waiting

namespace Writer

variable (w : Writer)

/-- Queue a frame. -/
def push (frame : OutboundFrame) : Writer :=
  { w with queue := w.queue ++ [frame] }

/-- Take the next frame, to write it or to connect first. -/
def pick : Writer :=
  match w.queue with
  | [] => w
  | frame :: rest =>
    { w with
      queue := rest
      stage := if w.isConnected then .writing frame else .connecting frame }

/-- Let the next frame in the queue fail; with none left the writer has ended. -/
def drain : Writer :=
  match w.queue with
  | [] => { w with stage := .ended }
  | _ :: rest => { w with queue := rest }

/-- A write failed. The peer is gone only if the link is to blame. -/
def fail (frame : OutboundFrame) (cause : TransportError) : Writer :=
  { w with
    stage := if cause.isLinkFailure then .losing frame cause else .answering frame (.error cause) }

/-- The error of a peer that does not answer. -/
def unreachable : TransportError :=
  .link (.gaveUp (Duration.text w.connectTimeout)) (some w.address) none

/-- The error of a frame that was not written. -/
def unwritten (fault : WriteFault) : TransportError :=
  .link (.described fault.text) (some w.address) none

/-- Why the frames behind the one that failed are not written. -/
def unroutable : TransportError :=
  .unroutable w.peer .failedMeanwhile

/-- Do what can be done without the network. -/
def proceed : Writer :=
  match w.stage with
  | .waiting => w.pick
  | .answering _ _ => { w with stage := .waiting }
  | .losing frame cause => { w with isHealthy := false, stage := .reporting frame cause }
  | .reporting _ _ => { w with stage := .closing }
  | .closing => { w with isOpen := false, stage := .draining }
  | .draining => w.drain
  | .connecting _ | .writing _ | .ended => w

/-- The answer a writer gives when it goes on. -/
def answer? : Option Answer :=
  match w.stage with
  | .answering frame outcome => some ⟨frame.ticket, outcome⟩
  | .reporting frame cause => some ⟨frame.ticket, .error cause⟩
  | .draining => w.queue.head?.map fun frame => ⟨frame.ticket, .error w.unroutable⟩
  | _ => none

/-- A writer after an event. An event it does not wait for does not move it. -/
def after : Event → Writer
  | .proceed => w.proceed
  | .connected =>
    match w.stage with
    | .connecting frame => { w with isConnected := true, stage := .writing frame }
    | _ => w
  | .gaveUp =>
    match w.stage with
    | .connecting frame => { w with stage := .losing frame w.unreachable }
    | _ => w
  | .written =>
    match w.stage with
    | .writing frame => { w with stage := .answering frame (.ok ()) }
    | _ => w
  | .broken fault =>
    match w.stage with
    | .writing frame => w.fail frame (w.unwritten fault)
    | _ => w

/-- The answer an event gives. -/
def answerAt? : Event → Option Answer
  | .proceed => w.answer?
  | _ => none

/-- Whether there is something left to do. -/
def isBusy : Bool :=
  match w.stage with
  | .waiting | .ended => !w.queue.isEmpty
  | _ => true

/-- What a writer learns next if its peer never answers. -/
def despair : Event :=
  match w.stage with
  | .connecting _ => .gaveUp
  | _ => .proceed

end Writer

end PetriCluster.Tcp
