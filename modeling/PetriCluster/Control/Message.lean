import PetriCluster.Error

/-!
# Control messages

What processes tell each other besides tokens: that a global net was spawned or halted, that a halt
has been carried out, that all stop, that a process reached a barrier, and the questions and answers
by which the end of all work is found.
-/

namespace PetriCluster

/-- What a process says of its work: whether it is idle, and how many work packets it has sent to
and received from its peers. -/
structure ProbeSnapshot where
  idle : Bool
  sent : UInt64
  received : UInt64
  deriving DecidableEq, Repr

/-- A message from one process to another. -/
inductive ControlMessage where
  /-- A global net was spawned; the receiver makes its own copy of the same name. -/
  | spawned (net : NetId) (template : UInt32) (parent : Option NetId) (origin : ProcessId)
  /-- A global net halted at `origin`; the receiver halts its copy and acknowledges. -/
  | halted (net : NetId) (origin : ProcessId)
  | haltAck (net : NetId) (sender : ProcessId)
  | quit (origin : ProcessId)
  | barrier (phase : BarrierPhase) (sender : ProcessId)
  | probe (wave : UInt64)
  | probeReply (wave : UInt64) (sender : ProcessId) (snapshot : ProbeSnapshot)
  deriving DecidableEq, Repr

namespace ControlMessage

/-- What a message is called. -/
def kind : ControlMessage → String
  | spawned .. => "net_spawned"
  | halted .. => "net_halted"
  | haltAck .. => "halt_ack"
  | quit .. => "quit"
  | barrier .. => "barrier"
  | probe .. => "probe"
  | probeReply .. => "probe_reply"

/-- Whether a message brings work to its receiver, and so is counted when the end of all work is
looked for. -/
def isWork : ControlMessage → Bool
  | spawned .. => true
  | _ => false

end ControlMessage

end PetriCluster
