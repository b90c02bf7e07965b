import PetriCluster.Transport.Error

/-!
# Failures of the runtime

`RuntimeError` is what an operation of a process or a worker can be refused with; the state of the
cluster stays usable. A `Crash` is an assertion that failed in the middle of an operation, or a net
that gave up: it ends the worker it happens on.
-/

namespace PetriCluster

/-- How far a net instance is in its life. -/
inductive NetState where
  | spawned
  | active
  | halting
  | halted
  deriving DecidableEq, Repr

namespace NetState

/-- What a state is called. -/
def name : NetState → String
  | spawned => "Spawned"
  | active => "Active"
  | halting => "Halting"
  | halted => "Halted"

/-- Whether a net in this state still takes part in the computation. -/
def isLive : NetState → Bool
  | spawned | active => true
  | halting | halted => false

end NetState

/-- Why a process cannot be set up. -/
inductive SetupFault where
  | processCount (count : Nat)
  | outsideCluster (process : ProcessId) (count : Nat)
  | noWorkers
  /-- The mailbox backend cannot connect separate operating-system processes. -/
  | sharedBackend
  | described (text : String) (field : Option String)
  deriving DecidableEq, Repr

namespace SetupFault

/-- What is wrong, in words. -/
def text : SetupFault → String
  | processCount count => s!"invalid process count {count}"
  | outsideCluster process count => s!"{process} is outside a {count}-process cluster"
  | noWorkers => "a process needs at least one worker thread"
  | sharedBackend =>
    "the mailbox backend hosts every process in one OS process; use LocalCluster"
  | described text _ => text

/-- The setting that is wrong. -/
def field : SetupFault → Option String
  | processCount _ => some "process_count"
  | outsideCluster .. => some "process_id"
  | noWorkers => some "threads"
  | sharedBackend => some "backend"
  | described _ field => field

end SetupFault

/-- Why a run cannot start or end. -/
inductive LifecycleFault where
  | alreadyStarted (process : ProcessId)
  | neverStarted (process : ProcessId)
  | alreadyJoined (process : ProcessId)
  | workersCrashed (workers : Nat) (process : ProcessId)
  | described (text : String)
  deriving DecidableEq, Repr

/-- What is wrong, in words. -/
def LifecycleFault.text : LifecycleFault → String
  | alreadyStarted process => s!"{process} already started"
  | neverStarted process => s!"{process} was never started"
  | alreadyJoined process => s!"{process} already joined"
  | workersCrashed workers process => s!"{workers} worker threads of {process} panicked"
  | described text => text

/-- Why bytes are no control message. -/
inductive DecodeError where
  | endOfInput
  | badVariant (value count : Nat)
  | badOption (value : Nat)
  | badBool (value : Nat)
  deriving DecidableEq, Repr

/-- What is wrong, in words. -/
def DecodeError.text : DecodeError → String
  | endOfInput => "io error: unexpected end of file"
  | badVariant value count =>
    s!"invalid value: integer `{value}`, expected variant index 0 <= i < {count}"
  | badOption value => s!"tag for enum is not valid, found {value}"
  | badBool value => s!"invalid u8 while decoding bool, expected 0 or 1, found {value}"

/-- Why an operation of the runtime is refused. -/
inductive RuntimeError where
  | configuration (fault : SetupFault)
  | unknownTemplate (index count : Nat)
  | unknownNet (net : NetId)
  | duplicateNet (net : NetId)
  | illegalTransition (net : NetId) (current wanted : NetState)
  | unknownWorker (worker : WorkerId)
  | idSpaceExhausted
  | lifecycle (fault : LifecycleFault)
  | netFailure (net : NetId) (text : String)
  | transport (error : TransportError)
  | encoding (error : DecodeError)
  | report (text : String)
  | io (text : String)
  deriving DecidableEq, Repr

namespace RuntimeError

/-- What is printed. -/
def message : RuntimeError → String
  | configuration fault => s!"Configuration error: {fault.text}"
  | unknownTemplate index count => s!"Unknown template index {index} (table has {count} templates)"
  | unknownNet net => s!"Unknown net {net}"
  | duplicateNet net => s!"Net {net} already exists"
  | illegalTransition net current wanted =>
    s!"Net {net} cannot move from {current.name} to {wanted.name}"
  | unknownWorker worker => s!"Worker {worker} does not exist"
  | idSpaceExhausted => "Net id space exhausted"
  | lifecycle fault => s!"Lifecycle error: {fault.text}"
  | netFailure net text => s!"Net {net} failed: {text}"
  | transport error => error.message
  | encoding error => s!"Encoding error: {error.text}"
  | report text => s!"Report error: {text}"
  | io text => s!"I/O error: {text}"

/-- Which error it is. -/
def kind : RuntimeError → String
  | configuration _ => "Configuration"
  | unknownTemplate .. => "UnknownTemplate"
  | unknownNet _ => "UnknownNet"
  | duplicateNet _ => "DuplicateNet"
  | illegalTransition .. => "IllegalTransition"
  | unknownWorker _ => "UnknownWorker"
  | idSpaceExhausted => "IdSpaceExhausted"
  | lifecycle _ => "Lifecycle"
  | netFailure .. => "Net"
  | transport error => s!"Transport.{error.kind}"
  | encoding _ => "Encoding"
  | report _ => "Report"
  | io _ => "Io"

/-- The group an error is in. -/
def category : RuntimeError → String
  | configuration _ | unknownTemplate .. | unknownWorker _ => "configuration"
  | unknownNet _ | duplicateNet _ | illegalTransition .. => "ownership"
  | idSpaceExhausted | lifecycle _ => "lifecycle"
  | netFailure .. => "net"
  | transport _ => "transport"
  | encoding _ => "protocol"
  | report _ | io _ => "io"

/-- Whether the network is behind a failure. -/
def isTransport : RuntimeError → Bool
  | transport _ => true
  | _ => false

end RuntimeError

/-- An assertion that failed in the middle of an operation. -/
inductive Crash where
  | addOverflow
  | subtractOverflow
  | capacityOverflow
  | cutCharacter
  | adoptedWithoutSlot (net : NetId)
  | strayMessage (worker : WorkerId) (net : NetId)
  | obligationUnderflow
  | foreignInstance
  | gaveUp (text : String)
  deriving DecidableEq, Repr

/-- What a panic says. -/
def Crash.message : Crash → String
  | addOverflow => "attempt to add with overflow"
  | subtractOverflow => "attempt to subtract with overflow"
  | capacityOverflow => "capacity overflow"
  | cutCharacter => "byte index is not a char boundary"
  | adoptedWithoutSlot net => s!"adopted {net} without an arena slot"
  | strayMessage worker net => s!"{worker} got a message for unknown {net}"
  | obligationUnderflow => "obligation counter underflow"
  | foreignInstance => "template returned an instance with a foreign id"
  | gaveUp text => text

end PetriCluster
