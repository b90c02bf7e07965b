import PetriCluster.Address
import PetriCluster.Packet.Basic

/-!
# Failures of the network

What can go wrong when packets are sent and received. Every failure has a category for reports and
a message; `isLinkFailure` says whether the peer behind it should be taken for gone.
-/

namespace PetriCluster

/-- The two points at which all processes of a cluster wait for each other. -/
inductive BarrierPhase where
  | start
  | teardown
  deriving DecidableEq, Repr

/-- What a phase is called. -/
def BarrierPhase.name : BarrierPhase → String
  | start => "Start"
  | teardown => "Teardown"

/-- Why a connection to a peer failed. -/
inductive LinkFault where
  | bind
  | gaveUp (after : String)
  | injected (target : ProcessId)
  | described (text : String)
  deriving DecidableEq, Repr

/-- What is wrong, in words. -/
def LinkFault.text : LinkFault → String
  | bind => "Failed to bind TCP listener"
  | gaveUp after => s!"Gave up connecting after {after}"
  | injected target => s!"injected failure for {target}"
  | described text => text

/-- Why a transport cannot be set up. -/
inductive TransportMisuse where
  | emptyHub
  | outsideHub (process : ProcessId) (count : Nat)
  | noPeers
  | notAPeer (process : ProcessId) (count : Nat)
  | noThreads
  | described (text : String) (field : Option String)
  deriving DecidableEq, Repr

namespace TransportMisuse

/-- What is wrong, in words. -/
def text : TransportMisuse → String
  | emptyHub => "Mailbox hub needs at least one process"
  | outsideHub process count => s!"{process} is outside a {count}-process hub"
  | noPeers => "No peer addresses configured"
  | notAPeer process count => s!"{process} has no entry in a {count}-peer table"
  | noThreads => "io_threads must be positive"
  | described text _ => text

/-- The setting that is wrong. -/
def field : TransportMisuse → Option String
  | emptyHub => some "process_count"
  | outsideHub .. => some "process_id"
  | noPeers => some "peers"
  | notAPeer .. => some "local"
  | noThreads => some "io_threads"
  | described _ field => field

end TransportMisuse

/-- Why there is no way to a process. -/
inductive NoRoute where
  | toSelf
  | beyond (count : Nat)
  | failedEarlier
  | failedMeanwhile
  | writerEnded
  | described (text : String)
  deriving DecidableEq, Repr

/-- What is wrong, in words. -/
def NoRoute.text : NoRoute → String
  | toSelf => "local delivery must not go through the transport"
  | beyond count => s!"cluster has only {count} processes"
  | failedEarlier => "connection to peer failed earlier"
  | failedMeanwhile => "connection to peer failed"
  | writerEnded => "writer task stopped"
  | described text => text

/-- Why a transport is closed. -/
inductive Closure where
  | mailbox
  | peerMailbox (target : ProcessId)
  | channel
  | noWriter
  | atBarrier (phase : BarrierPhase) (missing : List ProcessId)
  | described (text : String)
  deriving DecidableEq, Repr

/-- What is wrong, in words. -/
def Closure.text : Closure → String
  | mailbox => "mailbox endpoint shut down"
  | peerMailbox target => s!"{target} has shut down"
  | channel => "TCP channel shut down"
  | noWriter => "no writer for peer"
  | atBarrier phase missing =>
    let names := ", ".intercalate (missing.map fun p => s!"ProcessId({p.index})")
    s!"transport failed while waiting at {phase.name} barrier for [{names}]"
  | described text => text

/-- A failure of the network. -/
inductive TransportError where
  /-- A connection failed; the address of the peer and the cause below it are given if known. -/
  | link (fault : LinkFault) (peer : Option SocketAddress) (source : Option String)
  | protocol (cause : Malformation) (source : Option String)
  | configuration (misuse : TransportMisuse)
  | unroutable (target : ProcessId) (reason : NoRoute)
  | closed (reason : Closure)
  | io (text : String)
  deriving DecidableEq, Repr

namespace TransportError

/-- What is printed. -/
def message : TransportError → String
  | link fault peer _ =>
    let suffix := match peer with
      | some address => s!" (peer {address})"
      | none => ""
    s!"Link failure: {fault.text}{suffix}"
  | protocol cause _ => s!"Malformed packet: {cause.text}"
  | configuration misuse => s!"Invalid transport configuration: {misuse.text}"
  | unroutable target reason => s!"No route to process {target}: {reason.text}"
  | closed reason => s!"Transport closed: {reason.text}"
  | io text => text

/-- Which error it is. -/
def kind : TransportError → String
  | link .. => "Link"
  | protocol .. => "Protocol"
  | configuration .. => "Configuration"
  | unroutable .. => "Unroutable"
  | closed .. => "Closed"
  | io .. => "Io"

/-- The group an error is in. -/
def category : TransportError → String
  | link .. => "link"
  | protocol .. => "protocol"
  | configuration .. => "configuration"
  | unroutable .. => "unroutable"
  | closed .. => "closed"
  | io .. => "io"

/-- Whether the peer should be taken for gone. -/
def isLinkFailure : TransportError → Bool
  | link .. | io .. => true
  | _ => false

/-- The cause below it. -/
def source : TransportError → Option String
  | link _ _ source | protocol _ source => source
  | _ => none

end TransportError

end PetriCluster
