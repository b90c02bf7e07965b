import PetriCluster.Transport.Error

/-!
# Transports

A transport moves packets between the processes of a cluster. Sending never waits for the receiver and
receiving never waits for a packet. A process does not send to itself: what stays in the process goes
around the transport.
-/

namespace PetriCluster

/-- What passed through a transport. -/
structure TransportStats where
  tokenPacketsSent : Nat := 0
  servicePacketsSent : Nat := 0
  packetsReceived : Nat := 0
  bytesSent : Nat := 0
  bytesReceived : Nat := 0
  sendFailures : Nat := 0
  deriving DecidableEq, Repr

namespace TransportStats

variable (s : TransportStats)

/-- Count a packet that was sent. -/
def recordSend (p : Packet) : TransportStats :=
  let s := { s with bytesSent := s.bytesSent + p.wireLength }
  match p.tag with
  | .tokens => { s with tokenPacketsSent := s.tokenPacketsSent + 1 }
  | .service => { s with servicePacketsSent := s.servicePacketsSent + 1 }

/-- Count a packet that was received. -/
def recordReceive (p : Packet) : TransportStats :=
  { s with
    packetsReceived := s.packetsReceived + 1
    bytesReceived := s.bytesReceived + p.wireLength }

/-- Count sends that failed. -/
def recordFailures (n : Nat) : TransportStats :=
  { s with sendFailures := s.sendFailures + n }

/-- All packets that were sent. -/
def packetsSent : Nat := s.tokenPacketsSent + s.servicePacketsSent

end TransportStats

/-- The outcome of sends that were under way. -/
structure SendReport where
  completed : Nat := 0
  failures : List (ProcessId × TransportError) := []

/-- Whether no send failed. -/
def SendReport.isClean (r : SendReport) : Bool := r.failures.isEmpty

/-- Which kind of transport is in use. -/
inductive Backend where
  | mailbox
  | tcp
  | memory
  deriving DecidableEq, Repr

namespace Backend

/-- What a backend is called. -/
def name : Backend → String
  | mailbox => "Mailbox"
  | tcp => "Tcp"
  | memory => "Memory"

/-- What a backend is called, in small letters. -/
def label : Backend → String
  | mailbox => "mailbox"
  | tcp => "tcp"
  | memory => "memory"

end Backend

/-- A packet transport as one process sees it. -/
class Transport (τ : Type) where
  backend : Backend
  process : τ → ProcessId
  processCount : τ → Nat
  send : τ → ProcessId → Packet → Except TransportError Unit × τ
  receive : τ → Except TransportError (Option Packet) × τ
  backlog : τ → Nat
  poll : τ → SendReport × τ
  pending : τ → Nat
  isHealthy : τ → Bool
  shutdown : τ → τ
  stats : τ → TransportStats
  settle : τ → τ
  /-- How many looks at the transport it takes until nothing more comes by itself. -/
  patience : τ → Nat

namespace Transport

/-- Whether a packet has arrived. -/
def hasInbound {τ : Type} [Transport τ] (t : τ) : Bool :=
  decide (0 < backlog t)

/-- A send has to go to another process of the cluster. -/
def checkTarget (sender : ProcessId) (count : Nat) (target : ProcessId) :
    Except TransportError Unit :=
  if target = sender then .error (.unroutable target .toSelf)
  else if count ≤ target.index then .error (.unroutable target (.beyond count))
  else .ok ()

end Transport

end PetriCluster
