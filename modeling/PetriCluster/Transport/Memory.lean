import PetriCluster.Transport.Basic

/-!
# A recording transport

For one process alone: what it sends is kept in a log, what it receives is put there by hand, and
faults can be arranged in advance. Sends to chosen targets fail; the next receptions fail with given
errors; the next reports on sends under way are given ones; and the transport can be made to look
unhealthy.
-/

namespace PetriCluster.Memory

/-- A transport that records and plays back. -/
structure Link where
  process : ProcessId
  processCount : Nat
  sent : List (ProcessId × Packet) := []
  inbound : List Packet := []
  failing : List ProcessId := []
  receiveErrors : List TransportError := []
  reports : List SendReport := []
  healthy : Bool := true
  stats : TransportStats := {}

namespace Link

variable (l : Link)

/-- Let all sends to a target fail. -/
def failTarget (target : ProcessId) : Link :=
  { l with failing := target :: l.failing }

/-- Let a packet arrive. -/
def inject (packet : Packet) : Link :=
  { l with inbound := l.inbound ++ [packet] }

/-- Whether a packet may go to a target. -/
def route (target : ProcessId) : Except TransportError Unit :=
  match Transport.checkTarget l.process l.processCount target with
  | .error e => .error e
  | .ok () => if target ∈ l.failing then .error (.link (.injected target) none none) else .ok ()

/-- Record a packet. -/
def send (target : ProcessId) (packet : Packet) : Except TransportError Unit × Link :=
  match l.route target with
  | .error e => (.error e, { l with stats := l.stats.recordFailures 1 })
  | .ok () =>
    (.ok (), { l with
      sent := l.sent ++ [(target, packet)]
      stats := l.stats.recordSend packet })

/-- Take the next packet, or fail as arranged. -/
def receive : Except TransportError (Option Packet) × Link :=
  match l.receiveErrors with
  | e :: rest => (.error e, { l with receiveErrors := rest })
  | [] =>
    match l.inbound with
    | [] => (.ok none, l)
    | packet :: rest =>
      (.ok (some packet), { l with inbound := rest, stats := l.stats.recordReceive packet })

/-- Report on sends under way as arranged. -/
def poll : SendReport × Link :=
  match l.reports with
  | [] => ({}, l)
  | report :: rest => (report, { l with reports := rest })

end Link

instance : Transport Link where
  backend := .memory
  process l := l.process
  processCount l := l.processCount
  send := Link.send
  receive := Link.receive
  backlog l := l.inbound.length
  poll := Link.poll
  pending _ := 0
  isHealthy l := l.healthy
  shutdown l := l
  stats l := l.stats
  settle l := l
  patience l := l.inbound.length + l.receiveErrors.length + l.reports.length + 1

end PetriCluster.Memory
