import PetriCluster.Transport.Basic

/-!
# Mailboxes

All processes of the cluster live in one operating-system process, and each has a mailbox. Sending
puts a packet at the end of the target's mailbox, receiving takes the first packet of one's own.
-/

namespace PetriCluster.Mailbox

/-- The mailbox of one process. -/
structure Box where
  queue : List Packet := []
  closed : Bool := false
  deriving DecidableEq, Repr

/-- The mailboxes of a cluster. -/
structure Hub where
  boxes : List Box
  deriving DecidableEq, Repr

namespace Hub

/-- A hub of empty mailboxes. -/
def create (count : Nat) : Except TransportError Hub :=
  if count = 0 then .error (.configuration .emptyHub)
  else .ok ⟨List.replicate count {}⟩

variable (h : Hub)

/-- The number of mailboxes. -/
def processCount : Nat := h.boxes.length

/-- The mailbox of a process. -/
def box? (p : ProcessId) : Option Box := h.boxes[p.index]?

/-- The packets that wait for a process. -/
def queue (p : ProcessId) : List Packet :=
  ((h.box? p).map (·.queue)).getD []

/-- Whether a process has shut down; one outside the cluster counts as shut down. -/
def isClosed (p : ProcessId) : Bool :=
  ((h.box? p).map (·.closed)).getD true

/-- Change one mailbox. -/
def update (p : ProcessId) (f : Box → Box) : Hub :=
  ⟨h.boxes.modify p.index f⟩

/-- Put a packet into a mailbox. -/
def deliver (p : ProcessId) (packet : Packet) : Hub :=
  h.update p fun b => { b with queue := b.queue ++ [packet] }

/-- Take the first packet out of a mailbox. -/
def take (p : ProcessId) : Option Packet × Hub :=
  match h.queue p with
  | [] => (none, h)
  | packet :: _ => (some packet, h.update p fun b => { b with queue := b.queue.tail })

/-- Close a mailbox. -/
def close (p : ProcessId) : Hub :=
  h.update p fun b => { b with closed := true }

end Hub

/-- One way into the hub for a process. -/
structure Endpoint where
  process : ProcessId
  stats : TransportStats := {}
  deriving DecidableEq, Repr

namespace Endpoint

/-- An endpoint of a process (`endpoint`). -/
def create (h : Hub) (process : ProcessId) : Except TransportError Endpoint :=
  if h.processCount ≤ process.index then
    .error (.configuration (.outsideHub process h.processCount))
  else .ok { process }

/-- Whether a packet may go from a process to a target. -/
def route (h : Hub) (sender target : ProcessId) : Except TransportError Unit :=
  if h.isClosed sender then .error (.closed .mailbox)
  else
    match Transport.checkTarget sender h.processCount target with
    | .error e => .error e
    | .ok () => if h.isClosed target then .error (.closed (.peerMailbox target)) else .ok ()

/-- Send a packet. -/
def send (e : Endpoint) (h : Hub) (target : ProcessId) (packet : Packet) :
    Except TransportError Unit × Endpoint × Hub :=
  match route h e.process target with
  | .error error => (.error error, { e with stats := e.stats.recordFailures 1 }, h)
  | .ok () => (.ok (), { e with stats := e.stats.recordSend packet }, h.deliver target packet)

/-- Take in the next packet (`try_receive`). -/
def receive (e : Endpoint) (h : Hub) : Option Packet × Endpoint × Hub :=
  match h.take e.process with
  | (none, h) => (none, e, h)
  | (some packet, h) => (some packet, { e with stats := e.stats.recordReceive packet }, h)

end Endpoint

/-- The hub as one process sees it through its endpoint. -/
structure Link where
  endpoint : Endpoint
  hub : Hub

instance : Transport Link where
  backend := .mailbox
  process l := l.endpoint.process
  processCount l := l.hub.processCount
  send l target packet :=
    let (result, endpoint, hub) := l.endpoint.send l.hub target packet
    (result, ⟨endpoint, hub⟩)
  receive l :=
    let (packet, endpoint, hub) := l.endpoint.receive l.hub
    (.ok packet, ⟨endpoint, hub⟩)
  backlog l := (l.hub.queue l.endpoint.process).length
  poll l := ({}, l)
  pending _ := 0
  isHealthy l := !l.hub.isClosed l.endpoint.process
  shutdown l := { l with hub := l.hub.close l.endpoint.process }
  stats l := l.endpoint.stats
  settle l := l
  patience l := (l.hub.queue l.endpoint.process).length + 1

end PetriCluster.Mailbox
