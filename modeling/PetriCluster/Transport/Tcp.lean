import PetriCluster.Packet.Frame
import PetriCluster.Transport.Basic
import PetriCluster.Transport.Writer

/-!
# Channels over a network

Every process listens at an address of its own and has a writer for each peer. Sending hands a frame
to the writer of the target and notes a request; the writer answers for each frame it was given, and
polling reports the requests that are answered.
-/

namespace PetriCluster.Tcp

/-- How a channel is set up. Times are in milliseconds. -/
structure Settings where
  process : ProcessId := ⟨0⟩
  peers : List SocketAddress := []
  connectTimeout : Nat := 30000
  retryInterval : Nat := 50
  maxFrameSize : Nat := 16777216
  ioThreads : Nat := 1
  flushTimeout : Nat := 5000
  deriving DecidableEq, Repr

/-- Check the settings. -/
def Settings.validate (s : Settings) : Except TransportError Unit :=
  if s.peers.isEmpty then .error (.configuration .noPeers)
  else if s.peers.length ≤ s.process.index then
    .error (.configuration (.notAPeer s.process s.peers.length))
  else if s.ioThreads = 0 then .error (.configuration .noThreads)
  else .ok ()

/-- A send that was accepted and not reported yet. -/
structure Request where
  peer : ProcessId
  ticket : Nat
  deriving DecidableEq, Repr

/-- A request and what became of it. -/
structure Settlement where
  request : Request
  outcome : Except TransportError Unit

namespace Settlement

variable (s : Settlement)

/-- The failure of a send. -/
def failure? : Option (ProcessId × TransportError) :=
  match s.outcome with
  | .error e => some (s.request.peer, e)
  | .ok () => none

/-- Whether the send succeeded. -/
def isDone : Bool :=
  match s.outcome with
  | .ok () => true
  | .error _ => false

end Settlement

/-- What polling makes of requests and answers. -/
structure Reaping where
  settled : List Settlement := []
  pending : List Request := []
  answers : List Answer := []

/-- Go through the requests; each takes its own answer if there is one. -/
def reap : List Request → List Answer → Reaping
  | [], answers => { answers }
  | request :: rest, answers =>
    match answers.find? (·.ticket == request.ticket) with
    | none =>
      let r := reap rest answers
      { r with pending := request :: r.pending }
    | some answer =>
      let r := reap rest (answers.eraseP (·.ticket == request.ticket))
      { r with settled := ⟨request, answer.outcome⟩ :: r.settled }

/-- What a poll tells of the requests that are answered. -/
def report (settled : List Settlement) : SendReport :=
  ⟨settled.countP Settlement.isDone, settled.filterMap Settlement.failure?⟩

/-- Why the network does not do what it is asked for. -/
inductive NetworkFault where
  | unreachable
  | forbidden
  deriving DecidableEq, Repr

/-- What is wrong, in words. -/
def NetworkFault.text : NetworkFault → String
  | unreachable => "Network is unreachable (os error 101)"
  | forbidden => "Permission denied (os error 13)"

/-- The network around a host. -/
structure Network where
  isReachable : Bool
  firstOpenPort : Nat

namespace Network

/-- A host that is cut off from everything, its own addresses included. -/
def isolated : Network := ⟨false, 1024⟩

/-- Whether one can listen at an address. Port zero stands for any port that is free. -/
def checkListen (network : Network) (address : SocketAddress) : Except NetworkFault Unit :=
  if address.port ≠ 0 ∧ address.port.toNat < network.firstOpenPort then .error .forbidden else .ok ()

end Network

/-- A channel of a process. -/
structure Channel where
  settings : Settings
  writers : List Writer
  requests : List Request := []
  answers : List Answer := []
  issued : Nat := 0
  inbound : List Packet := []
  closed : Bool := false
  stats : TransportStats := {}

namespace Channel

/-- Whether the process of a channel can listen at its address. -/
def checkListen (network : Network) (settings : Settings) : Except TransportError Unit :=
  match settings.peers[settings.process.index]? with
  | none => .ok ()
  | some address =>
    match network.checkListen address with
    | .ok () => .ok ()
    | .error fault => .error (.link .bind (some address) (some fault.text))

/-- A writer for each peer. -/
def createWriters (settings : Settings) : List Writer :=
  settings.peers.mapIdx fun i address =>
    { peer := .ofIndex i, address, connectTimeout := settings.connectTimeout }

/-- A channel that listens (`bind`). -/
def create (network : Network) (settings : Settings) : Except TransportError Channel := do
  settings.validate
  checkListen network settings
  return { settings, writers := createWriters settings }

variable (c : Channel)

/-- Where a channel listens (`local_addr`). -/
def address? : Option SocketAddress :=
  c.settings.peers[c.settings.process.index]?

/-- The writer of a peer. -/
def writer? (peer : ProcessId) : Option Writer :=
  c.writers[peer.index]?

/-- Whether a process is not taken for gone. -/
def isPeerHealthy (peer : ProcessId) : Bool :=
  match c.writer? peer with
  | some w => w.isHealthy
  | none => false

/-! ## The writers -/

/-- Change the writer of a peer. -/
def setWriter (peer : ProcessId) (w : Writer) : Channel :=
  { c with writers := c.writers.set peer.index w }

/-- A writer moves. -/
def step (peer : ProcessId) (event : Event) : Channel :=
  match c.writer? peer with
  | none => c
  | some w =>
    { c.setWriter peer (w.after event) with answers := c.answers ++ (w.answerAt? event).toList }

/-- The writer of a process makes a number of moves, and its peer does not answer. -/
def abandonPeer (peer : ProcessId) : (moves : Nat) → Channel → Channel
  | 0, c => c
  | moves + 1, c =>
    match c.writer? peer with
    | none => c
    | some w => abandonPeer peer moves (c.step peer w.despair)

/-- The most moves that lie between the first frame in the queue and the last in hand. -/
def lossMoves : Nat := 6

/-- All writers learn that their peers do not answer. -/
def abandon : Channel :=
  c.writers.foldl (fun c w => c.abandonPeer w.peer (w.queue.length + lossMoves)) c

/-! ## Operations -/

/-- Whether a packet can be accepted for a target. -/
def checkSend (target : ProcessId) (packet : Packet) : Except TransportError Unit :=
  if c.closed then .error (.closed .channel)
  else
    match Transport.checkTarget c.settings.process c.settings.peers.length target with
    | .error e => .error e
    | .ok () =>
      if ¬ c.isPeerHealthy target then .error (.unroutable target .failedEarlier)
      else if c.settings.maxFrameSize < packet.wireLength then
        .error (.protocol (.oversized packet.wireLength c.settings.maxFrameSize) none)
      else .ok ()

/-- Put a packet into the queue of its target. It gets the next ticket. -/
def enqueue (target : ProcessId) (packet : Packet) : Except TransportError Nat × Channel :=
  match c.writer? target with
  | none => (.error (.closed .noWriter), c)
  | some w =>
    if w.isOpen then
      (.ok c.issued, { c.setWriter target (w.push ⟨packet.toFrame, c.issued⟩) with
        issued := c.issued + 1
        stats := c.stats.recordSend packet })
    else
      (.error (.unroutable target .writerEnded), { c with stats := c.stats.recordFailures 1 })

/-- Note a send that was accepted. -/
def register (request : Request) : Channel :=
  { c with requests := c.requests ++ [request] }

/-- Count a send that was refused. -/
def refuse : Channel :=
  { c with stats := c.stats.recordFailures 1 }

/-- Queue a frame for a peer. -/
def send (target : ProcessId) (packet : Packet) : Except TransportError Unit × Channel :=
  match c.checkSend target packet with
  | .error e => (.error e, c.refuse)
  | .ok () =>
    match c.enqueue target packet with
    | (.error e, c) => (.error e, c)
    | (.ok ticket, c) => (.ok (), c.register ⟨target, ticket⟩)

/-- Take in the next packet (`try_receive`). -/
def receive : Except TransportError (Option Packet) × Channel :=
  match c.inbound with
  | [] => (.ok none, c)
  | packet :: rest =>
    (.ok (some packet), { c with inbound := rest, stats := c.stats.recordReceive packet })

/-- Read what a connection brought until its end or its first bad frame. -/
def read (stream : Bytes) : Channel :=
  { c with inbound := c.inbound ++ (Frame.readAll c.settings.maxFrameSize stream).1 }

/-- Take in what a connection from outside brings. -/
def dial (network : Network) (stream : Bytes) : Except NetworkFault Channel :=
  if network.isReachable then .ok (c.read stream) else .error .unreachable

/-- Report the requests that are answered (`poll_requests`). -/
def poll : SendReport × Channel :=
  let reaped := reap c.requests c.answers
  let report := report reaped.settled
  (report, { c with
    requests := reaped.pending
    answers := reaped.answers
    stats := c.stats.recordFailures report.failures.length })

/-- Close the channel. It waits for each writer that still has frames, and a peer that does not
answer in that time is taken for gone; requests are no longer reported. -/
def shutdown : Channel :=
  if c.closed then c
  else
    let busy := c.writers.countP Writer.isBusy
    let c := if c.settings.connectTimeout ≤ busy * c.settings.flushTimeout then c.abandon else c
    { c with closed := true, requests := [], answers := [] }

end Channel

instance : Transport Channel where
  backend := .tcp
  process c := c.settings.process
  processCount c := c.settings.peers.length
  send := Channel.send
  receive := Channel.receive
  backlog c := c.inbound.length
  poll := Channel.poll
  pending c := c.requests.length
  isHealthy c := !c.closed && c.writers.all (·.isHealthy)
  shutdown := Channel.shutdown
  stats c := c.stats
  settle := Channel.abandon
  patience c := c.inbound.length + c.requests.length + 2

end PetriCluster.Tcp
