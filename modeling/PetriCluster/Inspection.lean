import PetriCluster.Control.Encoding
import PetriCluster.Deployment.Build
import PetriCluster.Net.Encoding

/-!
# Looking into a cluster

Packets, messages, the entries of the registry and the counters of a process as JSON, for tools that
watch a cluster at work.
-/

namespace PetriCluster

/-- A failure of the network: its kind, its words, its category, whether the peer is to blame, and
the setting if it was a set-up. -/
def TransportError.toJson (e : TransportError) : Json :=
  .obj <|
    [("error", .str e.kind), ("message", .str e.message), ("category", .str e.category),
      ("link_failure", .bool e.isLinkFailure)] ++
    (match e with
      | .configuration misuse => [("field", .ofString? misuse.field)]
      | _ => [])

/-- A packet with its body in hexadecimal. -/
def Packet.toJson (p : Packet) : Json :=
  .obj [("tag", .str p.tag.name), ("source", .num p.source.index), ("body", .str p.body.toHex)]

/-- Tokens on their way, with the payload in hexadecimal. -/
def Parcel.toJson (p : Parcel) : Json :=
  .obj [("place", .num p.place.toNat), ("net", .num p.net.index),
    ("count", .num p.batch.count.toNat), ("payload", .str p.batch.payload.toHex)]

/-- The tokens of a packet, or why there are none. -/
def Packet.parcelJson (p : Packet) : Json :=
  match p.parcel with
  | .ok parcel => parcel.toJson
  | .error m => (TransportError.protocol m none).toJson

/-- The control message of a packet, or why there is none. -/
def Packet.messageJson (p : Packet) : Json :=
  match ControlMessage.ofPacket p with
  | .ok m => m.toJson
  | .error e => e.toJson

/-- A packet and what is in it. -/
def Packet.view (p : Packet) : Json :=
  match p.tag with
  | .tokens => .obj [("source", .num p.source.index), ("tokens", p.parcelJson)]
  | .service => .obj [("source", .num p.source.index), ("message", p.messageJson)]

/-- A slot as an object. -/
def Slot.toJson (s : Slot) : Json :=
  .obj [("def_index", .num s.template), ("owner", .num s.owner.index),
    ("parent", .ofNet? s.parent), ("global", .bool s.isGlobal), ("state", .str s.state.name),
    ("pending_acks", .num s.pendingAcks)]

/-- Numbers as an array. -/
def Json.ofCounts (counts : List Nat) : Json := .arr (counts.map .num)

/-- The counters of a transport. -/
def TransportStats.counts (s : TransportStats) : Json :=
  .ofCounts [s.tokenPacketsSent, s.servicePacketsSent, s.packetsReceived, s.bytesSent,
    s.bytesReceived, s.sendFailures]

/-- The counters of a process. -/
def ProcessStats.counts (s : ProcessStats) : Json :=
  .ofCounts [s.netsSpawned, s.netsReclaimed, s.localDeliveries, s.remoteDeliveries,
    s.protocolErrors, s.transportErrors]

/-- How a process stands: whether it ends, how many nets it has, what is to be done, and its
counters. -/
def Node.state {σ τ : Type} [Transport τ] (n : Node σ τ) : Json :=
  let p := n.process
  .arr [.bool p.quitting, .num p.registry.liveCount, .num p.registry.haltingCount,
    .num p.registry.retiredCount, .num p.obligations, .ofCounts (p.inboxes.map List.length),
    p.stats.counts, (Transport.stats n.link).counts,
    .ofCounts [p.termination.sent, p.termination.received, p.termination.completed]]

/-- A time in milliseconds, as seconds and nanoseconds. -/
def Json.ofMilliseconds (ms : Nat) : Json :=
  .obj [("secs", .num (ms / 1000)), ("nanos", .num (ms % 1000 * 1000000))]

/-- The settings of a channel. -/
def Tcp.Settings.toJson (s : Tcp.Settings) : Json :=
  .obj [("local", .num s.process.index), ("peers", .arr (s.peers.map fun a => .str a.toString)),
    ("connect_timeout", .ofMilliseconds s.connectTimeout),
    ("connect_retry_interval", .ofMilliseconds s.retryInterval),
    ("max_frame_size", .num s.maxFrameSize), ("io_threads", .num s.ioThreads),
    ("flush_timeout", .ofMilliseconds s.flushTimeout)]

/-- The settings of a process. -/
def Settings.toJson (s : Settings) : Json :=
  .obj [("threads", .num s.threads), ("autohalt", .bool s.autohalt),
    ("probe_ms", .num s.probeInterval), ("idle_us", .num s.idleSleep),
    ("trace_dir", .ofString? s.traceDir)]

end PetriCluster
