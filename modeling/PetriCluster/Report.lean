import PetriCluster.Json
import PetriCluster.Registry.Basic
import PetriCluster.Transport.Basic

/-!
# Reports

What a process and its workers have done, as values and as JSON.
-/

namespace PetriCluster

/-- What a worker says of one of its nets. -/
structure NetReport where
  net : NetId
  state : NetState
  report : Json

/-- What a worker has done. -/
structure WorkerStats where
  messages : Nat := 0
  firings : Nat := 0
  tokensReceived : Nat := 0
  forwarded : Nat := 0
  dropped : Nat := 0
  reclaimed : Nat := 0
  deriving DecidableEq, Repr

/-- What a worker says of itself. -/
structure WorkerReport where
  worker : WorkerId
  stats : WorkerStats
  nets : List NetReport

/-- What a process has done. -/
structure ProcessStats where
  netsSpawned : Nat := 0
  netsReclaimed : Nat := 0
  localDeliveries : Nat := 0
  remoteDeliveries : Nat := 0
  protocolErrors : Nat := 0
  transportErrors : Nat := 0
  deriving DecidableEq, Repr

/-- A registered instance as a report shows it. -/
structure NetSummary where
  net : NetId
  template : String
  slot : Slot

/-- What a process says of itself. -/
structure ProcessReport where
  process : ProcessId
  processCount : Nat
  threads : Nat
  backend : Backend
  liveNets : Nat
  haltingNets : Nat
  retiredNets : Nat
  nets : List NetSummary
  workers : List WorkerReport
  stats : ProcessStats
  transport : TransportStats
  workSent : Nat
  workReceived : Nat
  wavesCompleted : Nat

/-! ## As JSON -/

/-- As an object. -/
def NetReport.toJson (r : NetReport) : Json :=
  .obj [("net", .num r.net.index), ("state", .str r.state.name), ("report", r.report)]

/-- As an object. -/
def WorkerReport.toJson (r : WorkerReport) : Json :=
  .obj [
    ("worker", .num r.worker.index),
    ("messages", .num r.stats.messages),
    ("firings", .num r.stats.firings),
    ("tokens_received", .num r.stats.tokensReceived),
    ("forwarded", .num r.stats.forwarded),
    ("dropped", .num r.stats.dropped),
    ("reclaimed", .num r.stats.reclaimed),
    ("nets", .arr (r.nets.map NetReport.toJson))]

/-- As an object. -/
def NetSummary.toJson (s : NetSummary) : Json :=
  .obj [
    ("net", .num s.net.index),
    ("template", .str s.template),
    ("owner", .num s.slot.owner.index),
    ("parent", .ofNat? (s.slot.parent.map (·.index))),
    ("global", .bool s.slot.isGlobal),
    ("state", .str s.slot.state.name)]

/-- As an object. -/
def ProcessStats.toJson (s : ProcessStats) : Json :=
  .obj [
    ("nets_spawned", .num s.netsSpawned),
    ("nets_reclaimed", .num s.netsReclaimed),
    ("local_deliveries", .num s.localDeliveries),
    ("remote_deliveries", .num s.remoteDeliveries),
    ("protocol_errors", .num s.protocolErrors),
    ("transport_errors", .num s.transportErrors)]

/-- As an object. -/
def TransportStats.toJson (s : TransportStats) : Json :=
  .obj [
    ("token_packets_sent", .num s.tokenPacketsSent),
    ("service_packets_sent", .num s.servicePacketsSent),
    ("packets_received", .num s.packetsReceived),
    ("bytes_sent", .num s.bytesSent),
    ("bytes_received", .num s.bytesReceived),
    ("send_failures", .num s.sendFailures)]

/-- As an object. -/
def ProcessReport.toJson (r : ProcessReport) : Json :=
  .obj [
    ("process", .num r.process.index),
    ("process_count", .num r.processCount),
    ("threads", .num r.threads),
    ("backend", .str r.backend.name),
    ("live_nets", .num r.liveNets),
    ("halting_nets", .num r.haltingNets),
    ("retired_nets", .num r.retiredNets),
    ("nets", .arr (r.nets.map NetSummary.toJson)),
    ("workers", .arr (r.workers.map WorkerReport.toJson)),
    ("stats", r.stats.toJson),
    ("transport", r.transport.toJson),
    ("termination", .obj [
      ("work_sent", .num r.workSent),
      ("work_received", .num r.workReceived),
      ("waves_completed", .num r.wavesCompleted)])]

end PetriCluster
