import PetriCluster.Config.Basic
import PetriCluster.Toml.Text

/-!
# Layouts as text

A layout can be written as a TOML document, which loads as the same layout, and as JSON.
-/

namespace PetriCluster

/-- Why a layout cannot be written as a TOML document. -/
inductive RenderError where
  | tooLarge
  | crashed (cause : Crash)
  deriving DecidableEq, Repr

namespace ClusterConfig

/-! ## TOML -/

/-- The largest whole number of a TOML document. -/
def maxTomlInteger : Nat := UInt64.size / 2 - 1

/-- Whether all numbers of a layout fit into a TOML document. -/
def isRenderable (c : ClusterConfig) : Bool :=
  let backend := match c.backend with
    | .mailbox => []
    | .tcp o => [o.connectTimeout, o.maxFrameSize, o.ioThreads]
  ([c.processCount, c.threads, c.probeInterval, c.idleSleep] ++ backend).all
    fun n => decide (n ≤ maxTomlInteger)

/-- The texts of a layout that can be anything. -/
def texts (c : ClusterConfig) : List String :=
  c.log.level :: c.log.traceDir.toList

/-- A flag in words. -/
def flagText (b : Bool) : String := if b then "true" else "false"

/-- The addresses of all processes: more than one stand on lines of their own. -/
def peersText (peers : List SocketAddress) : String :=
  match peers.map fun a => Toml.quoted a.toString with
  | [] => "[]"
  | [a] => "[" ++ a ++ "]"
  | as => "[\n" ++ String.join (as.map fun a => "    " ++ a ++ ",\n") ++ "]"

/-- The entries of a backend. -/
def backendEntries : BackendOptions → List (String × String)
  | .mailbox => [("kind", Toml.quoted "mailbox")]
  | .tcp o => [
      ("kind", Toml.quoted "tcp"),
      ("peers", peersText o.peers),
      ("connect_timeout_ms", toString o.connectTimeout),
      ("max_frame_size", toString o.maxFrameSize),
      ("io_threads", toString o.ioThreads)]

/-- The entries about logs. -/
def logEntries (l : LogOptions) : List (String × String) :=
  [("level", Toml.quoted l.level), ("json", flagText l.json)] ++
    (l.traceDir.map fun d => ("trace_dir", Toml.quoted d)).toList

/-- The entries outside tables. -/
def plainEntries (c : ClusterConfig) : List (String × String) := [
  ("process_id", toString c.processId.toNat),
  ("process_count", toString c.processCount),
  ("threads", toString c.threads),
  ("autohalt", flagText c.autohalt),
  ("probe_interval_ms", toString c.probeInterval),
  ("idle_sleep_us", toString c.idleSleep)]

/-- Entries, one to a line. -/
def entryLines (entries : List (String × String)) : String :=
  String.join (entries.map fun e => e.1 ++ " = " ++ e.2 ++ "\n")

/-- The whole layout as a document. -/
def document (c : ClusterConfig) : String :=
  entryLines c.plainEntries ++ "\n[backend]\n" ++ entryLines (backendEntries c.backend) ++
    "\n[log]\n" ++ entryLines (logEntries c.log)

/-- The document, if all numbers fit (`to_toml_string`). -/
def toToml (c : ClusterConfig) : Except RenderError String :=
  if ¬ c.isRenderable then .error .tooLarge
  else if c.texts.all Toml.isCountable then .ok c.document
  else .error (.crashed .addOverflow)

/-! ## JSON -/

/-- A backend as an object. -/
def backendJson : BackendOptions → Json
  | .mailbox => .obj [("kind", .str "mailbox")]
  | .tcp o => .obj [
      ("kind", .str "tcp"),
      ("peers", .arr (o.peers.map fun a => .str a.toString)),
      ("connect_timeout_ms", .num o.connectTimeout),
      ("max_frame_size", .num o.maxFrameSize),
      ("io_threads", .num o.ioThreads)]

/-- What is said of logs, as an object. -/
def logJson (l : LogOptions) : Json :=
  .obj [("level", .str l.level), ("json", .bool l.json), ("trace_dir", .ofString? l.traceDir)]

/-- A layout as an object. -/
def toJson (c : ClusterConfig) : Json :=
  .obj [
    ("process_id", .num c.processId.toNat),
    ("process_count", .num c.processCount),
    ("threads", .num c.threads),
    ("autohalt", .bool c.autohalt),
    ("probe_interval_ms", .num c.probeInterval),
    ("idle_sleep_us", .num c.idleSleep),
    ("backend", backendJson c.backend),
    ("log", logJson c.log)]

end ClusterConfig

end PetriCluster
