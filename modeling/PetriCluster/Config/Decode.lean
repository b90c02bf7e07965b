import PetriCluster.Config.Basic
import PetriCluster.Config.Value

/-!
# Layouts from values

A layout is read from a table of settings by name, or from a list of settings by position. How much a
value may differ from the type of its setting is up to a `Conversion`: `strict` takes each value for
what it is, `lenient` also takes numbers, truth values and texts for each other where that makes
sense.
-/

namespace PetriCluster.Config

/-- How values become settings. -/
structure Conversion where
  word : Value → Option Nat
  flag : Value → Option Bool
  text : Value → Option String
  exact : Bool

/-! ## Strict conversion -/

/-- A whole number in the range of a 64-bit word. -/
def strictWord : Value → Option Nat
  | .int n => if 0 ≤ n ∧ n < UInt64.size then some n.toNat else none
  | _ => none

/-- A flag as files spell it. -/
def strictFlag : Value → Option Bool
  | .bool b => some b
  | _ => none

/-- A text as files spell it. -/
def strictText : Value → Option String
  | .str s => some s
  | _ => none

/-- How values of files are read. -/
def strict : Conversion := ⟨strictWord, strictFlag, strictText, true⟩

/-! ## Lenient conversion -/

/-- Words that mean yes or no, in any case. -/
def yesNo? (s : String) : Option Bool :=
  let s := s.toLower
  if s = "true" ∨ s = "on" ∨ s = "yes" then some true
  else if s = "false" ∨ s = "off" ∨ s = "no" then some false
  else none

/-- The value of a text of digits, with a plus sign in front or without. -/
def digits? (s : String) : Option Nat :=
  let digits := match s.toList with
    | '+' :: rest => rest
    | cs => cs
  if digits ≠ [] ∧ digits.all Char.isDigit then some (Binary64.digitsValue digits) else none

/-- A value as a 64-bit word: floating-point numbers are rounded, and texts are read. -/
def lenientWord : Value → Option Nat
  | .int n => strictWord (.int n)
  | .bool b => some (if b then 1 else 0)
  | .float x => some x.toWord
  | .str s =>
    match yesNo? s with
    | some b => some (if b then 1 else 0)
    | none => (digits? s).filter (· < UInt64.size)
  | _ => none

/-- A value as a truth value: numbers are true unless they are zero, and texts are read. -/
def lenientFlag : Value → Option Bool
  | .bool b => some b
  | .int n => some (decide (n ≠ 0))
  | .float x => some x.isNonzero
  | .str s => if s = "1" then some true else if s = "0" then some false else yesNo? s
  | _ => none

/-- A value as a text: numbers and truth values are written out. -/
def lenientText : Value → Option String
  | .str s => some s
  | .bool b => some (if b then "true" else "false")
  | .int n => some (toString n)
  | .float x => some x.text
  | _ => none

/-- Values are taken for each other where that makes sense. -/
def lenient : Conversion := ⟨lenientWord, lenientFlag, lenientText, false⟩

/-! ## Records -/

/-- Access to settings by position and name: a table goes by name and a list by position. -/
def fields? (exact : Bool) (size : Nat) : Value → Option (Nat → String → Option Value)
  | .table es => some fun _ name => Value.lookup name es
  | .list l => if exact ∧ size < l.length then none else some fun i _ => l[i]?
  | _ => none

/-- A value that may be missing. -/
def withDefault {α : Type} (default : α) (read : Value → Option α) : Option Value → Option α
  | none => some default
  | some v => read v

/-- An address. -/
def address? : Value → Option SocketAddress
  | .str s => SocketAddress.ofString? s
  | _ => none

/-- A list of addresses. -/
def peers? : Value → Option (List SocketAddress)
  | .list l => l.mapM address?
  | _ => none

/-- The settings of the network, which have to name the peers. -/
def tcpOptions? (field : Nat → String → Option Value) : Option TcpOptions := do
  let peers ← peers? (← field 0 "peers")
  let connectTimeout ← withDefault 30000 strictWord (field 1 "connect_timeout_ms")
  let maxFrameSize ← withDefault 16777216 strictWord (field 2 "max_frame_size")
  let ioThreads ← withDefault 1 strictWord (field 3 "io_threads")
  return { peers, connectTimeout, maxFrameSize, ioThreads }

/-- The backend of a kind, whose other settings are given by position and name. -/
def backendOfKind? (kind : Value) (settings : Value) : Option BackendOptions :=
  match kind with
  | .str "mailbox" => (fields? true 0 settings).map fun _ => .mailbox
  | .str "tcp" => do return .tcp (← tcpOptions? (← fields? true 4 settings))
  | _ => none

/-- The backend: a table with its kind in it, or a list with its kind in front. -/
def backend? : Value → Option BackendOptions
  | .table es => do backendOfKind? (← Value.lookup "kind" es) (.table es)
  | .list (kind :: rest) => backendOfKind? kind (.list rest)
  | _ => none

/-- A text that may be missing. -/
def optionalText (c : Conversion) : Value → Option (Option String)
  | .null => some none
  | v => (c.text v).map some

/-- What is said of logs. -/
def logOptions? (c : Conversion) (v : Value) : Option LogOptions := do
  let field ← fields? c.exact 3 v
  let level ← withDefault "info" c.text (field 0 "level")
  let json ← withDefault false c.flag (field 1 "json")
  let traceDir ← withDefault none (optionalText c) (field 2 "trace_dir")
  return { level, json, traceDir }

/-- A word of 32 bits. -/
def shortWord (c : Conversion) (v : Value) : Option UInt32 := do
  let n ← c.word v
  guard (n < UInt32.size)
  return UInt32.ofNat n

/-- A layout; settings that are missing have their defaults and unknown ones are passed over. -/
def layout? (c : Conversion) (v : Value) : Option ClusterConfig := do
  let field ← fields? c.exact 8 v
  let processId ← withDefault 0 (shortWord c) (field 0 "process_id")
  let processCount ← withDefault 1 c.word (field 1 "process_count")
  let threads ← withDefault 2 c.word (field 2 "threads")
  let autohalt ← withDefault true c.flag (field 3 "autohalt")
  let probeInterval ← withDefault 20 c.word (field 4 "probe_interval_ms")
  let idleSleep ← withDefault 200 c.word (field 5 "idle_sleep_us")
  let backend ← withDefault .mailbox backend? (field 6 "backend")
  let log ← withDefault {} (logOptions? c) (field 7 "log")
  return { processId, processCount, threads, autohalt, probeInterval, idleSleep, backend, log }

end PetriCluster.Config
