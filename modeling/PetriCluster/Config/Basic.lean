import PetriCluster.Process.Basic
import PetriCluster.Transport.Tcp

/-!
# The layout of a cluster

Which process this is, how many there are, how many workers each has, how the processes are
connected, and what is logged. `ClusterConfig.validate` says which layouts a cluster can be started
with.
-/

namespace PetriCluster

/-- Settings of the network backend. -/
structure TcpOptions where
  peers : List SocketAddress
  connectTimeout : Nat := 30000
  maxFrameSize : Nat := 16777216
  ioThreads : Nat := 1
  deriving DecidableEq, Repr

/-- How the processes are connected. -/
inductive BackendOptions where
  | mailbox
  | tcp (options : TcpOptions)
  deriving DecidableEq, Repr

/-- What is logged, and how. -/
structure LogOptions where
  level : String := "info"
  json : Bool := false
  traceDir : Option String := none
  deriving DecidableEq, Repr

/-- The layout of a cluster, seen from one of its processes. -/
structure ClusterConfig where
  processId : UInt32 := 0
  processCount : Nat := 1
  threads : Nat := 2
  autohalt : Bool := true
  probeInterval : Nat := 20
  idleSleep : Nat := 200
  backend : BackendOptions := .mailbox
  log : LogOptions := {}
  deriving DecidableEq, Repr

/-- Why no cluster can be started with a layout. -/
inductive LayoutFault where
  | noProcesses
  | noThreads
  | outside (process : UInt32) (count : Nat)
  | noProbeInterval
  | peerCount (peers processes : Nat)
  | noIoThreads
  | frameTooSmall (size : Nat)
  deriving DecidableEq, Repr

/-- What is wrong, in words. -/
def LayoutFault.message : LayoutFault → String
  | noProcesses => "process_count must be at least 1"
  | noThreads => "threads must be at least 1"
  | outside process count => s!"process_id {process.toNat} is outside a {count}-process cluster"
  | noProbeInterval => "probe_interval_ms must be positive"
  | peerCount peers processes => s!"tcp backend lists {peers} peers for {processes} processes"
  | noIoThreads => "tcp io_threads must be at least 1"
  | frameTooSmall size => s!"tcp max_frame_size {size} is too small"

/-- The length every frame must be allowed to have. -/
def TcpOptions.minFrameSize : Nat := 64

/-- Check the settings of the network for a number of processes. -/
def TcpOptions.validate (o : TcpOptions) (processCount : Nat) : Except LayoutFault Unit :=
  if o.peers.length ≠ processCount then .error (.peerCount o.peers.length processCount)
  else if o.ioThreads = 0 then .error .noIoThreads
  else if o.maxFrameSize < TcpOptions.minFrameSize then .error (.frameTooSmall o.maxFrameSize)
  else .ok ()

/-- Check the settings of a backend for a number of processes. -/
def BackendOptions.validate (b : BackendOptions) (processCount : Nat) : Except LayoutFault Unit :=
  match b with
  | mailbox => .ok ()
  | tcp options => options.validate processCount

namespace ClusterConfig

variable (c : ClusterConfig)

/-- Check a layout; the first fault is told. -/
def validate : Except LayoutFault Unit :=
  if c.processCount = 0 then .error .noProcesses
  else if c.threads = 0 then .error .noThreads
  else if c.processCount ≤ c.processId.toNat then .error (.outside c.processId c.processCount)
  else if c.probeInterval = 0 then .error .noProbeInterval
  else c.backend.validate c.processCount

/-- The layout as another process of the cluster has it (`for_process`). -/
def forProcess (process : UInt32) : Except LayoutFault ClusterConfig :=
  let c := { c with processId := process }
  c.validate.map fun _ => c

/-- What the layout says of the running of a process. -/
def settings : Settings :=
  ⟨c.threads, c.autohalt, c.probeInterval, c.idleSleep, c.log.traceDir⟩

/-- How the channel of this process is set up. -/
def tcpSettings (o : TcpOptions) : Tcp.Settings where
  process := ⟨c.processId⟩
  peers := o.peers
  connectTimeout := o.connectTimeout
  maxFrameSize := o.maxFrameSize
  ioThreads := o.ioThreads

end ClusterConfig

end PetriCluster
