import PetriCluster.CommandLine.Arguments
import PetriCluster.CommandLine.LogFilter
import PetriCluster.Config.Load
import PetriCluster.Config.Render
import PetriCluster.Deployment.Run
import PetriCluster.Net.Catalogue

/-!
# The command

The command loads a layout, runs a demonstration net on it, and writes what was asked for. It is a
function of its arguments, the environment and the files.
-/

namespace PetriCluster.CommandLine

/-- Why the command failed. -/
inductive CommandError where
  | unloadable (cause : Config.LoadError)
  | layout (fault : LayoutFault)
  | unprintable
  | logLevel (level : String)
  | unknownNet (name : String)
  | run (cause : RunError)
  | crashed (cause : Crash)

namespace CommandError

/-- What is printed. -/
def message : CommandError → String
  | unloadable _ => "Failed to load configuration"
  | layout fault => fault.message
  | unprintable => "Failed to serialize configuration"
  | logLevel level => s!"Invalid log level '{level}'"
  | unknownNet name => s!"unknown demo net '{name}' (expected ring or broadcast)"
  | run cause => cause.summary
  | crashed cause => cause.message

/-- The exit code. -/
def code : CommandError → UInt32
  | crashed _ => 101
  | _ => 1

/-- A layout that cannot be loaded. -/
def ofLoadError : Config.LoadError → CommandError
  | .crashed cause => .crashed cause
  | e => .unloadable e

/-- A layout that cannot be printed; a crash goes through. -/
def ofRenderError : RenderError → CommandError
  | .crashed cause => .crashed cause
  | .tooLarge => .unprintable

/-- A filter that is none; a crash goes through. -/
def ofFilterFault (level : String) : LogFilter.FilterFault → CommandError
  | .crashed cause => .crashed cause
  | .malformed => .logLevel level

/-- A run that failed. -/
def ofRunError : RunError → CommandError
  | .crashed cause => .crashed cause
  | e => .run e

end CommandError

/-- What the command leaves behind. -/
structure Outcome where
  /-- Zero if all went well, one if something failed, two if the arguments were no request, a hundred
  and one if the command crashed. -/
  code : UInt32
  output : String := ""
  complaint : String := ""
  storage : Storage

/-- What `--help` prints. -/
def helpText : String :=
  "Placenet distributed Petri-net runtime

Usage: placenet-node [OPTIONS]

Options:
  -c, --config <CONFIG>          Path to configuration file (defaults to config/placenet.toml when present)
  -p, --process-id <PROCESS_ID>  Override the process id from the configuration
  -l, --log-level <LOG_LEVEL>    Log level (trace, debug, info, warn, error); overrides the configuration
      --json-logs                Enable JSON logging format
      --print-config             Print the effective configuration and exit
      --net <NET>                Demo net spawned on process 0 (ring, broadcast) [default: ring]
      --rounds <ROUNDS>          Ring hop limit or broadcast round count [default: 1000]
      --trace <TRACE>            Write worker traces named <TRACE>.<process>.<worker>.trace
      --report-dir <REPORT_DIR>  Directory for JSON process reports
  -h, --help                     Print help
  -V, --version                  Print version
"

/-- What `--version` prints. -/
def versionText : String := "placenet-node 0.1.0\n"

/-- What is said of arguments that are no request. -/
def usageText : String :=
  "error: invalid arguments\n\nUsage: placenet-node [OPTIONS]\n\n" ++
    "For more information, try '--help'.\n"

/-- A bound for the rounds of a run. -/
def maxRounds : Nat := 1000000000000

namespace Arguments

variable (a : Arguments)

/-- The settings file: the one that is named, or the usual one if there is such a file. -/
def settingsFile (storage : Storage) : Option String :=
  match a.config with
  | some name => some name
  | none =>
    if (storage.entry? ⟨Config.defaultFile⟩).isSome then some Config.defaultFile else none

/-- The layout that arguments, environment and files give. -/
def layout (environment : List (String × String)) (storage : Storage) :
    Except CommandError ClusterConfig :=
  match Config.load storage (a.settingsFile storage) Config.environmentPrefix environment with
  | .error e => .error (.ofLoadError e)
  | .ok c =>
    match a.processId with
    | none => .ok c
    | some process =>
      match c.forProcess process with
      | .error fault => .error (.layout fault)
      | .ok c => .ok c

/-- Run what the arguments ask for. -/
def perform (c : ClusterConfig) (storage : Storage) : Except CommandError Unit × Storage :=
  let level := a.logLevel.getD c.log.level
  match LogFilter.check level with
  | .error fault => (.error (.ofFilterFault level fault), storage)
  | .ok () =>
    match DemoNet.position? a.net with
    | none => (.error (.unknownNet a.net), storage)
    | some initial =>
      let options : RunOptions := ⟨initial, a.trace, a.reportDir⟩
      match c.run (DemoNet.templates a.rounds) options maxRounds storage with
      | (.ok _, storage) => (.ok (), storage)
      | (.error e, storage) => (.error (.ofRunError e), storage)

/-- What the command prints, and the files it leaves behind. -/
def execute (environment : List (String × String)) (storage : Storage) :
    Except CommandError String × Storage :=
  match a.layout environment storage with
  | .error e => (.error e, storage)
  | .ok c =>
    if a.printConfig then
      match c.toToml with
      | .ok text => (.ok text, storage)
      | .error e => (.error (.ofRenderError e), storage)
    else
      let (result, storage) := a.perform c storage
      (result.map fun _ => "", storage)

end Arguments

/-- The whole command: what it prints, its exit code and the files it leaves. -/
def command (arguments : List String) (environment : List (String × String)) (storage : Storage) :
    Outcome :=
  match request? arguments with
  | none => { code := 2, complaint := usageText, storage }
  | some .help => { code := 0, output := helpText, storage }
  | some .version => { code := 0, output := versionText, storage }
  | some (.run a) =>
    match a.execute environment storage with
    | (.ok output, storage) => { code := 0, output, storage }
    | (.error e, storage) =>
      { code := e.code, complaint := "Error: " ++ e.message ++ "\n", storage }

end PetriCluster.CommandLine
