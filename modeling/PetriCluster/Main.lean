import PetriCluster.CommandLine.Basic

/-!
# The program

The files and the environment the command asks for are fetched, the command is carried out, and what
it leaves behind is written out.
-/

namespace PetriCluster.CommandLine

/-- The paths of the settings files the command may read. -/
def Arguments.settingsPaths (a : Arguments) : List Path :=
  match a.config with
  | some name => [⟨name⟩, ⟨name ++ ".toml"⟩]
  | none => [⟨Config.defaultFile⟩]

/-- The paths of the directories the command may write to. -/
def Arguments.outputPaths (a : Arguments) (environment : List (String × String))
    (storage : Storage) : List Path :=
  let directories := match a.layout environment storage with
    | .ok c => c.log.traceDir.toList
    | .error _ => []
  (directories ++ a.reportDir.toList).map Path.mk

/-- The places a path leads through. -/
def locationsOn (home : Location) (p : Path) : List Location :=
  let start := if p.isAbsolute then [] else home
  let step (l : Location) : PathStep → Location
    | .stay => l
    | .back => l.dropLast
    | .name s => l ++ [s]
  (List.range (p.steps.length + 1)).map fun n => (p.steps.take n).foldl step start

/-- A place as a path. -/
def locationText (l : Location) : String :=
  "/" ++ "/".intercalate l

/-- What is at a place. -/
def fetchEntry (l : Location) : IO (Option StorageEntry) := do
  match ← (IO.FS.readFile (locationText l)).toBaseIO with
  | .ok text => return some (.file text)
  | .error (.noFileOrDirectory ..) => return none
  | .error _ => return some .directory

/-- All that is on the given paths. -/
def fetchEntries (storage : Storage) (paths : List Path) : IO Storage :=
  (paths.flatMap (locationsOn storage.home)).foldlM (fun storage l => do
    if (storage.find? l).isSome then return storage
    match ← fetchEntry l with
    | some entry => return storage.put l entry
    | none => return storage) storage

/-- A variable, given as its name, an equals sign and its value. -/
def assignment? (s : String) : Option (String × String) :=
  match s.splitOn "=" with
  | [] | [_] => none
  | name :: value => some (name, "=".intercalate value)

/-- The variables of the environment. -/
def fetchEnvironment : IO (List (String × String)) := do
  match ← (IO.FS.readFile "/proc/self/environ").toBaseIO with
  | .ok text => return (text.splitOn "\x00").filterMap assignment?
  | .error _ => return []

/-- Make the files as the command left them. -/
def writeBack (before after : Storage) : IO Unit :=
  (after.changes before).forM fun (l, entry) =>
    match entry with
    | .directory => IO.FS.createDirAll (locationText l)
    | .file text => IO.FS.writeFile (locationText l) text
    | .device _ => return ()

/-- All files a command may read. -/
def fetchStorage (arguments : List String) (environment : List (String × String)) : IO Storage := do
  let home := ((← IO.currentDir).toString.splitOn "/").filter (· ≠ "")
  let storage := Storage.create home
  match request? arguments with
  | some (.run a) =>
    let storage ← fetchEntries storage a.settingsPaths
    fetchEntries storage (a.outputPaths environment storage)
  | _ => return storage

end PetriCluster.CommandLine

open PetriCluster CommandLine in
/-- Run the command. -/
def main (arguments : List String) : IO UInt32 := do
  let environment ← fetchEnvironment
  let before ← fetchStorage arguments environment
  let outcome := command arguments environment before
  writeBack before outcome.storage
  IO.print outcome.output
  IO.eprint outcome.complaint
  return outcome.code
