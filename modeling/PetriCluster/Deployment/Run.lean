import PetriCluster.Deployment.Build

/-!
# A run from start to end

Build what the layout describes, have the workers keep logs if that is wanted, make the first net,
run, and write a report for each process. What fails is told with the stage it failed at.
-/

namespace PetriCluster

/-- What to do around a run. -/
structure RunOptions where
  initial : Nat := 0
  trace : Option String := none
  reportDir : Option String := none
  deriving DecidableEq, Repr

/-- Why a run did not come to its end. -/
inductive RunError where
  | clusterSetup (cause : RuntimeError)
  | processSetup (cause : RuntimeError)
  | cluster (cause : RuntimeError)
  | process (cause : RuntimeError)
  | reportDirectory (name : String) (cause : StorageError)
  | around (cause : RuntimeError)
  | crashed (cause : Crash)
  | unfinished

/-- What a runtime error says, and what it says of its own cause. -/
def RuntimeError.causes (e : RuntimeError) : List String :=
  match e with
  | .io text => [e.message, text]
  | .transport cause => e.message :: cause.source.toList
  | _ => [e.message]

namespace RunError

/-- What went wrong and why, from the outside in. -/
def causes : RunError → List String
  | clusterSetup e => "Failed to build local cluster" :: e.causes
  | processSetup e => "Failed to build process" :: e.causes
  | cluster e => "Local cluster failed" :: e.causes
  | process e => "Process failed" :: e.causes
  | reportDirectory name e => ["Failed to create report directory " ++ name, e.text]
  | around e => e.causes
  | crashed c => [c.message]
  | unfinished => ["The run did not end in time"]

/-- All causes in one line. -/
def message (e : RunError) : String := ": ".intercalate e.causes

/-- What went wrong, seen from the outside. -/
def summary (e : RunError) : String := e.causes.headD ""

end RunError

/-- Stages of a run that work on a process or a cluster. -/
abbrev RunM (ω : Type) := EStateM RunError ω

namespace RunM

variable {σ τ α : Type}

/-- An operation of a process before or after its run. -/
def around (x : NodeM σ τ α) : RunM (Node σ τ) α := fun n =>
  match x n with
  | .ok a n => .ok a n
  | .error (.refused e) n => .error (.around e) n
  | .error (.crashed c) n => .error (.crashed c) n

/-- Have all processes at the given positions of a cluster do the same, one after the other. -/
def each (x : RunM (Node σ Mailbox.Link) α) : List Nat → RunM (Cluster σ) (List α)
  | [], c => .ok [] c
  | i :: rest, c =>
    match c.node? i with
    | none => each x rest c
    | some n =>
      match x n with
      | .error e n => .error e (c.update i n)
      | .ok a n =>
        match each x rest (c.update i n) with
        | .ok as c => .ok (a :: as) c
        | .error e c => .error e c

/-- The end of a stage. -/
def finish {ω : Type} (failure : RuntimeError → RunError) :
    Option (Except RuntimeError Unit) → RunM ω Unit
  | some (.ok ()) => return ()
  | some (.error e) => throw (failure e)
  | none => throw .unfinished

end RunM

namespace RunOptions

variable {σ τ : Type} [NetBehaviour σ] [Transport τ] (o : RunOptions)

/-- What is done before a run. -/
def prepare : RunM (Node σ τ) Unit :=
  match o.trace with
  | none => return ()
  | some name => RunM.around (Node.startLogs name)

/-- Make the directory of the report. -/
def makeReportDir (directory : String) : RunM (Node σ τ) Unit := do
  match ← RunM.around (Node.onFiles (StorageM.makeDirectories ⟨directory⟩)) with
  | .ok () => return ()
  | .error e => throw (.reportDirectory directory e)

/-- What is done after a run. -/
def conclude : RunM (Node σ τ) ProcessReport := do
  match o.reportDir with
  | none => pure ()
  | some directory =>
    makeReportDir directory
    let p := (← get).process
    RunM.around (Node.writeReport (Path.join directory s!"process-{p.id.raw.toNat}.json"))
  return (← get).report

/-- A run of all processes in one place (`run_local`). -/
def runCluster (rounds : Nat) : RunM (Cluster σ) (List ProcessReport) := do
  let positions := List.range (← get).members.length
  let _ ← RunM.each o.prepare positions
  let _ ← RunM.each (RunM.around (Node.spawnInitial o.initial)) (positions.take 1)
  let (result, c) := (← get).drive .run rounds
  set c
  RunM.finish .cluster result
  RunM.each o.conclude positions

/-- A run of one process (`run_process`). -/
def runNode (rounds : Nat) : RunM (Node σ τ) ProcessReport := do
  o.prepare
  let _ ← RunM.around (Node.spawnInitial o.initial)
  let result ← RunM.around (Node.drive .run rounds)
  RunM.finish .process result
  o.conclude

end RunOptions

namespace ClusterConfig

variable {σ : Type} [NetBehaviour σ]

/-- Run what a layout describes, for at most the given number of rounds. Gives the reports of all
processes that ran here, and the files as they are afterwards. -/
def run (c : ClusterConfig) (templates : List (Template σ)) (options : RunOptions) (rounds : Nat)
    (storage : Storage) : Except RunError (List ProcessReport) × Storage :=
  match c.backend with
  | .mailbox =>
    match c.buildCluster templates storage with
    | .error e => (.error (.clusterSetup e), storage)
    | .ok cluster =>
      match options.runCluster rounds cluster with
      | .ok reports cluster => (.ok reports, cluster.storage)
      | .error e cluster => (.error e, cluster.storage)
  | .tcp _ =>
    match c.buildNode templates storage with
    | .error e => (.error (.processSetup e), storage)
    | .ok node =>
      match options.runNode rounds node with
      | .ok report node => (.ok [report], node.storage)
      | .error e node => (.error e, node.storage)

end ClusterConfig

end PetriCluster
