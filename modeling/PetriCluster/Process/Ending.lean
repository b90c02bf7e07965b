import PetriCluster.Process.Delivery

/-!
# The end of a run

Whoever ends the run tells all peers once. With autohalt the run ends by itself: a single process
stops when it is idle, and in a larger cluster process 0 sends out probe waves as long as it is idle
itself, and stops everybody when two waves agree that nothing is left to do.
-/

namespace PetriCluster.Node

variable {σ τ : Type} [Transport τ]

/-- End the run everywhere (`quit_all`). The peers are told the first time only. -/
def quitAll : NodeM σ τ Unit := do
  let p ← getProcess
  modifyProcess fun p => { p with quitSent := true }
  unless p.quitSent do
    let _ ← broadcastControl (.quit p.id)
  modifyProcess fun p => { p with quitting := true }

/-- Whether nothing is registered, owed or arrived (`is_locally_idle`). -/
def isIdle : NodeM σ τ Bool := do
  let n ← get
  return n.process.registry.isDrained && n.process.obligations == 0 && !Transport.hasInbound n.link

/-- What the process says of its work now. -/
def snapshot : NodeM σ τ ProbeSnapshot := do
  return (← getProcess).termination.snapshot (← isIdle)

/-- Answer a probe. A process that is stopping does not answer. -/
def answerProbe (wave : UInt64) : NodeM σ τ Unit := do
  unless ← isQuitting do
    let answer ← snapshot
    tolerate (sendControl ⟨0⟩ (.probeReply wave (← getProcess).id answer))

/-- Take in the answer to a probe; the run ends if it shows the end of all work
(`collect_probe_reply`). -/
def collectReply (wave : UInt64) (sender : ProcessId) (answer : ProbeSnapshot) :
    NodeM σ τ Unit := do
  let p ← getProcess
  if p.termination.isCoordinator then
    let (verdict, termination) := p.termination.onReply wave.toNat sender answer
    modifyProcess fun p => { p with termination }
    match verdict with
    | .error c => crash c
    | .ok (.quiescent _) => quitAll
    | .ok _ => return ()
  else tallyProtocolError

/-- Begin a wave if it is time, and ask all peers. -/
def probe (own : ProbeSnapshot) : NodeM σ τ Unit := do
  let n ← get
  let (wave, termination) := n.process.termination.beginWave own n.now
  modifyProcess fun p => { p with termination }
  match wave with
  | some wave =>
    let _ ← broadcastControl (.probe (UInt64.ofNat wave))
  | none => return ()

/-- See whether the run can end (`quiescence_tick`). -/
def tick : NodeM σ τ Unit := do
  let p ← getProcess
  if p.settings.autohalt ∧ ¬ p.quitting then
    let own ← snapshot
    if own.idle then
      if p.processCount = 1 then quitAll
      else if p.termination.isCoordinator then probe own

/-- A net has been released; see whether the run can end (`autohalt_check`). -/
def noteReclaimed : NodeM σ τ Unit := do
  tally fun s => { s with netsReclaimed := s.netsReclaimed + 1 }
  tick

end PetriCluster.Node
