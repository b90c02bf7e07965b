import PetriCluster.Control.Message

/-!
# Finding the end of all work

Every process counts the work packets, tokens and global spawns, that it sent to and received from its
peers. Process 0 coordinates: in waves it asks all processes whether they are idle and for their
counts.
-/

namespace PetriCluster

/-- The sum of the answers of one wave. -/
structure WaveTotals where
  allIdle : Bool
  sent : Nat
  received : Nat
  deriving DecidableEq, Repr

namespace WaveTotals

/-- The sum of no answers. -/
def zero : WaveTotals := ⟨true, 0, 0⟩

/-- Add an answer. -/
def add (t : WaveTotals) (s : ProbeSnapshot) : WaveTotals :=
  ⟨t.allIdle && s.idle, t.sent + s.sent.toNat, t.received + s.received.toNat⟩

/-- The sum of answers. -/
def sum (answers : List ProbeSnapshot) : WaveTotals :=
  answers.foldl add zero

/-- Whether all were idle and nothing was in flight. -/
def balanced (t : WaveTotals) : Bool :=
  t.allIdle && t.sent == t.received

/-- Whether the counters do not overflow. -/
def fits (t : WaveTotals) : Bool :=
  decide (t.sent < 18446744073709551616) && decide (t.received < 18446744073709551616)

end WaveTotals

/-- What an answer to a probe means. -/
inductive Verdict where
  | pending
  | ongoing (totals : WaveTotals)
  | quiescent (totals : WaveTotals)
  deriving DecidableEq, Repr

/-- A wave that is under way. -/
structure Wave where
  id : Nat
  replies : OrderedMap ProcessId ProbeSnapshot

/-- The counters of a process, and the waves if it coordinates. -/
structure Termination where
  process : ProcessId
  processCount : Nat
  probeInterval : Nat
  sent : Nat
  received : Nat
  nextWave : Nat
  current : Option Wave
  previous : Option WaveTotals
  lastProbe : Option Nat
  completed : Nat

namespace Termination

/-- The counters at the start. -/
def create (process : ProcessId) (processCount probeInterval : Nat) : Termination :=
  ⟨process, processCount, probeInterval, 0, 0, 0, none, none, none, 0⟩

variable (t : Termination)

/-- Whether the process is process 0. -/
def isCoordinator : Bool := t.process.raw == 0

/-- Count packets that were sent. -/
def recordSent (count : Nat) : Termination := { t with sent := t.sent + count }

/-- Count a packet that was received. -/
def recordReceived : Termination := { t with received := t.received + 1 }

/-- The counters now. -/
def snapshot (idle : Bool) : ProbeSnapshot :=
  ⟨idle, UInt64.ofNat t.sent, UInt64.ofNat t.received⟩

/-- Whether a wave may start at time `now`. -/
def mayProbe (now : Nat) : Bool :=
  t.isCoordinator && decide (2 ≤ t.processCount) && t.current.isNone &&
    match t.lastProbe with
    | none => true
    | some last => decide (t.probeInterval ≤ now - last)

/-- Start a wave with the answer of the coordinator, if that may be; gives its number. -/
def beginWave (own : ProbeSnapshot) (now : Nat) : Option Nat × Termination :=
  if t.mayProbe now then
    (some t.nextWave, { t with
      nextWave := t.nextWave + 1
      lastProbe := some now
      current := some ⟨t.nextWave, OrderedMap.empty.insert t.process own⟩ })
  else (none, t)

/-- The verdict of a completed wave, from its totals and those of the wave before. -/
def verdict (previous : Option WaveTotals) (totals : WaveTotals) : Verdict :=
  if totals.balanced && previous == some totals then .quiescent totals else .ongoing totals

/-- Take an answer in. The sums of a completed wave have to fit in 64 bits. -/
def onReply (wave : Nat) (sender : ProcessId) (answer : ProbeSnapshot) :
    Except Crash Verdict × Termination :=
  match t.current with
  | none => (.ok .pending, t)
  | some current =>
    if current.id ≠ wave then (.ok .pending, t)
    else
      let replies := current.replies.insert sender answer
      if replies.size ≠ t.processCount then
        (.ok .pending, { t with current := some { current with replies } })
      else
        let totals := WaveTotals.sum replies.values
        let t' := { t with current := none, completed := t.completed + 1 }
        if totals.fits then
          (.ok (verdict t.previous totals), { t' with previous := some totals })
        else (.error .addOverflow, t')

/-- Whether a wave is under way (`wave_in_progress`). -/
def inProgress : Bool := t.current.isSome

end Termination

end PetriCluster
