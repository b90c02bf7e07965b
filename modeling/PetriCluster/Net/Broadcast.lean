import PetriCluster.Net.Behaviour

/-!
# The broadcast

In every round the main copy sends a token to all processes, its own included. Every copy consumes
the tokens it gets, and the main copy halts the net when it has consumed one token for each round.
-/

namespace PetriCluster

/-- A copy of the broadcast. -/
structure Broadcast where
  id : NetId
  isMain : Bool
  rounds : UInt32
  emitted : UInt32
  inbox : UInt32
  consumed : UInt32
  deriving DecidableEq, Repr

namespace Broadcast

/-- The broadcast has one place. Its tokens are counted in a 32-bit word. -/
def receive (b : Broadcast) (place : Place) (batch : TokenBatch) : Reception Broadcast :=
  if place ≠ 0 then .refused b (.netFailure b.id s!"broadcast has no place {place.toNat}")
  else if b.inbox.toNat + batch.count.toNat < 4294967296 then
    .accepted { b with inbox := b.inbox + batch.count }
  else .crashed b .addOverflow

/-- The next token of the main copy. -/
def token (b : Broadcast) : Parcel :=
  ⟨0, b.id, ⟨1, Bytes.littleEndian 4 b.emitted.toNat⟩⟩

/-- The main copy sends a token to all. -/
def emit (b : Broadcast) (context : FireContext) : Firing Broadcast :=
  if b.isMain ∧ b.emitted < b.rounds then
    .multicast (ProcessId.all context.processCount) b.token fun report =>
      match report.toExcept with
      | .ok () => .fired { b with emitted := b.emitted + 1 }
      | .error e => .failed b e
  else .notEnabled b

/-- Consume a token. The consumed tokens are counted in a 32-bit word. -/
def consume (b : Broadcast) : Firing Broadcast :=
  if 0 < b.inbox then
    let b := { b with inbox := b.inbox - 1 }
    if b.consumed.toNat + 1 < 4294967296 then .fired { b with consumed := b.consumed + 1 }
    else .crashed b .addOverflow
  else .notEnabled b

/-- Halt the net when the main copy has consumed all rounds. -/
def finish (b : Broadcast) : Firing Broadcast :=
  if b.isMain ∧ b.consumed = b.rounds then
    .halt fun
      | .ok () => .fired b
      | .error e => .failed b e
  else .notEnabled b

/-- The three transitions: send, consume, finish. -/
def fire (b : Broadcast) (context : FireContext) (transition : TransitionIndex) :
    Firing Broadcast :=
  if transition = 0 then b.emit context
  else if transition = 1 then b.consume
  else if transition = 2 then b.finish
  else .notEnabled b

/-- Whether the copy sends, and what it sent and consumed; members in alphabetical order. -/
def report (b : Broadcast) : Json :=
  .obj [
    ("consumed", .num b.consumed.toNat),
    ("emitted", .num b.emitted.toNat),
    ("main", .bool b.isMain)]

instance : NetBehaviour Broadcast where
  id := Broadcast.id
  transitionCount _ := 3
  receive := receive
  fire := fire
  report := report

/-- The template of broadcasts over the given number of rounds. -/
def template (rounds : UInt32) : Template Broadcast :=
  ⟨"broadcast", fun c => ⟨c.net, c.isMain, rounds, 0, 0, 0⟩⟩

end Broadcast

end PetriCluster
