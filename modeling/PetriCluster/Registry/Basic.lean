import PetriCluster.Error
import PetriCluster.Registry.Retired

/-!
# The registry of net instances

A process keeps a slot for every net instance it knows: which template it came from, which worker owns
it, and how far it is in its life. The instance itself is with its worker.
-/

namespace PetriCluster

/-- What a process knows of one net instance. -/
structure Slot where
  template : Nat
  owner : WorkerId
  parent : Option NetId
  isGlobal : Bool
  state : NetState
  pendingAcks : Nat
  deriving DecidableEq, Repr

/-- What became of a request to halt. -/
inductive HaltOutcome where
  | started (owner : WorkerId) (isGlobal : Bool)
  | alreadyHalting
  deriving DecidableEq, Repr

/-- What became of an acknowledgment. -/
inductive AckOutcome where
  | waiting (pending : Nat)
  | complete (owner : WorkerId)
  deriving DecidableEq, Repr

/-- The net instances of a process. -/
structure Registry where
  slots : OrderedMap NetId Slot
  retired : Retired

namespace Registry

/-- The names a process remembers after their nets are gone. -/
def retiredWindow : Nat := 16384

/-- A registry without instances that remembers `window` retired names. -/
def create (window : Nat) : Registry :=
  ⟨∅, .create window⟩

variable (r : Registry)

/-- The slot of a net. -/
def slot? (net : NetId) : Option Slot :=
  r.slots.find? net

/-- Whether a name is remembered as gone. -/
def isRetired (net : NetId) : Bool :=
  r.retired.contains net

/-- Change the slot of a net. -/
def setSlot (net : NetId) (slot : Slot) : Registry :=
  { r with slots := r.slots.insert net slot }

/-- Register a net that was spawned. -/
def insert (net : NetId) (template : Nat) (owner : WorkerId) (parent : Option NetId)
    (isGlobal : Bool) : Except RuntimeError Registry :=
  if r.isRetired net || (r.slot? net).isSome then .error (.duplicateNet net)
  else .ok (r.setSlot net ⟨template, owner, parent, isGlobal, .spawned, 0⟩)

/-- A worker takes an instance over; a spawned one becomes active. -/
def activate (net : NetId) (worker : WorkerId) : Except RuntimeError (NetState × Registry) :=
  match r.slot? net with
  | none => .error (.unknownNet net)
  | some slot =>
    let state := if slot.state = .spawned then .active else slot.state
    .ok (state, r.setSlot net { slot with owner := worker, state })

/-- Give a net another owner. -/
def setOwner (net : NetId) (worker : WorkerId) : Except RuntimeError Registry :=
  match r.slot? net with
  | none => .error (.unknownNet net)
  | some slot => .ok (r.setSlot net { slot with owner := worker })

/-- A live net begins to halt. -/
def beginHalt (net : NetId) : Except RuntimeError (HaltOutcome × Registry) :=
  if r.isRetired net then .ok (.alreadyHalting, r)
  else
    match r.slot? net with
    | none => .error (.unknownNet net)
    | some slot =>
      if slot.state.isLive then
        .ok (.started slot.owner slot.isGlobal, r.setSlot net { slot with state := .halting })
      else .ok (.alreadyHalting, r)

/-- Set how many peers have to acknowledge the halt of a net. -/
def expectAcks (net : NetId) (count : Nat) : Except RuntimeError Registry :=
  match r.slot? net with
  | none => .error (.unknownNet net)
  | some slot =>
    if slot.state ≠ .halting then .error (.illegalTransition net slot.state .halting)
    else .ok (r.setSlot net { slot with pendingAcks := count })

/-- Count an acknowledgment. -/
def acknowledge (net : NetId) : Except RuntimeError (AckOutcome × Registry) :=
  match r.slot? net with
  | none => .error (.unknownNet net)
  | some slot =>
    if slot.state ≠ .halting ∨ slot.pendingAcks = 0 then
      .error (.illegalTransition net slot.state .halted)
    else
      let pending := slot.pendingAcks - 1
      let outcome := if pending = 0 then .complete slot.owner else .waiting pending
      .ok (outcome, r.setSlot net { slot with pendingAcks := pending })

/-- Drop the slot of a halting instance and retire its name; gives the slot as it ended. -/
def retire (net : NetId) : Except RuntimeError (Slot × Registry) :=
  match r.slot? net with
  | none => .error (.unknownNet net)
  | some slot =>
    if slot.state ≠ .halting then .error (.illegalTransition net slot.state .halted)
    else
      .ok ({ slot with state := .halted },
        { slots := r.slots.erase net, retired := r.retired.insert net })

/-- How far a net is in its life, if it is known. -/
def state? (net : NetId) : Option NetState :=
  match r.slot? net with
  | some slot => some slot.state
  | none => if r.isRetired net then some .halted else none

/-- The owner of a net. -/
def owner? (net : NetId) : Option WorkerId :=
  (r.slot? net).map (·.owner)

/-- The owner of a live net. -/
def liveOwner? (net : NetId) : Option WorkerId :=
  ((r.slot? net).filter (·.state.isLive)).map (·.owner)

/-- The number of live nets. -/
def liveCount : Nat :=
  r.slots.values.countP (·.state.isLive)

/-- The number of halting nets. -/
def haltingCount : Nat :=
  r.slots.values.countP (·.state = .halting)

/-- The number of remembered names. -/
def retiredCount : Nat :=
  r.retired.total

/-- Whether no net is registered. -/
def isDrained : Bool :=
  r.slots.isEmpty

end Registry

end PetriCluster
