import PetriCluster.Net.Encoding

/-!
# Scripted nets

A net given by data. Its places hold counts of tokens. A transition names the tokens it takes out of
places and a list of actions that it carries out in order; what becomes of every action is written to
a log, which the report of the net shows.
-/

namespace PetriCluster.Script

/-- A net as an action names it. -/
inductive NetRef where
  | self
  | parent
  | child
  | named (net : NetId)
  deriving DecidableEq, Repr

/-- What a transition can do. -/
inductive Action where
  | send (target : ProcessId) (net : NetRef) (place : Place) (batch : TokenBatch)
  | multicast (targets : List ProcessId) (net : NetRef) (place : Place) (batch : TokenBatch)
  | spawn (template : Nat) (isGlobal : Bool)
  | halt
  | haltNet (net : NetRef)
  | quit
  | info
  | fail (text : String)
  | breakDown
  | unknown (name : String)
  deriving DecidableEq, Repr

/-- A transition. -/
structure Transition where
  needs : List (Place × Nat)
  limit : Option Nat
  mainOnly : Bool
  strict : Bool
  actions : List Action
  deriving Repr

/-- What all instances of a script share. -/
structure Program where
  name : String
  /-- The marking the main copy starts with; of a place that is named twice the last count holds. -/
  initial : List (Place × Nat)
  rejected : List Nat
  transitions : List Transition
  deriving Repr

/-- What a place can hold. -/
def capacity : Nat := UInt64.size

/-- The tokens in the places of a net. -/
abbrev Marking := OrderedMap Place Nat

namespace Marking

/-- The tokens in a place. -/
def count (m : Marking) (place : Place) : Nat :=
  (m.find? place).getD 0

/-- Give places their tokens one after the other. -/
def ofList (l : List (Place × Nat)) : Marking :=
  l.foldl (fun m entry => m.insert entry.1 entry.2) ∅

/-- Whether each place alone has the tokens asked of it. -/
def covers (m : Marking) (needs : List (Place × Nat)) : Bool :=
  needs.all fun need => need.2 ≤ count m need.1

/-- Take tokens out of places one after the other. If a place runs out of them, what has been taken
before is gone. -/
def take (m : Marking) : List (Place × Nat) → Except Marking Marking
  | [] => .ok m
  | need :: rest =>
    if need.2 ≤ count m need.1 then take (m.insert need.1 (count m need.1 - need.2)) rest
    else .error m

end Marking

end PetriCluster.Script

namespace PetriCluster

open Script

/-- An instance of a script. -/
structure Script where
  program : Program
  origin : SpawnContext
  marking : Marking
  fired : List Nat
  last : Option Bytes
  log : List Json
  child : Option NetId

namespace Script

/-- The name of an instance. -/
def id (s : Script) : NetId := s.origin.net

/-- The net, or the failure of one that is not known. -/
def known (s : Script) : Option NetId → Except RuntimeError NetId
  | some net => .ok net
  | none => .error (.netFailure s.id "unresolved net")

/-- The net an action means. -/
def resolve (s : Script) : NetRef → Except RuntimeError NetId
  | .self => .ok s.id
  | .named net => .ok net
  | .parent => s.known s.origin.parent
  | .child => s.known s.child

/-- Put an entry into the log of an instance. -/
def note (s : Script) (entry : Json) : Script :=
  { s with log := entry :: s.log }

/-- Take tokens into a place, as far as it can hold them. -/
def receive (s : Script) (place : Place) (batch : TokenBatch) : Reception Script :=
  let count := Marking.count s.marking place + batch.count.toNat
  if place.toNat ∈ s.program.rejected then
    .refused s (.netFailure s.id s!"no place {place.toNat}")
  else if capacity ≤ count then .crashed s .addOverflow
  else .accepted { s with marking := s.marking.insert place count, last := some batch.payload }

/-- Whether a transition that has fired `times` times can fire now. -/
def enabled (s : Script) (t : Transition) (times : Nat) : Bool :=
  (match t.limit with
    | some limit => decide (times < limit)
    | none => true) &&
  (!t.mainOnly || s.origin.isMain) && Marking.covers s.marking t.needs

/-- Note a result and go on; a failure breaks a strict firing off. -/
def proceed (s : Script) (strict : Bool) (result : Except RuntimeError Json)
    (next : Script → Firing Script) : Firing Script :=
  match result with
  | .ok entry => next (s.note entry)
  | .error e => if strict then .failed (s.note e.toJson) e else next (s.note e.toJson)

/-- Carry out actions in order, and then `finish`. -/
def perform (strict : Bool) (context : FireContext) (finish : Script → Script) :
    List Action → Script → Firing Script
  | [], s => .fired (finish s)
  | action :: rest, s =>
    let next := perform strict context finish rest
    let done := fun (r : Except RuntimeError Unit) => s.proceed strict (r.map fun _ => .str "ok") next
    match action with
    | .send target net place batch =>
      match s.resolve net with
      | .ok net => .send target ⟨place, net, batch⟩ done
      | .error e => s.proceed strict (.error e) next
    | .multicast targets net place batch =>
      match s.resolve net with
      | .ok net =>
        .multicast targets ⟨place, net, batch⟩ fun report =>
          s.proceed strict (.ok report.toJson) next
      | .error e => s.proceed strict (.error e) next
    | .spawn template isGlobal =>
      .spawn template isGlobal fun
        | .ok net => { s with child := some net }.proceed strict (.ok (.num net.index)) next
        | .error e => s.proceed strict (.error e) next
    | .halt => .halt done
    | .haltNet net =>
      match s.resolve net with
      | .ok net => .haltNet net done
      | .error e => s.proceed strict (.error e) next
    | .quit => .quit (s.proceed strict (.ok (.str "ok")) next)
    | .info =>
      s.proceed strict (.ok (.arr [.num context.net.index, .num context.worker.index,
        .num context.process.index, .num context.processCount])) next
    | .fail text => s.proceed strict (.error (.netFailure s.id text)) next
    | .breakDown => .crashed s (.gaveUp s!"script panic in {s.id}")
    | .unknown name =>
      s.proceed strict (.error (.netFailure s.id s!"unknown action {name}")) next

/-- Fire a transition: take its tokens, carry out its actions, count the firing. -/
def fire (s : Script) (context : FireContext) (transition : TransitionIndex) : Firing Script :=
  match s.program.transitions[transition.toNat]?, s.fired[transition.toNat]? with
  | some t, some times =>
    if s.enabled t times then
      match Marking.take s.marking t.needs with
      | .ok marking =>
        perform t.strict context
          (fun s => { s with fired := s.fired.set transition.toNat (times + 1) })
          t.actions { s with marking }
      | .error marking => .crashed { s with marking } .subtractOverflow
    else .notEnabled s
  | _, _ => .failed s (.netFailure s.id s!"no transition {transition.toNat}")

/-- All there is to know of an instance; members in alphabetical order. -/
def report (s : Script) : Json :=
  .obj [
    ("fired", .arr (s.fired.map .num)),
    ("last", .ofString? (s.last.map Bytes.toHex)),
    ("log", .arr s.log.reverse),
    ("places", .arr (s.marking.toList.map fun e => .arr [.num e.1.toNat, .num e.2])),
    ("spawn", .arr [
      .num s.origin.net.index, .num s.origin.template, .ofNat? (s.origin.parent.map (·.index)),
      .num s.origin.process.index, .num s.origin.processCount, .bool s.origin.isGlobal,
      .bool s.origin.isMain])]

instance : NetBehaviour Script where
  id := id
  transitionCount s := UInt32.ofNat s.program.transitions.length
  receive := receive
  fire := fire
  report := report

/-- An instance with its initial marking. -/
def create (program : Program) (origin : SpawnContext) : Script where
  program
  origin
  marking := if origin.isMain then Marking.ofList program.initial else ∅
  fired := program.transitions.map fun _ => 0
  last := none
  log := []
  child := none

/-- The template of a script. -/
def template (program : Program) : Template Script :=
  ⟨program.name, create program⟩

end Script

end PetriCluster
