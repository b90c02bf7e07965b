import PetriCluster.Net.Behaviour
import PetriCluster.Quoted

/-!
# What lies in the inbox of a worker

Workers of a process talk to each other, and hear of the network, through their inboxes. An item
that stands for work still to be done is an obligation of the process until a worker has dealt with
it; requests about the log are not.
-/

namespace PetriCluster

/-- An item in the inbox of a worker. -/
inductive WorkItem (σ : Type) where
  | adopt (net : σ)
  | tokens (parcel : Parcel)
  | halt (net : NetId) (origin : Option ProcessId)
  | reclaim (net : NetId)
  | fire (net : NetId) (transition : TransitionIndex)
  | startLog (path : String)
  | stopLog

namespace WorkItem

variable {σ : Type}

/-- Whether an item stands for work still to be done (`is_obligation`). -/
def isObligation : WorkItem σ → Bool
  | startLog _ | stopLog => false
  | _ => true

/-- The obligations an item stands for: one or none. -/
def weight (i : WorkItem σ) : Nat :=
  if i.isObligation then 1 else 0

/-- The net an item is about. -/
def net? [NetBehaviour σ] : WorkItem σ → Option NetId
  | adopt net => some (NetBehaviour.id net)
  | tokens parcel => some parcel.net
  | halt net _ | reclaim net | fire net _ => some net
  | startLog _ | stopLog => none

/-- A process that may be missing, in words. -/
def originText : Option ProcessId → String
  | none => "None"
  | some p => s!"Some(ProcessId({p.index}))"

/-- An item in words. -/
def text [NetBehaviour σ] : WorkItem σ → String
  | adopt net => s!"Adopt({NetBehaviour.id net})"
  | tokens p =>
    "Tokens \x7b " ++ s!"net: {p.net}, place: {p.place.toNat}, tokens: {p.batch.count.toNat}, " ++
      s!"bytes: {p.batch.payload.length}" ++ " \x7d"
  | halt net origin => "Halt \x7b " ++ s!"net: {net}, origin: {originText origin}" ++ " \x7d"
  | reclaim net => s!"Reclaim({net})"
  | fire net transition =>
    "Fire \x7b " ++ s!"net: {net}, transition: {transition.toNat}" ++ " \x7d"
  | startLog path => s!"StartLog({Quoted.quote path})"
  | stopLog => "StopLog"

end WorkItem

end PetriCluster
