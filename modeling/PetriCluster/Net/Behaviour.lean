import PetriCluster.Json
import PetriCluster.Error

/-!
# What the runtime needs of a net

The runtime does not look inside a net. A type of nets says how an instance takes tokens in, how many
transitions it has, and what happens when one of them is asked to fire (`NetBehaviour`).
-/

namespace PetriCluster

/-- What a template is told of the instance it makes. -/
structure SpawnContext where
  net : NetId
  template : Nat
  parent : Option NetId
  process : ProcessId
  processCount : Nat
  isGlobal : Bool
  deriving DecidableEq, Repr

/-- Whether the instance is the copy that holds the initial marking. -/
def SpawnContext.isMain (c : SpawnContext) : Bool :=
  c.net.mainProcess c.processCount == c.process

/-- What a net is told when one of its transitions fires. -/
structure FireContext where
  net : NetId
  worker : WorkerId
  process : ProcessId
  processCount : Nat
  deriving DecidableEq, Repr

/-- What became of a message to several processes, target by target. -/
structure MulticastReport where
  results : List (ProcessId × Except RuntimeError Unit)

namespace MulticastReport

variable (r : MulticastReport)

/-- The targets that did not get the message, with the reason. -/
def failures : List (ProcessId × RuntimeError) :=
  r.results.filterMap fun
    | (target, .error e) => some (target, e)
    | (_, .ok ()) => none

/-- The number of targets that got the message. -/
def delivered : Nat :=
  r.results.length - r.failures.length

/-- Whether all targets got the message. -/
def isComplete : Bool :=
  r.failures.isEmpty

/-- The first failure, if any (`into_result`). -/
def toExcept : Except RuntimeError Unit :=
  match r.failures with
  | [] => .ok ()
  | (_, e) :: _ => .error e

end MulticastReport

/-- What an instance does with tokens that arrive. -/
inductive Reception (σ : Type) where
  | accepted (state : σ)
  | refused (state : σ) (error : RuntimeError)
  | crashed (state : σ) (cause : Crash)

namespace Reception

variable {σ ρ : Type}

/-- See the instance as one of another type. -/
def map (f : σ → ρ) : Reception σ → Reception ρ
  | accepted s => .accepted (f s)
  | refused s e => .refused (f s) e
  | crashed s c => .crashed (f s) c

/-- The instance afterwards. -/
def state : Reception σ → σ
  | accepted s | refused s _ | crashed s _ => s

end Reception

/-- What an instance does when a transition is asked to fire. -/
inductive Firing (σ : Type) where
  | fired (state : σ)
  | notEnabled (state : σ)
  | failed (state : σ) (error : RuntimeError)
  | crashed (state : σ) (cause : Crash)
  | send (target : ProcessId) (parcel : Parcel) (next : Except RuntimeError Unit → Firing σ)
  | multicast (targets : List ProcessId) (parcel : Parcel) (next : MulticastReport → Firing σ)
  | spawn (template : Nat) (isGlobal : Bool) (next : Except RuntimeError NetId → Firing σ)
  | halt (next : Except RuntimeError Unit → Firing σ)
  | haltNet (net : NetId) (next : Except RuntimeError Unit → Firing σ)
  | quit (next : Firing σ)

namespace Firing

variable {σ ρ : Type}

/-- See the instance as one of another type. -/
def map (f : σ → ρ) : Firing σ → Firing ρ
  | fired s => .fired (f s)
  | notEnabled s => .notEnabled (f s)
  | failed s e => .failed (f s) e
  | crashed s c => .crashed (f s) c
  | send target parcel next => .send target parcel fun r => (next r).map f
  | multicast targets parcel next => .multicast targets parcel fun r => (next r).map f
  | spawn template isGlobal next => .spawn template isGlobal fun r => (next r).map f
  | halt next => .halt fun r => (next r).map f
  | haltNet net next => .haltNet net fun r => (next r).map f
  | quit next => .quit (next.map f)

end Firing

/-- A type of net instances. -/
class NetBehaviour (σ : Type) where
  id : σ → NetId
  transitionCount : σ → UInt32
  receive : σ → Place → TokenBatch → Reception σ
  fire : σ → FireContext → TransitionIndex → Firing σ
  report : σ → Json

instance {α β : Type} [NetBehaviour α] [NetBehaviour β] : NetBehaviour (α ⊕ β) where
  id
    | .inl a => NetBehaviour.id a
    | .inr b => NetBehaviour.id b
  transitionCount
    | .inl a => NetBehaviour.transitionCount a
    | .inr b => NetBehaviour.transitionCount b
  receive
    | .inl a, place, batch => (NetBehaviour.receive a place batch).map .inl
    | .inr b, place, batch => (NetBehaviour.receive b place batch).map .inr
  fire
    | .inl a, context, transition => (NetBehaviour.fire a context transition).map .inl
    | .inr b, context, transition => (NetBehaviour.fire b context transition).map .inr
  report
    | .inl a => NetBehaviour.report a
    | .inr b => NetBehaviour.report b

/-- A way to make instances. -/
structure Template (σ : Type) where
  name : String
  create : SpawnContext → σ

namespace Template

variable {σ ρ : Type}

/-- A template of one type of nets as one of a larger type. -/
def map (f : σ → ρ) (t : Template σ) : Template ρ :=
  ⟨t.name, fun context => f (t.create context)⟩

end Template

end PetriCluster
