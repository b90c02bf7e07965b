import PetriCluster.Process.Dispatch

/-!
# Carrying out a firing

A firing is a tree of requests. Carrying it out means to answer each request with what the process
does about it, and to go on with what the net does with that answer.
-/

namespace PetriCluster.Node

variable {σ τ : Type} [NetBehaviour σ] [Transport τ]

/-- How a firing ended. -/
inductive FiringResult where
  | fired
  | notEnabled
  | failed (error : RuntimeError)
  | crashed (cause : Crash)
  deriving DecidableEq, Repr

/-- An instance after a firing. -/
structure FiringEnd (σ : Type) where
  state : σ
  result : FiringResult
  halted : Bool

/-- Carry out a firing for a net of a worker. -/
def perform (worker : WorkerId) (net : NetId) : (halted : Bool) → Firing σ → NodeM σ τ (FiringEnd σ)
  | halted, .fired state => return ⟨state, .fired, halted⟩
  | halted, .notEnabled state => return ⟨state, .notEnabled, halted⟩
  | halted, .failed state e => return ⟨state, .failed e, halted⟩
  | halted, .crashed state c => return ⟨state, .crashed c, halted⟩
  | halted, .send target parcel next => do
    perform worker net halted (next (← attempt (sendTokens target parcel)))
  | halted, .multicast targets parcel next => do
    perform worker net halted (next (← multicast targets parcel))
  | halted, .spawn template isGlobal next => do
    perform worker net halted (next (← attempt (spawn worker template none (some net) isGlobal)))
  | _, .halt next => do
    perform worker net true (next (← attempt (halt worker net)))
  | halted, .haltNet other next => do
    perform worker net halted (next (← attempt (halt worker other)))
  | halted, .quit next => do
    quitAll
    perform worker net halted next

end PetriCluster.Node
