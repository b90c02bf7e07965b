import PetriCluster.Process.Delivery

/-!
# Halting nets

A halt goes in two phases. The slot of the net becomes halting and its owner gets an item to stop the
instance; when the owner has done so, a net that lives only here is released, and for a global net the
peers are told to halt their copies.
-/

namespace PetriCluster.Node

variable {σ τ : Type} [Transport τ]

/-- Halt a net that the process knows. -/
def halt (requester : WorkerId) (net : NetId) : NodeM σ τ Unit := do
  checkWorker requester
  takeObligation
  match ← attempt (withRegistry fun r => r.beginHalt net) with
  | .ok (.started owner _) => postCounted owner (.halt net none)
  | .ok .alreadyHalting => completeObligation
  | .error e =>
    completeObligation
    refuse e

/-- Tell a peer that the own copy of a net has halted. -/
def acknowledgeHalt (net : NetId) (origin : ProcessId) : NodeM σ τ Unit := do
  match ← attempt (sendControl origin (.haltAck net (← getProcess).id)) with
  | .ok () => return ()
  | .error _ => tallyTransportErrors 1

/-- Halt the own copy of a net that a peer has halted (`remote_halt`). -/
def haltCopy (net : NetId) (origin : ProcessId) : NodeM σ τ Unit := do
  takeObligation
  match ← attempt (withRegistry fun r => r.beginHalt net) with
  | .ok (.started owner _) => postCounted owner (.halt net (some origin))
  | .ok .alreadyHalting =>
    completeObligation
    acknowledgeHalt net origin
  | .error _ =>
    tallyProtocolError
    completeObligation
    acknowledgeHalt net origin

/-- Have a stopped net released. -/
def postReclaim (worker : WorkerId) (net : NetId) : NodeM σ τ Unit :=
  tolerate (post worker (.reclaim net))

/-- Count an acknowledgment; the last one has the net released. -/
def countAck (net : NetId) : NodeM σ τ Unit := do
  match ← withRegistry fun r => r.acknowledge net with
  | .waiting _ => return ()
  | .complete owner => postReclaim owner net

/-- Take failed sends as acknowledgments, one for each. -/
def excuse (net : NetId) : Nat → NodeM σ τ Unit
  | 0 => return ()
  | count + 1 => do
    tallyTransportErrors 1
    tolerate (countAck net)
    excuse net count

/-- Tell all peers of the halt of a global net and wait for them. -/
def announceHalt (net : NetId) (worker : WorkerId) : NodeM σ τ Unit := do
  let p ← getProcess
  match ← attempt (changeRegistry fun r => r.expectAcks net (p.processCount - 1)) with
  | .error _ => postReclaim worker net
  | .ok () =>
    let report ← broadcastControl (.halted net p.id)
    excuse net report.failures.length

/-- The owner has stopped a net; a peer may have asked for it (`inform_halt_network`). -/
def noteStopped (net : NetId) (worker : WorkerId) (origin : Option ProcessId) :
    NodeM σ τ Unit := do
  let p ← getProcess
  match p.registry.slot? net with
  | none => return ()
  | some slot =>
    match origin with
    | some origin =>
      acknowledgeHalt net origin
      postReclaim worker net
    | none =>
      if slot.isGlobal ∧ 1 < p.processCount then announceHalt net worker
      else postReclaim worker net

end PetriCluster.Node
