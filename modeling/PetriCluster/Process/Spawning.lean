import PetriCluster.Process.Delivery

/-!
# Making nets

A net is made from a template: it gets a slot in the registry and the instance goes to the inbox of
the worker that is to own it. The peers hear of a global net before the own copy goes to its worker;
each makes a copy of the same name, and its workers take turns in owning such copies.
-/

namespace PetriCluster.Node

variable {σ τ : Type} [NetBehaviour σ] [Transport τ]

/-- A template by its position. -/
def getTemplate (index : Nat) : NodeM σ τ (Template σ) := do
  let p ← getProcess
  match p.templates[index]? with
  | some t => return t
  | none => refuse (.unknownTemplate index p.templates.length)

/-- Register an instance and make it. -/
def createInstance (owner : WorkerId) (template : Template σ) (index : Nat) (net : NetId)
    (parent : Option NetId) (isGlobal : Bool) : NodeM σ τ σ := do
  changeRegistry fun r => r.insert net index owner parent isGlobal
  let p ← getProcess
  let made := template.create ⟨net, index, parent, p.id, p.processCount, isGlobal⟩
  if NetBehaviour.id made = net then
    tally fun s => { s with netsSpawned := s.netsSpawned + 1 }
    return made
  else crash .foreignInstance

/-- Make a net that a worker is to own, of the name asked for or of a new one (`spawn_net`). -/
def spawn (owner : WorkerId) (index : Nat) (requested parent : Option NetId) (isGlobal : Bool) :
    NodeM σ τ NetId := do
  checkWorker owner
  let template ← getTemplate index
  let net ← match requested with
    | some net => pure net
    | none => drawId
  let made ← createInstance owner template index net parent isGlobal
  let p ← getProcess
  if isGlobal ∧ 1 < p.processCount then
    let report ← broadcastControl (.spawned net (UInt32.ofNat index) parent p.id)
    tallyTransportErrors report.failures.length
  post owner (.adopt made)
  return net

/-- Make the first net of a run: a global net of process 0. The other processes do nothing. -/
def spawnInitial (index : Nat) : NodeM σ τ (Option NetId) := do
  if (← getProcess).id.raw = 0 then
    return some (← spawn ⟨0⟩ index none none true)
  else return none

/-- The worker whose turn it is to own a copy of a foreign net. -/
def nextOwner : NodeM σ τ WorkerId := do
  let p ← getProcess
  modifyProcess fun p => { p with copies := p.copies + 1 }
  return .ofIndex (p.copies % p.settings.threads)

/-- Make the own copy of a net that a peer spawned. -/
def spawnCopy (index : Nat) (net : NetId) (parent : Option NetId) : NodeM σ τ Unit := do
  let owner ← nextOwner
  let template ← getTemplate index
  let made ← createInstance owner template index net parent true
  post owner (.adopt made)

/-- Bind a net to the worker that took it (`inform_new_network`). -/
def activate (net : NetId) (worker : WorkerId) : NodeM σ τ NetState :=
  withRegistry fun r => r.activate net worker

/-- Hand an instance to another worker (`migrate_net`). -/
def handOver (made : σ) (target : WorkerId) : NodeM σ τ Unit := do
  checkWorker target
  changeRegistry fun r => r.setOwner (NetBehaviour.id made) target
  post target (.adopt made)

end PetriCluster.Node
