import PetriCluster.Worker.Step

/-!
# Operations as functions of the node

The operations of a node are programs. The equations here say what the small ones give when they are
run at a node, so that the larger ones can be run step by step.
-/

namespace PetriCluster.Node

variable {σ τ α β : Type}

theorem bind_apply (x : NodeM σ τ α) (f : α → NodeM σ τ β) (n : Node σ τ) :
    (x >>= f) n = match x n with
      | .ok a n => f a n
      | .error e n => .error e n := by
  cases h : x n <;> simp [bind, EStateM.bind, h]

@[simp] theorem pure_apply (a : α) (n : Node σ τ) : (pure a : NodeM σ τ α) n = .ok a n := rfl

@[simp] theorem get_apply (n : Node σ τ) : (get : NodeM σ τ (Node σ τ)) n = .ok n n := rfl

@[simp] theorem set_apply (n m : Node σ τ) : (set m : NodeM σ τ PUnit) n = .ok ⟨⟩ m := rfl

@[simp] theorem getProcess_apply (n : Node σ τ) :
    (getProcess : NodeM σ τ (Process σ)) n = .ok n.process n := rfl

@[simp] theorem modifyProcess_apply (f : Process σ → Process σ) (n : Node σ τ) :
    modifyProcess f n = .ok () { n with process := f n.process } := rfl

@[simp] theorem refuse_apply (e : RuntimeError) (n : Node σ τ) :
    (refuse e : NodeM σ τ α) n = .error (.refused e) n := rfl

@[simp] theorem crash_apply (c : Crash) (n : Node σ τ) :
    (crash c : NodeM σ τ α) n = .error (.crashed c) n := rfl

@[simp] theorem tally_apply (f : ProcessStats → ProcessStats) (n : Node σ τ) :
    tally f n = .ok () { n with process := { n.process with stats := f n.process.stats } } := rfl

@[simp] theorem isQuitting_apply (n : Node σ τ) :
    (isQuitting : NodeM σ τ Bool) n = .ok n.process.quitting n := rfl

@[simp] theorem takeObligation_apply (n : Node σ τ) :
    (takeObligation : NodeM σ τ Unit) n =
      .ok () { n with process := { n.process with obligations := n.process.obligations + 1 } } := rfl

@[simp] theorem recordSent_apply (count : Nat) (n : Node σ τ) :
    recordSent count n = .ok () { n with
      process := { n.process with termination := n.process.termination.recordSent count } } := rfl

theorem attempt_apply (x : NodeM σ τ α) (n : Node σ τ) :
    attempt x n = match x n with
      | .ok a n => .ok (.ok a) n
      | .error (.refused e) n => .ok (.error e) n
      | .error (.crashed c) n => .error (.crashed c) n := rfl

theorem tolerate_apply (x : NodeM σ τ Unit) (n : Node σ τ) :
    tolerate x n = match x n with
      | .ok () n | .error (.refused _) n => .ok () n
      | .error (.crashed c) n => .error (.crashed c) n := by
  rw [tolerate, bind_apply, attempt_apply]
  rcases x n with ⟨⟨⟩, m⟩ | ⟨_ | _, m⟩ <;> rfl

theorem withRegistry_apply (f : Registry → Except RuntimeError (α × Registry)) (n : Node σ τ) :
    withRegistry f n = match f n.process.registry with
      | .error e => .error (.refused e) n
      | .ok (a, registry) => .ok a { n with process := { n.process with registry } } := by
  rw [withRegistry, bind_apply, getProcess_apply]
  rcases h : f n.process.registry with e | ⟨a, registry⟩ <;> simp [h, bind_apply]

theorem changeRegistry_apply (f : Registry → Except RuntimeError Registry) (n : Node σ τ) :
    changeRegistry f n = match f n.process.registry with
      | .error e => .error (.refused e) n
      | .ok registry => .ok () { n with process := { n.process with registry } } := by
  rw [changeRegistry, withRegistry_apply]
  cases f n.process.registry <;> rfl

theorem checkWorker_apply (w : WorkerId) (n : Node σ τ) :
    checkWorker w n =
      if w.index < n.process.inboxes.length then .ok () n
      else .error (.refused (.unknownWorker w)) n := by
  by_cases h : w.index < n.process.inboxes.length <;>
    simp [checkWorker, bind_apply, Process.hasWorker, h]

theorem drawId_apply (n : Node σ τ) :
    drawId n = match n.process.ids.draw with
      | .error e => .error (.refused e) n
      | .ok (net, ids) => .ok net { n with process := { n.process with ids } } := by
  rw [drawId, bind_apply, getProcess_apply]
  rcases h : n.process.ids.draw with e | ⟨net, ids⟩ <;> simp [h, bind_apply]

theorem completeObligation_apply (n : Node σ τ) :
    completeObligation n =
      if n.process.obligations = 0 then .error (.crashed .obligationUnderflow) n
      else .ok () { n with
        process := { n.process with obligations := n.process.obligations - 1 } } := by
  by_cases h : n.process.obligations = 0 <;> simp [completeObligation, bind_apply, h]

end PetriCluster.Node

namespace PetriCluster

/-- A process with one more item in the inbox of a worker. -/
def Process.posted {σ : Type} (p : Process σ) (w : WorkerId) (item : WorkItem σ) : Process σ :=
  { p with
    obligations := p.obligations + item.weight
    inboxes := p.inboxes.modify w.index (· ++ [item]) }

theorem Termination.beginWave_none {t t' : Termination} {own : ProbeSnapshot} {now : Nat}
    (h : t.beginWave own now = (none, t')) : t' = t := by
  unfold beginWave at h
  split at h <;> cases h
  rfl

end PetriCluster

namespace PetriCluster.Node

variable {σ τ α : Type}

theorem post_apply (w : WorkerId) (item : WorkItem σ) (n : Node σ τ) :
    post w item n =
      if w.index < n.process.inboxes.length then
        .ok () { n with process := n.process.posted w item }
      else .error (.refused (.unknownWorker w)) n := by
  by_cases h : w.index < n.process.inboxes.length <;>
    simp [post, bind_apply, checkWorker_apply, h, enqueue, Process.posted]

theorem postCounted_apply (w : WorkerId) (item : WorkItem σ) (n : Node σ τ)
    (h : w.index < n.process.inboxes.length) :
    postCounted w item n = .ok () { n with
      process := { n.process with inboxes := n.process.inboxes.modify w.index (· ++ [item]) } } := by
  simp [postCounted, bind_apply, Process.hasWorker, h, enqueue]

@[simp] theorem getWorker_apply [NetBehaviour σ] [Transport τ] (w : WorkerId) (n : Node σ τ) :
    getWorker w n = .ok (n.process.worker w) n := rfl

@[simp] theorem modifyWorker_apply [NetBehaviour σ] [Transport τ] (w : WorkerId)
    (f : Worker σ → Worker σ) (n : Node σ τ) :
    modifyWorker w f n = .ok () { n with process := n.process.updateWorker w f } := rfl

theorem send_apply [Transport τ] (target : ProcessId) (packet : Packet) (n : Node σ τ) :
    send target packet n = match Transport.send n.link target packet with
      | (.ok (), link) => .ok () { n with link }
      | (.error e, link) => .error (.refused (.transport e)) { n with link } := by
  simp only [send, bind_apply, get_apply]
  rcases Transport.send n.link target packet with ⟨_ | _, link⟩ <;> rfl

theorem receive_apply [NetBehaviour σ] [Transport τ] (n : Node σ τ) :
    receive n = match Transport.receive n.link with
      | (.ok packet, link) => .ok packet { n with link }
      | (.error e, link) => .error (.refused (.transport e)) { n with link } := by
  simp only [receive, bind_apply, get_apply]
  rcases Transport.receive n.link with ⟨_ | _, link⟩ <;> rfl

/-! ## Making nets -/

theorem checkWorker_eq_ok {n : Node σ τ} {v : WorkerId} {a : Unit} {m : Node σ τ}
    (h : checkWorker v n = .ok a m) : v.index < n.process.inboxes.length ∧ m = n := by
  rw [checkWorker_apply] at h
  split at h
  · cases h
    exact ⟨‹_›, rfl⟩
  · cases h

theorem getTemplate_apply (index : Nat) (n : Node σ τ) :
    getTemplate index n = match n.process.templates[index]? with
      | some t => .ok t n
      | none => .error (.refused (.unknownTemplate index n.process.templates.length)) n := by
  rw [getTemplate, bind_apply, getProcess_apply]
  cases h : n.process.templates[index]? <;> simp [h]

theorem getTemplate_eq_ok {n : Node σ τ} {index : Nat} {t : Template σ} {m : Node σ τ}
    (h : getTemplate index n = .ok t m) : t ∈ n.process.templates ∧ m = n := by
  rw [getTemplate_apply] at h
  split at h <;> cases h
  rename_i hfound
  exact ⟨List.mem_of_getElem? hfound, rfl⟩

theorem createInstance_apply [NetBehaviour σ] (owner : WorkerId) (template : Template σ) (index : Nat) (net : NetId)
    (parent : Option NetId) (isGlobal : Bool) (n : Node σ τ) :
    createInstance owner template index net parent isGlobal n =
      match n.process.registry.insert net index owner parent isGlobal with
      | .error e => .error (.refused e) n
      | .ok registry =>
        let made := template.create
          ⟨net, index, parent, n.process.id, n.process.processCount, isGlobal⟩
        if NetBehaviour.id made = net then
          .ok made { n with process := { n.process with
            registry, stats := { n.process.stats with
              netsSpawned := n.process.stats.netsSpawned + 1 } } }
        else .error (.crashed .foreignInstance) { n with process := { n.process with registry } } := by
  rw [createInstance, bind_apply, changeRegistry_apply]
  rcases n.process.registry.insert net index owner parent isGlobal with e | registry
  · rfl
  · simp only [bind_apply, getProcess_apply]
    split <;> simp [bind_apply, *]

end PetriCluster.Node
