import PetriCluster.Proofs.Happenings
import Mathlib

/-!
# Refused requests leave the process as it was

A caller who asks for a net, sends tokens, asks for a firing, halts a net or moves one may be refused.
Then nothing has changed, but for two things: a name that was drawn for a net that exists already is
used up, and a packet that the transport did not take is counted twice, by the process and by its
endpoint.
-/

namespace PetriCluster

variable {net : NetId} {e : RuntimeError} {w : WorkerId}

/-! ## Instances have slots -/

namespace Scene

variable {σ : Type} [NetBehaviour σ] {s t : Scene σ} {moving : NetId → Prop} {losing : Prop}

/-- Every instance has its name and a slot. -/
structure Tended (s : Scene σ) : Prop where
  sound : s.Sound
  named : s.Named
  backed : ∀ net, s.Backed net

theorem Fresh.tended (h : s.Fresh) : s.Tended where
  sound := h.sound
  named := h.named
  backed net := by
    refine ⟨fun _ => ⟨(h.active · net), h.count _, h.count _⟩, fun slot hslot => ?_⟩
    rw [h.slots net] at hslot
    cases hslot

/-- Whatever happens, every instance keeps its name and its slot. -/
theorem Tended.happens [LawfulNet σ] (hs : s.Tended) (h : Happens moving losing s t) : t.Tended := by
  obtain ⟨hsound, hnamed, hbacked⟩ := hs
  rcases h.cases with ⟨ws, events, hstep⟩ | ⟨w, item, hw, hitem, rfl⟩ |
    ⟨-, ⟨open_, c, ws, hwreck⟩ | ⟨item, rest, hhand, rfl⟩⟩
  · exact ⟨hstep.sound hsound, hstep.named hnamed,
      fun net => hstep.backed hsound (fun _ => hnamed) (hbacked net)⟩
  · refine ⟨hsound.post hw item, hnamed.of_eq rfl rfl, fun net => ?_⟩
    refine (hbacked net).post hw ?_ ?_ <;>
      cases item <;> first | rfl | cases hitem
  · exact ⟨hwreck.sound hsound, hwreck.named hnamed, fun net => hwreck.backed (hbacked net)⟩
  · exact ⟨hsound.finish hhand, hnamed.of_eq rfl rfl, fun net => (hbacked net).finish hhand⟩

/-- So it is in a whole run. -/
theorem Tended.leads [LawfulNet σ] (hs : s.Tended) (h : Leads moving losing s t) : t.Tended := by
  induction h with
  | refl => exact hs
  | tail _ hlast ih => exact ih.happens hlast

theorem Tended.slot_of_active (hs : s.Tended) {state : σ} (h : s.active w net = some state) :
    s.registry.slot? (NetBehaviour.id state) ≠ none := by
  obtain ⟨slot, hslot, -⟩ := (hs.backed net).slot_of_active h
  rw [hs.named.active w net state h, hslot]
  simp

end Scene

theorem Process.foldl_after_tended {σ τ : Type} [NetBehaviour σ] [Transport τ] [LawfulNet σ]
    {p : Process σ} (hp : p.outline.Tended) {errands : List (Errand σ τ)}
    (horderly : ∀ errand ∈ errands, errand.command.isOrderly = true) :
    (errands.foldl Process.after p).outline.Tended := by
  refine Process.foldl_after (I := fun p => p.outline.Tended) (fun {q} errand hmem hq => ?_) hp
  have hbrings : Node.Brings (fun _ => True) True
      (⟨q, errand.link, errand.storage, errand.now⟩ : Node σ τ) (errand.command.run _) :=
    Command.brings (horderly errand hmem) (fun _ _ => trivial) (fun _ => trivial) hq.sound
  exact hq.leads (hbrings fun _ _ _ => trivial)

/-! ## What a refusal leaves -/

namespace Node

variable {σ τ : Type} {n m : Node σ τ} {e : RuntimeError}

theorem refusal?_eq_some {α : Type} {x : NodeM σ τ α} :
    refusal? x n = some e ↔ ∃ m, x n = .error (.refused e) m := by
  unfold refusal?
  rcases x n with ⟨a, m⟩ | ⟨e' | c, m⟩ <;> simp

theorem checkWorker_eq_refused (h : checkWorker w n = .error (.refused e) m) :
    m = n ∧ e = .unknownWorker w := by
  rw [checkWorker_apply] at h
  split at h <;> cases h
  exact ⟨rfl, rfl⟩

theorem post_eq_refused {item : WorkItem σ} (h : post w item n = .error (.refused e) m) :
    m = n ∧ e = .unknownWorker w := by
  rw [post_apply] at h
  split at h <;> cases h
  exact ⟨rfl, rfl⟩

theorem requestFiring_eq_refused {transition : TransitionIndex}
    (h : requestFiring net transition n = .error (.refused e) m) : m = n := by
  simp only [requestFiring, bind_apply, getProcess_apply] at h
  cases howner : n.process.registry.liveOwner? net with
  | none =>
    simp only [howner] at h
    cases h
    rfl
  | some owner =>
    simp only [howner] at h
    exact (post_eq_refused h).1

theorem halt_eq_refused {requester : WorkerId} (h : halt requester net n = .error (.refused e) m) :
    m = n := by
  rcases bind_eq_error h with hcheck | ⟨_, k, hcheck, hrest⟩
  · exact (checkWorker_eq_refused hcheck).1
  · clear h
    obtain ⟨-, rfl⟩ := checkWorker_eq_ok hcheck
    simp only [bind_apply, takeObligation_apply, attempt_apply, withRegistry_apply] at hrest
    rcases hbegin : k.process.registry.beginHalt net with e' | ⟨⟨owner, isGlobal⟩ | _, registry⟩ <;>
      simp only [hbegin] at hrest
    · simp only [bind_apply, completeObligation_apply, Nat.add_eq_zero_iff, Nat.one_ne_zero, and_false,
        if_false, refuse_apply, Nat.add_sub_cancel] at hrest
      cases hrest
      rfl
    · simp only [postCounted, bind_apply, getProcess_apply] at hrest
      split at hrest
      · cases hrest
      · cases hrest
    · simp only [completeObligation_apply, Nat.add_eq_zero_iff, Nat.one_ne_zero, and_false,
        if_false] at hrest
      cases hrest

variable [NetBehaviour σ] [Transport τ] {owner : WorkerId} {index : Nat} {isGlobal : Bool}

theorem spawnNamed_eq_refused {template : Template σ}
    {parent : Option NetId} (howner : owner.index < n.process.inboxes.length)
    (h : spawnNamed owner template index parent isGlobal net n = .error (.refused e) m) :
    m = n ∧ e = .duplicateNet net := by
  rcases hinsert : n.process.registry.insert net index owner parent isGlobal with e' | registry
  · have hdup : e' = .duplicateNet net := by
      unfold Registry.insert at hinsert
      split at hinsert <;> cases hinsert
      rfl
    simp only [spawnNamed, bind_apply, createInstance_apply, hinsert] at h
    cases h
    exact ⟨rfl, hdup⟩
  · by_cases hid : NetBehaviour.id (template.create
        ⟨net, index, parent, n.process.id, n.process.processCount, isGlobal⟩) = net
    · obtain ⟨k, ws, hrun, -⟩ := spawnNamed_apply howner hinsert hid
      rw [hrun] at h
      cases h
    · simp only [spawnNamed, bind_apply, createInstance_apply, hinsert, hid, if_false] at h
      cases h

/-- A net is refused before anything is done, or because its name is taken. -/
theorem spawn_eq_refused {requested parent : Option NetId}
    (h : spawn owner index requested parent isGlobal n = .error (.refused e) m) :
    (m = n ∧ (requested = none → ∀ net, e ≠ .duplicateNet net)) ∨
    ∃ net ids, e = .duplicateNet net ∧ (requested = some net ∧ ids = n.process.ids ∨
      requested = none ∧ n.process.ids.draw = .ok (net, ids)) ∧
      m = { n with process := { n.process with ids } } := by
  rw [spawn_eq] at h
  rcases bind_eq_error h with hcheck | ⟨_, k, hcheck, hrest⟩
  · obtain ⟨rfl, rfl⟩ := checkWorker_eq_refused hcheck
    exact .inl ⟨rfl, fun _ _ => by simp⟩
  clear h
  obtain ⟨howner, rfl⟩ := checkWorker_eq_ok hcheck
  rw [bind_apply, getTemplate_apply] at hrest
  cases htemplate : k.process.templates[index]? with
  | none =>
    simp only [htemplate] at hrest
    cases hrest
    exact .inl ⟨rfl, fun _ _ => by simp⟩
  | some template =>
    simp only [htemplate] at hrest
    cases requested with
    | some net =>
      obtain ⟨rfl, rfl⟩ := spawnNamed_eq_refused howner hrest
      exact .inr ⟨net, m.process.ids, rfl, .inl ⟨rfl, rfl⟩, rfl⟩
    | none =>
      simp only [bind_apply, drawId_apply] at hrest
      rcases hdraw : k.process.ids.draw with e' | ⟨net, ids⟩ <;> simp only [hdraw] at hrest
      · cases hrest
        refine .inl ⟨rfl, fun _ net hdup => ?_⟩
        subst hdup
        simp only [IdSource.draw] at hdraw
        split at hdraw <;> cases hdraw
      · obtain ⟨rfl, rfl⟩ := spawnNamed_eq_refused
          (n := { k with process := { k.process with ids } }) howner hrest
        exact .inr ⟨net, ids, rfl, .inr ⟨rfl, rfl⟩, rfl⟩

end Node

/-- An endpoint that has counted one more failure. -/
def Mailbox.Link.failed (l : Mailbox.Link) : Mailbox.Link :=
  { l with endpoint := { l.endpoint with stats := l.endpoint.stats.recordFailures 1 } }

variable {target : ProcessId} {σ : Type} {n m : Node σ Mailbox.Link}

/-- A packet that the hub does not take leaves every mailbox as it is. -/
theorem Mailbox.send_eq_error {l l' : Mailbox.Link} {packet : Packet}
    {e : TransportError} (h : Transport.send l target packet = (.error e, l')) : l' = l.failed := by
  simp only [Transport.send, Mailbox.Endpoint.send] at h
  cases hroute : Mailbox.Endpoint.route l.hub l.endpoint.process target with
  | error e' =>
    simp only [hroute] at h
    cases h
    rfl
  | ok _ =>
    simp only [hroute] at h
    cases h

/-- A process that has counted one more failure of the network. -/
def Process.failed {σ : Type} (p : Process σ) : Process σ :=
  { p with stats := { p.stats with transportErrors := p.stats.transportErrors + 1 } }

/-- The process after it has drawn a name. -/
def Process.drawn {σ : Type} (p : Process σ) : Process σ :=
  { p with ids := { p.ids with drawn := p.ids.drawn + 1 } }

theorem Node.sendTokens_eq_refused
    {parcel : Parcel} (h : sendTokens target parcel n = .error (.refused e) m) :
    (m = n ∧ ∀ cause, e ≠ .transport cause) ∨
    ∃ cause, e = .transport cause ∧ m = { n with process := n.process.failed, link := n.link.failed } := by
  by_cases hlocal : target = n.process.id
  · simp only [sendTokens, bind_apply, getProcess_apply, hlocal, if_true] at h
    cases howner : n.process.registry.liveOwner? parcel.net with
    | none =>
      simp only [howner] at h
      cases h
      exact .inl ⟨rfl, fun _ => by simp⟩
    | some owner =>
      simp only [howner] at h
      rcases bind_eq_error h with hpost | ⟨_, k, -, htally⟩
      · obtain ⟨rfl, rfl⟩ := post_eq_refused hpost
        exact .inl ⟨rfl, fun _ => by simp⟩
      · cases htally
  · simp only [sendTokens, bind_apply, getProcess_apply, hlocal, if_false, attempt_apply,
      send_apply] at h
    rcases hsend : Transport.send n.link target (.ofTokens n.process.id parcel) with ⟨cause | _, link⟩ <;>
      simp only [hsend] at h
    · cases h
      exact .inr ⟨cause, rfl, Mailbox.send_eq_error hsend ▸ rfl⟩
    · cases h

namespace Operation

variable {σ : Type}

/-- The requests in which a caller asks one thing of a process. -/
def isRequest : Operation → Bool
  | spawn .. | send .. | requestFiring .. | halt .. | migrate .. => true
  | _ => false

/-- What is left of a node when it refuses a request. -/
def residue (op : Operation) (e : RuntimeError) (n : Node σ Mailbox.Link) : Node σ Mailbox.Link :=
  match op, e with
  | spawn _ _ none _ _, .duplicateNet _ => { n with process := n.process.drawn }
  | send .., .transport _ => { n with process := n.process.failed, link := n.link.failed }
  | _, _ => n

/-- A request that takes an instance away: the instance has no slot, so it goes nowhere. -/
def Strands [NetBehaviour σ] (op : Operation) (e : RuntimeError) (n m : Node σ Mailbox.Link) : Prop :=
  ∃ w net target state, op = migrate w net target ∧
    (n.process.worker w).nets.find? net = some state ∧
    n.process.registry.slot? (NetBehaviour.id state) = none ∧
    e = .unknownNet (NetBehaviour.id state) ∧ m = { n with process := n.process.without w net }

variable [NetBehaviour σ] {op : Operation} {n m : Node σ Mailbox.Link}

theorem residue_of_refused (hop : op.isRequest = true)
    (h : op.run n = .error (.refused e) m) : m = op.residue e n ∨ op.Strands e n m := by
  cases op with
  | spawn owner template requested parent isGlobal =>
    refine .inl ?_
    rcases Node.bind_eq_error h with hspawn | ⟨_, k, -, hpure⟩
    · rcases Node.spawn_eq_refused hspawn with ⟨rfl, hother⟩ |
        ⟨net, ids, rfl, ⟨rfl, rfl⟩ | ⟨rfl, hdraw⟩, rfl⟩
      · cases requested with
        | some net => rfl
        | none =>
          cases e with
          | duplicateNet net => exact absurd rfl (hother rfl net)
          | _ => rfl
      · rfl
      · simp only [IdSource.draw] at hdraw
        split at hdraw <;> cases hdraw
        rfl
    · cases hpure
  | send target parcel =>
    refine .inl ?_
    rcases Node.sendTokens_eq_refused h with ⟨rfl, hother⟩ | ⟨cause, rfl, rfl⟩
    · cases e with
      | transport cause => exact absurd rfl (hother cause)
      | _ => rfl
    · rfl
  | requestFiring net transition =>
    obtain rfl := Node.requestFiring_eq_refused h
    exact .inl rfl
  | halt requester net =>
    obtain rfl := Node.halt_eq_refused h
    exact .inl rfl
  | migrate w net target =>
    change Node.migrate w net target n = _ at h
    rcases Node.migrate_cases w net target n with ⟨e', hrun⟩ | ⟨state, e', hfound, howner, hrun⟩ |
      ⟨state, registry, -, -, -, hrun⟩ <;> rw [hrun] at h <;> cases h
    · exact .inl rfl
    · have hslot := Registry.setOwner_eq_error howner
      simp only [Registry.setOwner, hslot] at howner
      cases howner
      exact .inr ⟨w, net, target, state, rfl, hfound, hslot, rfl, rfl⟩
  | _ => cases hop

theorem residue_of_tended (hop : op.isRequest = true)
    (hn : n.process.outline.Tended) (h : op.run n = .error (.refused e) m) : m = op.residue e n := by
  refine (residue_of_refused hop h).resolve_right ?_
  rintro ⟨w, net, target, state, -, hfound, hslot, -⟩
  exact hn.slot_of_active hfound hslot

end Operation

/-- A process that refuses a request is left as it was, but for a name that was drawn in vain and a
packet that was counted as failed; only an instance that the registry has no slot for gets lost when it is
to be moved. After orderly commands, however many of them crash, there is no such instance. -/
theorem refused_request_leaves_no_trace {σ : Type} [NetBehaviour σ] [LawfulNet σ] {op : Operation}
    (hop : op.isRequest = true) {n m : Node σ Mailbox.Link} {e : RuntimeError}
    (hrefused : op.run n = .error (.refused e) m) :
    (m = op.residue e n ∨ op.Strands e n m) ∧
    ∀ (settings : Settings) (templates : List (Template σ)) (id : ProcessId) (count : Nat)
      (start : Process σ) (errands : List (Errand σ Mailbox.Link)),
      Process.create settings templates id count = .ok start →
      (∀ errand ∈ errands, errand.command.isOrderly = true) →
      n.process = errands.foldl Process.after start → m = op.residue e n := by
  refine ⟨Operation.residue_of_refused hop hrefused, ?_⟩
  intro settings templates id count start errands hcreate horderly hn
  obtain ⟨-, -, -, -, hfresh⟩ := Process.create_eq_ok hcreate
  have htended : n.process.outline.Tended := by
    rw [hn]
    exact Process.foldl_after_tended hfresh.tended horderly
  exact Operation.residue_of_tended hop htended hrefused

/-- A caller has taken the name that the process would draw first. The next request for a net is
refused, and only the name is used up. -/
theorem refused_request_leaves_no_trace_but_a_name :
    let link : Mailbox.Link := ⟨{ process := ⟨0⟩ }, ⟨[{}]⟩⟩
    let errands : List (Errand Bare Mailbox.Link) :=
      [⟨.act (.operation (.spawn ⟨0⟩ 0 (some ⟨0⟩) none false)), link, .create [], 0⟩]
    let op : Operation := .spawn ⟨0⟩ 0 none none false
    ∃ start m, Process.create ⟨1, false, 0, 0, none⟩ [Bare.template] ⟨0⟩ 1 = .ok start ∧
      op.run ⟨errands.foldl Process.after start, link, .create [], 0⟩ =
        .error (.refused (.duplicateNet ⟨0⟩)) m ∧
      m = ⟨(errands.foldl Process.after start).drawn, link, .create [], 0⟩ := by
  intro link errands op
  obtain ⟨start, hcreate, hrefusal⟩ : ∃ start : Process Bare,
      Process.create ⟨1, false, 0, 0, none⟩ [Bare.template] ⟨0⟩ 1 = .ok start ∧
      Node.refusal? op.run ⟨errands.foldl Process.after start, link, .create [], 0⟩ =
        some (.duplicateNet ⟨0⟩) := by
    refine ⟨_, rfl, ?_⟩
    cbv
  obtain ⟨m, hrefused⟩ := Node.refusal?_eq_some.mp hrefusal
  have horderly : ∀ errand ∈ errands, errand.command.isOrderly = true := by simp [errands, Command.isOrderly]
  obtain ⟨-, hruns⟩ := refused_request_leaves_no_trace rfl hrefused
  exact ⟨start, m, hcreate, hrefused, hruns _ _ _ _ start errands hcreate horderly rfl⟩

/-- Worker 1 is told by hand to release a net that worker 0 has active. When the net halts, worker 1
releases it first; then worker 0 is asked to move the instance, refuses, and has it no more. -/
theorem refused_move_strands_an_instance :
    let link : Mailbox.Link := ⟨{ process := ⟨0⟩ }, ⟨[{}]⟩⟩
    let commands : List (Command Bare) := [.act (.operation (.spawn ⟨0⟩ 0 none none false)),
      .act (.operation (.processMessages ⟨0⟩)), .noteStopped ⟨0⟩ ⟨1⟩ none,
      .act (.operation (.halt ⟨0⟩ ⟨0⟩)), .act (.operation (.processMessages ⟨1⟩))]
    let errands : List (Errand Bare Mailbox.Link) :=
      commands.map fun command => ⟨command, link, .create [], 0⟩
    ∃ start m, Process.create ⟨2, false, 0, 0, none⟩ [Bare.template] ⟨0⟩ 1 = .ok start ∧
      ((errands.foldl Process.after start).worker ⟨0⟩).nets.keys = [⟨0⟩] ∧
      (Operation.migrate ⟨0⟩ ⟨0⟩ ⟨1⟩).run ⟨errands.foldl Process.after start, link, .create [], 0⟩ =
        .error (.refused (.unknownNet ⟨0⟩)) m ∧
      (m.process.worker ⟨0⟩).nets.keys = [] := by
  intro link commands errands
  obtain ⟨start, hcreate, hkeys, hrefusal, hafter⟩ : ∃ start : Process Bare,
      Process.create ⟨2, false, 0, 0, none⟩ [Bare.template] ⟨0⟩ 1 = .ok start ∧
      ((errands.foldl Process.after start).worker ⟨0⟩).nets.keys = [⟨0⟩] ∧
      Node.refusal? (Operation.migrate ⟨0⟩ ⟨0⟩ ⟨1⟩).run
        (⟨errands.foldl Process.after start, link, .create [], 0⟩ : Node Bare Mailbox.Link) =
        some (.unknownNet ⟨0⟩) ∧
      ((Node.final ((Operation.migrate ⟨0⟩ ⟨0⟩ ⟨1⟩).run (⟨errands.foldl Process.after start, link,
        .create [], 0⟩ : Node Bare Mailbox.Link))).process.worker ⟨0⟩).nets.keys = [] := by
    refine ⟨_, rfl, ?_, ?_, ?_⟩ <;> cbv
  obtain ⟨m, hrefused⟩ := Node.refusal?_eq_some.mp hrefusal
  rw [hrefused] at hafter
  exact ⟨start, m, hcreate, hkeys, hrefused, hafter⟩

end PetriCluster
