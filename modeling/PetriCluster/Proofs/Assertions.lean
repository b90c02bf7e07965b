import PetriCluster.Proofs.Forums
import PetriCluster.Proofs.Retirement
import Mathlib

/-!
# The assertions of the runtime hold

The runtime asserts four things: an instance that a worker takes over has a slot, a message is for a
net that the process has or had, no more work is finished than was taken on, and an instance has the
name it was made for.
-/

namespace PetriCluster

variable {owner : WorkerId} {registry : Registry} {isGlobal : Bool}

/-- Whether the crash is the failure of an assertion about slots, names and obligations. -/
def Crash.isAssertion : Crash → Bool
  | adoptedWithoutSlot _ | strayMessage .. | obligationUnderflow | foreignInstance => true
  | _ => false

/-- The item is about the net of the given name. -/
def WorkItem.isAbout {σ : Type} [NetBehaviour σ] (net : NetId) (item : WorkItem σ) : Bool :=
  decide (item.net? = some net)

namespace Registry

variable {r r' r'' : Registry} {net : NetId} {since : Nat}

/-- A registry that becomes another stays healthy and remembers what it did. -/
structure Retains (r r' : Registry) : Prop where
  healthy : r'.Healthy
  remembers : ∀ {since net}, r.Remembers since net → r'.Remembers since net

theorem Healthy.retains_refl (hr : r.Healthy) : r.Retains r := ⟨hr, id⟩

theorem Healthy.retains_changes (hr : r.Healthy) (h : r.Changes r') : r.Retains r' :=
  ⟨hr.changes h, .changes hr h⟩

theorem Healthy.retains_insert (hr : r.Healthy) {template : Nat} {parent : Option NetId}
    (h : r.insert net template owner parent isGlobal = .ok r') : r.Retains r' :=
  ⟨hr.insert h, (·.insert h)⟩

theorem remembers_of_slot {slot : Slot} (h : r.slot? net = some slot) : r.Remembers 0 net :=
  .inl ⟨by simp [h], Nat.zero_le _⟩

end Registry

namespace Scene

variable {σ : Type} [NetBehaviour σ] {s t : Scene σ} {net m : NetId} {w : WorkerId}
  {item : WorkItem σ} {rest : List (WorkItem σ)} {ws : List Wire} {events : List TokenEvent}
  {naming open_ : Prop} {c : Crash}

/-! ## Items are about nets that are remembered -/

/-- The registry is healthy and remembers every net that an item is about. -/
structure Familiar (s : Scene σ) : Prop where
  healthy : s.registry.Healthy
  known : ∀ net, s.count (WorkItem.isAbout net) ≠ 0 → s.registry.Remembers 0 net

namespace Familiar

section

variable (h : s.Familiar)

include h

theorem mono (hregistry : s.registry.Retains t.registry)
    (hcount : ∀ f, t.count f ≤ s.count f) : t.Familiar where
  healthy := hregistry.healthy
  known net hne := by
    have hle := hcount (WorkItem.isAbout net)
    exact hregistry.remembers (h.known net (by omega))

theorem of_eq (hregistry : t.registry = s.registry) (hcount : t.count = s.count) :
    t.Familiar :=
  h.mono (hregistry ▸ h.healthy.retains_refl) fun f => (congrFun hcount f).le

theorem setRegistry (hretains : s.registry.Retains registry) :
    (s.setRegistry registry).Familiar :=
  h.mono hretains fun _ => Nat.le_refl _

theorem post (hw : s.HasWorker w)
    (hitem : ∀ net, item.net? = some net → s.registry.Remembers 0 net) : (s.post w item).Familiar where
  healthy := h.healthy
  known net hne := by
    by_cases habout : item.net? = some net
    · exact hitem net habout
    · refine h.known net fun hzero => hne ?_
      simp [count_post hw, hzero, WorkItem.isAbout, habout]

theorem finish (hhand : s.hand = item :: rest) : (s.finish item rest).Familiar :=
  h.mono h.healthy.retains_refl fun f => by have := count_finish hhand f; omega

theorem letGo : s.letGo.Familiar :=
  h.mono h.healthy.retains_refl fun f => by simp [count]

theorem countAck (hs : s.Sound) (m : NetId) : (s.countAck m).Familiar := by
  unfold Scene.countAck
  rcases hack : s.registry.acknowledge m with e | ⟨outcome, registry⟩
  · exact h
  · have hset := h.setRegistry (h.healthy.retains_changes (.acknowledge hack))
    cases outcome with
    | waiting => exact hset
    | complete owner =>
      obtain ⟨slot, hslot, -, -, houtcome, hupdate⟩ := Registry.acknowledge_eq_ok hack
      obtain rfl : owner = slot.owner := by
        split at houtcome <;> cases houtcome
        rfl
      refine hset.post (hs.owner_valid m slot hslot) ?_
      rintro _ ⟨⟩
      exact Registry.remembers_of_slot (by rw [setRegistry_registry, hupdate, Function.update_self])

theorem excuse (hs : s.Sound) (m : NetId) (count : Nat) :
    (s.excuse m count).Familiar := by
  induction count generalizing s with
  | zero => exact h
  | succ count ih => exact ih (h.countAck hs m) (hs.countAck m)

theorem spawn {index : Nat} {parent : Option NetId} {made : σ}
    (howner : s.HasWorker owner)
    (hinsert : s.registry.insert m index owner parent isGlobal = .ok registry)
    (hid : NetBehaviour.id made = m) :
    ((s.setRegistry registry).post owner (.adopt made)).Familiar := by
  refine (h.setRegistry (h.healthy.retains_insert hinsert)).post howner ?_
  rintro _ ⟨⟩
  obtain ⟨-, hupdate⟩ := Registry.insert_eq_ok hinsert
  exact Registry.remembers_of_slot (by rw [setRegistry_registry, hupdate, hid, Function.update_self])

theorem beginHalt (hs : s.Sound) {origin : Option ProcessId}
    (hbegin : s.registry.beginHalt m = .ok (.started owner isGlobal, registry)) :
    ((s.setRegistry registry).post owner (.halt m origin)).Familiar := by
  obtain ⟨slot, hslot, rfl, -, -, hupdate⟩ := Registry.beginHalt_eq_started hbegin
  refine (h.setRegistry (h.healthy.retains_changes (.beginHalt hbegin))).post
    (hs.owner_valid m slot hslot) ?_
  rintro _ ⟨⟩
  exact Registry.remembers_of_slot (by rw [setRegistry_registry, hupdate, Function.update_self])

theorem postLive (hs : s.Sound) (howner : s.registry.liveOwner? m = some owner)
    (hitem : item.net? = some m) : (s.post owner item).Familiar := by
  obtain ⟨slot, hslot, -, rfl⟩ := Registry.liveOwner?_eq_some.mp howner
  refine h.post (hs.owner_valid _ slot hslot) ?_
  rintro net hnet
  rw [hitem] at hnet
  cases hnet
  exact Registry.remembers_of_slot hslot

end

end Familiar

theorem Asks.familiar (h : Asks naming s ws events t) (hs : s.Sound) (hf : s.Familiar) :
    t.Familiar := by
  cases h with
  | sendLocal howner => exact hf.postLive hs howner rfl
  | sendRemote | sendRefused | draw => exact hf.of_eq rfl rfl
  | spawn howner hinsert hid =>
    exact (hf.spawn howner hinsert hid).of_eq rfl rfl
  | halt hbegin => exact hf.beginHalt hs hbegin

/-- Taking a packet in makes no item about a net that is not remembered. -/
theorem Takes.familiar {packet : Packet} (h : Takes s packet ws events t) (hs : s.Sound)
    (hf : s.Familiar) : t.Familiar := by
  cases h with
  | @tokens parcel owner _ howner =>
    have hposted : (s.post owner (.tokens parcel)).Familiar := hf.postLive hs howner rfl
    exact hposted.of_eq rfl rfl
  | spawned _ howner hinsert hid =>
    exact (hf.spawn howner hinsert hid).of_eq rfl rfl
  | halted _ hbegin => exact hf.beginHalt hs hbegin
  | haltAck => exact hf.countAck hs _
  | lateTokens | badTokens | spawnRefused | haltedBefore | quit | ignored | probe | reply =>
    exact hf.of_eq rfl rfl

/-- Dealing with an item makes none about a net that is not remembered. -/
theorem Deals.familiar (h : Deals s item ws events t) (hhand : s.hand = item :: rest) (hs : s.Sound)
    (hb : ∀ net, s.Backed net) (hf : s.Familiar) : (t.finish item rest).Familiar := by
  have hworker : s.HasWorker s.worker := hs.hand_valid (by simp [hhand])
  -- An instance that stops has a slot, so the item that releases it is about a net that has one.
  have hstopped {m : NetId} {state : σ} (hactive : s.active s.worker m = some state) :
      ((s.stop s.worker m state).post s.worker (.reclaim m)).Familiar := by
    obtain ⟨slot, hslot, -⟩ := (hb m).slot_of_active hactive
    have hstop : (s.stop s.worker m state).Familiar := hf.of_eq rfl rfl
    refine hstop.post hworker ?_
    rintro _ ⟨⟩
    exact Registry.remembers_of_slot hslot
  cases h with
  | adopt hactivate =>
    have hset := hf.setRegistry (hf.healthy.retains_changes (.activate hactivate))
    exact .finish (hset.of_eq rfl rfl) hhand
  | hand => exact .finish (hf.of_eq rfl rfl) hhand
  | reroute hnet _ _ _ _ howner =>
    obtain ⟨slot, hslot, rfl⟩ := Registry.owner?_eq_some.mp howner
    refine (hf.post (hs.owner_valid _ slot hslot) ?_).finish hhand
    rintro m hm
    rw [hnet] at hm
    cases hm
    exact Registry.remembers_of_slot hslot
  | drop | dropHalt | fired | log => exact hf.finish hhand
  | stopForgotten => exact .finish (hf.of_eq rfl rfl) hhand
  | stopCopy hactive | stopLocal hactive => exact (hstopped hactive).finish (hand_stop_post _ _ _ hhand)
  | @stopGlobal m state registry _ hactive _ hexpect =>
    obtain ⟨slot, hslot, -, hupdate⟩ := Registry.expectAcks_eq_ok hexpect
    have hset := hf.setRegistry (hf.healthy.retains_changes (.expectAcks hexpect))
    have hstop : ((s.setRegistry registry).stop s.worker m state).Familiar :=
      hset.of_eq rfl rfl
    have hsound := (hs.setSlot hupdate (hs.owner_valid m slot hslot)).stop s.worker m state
    exact (hstop.excuse hsound m _).finish (by rw [excuse_hand]; exact hhand)
  | reclaim hretire =>
    have hset := hf.setRegistry (hf.healthy.retains_changes (.retire hretire))
    exact .finish (hset.of_eq rfl rfl) hhand
  | reclaimRefused => exact .finish (hf.of_eq rfl rfl) hhand

/-- One step: items stay about nets that are remembered. -/
theorem Step.familiar (h : Step naming open_ s ws events t) (hs : s.Sound)
    (hb : ∀ net, s.Backed net) (hf : s.Familiar) : t.Familiar := by
  cases h with
  | rest => exact hf
  | turn | quit | probe | store | migrateLost => exact hf.of_eq rfl rfl
  | ask _ h => exact h.familiar hs hf
  | take h => exact h.familiar hs hf
  | drain hhand => exact hf.of_eq rfl (funext (count_drain hhand))
  | deal hhand h => exact h.familiar hhand hs hb hf
  | requestFiring _ howner => exact hf.postLive hs howner rfl
  | @migrate w target m state registry _ _ htarget howner =>
    obtain ⟨slot, hslot, hupdate⟩ := Registry.setOwner_eq_ok howner
    have hset := hf.setRegistry (hf.healthy.retains_changes (.setOwner howner))
    have hmoved : ((s.setRegistry registry).setActive w m none).Familiar :=
      hset.of_eq rfl rfl
    refine hmoved.post htarget ?_
    rintro _ ⟨⟩
    exact Registry.remembers_of_slot
      (by rw [setActive_registry, setRegistry_registry, hupdate, Function.update_self])

theorem Wreck.familiar (h : Wreck naming open_ c s ws t) (hf : s.Familiar) : t.Familiar := by
  cases h with
  | lost => exact hf.letGo
  | handed | overflow => exact .letGo (hf.of_eq rfl rfl)
  | misfit _ _ hinsert | misfitCopy _ _ hinsert =>
    have hset := hf.setRegistry (hf.healthy.retains_insert hinsert)
    exact .letGo (hset.of_eq rfl rfl)

/-! ## Nothing is stuck -/

theorem Step.templates_eq (h : Step naming open_ s ws events t) : t.templates = s.templates := by
  have hexcuse (s : Scene σ) (m : NetId) (count : Nat) : (s.excuse m count).templates = s.templates := by
    obtain ⟨registry, inboxes, obligations, heq⟩ := s.excuse_eq m count
    rw [heq]
  cases h with
  | ask _ h => cases h <;> rfl
  | take h =>
    cases h with
    | haltAck => exact hexcuse s _ 1
    | _ => rfl
  | deal _ h =>
    cases h with
    | stopGlobal => exact hexcuse ..
    | stopCopy | stopLocal => rw [finish_templates, post_templates, stop_templates]
    | _ => rfl
  | _ => rfl

theorem Wreck.templates_eq (h : Wreck naming open_ c s ws t) : t.templates = s.templates := by
  cases h <;> rfl

theorem Wreck.named [LawfulNet σ] (h : Wreck naming open_ c s ws t) (hn : s.Named) : t.Named := by
  cases h with
  | @handed _ parcel state after _ hactive hreceive =>
    have hid := LawfulNet.id_receive state parcel.place parcel.batch
    rw [hreceive] at hid
    refine Named.of_eq (hn.setActive fun made hmade => ?_) rfl rfl
    cases hmade
    exact hid.trans (hn.active _ _ _ hactive)
  | _ => exact hn.of_eq rfl rfl

/-- Every instance has its name and a slot, templates make what they are asked for, and items are about
nets that are known. -/
structure Upright (s : Scene σ) : Prop where
  sound : s.Sound
  named : s.Named
  backed : ∀ net, s.Backed net
  familiar : s.Familiar
  faithful : ¬ s.Misnames

theorem Upright.goes [LawfulNet σ] (h : s.Upright) (hgoes : (steps naming open_).Goes s ws events t) :
    t.Upright := by
  cases hgoes with
  | step hstep =>
    have hstep : Step naming open_ s ws events t := hstep
    refine ⟨hstep.sound h.sound, hstep.named h.named,
      fun net => hstep.backed h.sound (fun _ => h.named) (h.backed net),
      hstep.familiar h.sound h.backed h.familiar, ?_⟩
    rw [Misnames, hstep.templates_eq]
    exact h.faithful
  | wreck hwreck =>
    have hwreck : Wreck naming open_ _ s ws t := hwreck
    refine ⟨hwreck.sound h.sound, hwreck.named h.named, fun net => hwreck.backed (h.backed net),
      hwreck.familiar h.familiar, ?_⟩
    rw [Misnames, hwreck.templates_eq]
    exact h.faithful

/-- A whole run, crashes included, keeps a scene upright. -/
theorem Upright.along [LawfulNet σ] {τ : Type} [Transport τ] {l k : τ} (h : s.Upright)
    (hpath : (steps naming open_).crashing.Path s l events t k) : t.Upright := by
  induction hpath with
  | nil => exact h
  | cons hgoes _ _ ih => exact ih (h.goes hgoes)

theorem Upright.not_stuck (h : s.Upright) (hretired : s.registry.retiredCount ≤ Registry.retiredWindow)
    (hstuck : s.Stuck c) : NetBehaviour.CanCrash σ c := by
  obtain ⟨item, rest, left, hhand, hfails⟩ := hstuck
  have hcount {f : WorkItem σ → Bool} (hf : f item = true) : s.count f ≠ 0 := by
    simp [count, hhand, hf]
  cases hfails with
  | orphan hslot =>
    obtain ⟨-, hadopts, -⟩ := (h.backed _).absent hslot
    exact absurd hadopts (hcount (by simp [WorkItem.isAdoptOf]))
  | @stray _ net hnet _ hstate =>
    have hremembers := h.familiar.known net (hcount (by simp [WorkItem.isAbout, hnet]))
    have hforgotten := hremembers.known h.familiar.healthy hstate
    omega
  | broken _ hreceive => exact .inl ⟨_, _, _, _, hreceive⟩

theorem Upright.wreck (h : s.Upright) (hwreck : Wreck naming open_ c s ws t)
    (hretired : t.registry.retiredCount ≤ Registry.retiredWindow) (hc : c.isAssertion = true) :
    NetBehaviour.CanCrash σ c := by
  cases hwreck with
  | lost hwhy => exact hwhy.elim (h.not_stuck hretired) fun hcrash => hcrash
  | handed _ hreceive => exact .inl ⟨_, _, _, _, hreceive⟩
  | misfit _ _ _ _ hmisnames | misfitCopy _ _ _ hmisnames => exact absurd hmisnames h.faithful
  | overflow _ _ hreply =>
    rw [Termination.onReply_eq_error hreply] at hc
    cases hc

theorem Fresh.upright (h : s.Fresh) (hhealthy : s.registry.Healthy) (hfaithful : ¬ s.Misnames) :
    s.Upright where
  sound := h.sound
  named := h.named
  backed net := ⟨fun _ => ⟨(h.active · net), h.count _, h.count _⟩, fun slot hslot => by
    simp [h.slots] at hslot⟩
  familiar := ⟨hhealthy, fun net hne => absurd (h.count _) hne⟩
  faithful := hfaithful

end Scene

/-! ## Runs that go on after crashes -/

namespace Process

variable {σ τ : Type} [NetBehaviour σ] [Transport τ]

/-- What a call comes to. -/
def answer (p : Process σ) (call : Call τ) : EStateM.Result Fault (Node σ τ) Unit :=
  call.operation.run ⟨p, call.link, call.storage, call.now⟩

/-- The crashes on the way through calls, each with what it has left of the process. -/
def crashes (p : Process σ) : List (Call τ) → List (Crash × Process σ)
  | [] => []
  | call :: rest =>
    match p.answer call with
    | .error (.crashed c) n => (c, n.process) :: n.process.crashes rest
    | .ok _ n | .error (.refused _) n => n.process.crashes rest

open Rules Scene

variable [LawfulNet σ] {p : Process σ}

theorem upright_turn {w : WorkerId} (h : (p.scene w []).Upright) (v : WorkerId) :
    (p.scene v []).Upright := by
  have hturn : Step True True (p.scene w []) [] [] (p.scene v []) := Step.turn v rfl
  exact h.goes (.step hturn)

omit [LawfulNet σ] in
theorem answer_follows {call : Call τ} (h : (p.scene call.operation.worker []).Upright) :
    let n : Node σ τ := ⟨p, call.link, call.storage, call.now⟩
    (steps True True).Follows True call.operation.worker [] [] n (call.operation.events n)
      (p.answer call) :=
  call.operation.follows (fun _ => trivial) (fun _ => trivial) h.sound

theorem upright_final (h : p.outline.Upright) (call : Call τ) :
    (Node.final (p.answer call)).process.outline.Upright := by
  have hturned := upright_turn h call.operation.worker
  obtain ⟨events, hpath⟩ := (answer_follows hturned).final
  exact upright_turn (hturned.along hpath) ⟨0⟩

theorem upright_crash (h : p.outline.Upright) {call : Call τ} {c : Crash} {n : Node σ τ}
    (hcrash : p.answer call = .error (.crashed c) n)
    (hretired : n.process.registry.retiredCount ≤ Registry.retiredWindow)
    (hc : c.isAssertion = true) : NetBehaviour.CanCrash σ c := by
  have hturned := upright_turn h call.operation.worker
  have hfollows := answer_follows hturned
  rw [hcrash] at hfollows
  obtain ⟨earlier, t, k, ws, hpath, hwreck, -⟩ := hfollows
  exact (hturned.along hpath.crashing).wreck hwreck hretired hc

/-- The run: whatever is asked of a process in order, and whether it crashes on the way or not, no
assertion fails. -/
theorem upright_crashes (h : p.outline.Upright) {calls : List (Call τ)} {c : Crash} {q : Process σ}
    (hmem : (c, q) ∈ p.crashes calls)
    (hretired : q.registry.retiredCount ≤ Registry.retiredWindow) (hc : c.isAssertion = true) :
    NetBehaviour.CanCrash σ c := by
  induction calls generalizing p with
  | nil => cases hmem
  | cons call rest ih =>
    have hnext := upright_final h call
    rw [crashes] at hmem
    split at hmem
    · rename_i c' n hrun
      rw [hrun] at hnext
      rcases List.mem_cons.mp hmem with heq | hmem
      · cases heq
        exact upright_crash h hrun hretired hc
      · exact ih hnext hmem
    all_goals
      rename_i hrun
      rw [hrun] at hnext
      exact ih hnext hmem

end Process

variable {σ τ : Type} [NetBehaviour σ] [Transport τ]

/-- Whatever callers and schedulers ask of a process and whatever packets arrive, and also after crashes:
as long as the process has not retired more nets than its registry remembers, no crash is that an instance
was taken over without a slot, that a message was for an unknown net, that more was finished than taken on,
or that an instance had a foreign name, unless a net makes it its own. Instances have the names they were
made for and keep them. -/
theorem assertions_hold [LawfulNet σ] {settings : Settings} {templates : List (Template σ)}
    {id : ProcessId} {count : Nat} {p : Process σ}
    (hcreate : Process.create settings templates id count = .ok p)
    (htemplates : ∀ template ∈ templates, ∀ context, NetBehaviour.id (template.create context) = context.net)
    (calls : List (Call τ)) {c : Crash} {q : Process σ} (hcrash : (c, q) ∈ p.crashes calls)
    (hretired : q.registry.retiredCount ≤ Registry.retiredWindow) (hc : c.isAssertion = true) :
    NetBehaviour.CanCrash σ c := by
  obtain ⟨-, -, -, -, hfresh⟩ := Process.create_eq_ok hcreate
  have hfront := Process.front_create hcreate
  have hregistry : p.registry = .create Registry.retiredWindow := congrArg Front.registry hfront
  have hsame : p.templates = templates := congrArg Front.templates hfront
  have hfaithful : ¬ p.outline.Misnames := by
    rintro ⟨template, hmem, context, hne⟩
    exact hne (htemplates template (hsame ▸ hmem) context)
  have hhealthy : p.registry.Healthy := by
    rw [hregistry]
    exact Registry.healthy_create
  have hupright := hfresh.upright hhealthy hfaithful
  exact Process.upright_crashes hupright hcrash hretired hc

/-- Tokens wait for a worker while their net is moved to another one, halts there and is retired: the
worker then drops them, and nothing crashes. -/
theorem assertions_hold_for_late_tokens :
    let link : Mailbox.Link := ⟨{ process := ⟨0⟩ }, ⟨[{}]⟩⟩
    let call (operation : Operation) : Call Mailbox.Link := ⟨operation, link, .create [], 0⟩
    let calls := [call (.spawn ⟨0⟩ 0 none none false), call (.processMessages ⟨0⟩),
      call (.send ⟨0⟩ ⟨0, ⟨0⟩, ⟨1, []⟩⟩), call (.migrate ⟨0⟩ ⟨0⟩ ⟨1⟩), call (.processMessages ⟨1⟩),
      call (.halt ⟨0⟩ ⟨0⟩), call (.processMessages ⟨1⟩), call (.processMessages ⟨1⟩),
      call (.processMessages ⟨0⟩)]
    ∃ p q : Process Bare, Process.create ⟨2, false, 0, 0, none⟩ [Bare.template] ⟨0⟩ 1 = .ok p ∧
      p.follow? calls = some q ∧ q.registry.retiredCount = 1 ∧ (q.worker ⟨0⟩).stats.dropped = 1 ∧
      ∀ c q, (c, q) ∈ p.crashes calls → q.registry.retiredCount ≤ Registry.retiredWindow →
        c.isAssertion = true → NetBehaviour.CanCrash Bare c := by
  intro link call calls
  obtain ⟨p, hcreate, hcalls⟩ : ∃ p : Process Bare,
      Process.create ⟨2, false, 0, 0, none⟩ [Bare.template] ⟨0⟩ 1 = .ok p ∧
      (p.follow? calls).map (fun q => (q.registry.retiredCount, (q.worker ⟨0⟩).stats.dropped)) =
        some (1, 1) := by
    refine ⟨_, rfl, ?_⟩
    cbv
  obtain ⟨q, hq, hcounts⟩ := Option.map_eq_some_iff.mp hcalls
  obtain ⟨hretired, hdropped⟩ := Prod.mk.inj hcounts
  have htemplates : ∀ template ∈ [Bare.template], ∀ context,
      NetBehaviour.id (template.create context) = context.net := by
    intro template hmem context
    rw [List.mem_singleton.mp hmem]
    rfl
  exact ⟨p, q, hcreate, hq, hretired, hdropped, fun c q hcrash hfew hc =>
    assertions_hold hcreate htemplates calls hcrash hfew hc⟩

end PetriCluster
