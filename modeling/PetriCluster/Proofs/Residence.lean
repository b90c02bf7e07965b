import PetriCluster.Proofs.Items
import PetriCluster.Proofs.Names
import Mathlib.Tactic.Set

/-!
# Where an instance is

Every slot of a registry stands for one instance, and the instance is in one place: it waits in the
inbox of its owner, or its owner has it active, or its owner has stopped it. How far the halt of a net
has come shows in the same numbers: a net that is to stop has one item that says so, and a net that
has been stopped either waits for acknowledgments or has one item that releases it.
-/

namespace PetriCluster

variable {registry : Registry} {w : WorkerId} {origin : Option ProcessId} {m : NetId} {slot : Slot}
  {halts : Nat}

namespace WorkItem

variable {σ : Type} [NetBehaviour σ]

/-- The item hands an instance of the given name over. -/
def isAdoptOf (net : NetId) : WorkItem σ → Bool
  | adopt made => decide (NetBehaviour.id made = net)
  | _ => false

/-- The item stops the net. -/
def isHaltOf (net : NetId) : WorkItem σ → Bool
  | halt m _ => decide (m = net)
  | _ => false

/-- The item releases the net of the given name. -/
def isReclaimOf (net : NetId) : WorkItem σ → Bool
  | reclaim m => decide (m = net)
  | _ => false

/-- The item belongs to the life of the net of the given name. -/
def concerns (net : NetId) : WorkItem σ → Bool
  | adopt made => decide (NetBehaviour.id made = net)
  | halt m _ | reclaim m => decide (m = net)
  | _ => false

variable {net : NetId} {item : WorkItem σ}

theorem concerns_of_isAdoptOf (h : item.isAdoptOf net = true) : item.concerns net = true := by
  cases item <;> simp_all [isAdoptOf, concerns]

theorem concerns_of_isHaltOf (h : item.isHaltOf net = true) : item.concerns net = true := by
  cases item <;> simp_all [isHaltOf, concerns]

theorem concerns_of_isReclaimOf (h : item.isReclaimOf net = true) : item.concerns net = true := by
  cases item <;> simp_all [isReclaimOf, concerns]

/-- A kind of items that belong to the life of a net leaves all others out. -/
theorem eq_false_of_concerns {f : WorkItem σ → Bool}
    (hf : ∀ item, f item = true → item.concerns net = true) (hitem : item.concerns net = false) :
    f item = false := by
  by_contra hne
  simp [hf item (by simpa using hne)] at hitem

end WorkItem

namespace Scene

variable {σ : Type} {s t u : Scene σ} {net : NetId}
variable {rest : List (WorkItem σ)} {state made : σ} {item : WorkItem σ}

/-- Nothing that belongs to the life of a net differs between two scenes. -/
structure Alike [NetBehaviour σ] (s t : Scene σ) (net : NetId) : Prop where
  slot : t.registry.slot? net = s.registry.slot? net
  active : ∀ w, (t.active w net).isSome = (s.active w net).isSome
  halting : ∀ w, (t.halting w net).isSome = (s.halting w net).isSome
  count : ∀ f, (∀ item, f item = true → item.concerns net = true) → t.count f = s.count f
  countAt : ∀ w f, (∀ item, f item = true → item.isAdoptOf net = true ∨ item.isReclaimOf net = true) →
    t.countAt w f = s.countAt w f

namespace Alike

variable [NetBehaviour σ]

theorem refl (s : Scene σ) (net : NetId) : Alike s s net :=
  ⟨rfl, fun _ => rfl, fun _ => rfl, fun _ _ => rfl, fun _ _ _ => rfl⟩

theorem of_eq (hregistry : t.registry = s.registry) (hactive : t.active = s.active)
    (hhalting : t.halting = s.halting) (hinboxes : t.inboxes = s.inboxes) (hhand : t.hand = s.hand)
    (hworker : t.worker = s.worker) : Alike s t net where
  slot := by rw [hregistry]
  active _ := by rw [hactive]
  halting _ := by rw [hhalting]
  count f _ := by simp only [Scene.count, hinboxes, hhand]
  countAt w f _ := by simp only [countAt_eq, inbox, hinboxes, hhand, hworker]

theorem trans (h : Alike s t net) (h' : Alike t u net) : Alike s u net where
  slot := h'.slot.trans h.slot
  active w := (h'.active w).trans (h.active w)
  halting w := (h'.halting w).trans (h.halting w)
  count f hf := (h'.count f hf).trans (h.count f hf)
  countAt w f hf := (h'.countAt w f hf).trans (h.countAt w f hf)

theorem post (hw : s.HasWorker w) (hitem : item.concerns net = false) :
    Alike s (s.post w item) net where
  slot := rfl
  active _ := rfl
  halting _ := rfl
  count f hf := by
    simp [count_post hw, WorkItem.eq_false_of_concerns hf hitem]
  countAt v f hf := by
    have hf' item (h : f item = true) : item.concerns net = true :=
      (hf item h).elim WorkItem.concerns_of_isAdoptOf WorkItem.concerns_of_isReclaimOf
    simp [countAt_post hw, WorkItem.eq_false_of_concerns hf' hitem]

theorem finish (hhand : s.hand = item :: rest) (hitem : item.concerns net = false) :
    Alike s (s.finish item rest) net where
  slot := rfl
  active _ := rfl
  halting _ := rfl
  count f hf := by
    simpa [WorkItem.eq_false_of_concerns hf hitem] using count_finish hhand f
  countAt v f hf := by
    have hf' item (h : f item = true) : item.concerns net = true :=
      (hf item h).elim WorkItem.concerns_of_isAdoptOf WorkItem.concerns_of_isReclaimOf
    simpa [WorkItem.eq_false_of_concerns hf' hitem] using countAt_finish hhand v f

theorem requeue (hw : s.HasWorker w) (hhand : s.hand = item :: rest)
    (hadopt : item.isAdoptOf net = false) (hreclaim : item.isReclaimOf net = false) :
    Alike s ((s.post w item).finish item rest) net where
  slot := rfl
  active _ := rfl
  halting _ := rfl
  count f _ := by
    have hpost := count_post hw item f
    have hfinish := count_finish (s := s.post w item) hhand f
    omega
  countAt v f hf := by
    have hfalse : f item = false := by
      by_contra hne
      have h := hf item (by simpa using hne)
      simp [hadopt, hreclaim] at h
    have hpost := countAt_post hw v item f
    have hfinish := countAt_finish (s := s.post w item) hhand v f
    simp only [hfalse, Bool.false_eq_true, and_false, if_false, Nat.add_zero] at hpost hfinish
    omega

theorem setSlot {slot : Option Slot} (h : registry.slot? = Function.update s.registry.slot? m slot)
    (hm : m ≠ net) : Alike s (s.setRegistry registry) net where
  slot := by
    rw [setRegistry_registry, h, Function.update_of_ne (Ne.symm hm)]
  active _ := rfl
  halting _ := rfl
  count _ _ := rfl
  countAt _ _ _ := rfl

theorem setActive {state : Option σ} (h : m = net → state.isSome = (s.active w net).isSome) :
    Alike s (s.setActive w m state) net where
  slot := rfl
  active v := by
    by_cases hv : v = w
    · subst hv
      by_cases hm : m = net
      · subst hm
        simp [Scene.setActive, h rfl]
      · simp [Scene.setActive, Function.update_of_ne (Ne.symm hm)]
    · simp [Scene.setActive, Function.update_of_ne hv]
  halting _ := rfl
  count _ _ := rfl
  countAt _ _ _ := rfl

theorem setHalting {state : Option σ} (hm : m ≠ net) : Alike s (s.setHalting w m state) net where
  slot := rfl
  active _ := rfl
  halting v := by
    by_cases hv : v = w
    · subst hv
      simp [Scene.setHalting, Function.update_of_ne (Ne.symm hm)]
    · simp [Scene.setHalting, Function.update_of_ne hv]
  count _ _ := rfl
  countAt _ _ _ := rfl

theorem turnTo (hhand : s.hand = []) (w : WorkerId) : Alike s (s.turnTo w) net where
  slot := rfl
  active _ := rfl
  halting _ := rfl
  count _ _ := rfl
  countAt v f _ := countAt_turnTo hhand w v f

theorem drain (hhand : s.hand = []) : Alike s s.drain net where
  slot := rfl
  active _ := rfl
  halting _ := rfl
  count f _ := count_drain hhand f
  countAt v f _ := countAt_drain hhand v f

end Alike

/-- One or none. -/
def held (o : Option σ) : Nat := o.isSome.toNat

/-- How far the life of a net is, in numbers: the instances of the name that wait in inboxes and those
that are active, the items that stop it, the instances that are stopped, the items that release it,
and the acknowledgments it waits for. -/
inductive Stage (state : NetState) (adopts active halts halting reclaims acks : Nat) : Prop
  | spawned : state = .spawned → adopts = 1 → active = 0 → halts = 0 → halting = 0 → reclaims = 0 →
      acks = 0 → Stage state adopts active halts halting reclaims acks
  | active : state = .active → adopts + active = 1 → halts = 0 → halting = 0 → reclaims = 0 →
      acks = 0 → Stage state adopts active halts halting reclaims acks
  | stopping : state = .halting → adopts + active = 1 → halts = 1 → halting = 0 → reclaims = 0 →
      acks = 0 → Stage state adopts active halts halting reclaims acks
  | stopped : state = .halting → adopts = 0 → active = 0 → halts = 0 → halting = 1 →
      (reclaims = 1 ∧ acks = 0 ∨ reclaims = 0 ∧ 0 < acks) →
      Stage state adopts active halts halting reclaims acks

variable [NetBehaviour σ]

/-- The instance of a slot is with the owner and nowhere else, if so many items stop the net. -/
structure Resides (s : Scene σ) (net : NetId) (slot : Slot) (halts : Nat) : Prop where
  active_elsewhere : ∀ w, w ≠ slot.owner → s.active w net = none
  halting_elsewhere : ∀ w, w ≠ slot.owner → s.halting w net = none
  adopts : s.count (WorkItem.isAdoptOf net) = s.countAt slot.owner (WorkItem.isAdoptOf net)
  reclaims : s.count (WorkItem.isReclaimOf net) = s.countAt slot.owner (WorkItem.isReclaimOf net)
  stage : Stage slot.state (s.count (WorkItem.isAdoptOf net)) (held (s.active slot.owner net)) halts
    (held (s.halting slot.owner net)) (s.count (WorkItem.isReclaimOf net)) slot.pendingAcks

/-- There is nothing of a net. -/
structure Absent (s : Scene σ) (net : NetId) : Prop where
  active : ∀ w, s.active w net = none
  halting : ∀ w, s.halting w net = none
  adopts : s.count (WorkItem.isAdoptOf net) = 0
  halts : s.count (WorkItem.isHaltOf net) = 0
  reclaims : s.count (WorkItem.isReclaimOf net) = 0

/-- A net with a slot has one instance in one place, and there is nothing of a net without one. -/
structure Accounted (s : Scene σ) (net : NetId) : Prop where
  absent : s.registry.slot? net = none → Absent s net
  resides : ∀ slot, s.registry.slot? net = some slot →
    Resides s net slot (s.count (WorkItem.isHaltOf net))

theorem Accounted.congr (hs : Accounted s net) (h : Alike s t net) : Accounted t net := by
  have hadopts := h.count _ fun _ => WorkItem.concerns_of_isAdoptOf
  have hhalts := h.count _ fun _ => WorkItem.concerns_of_isHaltOf
  have hreclaims := h.count _ fun _ => WorkItem.concerns_of_isReclaimOf
  have hactive w (hnone : s.active w net = none) : t.active w net = none := by
    simpa [hnone] using h.active w
  have hhalting w (hnone : s.halting w net = none) : t.halting w net = none := by
    simpa [hnone] using h.halting w
  constructor
  · intro hslot
    have ha := hs.absent (h.slot ▸ hslot)
    exact ⟨fun w => hactive w (ha.active w), fun w => hhalting w (ha.halting w),
      hadopts.trans ha.adopts, hhalts.trans ha.halts, hreclaims.trans ha.reclaims⟩
  · intro slot hslot
    have hr := hs.resides slot (h.slot ▸ hslot)
    refine ⟨fun w hw => hactive w (hr.active_elsewhere w hw),
      fun w hw => hhalting w (hr.halting_elsewhere w hw), ?_, ?_, ?_⟩
    · rw [hadopts, h.countAt _ _ fun _ => .inl, hr.adopts]
    · rw [hreclaims, h.countAt _ _ fun _ => .inr, hr.reclaims]
    · rw [hadopts, hhalts, hreclaims, held, h.active, held, h.halting]
      exact hr.stage

/-! ## The steps of a life -/

theorem Accounted.of_slot (slot : Slot) (h : s.registry.slot? net = some slot)
    (hr : Resides s net slot (s.count (WorkItem.isHaltOf net))) : Accounted s net where
  absent hnone := by simp [h] at hnone
  resides found hfound := by
    rw [h] at hfound
    cases hfound
    exact hr

section

variable (hs : Accounted s net)

include hs

theorem Accounted.slot_of_active (h : s.active w net = some state) :
    ∃ slot, s.registry.slot? net = some slot ∧ slot.owner = w ∧
      Resides s net slot (s.count (WorkItem.isHaltOf net)) := by
  cases hslot : s.registry.slot? net with
  | none => simp [(hs.absent hslot).active w] at h
  | some slot =>
    have hr := hs.resides slot hslot
    refine ⟨slot, rfl, ?_, hr⟩
    by_contra hne
    simp [hr.active_elsewhere w (Ne.symm hne)] at h

theorem Accounted.slot_of_hand (hhand : s.hand = item :: rest)
    (hitem : item.concerns net = true) :
    ∃ slot, s.registry.slot? net = some slot ∧
      Resides s net slot (s.count (WorkItem.isHaltOf net)) := by
  cases hslot : s.registry.slot? net with
  | some slot => exact ⟨slot, rfl, hs.resides slot hslot⟩
  | none =>
    have ha := hs.absent hslot
    have hsum : 0 < s.count (WorkItem.isAdoptOf net) + s.count (WorkItem.isHaltOf net) +
        s.count (WorkItem.isReclaimOf net) := by
      have hkind : WorkItem.isAdoptOf net item = true ∨ WorkItem.isHaltOf net item = true ∨
          WorkItem.isReclaimOf net item = true := by
        cases item <;>
          simp_all [WorkItem.concerns, WorkItem.isAdoptOf, WorkItem.isHaltOf, WorkItem.isReclaimOf]
      simp only [count, hhand, List.countP_cons]
      rcases hkind with h | h | h <;> rw [if_pos h] <;> omega
    rw [ha.adopts, ha.halts, ha.reclaims] at hsum
    omega

theorem Accounted.insert (hnone : s.registry.slot? net = none)
    (hregistry : registry.slot? = Function.update s.registry.slot? net (some slot))
    (hstate : slot.state = .spawned) (hacks : slot.pendingAcks = 0) (howner : s.HasWorker slot.owner)
    (hid : NetBehaviour.id made = net) :
    Accounted ((s.setRegistry registry).post slot.owner (.adopt made)) net := by
  have ha := hs.absent hnone
  have hslot : registry.slot? net = some slot := by rw [hregistry, Function.update_self]
  have hcount := count_post (s := s.setRegistry registry) howner (.adopt made)
  have hcountAt := countAt_post_self (s := s.setRegistry registry) howner (.adopt made)
  have hadoptAt := countAt_le_count (s := s) slot.owner (WorkItem.isAdoptOf net)
  have hreclaimAt := countAt_le_count (s := s) slot.owner (WorkItem.isReclaimOf net)
  simp only [count_setRegistry, countAt_setRegistry] at hcount hcountAt
  rw [ha.adopts] at hadoptAt
  rw [ha.reclaims] at hreclaimAt
  refine .of_slot slot hslot ⟨fun w _ => ha.active w, fun w _ => ha.halting w, ?_, ?_, ?_⟩
  · rw [hcount, hcountAt, ha.adopts]
    omega
  · rw [hcount, hcountAt, ha.reclaims]
    omega
  · refine .spawned hstate ?_ ?_ ?_ ?_ ?_ hacks
    · simp [hcount, ha.adopts, WorkItem.isAdoptOf, hid]
    · simp [held, ha.active]
    · simp [hcount, ha.halts, WorkItem.isHaltOf]
    · simp [held, ha.halting]
    · simp [hcount, ha.reclaims, WorkItem.isReclaimOf]

theorem Accounted.beginHalt (hslot : s.registry.slot? net = some slot)
    (hlive : slot.state.isLive = true) (hregistry : registry.slot? =
      Function.update s.registry.slot? net (some { slot with state := .halting }))
    (howner : s.HasWorker slot.owner) :
    Accounted ((s.setRegistry registry).post slot.owner (.halt net origin)) net := by
  have hr := hs.resides slot hslot
  have hnew : registry.slot? net = some { slot with state := .halting } := by
    rw [hregistry, Function.update_self]
  have hcount := count_post (s := s.setRegistry registry) howner (.halt net origin)
  have hcountAt := countAt_post_self (s := s.setRegistry registry) howner (.halt net origin)
  simp only [count_setRegistry, countAt_setRegistry] at hcount hcountAt
  refine .of_slot _ hnew ⟨hr.active_elsewhere, hr.halting_elsewhere, ?_, ?_, ?_⟩
  · simpa [hcount, hcountAt, WorkItem.isAdoptOf] using hr.adopts
  · simpa [hcount, hcountAt, WorkItem.isReclaimOf] using hr.reclaims
  · simp only [hcount, WorkItem.isAdoptOf, WorkItem.isHaltOf, WorkItem.isReclaimOf, decide_true,
      Bool.false_eq_true, if_true, if_false, Nat.add_zero, post_active, post_halting,
      setRegistry_active, setRegistry_halting]
    cases hr.stage with
    | spawned _ ha hb hh hc hr hk => exact .stopping rfl (by omega) (by omega) hc hr hk
    | active _ hab hh hc hr hk => exact .stopping rfl hab (by omega) hc hr hk
    | stopping hstate => simp [hstate, NetState.isLive] at hlive
    | stopped hstate => simp [hstate, NetState.isLive] at hlive

end

theorem Resides.owner_of_adopt (hr : Resides s net slot halts) (hhand : s.hand = .adopt made :: rest)
    (hid : NetBehaviour.id made = net) : s.worker = slot.owner := by
  by_contra hne
  have hpos := countAt_pos_of_hand (f := WorkItem.isAdoptOf net) hhand
    (by simp [WorkItem.isAdoptOf, hid])
  rw [countAt_eq_zero hr.adopts hne] at hpos
  omega

theorem Resides.owner_of_reclaim (hr : Resides s net slot halts) (hhand : s.hand = .reclaim net :: rest) :
    s.worker = slot.owner := by
  by_contra hne
  have hpos := countAt_pos_of_hand (f := WorkItem.isReclaimOf net) hhand
    (by simp [WorkItem.isReclaimOf])
  rw [countAt_eq_zero hr.reclaims hne] at hpos
  omega

theorem Accounted.adopt (hs : Accounted s net) {state : NetState} (hhand : s.hand = .adopt made :: rest)
    (hid : NetBehaviour.id made = net)
    (hactivate : s.registry.activate net s.worker = .ok (state, registry)) :
    Accounted (((s.setRegistry registry).setActive s.worker net (some made)).finish
      (.adopt made) rest) net := by
  obtain ⟨slot, hslot, hr⟩ := hs.slot_of_hand hhand (by simp [WorkItem.concerns, hid])
  have howner := hr.owner_of_adopt hhand hid
  obtain ⟨found, hfound, hstate, hregistry⟩ := Registry.activate_eq_ok hactivate
  rw [hslot] at hfound
  cases hfound
  have hnew : registry.slot? net = some { slot with owner := s.worker, state } := by
    rw [hregistry, Function.update_self]
  have hcount := count_finish (s := (s.setRegistry registry).setActive s.worker net (some made))
    hhand
  have hcountAt := countAt_finish_self
    (s := (s.setRegistry registry).setActive s.worker net (some made)) hhand
  simp only [count_setActive, count_setRegistry, countAt_setActive, countAt_setRegistry,
    setActive_worker, setRegistry_worker] at hcount hcountAt
  have hadopt := hcount (WorkItem.isAdoptOf net)
  have hadoptAt := hcountAt (WorkItem.isAdoptOf net)
  have hhalt := hcount (WorkItem.isHaltOf net)
  have hreclaim := hcount (WorkItem.isReclaimOf net)
  have hreclaimAt := hcountAt (WorkItem.isReclaimOf net)
  simp only [WorkItem.isAdoptOf, WorkItem.isHaltOf, WorkItem.isReclaimOf, hid, decide_true,
    Bool.false_eq_true, if_true, if_false, Nat.add_zero] at hadopt hadoptAt hhalt hreclaim hreclaimAt
  obtain ⟨hactive, hhalting, hadopts, hreclaims, hstage⟩ := hr
  rw [← howner] at hactive hhalting hadopts hreclaims hstage
  refine .of_slot _ hnew ⟨fun w hw => ?_, hhalting, ?_, ?_, ?_⟩
  · simp [Function.update_of_ne hw, hactive w hw]
  · show _ = Scene.countAt _ s.worker _
    omega
  · show _ = Scene.countAt _ s.worker _
    omega
  · have hheld : held (((s.setRegistry registry).setActive s.worker net (some made)).active
        s.worker net) = 1 := by simp [held]
    have hactive' : held (s.active s.worker net) = 0 ∧ s.count (WorkItem.isAdoptOf net) = 1 := by
      cases hstage <;> omega
    show Stage state _ (held _) _ (held (s.halting s.worker net)) _ slot.pendingAcks
    rw [finish_active, hheld, hhalt, hreclaim]
    cases hstage with
    | spawned hspawned _ _ hh hc hr hk =>
      exact .active (by simp [hstate, hspawned]) (by omega) hh hc hr hk
    | active hactive _ hh hc hr hk => exact .active (by simp [hstate, hactive]) (by omega) hh hc hr hk
    | stopping hhalting _ hh hc hr hk =>
      exact .stopping (by simp [hstate, hhalting]) (by omega) hh hc hr hk
    | stopped _ ha => omega

/-- An item that is neither an instance nor a release may be done with. -/
theorem Resides.finish (hr : Resides s net slot halts) (hhand : s.hand = item :: rest)
    (hadopt : item.isAdoptOf net = false) (hreclaim : item.isReclaimOf net = false) :
    Resides (s.finish item rest) net slot halts := by
  have hadopts := count_finish hhand (WorkItem.isAdoptOf net)
  have hadoptsAt := countAt_finish hhand slot.owner (WorkItem.isAdoptOf net)
  have hreclaims := count_finish hhand (WorkItem.isReclaimOf net)
  have hreclaimsAt := countAt_finish hhand slot.owner (WorkItem.isReclaimOf net)
  simp only [hadopt, hreclaim, Bool.false_eq_true, and_false, if_false,
    Nat.add_zero] at hadopts hadoptsAt hreclaims hreclaimsAt
  refine ⟨hr.active_elsewhere, hr.halting_elsewhere, ?_, ?_, ?_⟩
  · rw [hadopts, hadoptsAt, hr.adopts]
  · rw [hreclaims, hreclaimsAt, hr.reclaims]
  · rw [hadopts, hreclaims]
    exact hr.stage

/-- A release is posted to the owner of an instance that has been stopped. -/
theorem Resides.postReclaim (howner : s.HasWorker slot.owner) (hactive : ∀ w, s.active w net = none)
    (hhalting : ∀ w, w ≠ slot.owner → s.halting w net = none)
    (hadopts : s.count (WorkItem.isAdoptOf net) = 0)
    (hreclaims : s.count (WorkItem.isReclaimOf net) = 0) (hstate : slot.state = .halting)
    (hhalts : halts = 0) (hheld : held (s.halting slot.owner net) = 1) (hacks : slot.pendingAcks = 0) :
    Resides (s.post slot.owner (.reclaim net)) net slot halts := by
  have hcount := count_post (s := s) howner (.reclaim net)
  have hcountAt := countAt_post_self (s := s) howner (.reclaim net)
  have hadoptsAt := countAt_le_count (s := s) slot.owner (WorkItem.isAdoptOf net)
  have hreclaimsAt := countAt_le_count (s := s) slot.owner (WorkItem.isReclaimOf net)
  refine ⟨fun w _ => hactive w, hhalting, ?_, ?_, ?_⟩
  · rw [hcount, hcountAt]
    omega
  · rw [hcount, hcountAt]
    omega
  · refine .stopped hstate ?_ ?_ hhalts hheld (.inl ⟨?_, hacks⟩)
    · simp [hcount, hadopts, WorkItem.isAdoptOf]
    · simp [held, hactive]
    · simp [hcount, hreclaims, WorkItem.isReclaimOf]

theorem Resides.countAck (hr : Resides s net slot halts) (hs : Sound s)
    (hslot : s.registry.slot? net = some slot) :
    ∃ slot', (s.countAck net).registry.slot? net = some slot' ∧
      Resides (s.countAck net) net slot' halts := by
  rcases countAck_cases s net with
    ⟨e, -, heq⟩ | ⟨found, registry, hfound, hstate, hpos, hregistry, heq⟩
  · rw [heq]
    exact ⟨slot, hslot, hr⟩
  · rw [hslot] at hfound
    cases hfound
    have hnew : registry.slot? net = some { slot with pendingAcks := slot.pendingAcks - 1 } := by
      rw [hregistry, Function.update_self]
    have howner := hs.owner_valid net slot hslot
    obtain ⟨hactive, hhalting, hadopts, hreclaims, hstage⟩ := hr
    cases hstage with
    | spawned hlive => simp [hlive] at hstate
    | active hlive => simp [hlive] at hstate
    | stopping _ _ _ _ _ hacks => omega
    | stopped _ ha hb hh hc hrk =>
      obtain ⟨-, hacks⟩ | ⟨hreclaim, -⟩ := hrk
      · omega
      rw [heq]
      refine ⟨{ slot with pendingAcks := slot.pendingAcks - 1 }, ?_, ?_⟩
      · split <;> exact hnew
      · split
        · have howner' : (s.setRegistry registry).HasWorker
              { slot with pendingAcks := slot.pendingAcks - 1 }.owner := howner
          refine Resides.postReclaim howner' (fun w => ?_) hhalting ha hreclaim hstate hh hc
            (by simp only; omega)
          by_cases hw : w = slot.owner
          · rw [hw]
            simpa [held] using hb
          · exact hactive w hw
        · exact ⟨hactive, hhalting, hadopts, hreclaims,
            .stopped hstate ha hb hh hc (.inr ⟨hreclaim, by simp only; omega⟩)⟩

theorem Resides.excuse (hr : Resides s net slot halts) (hs : Sound s)
    (hslot : s.registry.slot? net = some slot) (count : Nat) :
    ∃ slot', (s.excuse net count).registry.slot? net = some slot' ∧
      Resides (s.excuse net count) net slot' halts := by
  induction count generalizing s slot with
  | zero => exact ⟨slot, hslot, hr⟩
  | succ count ih =>
    obtain ⟨slot', hslot', hr'⟩ := hr.countAck hs hslot
    exact ih hr' (hs.countAck net) hslot'

theorem Alike.excuse (hs : Sound s) (hm : m ≠ net) (count : Nat) : Alike s (s.excuse m count) net := by
  induction count generalizing s with
  | zero => exact .refl s net
  | succ count ih =>
    refine .trans ?_ (ih (hs.countAck m))
    rcases countAck_cases s m with ⟨e, -, heq⟩ | ⟨slot, registry, hslot, -, -, hregistry, heq⟩
    · rw [heq]
      exact .refl s net
    · have hset : Alike s (s.setRegistry registry) net := .setSlot hregistry hm
      rw [heq]
      split
      · exact hset.trans (.post (hs.owner_valid m slot hslot) (by simp [WorkItem.concerns, hm]))
      · exact hset

section

variable (ha : Accounted s net)

include ha

theorem Accounted.excuse (hs : Sound s) (m : NetId) (count : Nat) :
    Accounted (s.excuse m count) net := by
  by_cases hm : m = net
  · subst hm
    cases hslot : s.registry.slot? m with
    | none =>
      have hsame : s.excuse m count = s := by
        induction count with
        | zero => rfl
        | succ count ih =>
          rcases countAck_cases s m with ⟨e, -, heq⟩ | ⟨slot, registry, hsome, -⟩
          · rw [Scene.excuse, heq, ih]
          · simp [hslot] at hsome
      rwa [hsame]
    | some slot =>
      obtain ⟨slot', hslot', hr⟩ := (ha.resides slot hslot).excuse hs hslot count
      refine .of_slot slot' hslot' ?_
      rwa [count_excuse hs m count (by simp [WorkItem.isHaltOf])]
  · exact ha.congr (.excuse hs hm count)

theorem Accounted.stopping (hhand : s.hand = .halt net origin :: rest)
    (hactive : s.active s.worker net = some state) :
    ∃ slot, s.registry.slot? net = some slot ∧ slot.owner = s.worker ∧ slot.state = .halting ∧
      (∀ w, w ≠ s.worker → s.active w net = none) ∧ (∀ w, s.halting w net = none) ∧
      s.count (WorkItem.isAdoptOf net) = 0 ∧ s.count (WorkItem.isReclaimOf net) = 0 ∧
      s.count (WorkItem.isHaltOf net) = 1 ∧ slot.pendingAcks = 0 := by
  obtain ⟨slot, hslot, howner, hr⟩ := ha.slot_of_active hactive
  obtain ⟨helsewhere, hhalting, -, -, hstage⟩ := hr
  have hheld : held (s.active slot.owner net) = 1 := by simp [howner, hactive, held]
  have hpos := countAt_pos_of_hand (f := WorkItem.isHaltOf net) hhand (by simp [WorkItem.isHaltOf])
  have hle := countAt_le_count (s := s) s.worker (WorkItem.isHaltOf net)
  cases hstage with
  | spawned => omega
  | active => omega
  | stopping hstate _ hh hc hrc hk =>
    refine ⟨slot, hslot, howner, hstate, fun w hw => helsewhere w (howner ▸ hw), fun w => ?_, by omega,
      hrc, hh, hk⟩
    by_cases hw : w = slot.owner
    · rw [hw]
      simpa [held] using hc
    · exact hhalting w hw
  | stopped => omega

theorem Accounted.stop (hs : Sound s) (hhand : s.hand = .halt net origin :: rest)
    (hactive : s.active s.worker net = some state) :
    Accounted (((s.stop s.worker net state).post s.worker (.reclaim net)).finish
      (.halt net origin) rest) net := by
  obtain ⟨slot, hslot, howner, hstate, helsewhere, hhalting, hadopts, hreclaims, hhalts, hacks⟩ :=
    ha.stopping hhand hactive
  have hworker : s.HasWorker s.worker := hs.hand_valid (by simp [hhand])
  have hposted : Resides ((s.stop s.worker net state).post slot.owner (.reclaim net)) net slot 0 := by
    refine .postReclaim (howner ▸ hworker) (fun w => ?_) (fun w hw => ?_) ?_ ?_ hstate rfl ?_ hacks
    · by_cases hw : w = s.worker
      · simp [Scene.stop, hw]
      · simp [Scene.stop, Function.update_of_ne hw, helsewhere w hw]
    · rw [howner] at hw
      simp [Scene.stop, Function.update_of_ne hw, hhalting w]
    · rw [count_stop, hadopts]
    · rw [count_stop, hreclaims]
    · simp [Scene.stop, howner, held]
  rw [howner] at hposted
  refine .of_slot slot (by simpa [Scene.stop] using hslot) ?_
  have hkept := hand_stop_post net state (.reclaim net) hhand
  have hcount := count_finish hkept (WorkItem.isHaltOf net)
  rw [count_post (s := s.stop s.worker net state) hworker, count_stop, hhalts] at hcount
  simp only [WorkItem.isHaltOf, decide_true, if_true, Bool.false_eq_true, if_false] at hcount
  rw [show Scene.count _ (WorkItem.isHaltOf net) = 0 by omega]
  exact hposted.finish hkept rfl rfl

theorem Accounted.stopGlobal (hs : Sound s)
    (hhand : s.hand = .halt net none :: rest) (hactive : s.active s.worker net = some state)
    (hcount : 1 < s.processCount)
    (hexpect : s.registry.expectAcks net (s.processCount - 1) = .ok registry) (refused : Nat) :
    Accounted ((((s.setRegistry registry).stop s.worker net state).excuse net refused).finish
      (.halt net none) rest) net := by
  obtain ⟨slot, hslot, howner, hstate, helsewhere, hhalting, hadopts, hreclaims, hhalts, -⟩ :=
    ha.stopping hhand hactive
  obtain ⟨found, hfound, -, hregistry⟩ := Registry.expectAcks_eq_ok hexpect
  rw [hslot] at hfound
  cases hfound
  -- Refusals are acknowledged after the stop, so it is the stopped scene that has to be in order.
  set t := (s.setRegistry registry).stop s.worker net state with ht
  have hsound : Sound t := (hs.setSlot hregistry (hs.owner_valid net slot hslot)).stop ..
  have hnew : t.registry.slot? net = some { slot with pendingAcks := s.processCount - 1 } := by
    show registry.slot? net = _
    rw [hregistry, Function.update_self]
  have hstopped : Resides t net { slot with pendingAcks := s.processCount - 1 } 0 := by
    have hadoptsAt := countAt_le_count (s := s) slot.owner (WorkItem.isAdoptOf net)
    have hreclaimsAt := countAt_le_count (s := s) slot.owner (WorkItem.isReclaimOf net)
    refine ⟨fun w hw => ?_, fun w hw => ?_, ?_, ?_, ?_⟩
    · have hw : w ≠ s.worker := howner ▸ hw
      simp [ht, Scene.stop, Function.update_of_ne hw, helsewhere w hw]
    · have hw : w ≠ s.worker := howner ▸ hw
      simp [ht, Scene.stop, Function.update_of_ne hw, hhalting w]
    · simp only [ht, count_stop, countAt_stop, count_setRegistry, countAt_setRegistry]
      omega
    · simp only [ht, count_stop, countAt_stop, count_setRegistry, countAt_setRegistry]
      omega
    · refine .stopped hstate ?_ ?_ rfl ?_ (.inr ⟨?_, by simp only; omega⟩)
      · simpa [ht] using hadopts
      · simp [ht, Scene.stop, howner, held]
      · simp [ht, Scene.stop, howner, held]
      · simpa [ht] using hreclaims
  obtain ⟨slot', hslot', hr⟩ := hstopped.excuse hsound hnew refused
  have hhand' : (t.excuse net refused).hand = .halt net none :: rest := (excuse_hand ..).trans hhand
  have hdone := count_finish hhand' (WorkItem.isHaltOf net)
  have htotal : (t.excuse net refused).count (WorkItem.isHaltOf net) = 1 := by
    rw [count_excuse hsound net refused (by simp [WorkItem.isHaltOf]), ht, count_stop,
      count_setRegistry, hhalts]
  refine .of_slot slot' hslot' ?_
  simp only [WorkItem.isHaltOf, decide_true, if_true, htotal] at hdone
  rw [show Scene.count _ (WorkItem.isHaltOf net) = 0 by omega]
  exact hr.finish hhand' rfl rfl

theorem Accounted.reclaim (hhand : s.hand = .reclaim net :: rest)
    (hretire : s.registry.retire net = .ok (slot, registry)) :
    Accounted (((s.setRegistry registry).setHalting s.worker net none).finish (.reclaim net) rest)
      net := by
  obtain ⟨slot, hslot, hr⟩ := ha.slot_of_hand hhand (by simp [WorkItem.concerns])
  obtain ⟨-, -, -, hregistry⟩ := Registry.retire_eq_ok hretire
  have howner := hr.owner_of_reclaim hhand
  have hpos := countAt_pos_of_hand (f := WorkItem.isReclaimOf net) hhand
    (by simp [WorkItem.isReclaimOf])
  have hcount := count_finish (s := (s.setRegistry registry).setHalting s.worker net none) hhand
  simp only [count_setHalting, count_setRegistry] at hcount
  have hadopt := hcount (WorkItem.isAdoptOf net)
  have hhalt := hcount (WorkItem.isHaltOf net)
  have hreclaim := hcount (WorkItem.isReclaimOf net)
  simp only [WorkItem.isAdoptOf, WorkItem.isHaltOf, WorkItem.isReclaimOf, decide_true,
    Bool.false_eq_true, if_true, if_false, Nat.add_zero] at hadopt hhalt hreclaim
  have hle := countAt_le_count (s := s) s.worker (WorkItem.isReclaimOf net)
  have hnone : registry.slot? net = none := by rw [hregistry, Function.update_self]
  constructor
  · intro _
    obtain ⟨hactive, hhalting, hadopts, hreclaims, hstage⟩ := hr
    cases hstage with
    | spawned => omega
    | active => omega
    | stopping => omega
    | stopped _ ha hb hh hc hrk =>
      refine ⟨fun w => ?_, fun w => ?_, by omega, by omega, by omega⟩
      · by_cases hw : w = slot.owner
        · rw [hw]
          simpa [held] using hb
        · exact hactive w hw
      · by_cases hw : w = s.worker
        · simp [hw]
        · simpa [Function.update_of_ne hw] using hhalting w (howner ▸ hw)
  · intro found hfound
    simp [hnone] at hfound

theorem Accounted.migrate {target : WorkerId}
    (hactive : s.active w net = some state) (htarget : s.HasWorker target)
    (hid : NetBehaviour.id state = net) (howner : s.registry.setOwner net target = .ok registry) :
    Accounted (((s.setRegistry registry).setActive w net none).post target (.adopt state)) net := by
  obtain ⟨slot, hslot, hw, hr⟩ := ha.slot_of_active hactive
  obtain ⟨found, hfound, hregistry⟩ := Registry.setOwner_eq_ok howner
  rw [hslot] at hfound
  cases hfound
  have hnew : registry.slot? net = some { slot with owner := target } := by
    rw [hregistry, Function.update_self]
  obtain ⟨helsewhere, hhalting, -, -, hstage⟩ := hr
  rw [hw] at helsewhere hhalting hstage
  have hheld : held (s.active w net) = 1 := by simp [held, hactive]
  have hnone v : (((s.setRegistry registry).setActive w net none).post target (.adopt state)).active v
      net = none := by
    by_cases hv : v = w
    · simp [hv]
    · simp [Function.update_of_ne hv, helsewhere v hv]
  have hstopped v : s.halting v net = none := by
    by_cases hv : v = w
    · have hzero : held (s.halting w net) = 0 := by cases hstage <;> omega
      rw [hv]
      simpa [held] using hzero
    · exact hhalting v hv
  have hcount := count_post (s := (s.setRegistry registry).setActive w net none) htarget (.adopt state)
  have hcountAt := countAt_post_self (s := (s.setRegistry registry).setActive w net none) htarget
    (.adopt state)
  simp only [count_setActive, count_setRegistry, countAt_setActive,
    countAt_setRegistry] at hcount hcountAt
  have hadoptsAt := countAt_le_count (s := s) target (WorkItem.isAdoptOf net)
  have hreclaimsAt := countAt_le_count (s := s) target (WorkItem.isReclaimOf net)
  have hquiet : s.count (WorkItem.isAdoptOf net) = 0 ∧ s.count (WorkItem.isReclaimOf net) = 0 := by
    cases hstage <;> omega
  refine .of_slot _ hnew ⟨fun v _ => hnone v, fun v _ => hstopped v, ?_, ?_, ?_⟩
  · rw [hcount, hcountAt]
    omega
  · rw [hcount, hcountAt]
    omega
  · have hstopped' : held (s.halting target net) = 0 := by
      rw [hstopped]
      rfl
    show Stage slot.state _ (held _) _ (held (s.halting target net)) _ slot.pendingAcks
    rw [hnone, hstopped', hcount, hcount, hcount]
    simp only [held, WorkItem.isAdoptOf, WorkItem.isHaltOf, WorkItem.isReclaimOf, hid, decide_true,
      Bool.false_eq_true, if_true, if_false, hquiet.1, hquiet.2, Nat.add_zero, Nat.zero_add]
    cases hstage with
    | spawned => omega
    | active hstate _ hh _ _ hk => exact .active hstate rfl hh rfl rfl hk
    | stopping hstate _ hh _ _ hk => exact .stopping hstate rfl hh rfl rfl hk
    | stopped => omega

end

/-! ## Every step -/

variable {ws : List Wire} {events : List TokenEvent} {item : WorkItem σ}
  {rest : List (WorkItem σ)}

/-- A registry takes a net in: its instance goes to the inbox of the owner. -/
theorem Accounted.insertAny (ha : Accounted s net) {index : Nat} {owner : WorkerId}
    {parent : Option NetId} {isGlobal : Bool} (howner : s.HasWorker owner)
    (hinsert : s.registry.insert m index owner parent isGlobal = .ok registry)
    (hid : NetBehaviour.id made = m) :
    Accounted ((s.setRegistry registry).post owner (.adopt made)) net := by
  obtain ⟨hnone, hregistry⟩ := Registry.insert_eq_ok hinsert
  by_cases hm : m = net
  · subst hm
    exact ha.insert hnone hregistry rfl rfl howner hid
  · refine ha.congr (.trans (.setSlot hregistry hm) (.post howner ?_))
    simp [WorkItem.concerns, hid, hm]

/-- A registry has a net halt: the owner gets the item that stops it. -/
theorem Accounted.beginHaltAny (ha : Accounted s net) (hs : Sound s) {owner : WorkerId}
    {isGlobal : Bool} (h : s.registry.beginHalt m = .ok (.started owner isGlobal, registry)) :
    Accounted ((s.setRegistry registry).post owner (.halt m origin)) net := by
  obtain ⟨slot, hslot, rfl, -, hlive, hregistry⟩ := Registry.beginHalt_eq_started h
  have howner := hs.owner_valid m slot hslot
  by_cases hm : m = net
  · subst hm
    exact ha.beginHalt hslot hlive hregistry howner
  · exact ha.congr (.trans (.setSlot hregistry hm) (.post howner (by simp [WorkItem.concerns, hm])))

theorem Asks.accounted {naming : Prop} (h : Asks naming s ws events t) (hs : Sound s) (ha : Accounted s net) :
    Accounted t net := by
  cases h with
  | sendLocal h =>
    exact ha.congr (.post (hs.live_owner h) rfl)
  | sendRefused => exact ha
  | sendRemote | draw => exact ha.congr (.of_eq rfl rfl rfl rfl rfl rfl)
  | spawn howner hinsert hid =>
    exact (ha.insertAny howner hinsert hid).congr (.of_eq rfl rfl rfl rfl rfl rfl)
  | halt h => exact ha.beginHaltAny hs h

/-- Taking a packet in keeps all instances accounted for. -/
theorem Takes.accounted {packet : Packet} (h : Takes s packet ws events t) (hs : Sound s)
    (ha : Accounted s net) : Accounted t net := by
  cases h with
  | tokens _ h =>
    obtain ⟨slot, hslot, -, rfl⟩ := Registry.liveOwner?_eq_some.mp h
    have howner := hs.owner_valid _ slot hslot
    refine .congr (s := s.post slot.owner (.tokens _)) ?_ (.of_eq rfl rfl rfl rfl rfl rfl)
    exact ha.congr (.post howner rfl)
  | spawned _ howner hinsert hid =>
    exact (ha.insertAny howner hinsert hid).congr (.of_eq rfl rfl rfl rfl rfl rfl)
  | halted _ h => exact ha.beginHaltAny hs h
  | haltAck => exact ha.excuse hs _ 1
  | haltedBefore | ignored | probe => exact ha
  | lateTokens | badTokens | spawnRefused | quit | reply =>
    exact ha.congr (.of_eq rfl rfl rfl rfl rfl rfl)

theorem Accounted.not_stopped (ha : Accounted s net) (hhand : s.hand = .halt net origin :: rest) :
    s.halting s.worker net = none ∧ s.registry.owner? net ≠ none := by
  obtain ⟨slot, hslot, hr⟩ := ha.slot_of_hand hhand (by simp [WorkItem.concerns])
  refine ⟨?_, by simp [Registry.owner?_eq_none, hslot]⟩
  have hpos := countAt_pos_of_hand (f := WorkItem.isHaltOf net) hhand (by simp [WorkItem.isHaltOf])
  have hle := countAt_le_count (s := s) s.worker (WorkItem.isHaltOf net)
  have hzero : held (s.halting slot.owner net) = 0 := by
    cases hr.stage <;> omega
  by_cases hw : s.worker = slot.owner
  · rw [hw]
    simpa [held] using hzero
  · exact hr.halting_elsewhere s.worker hw

theorem Accounted.not_live (ha : Accounted s net)
    (hgone : s.halting w net ≠ none ∨ s.registry.owner? net = none) :
    s.registry.liveOwner? net = none := by
  cases hslot : s.registry.slot? net with
  | none => exact Registry.liveOwner?_of_none hslot
  | some slot =>
    have hr := ha.resides slot hslot
    have hhalting : s.halting w net ≠ none :=
      hgone.resolve_right (by simp [Registry.owner?_eq_none, hslot])
    obtain rfl : w = slot.owner := by
      by_contra hne
      exact hhalting (hr.halting_elsewhere w hne)
    have hheld : held (s.halting slot.owner net) = 1 := by
      simpa [held, Option.isSome_iff_ne_none] using hhalting
    cases hr.stage with
    | stopped hstate => exact Registry.liveOwner?_of_halting hslot hstate
    | _ => omega

theorem Accounted.retires (ha : Accounted s net) (hhand : s.hand = .reclaim net :: rest)
    (e : RuntimeError) : s.registry.retire net ≠ .error e := by
  intro hretire
  obtain ⟨slot, hslot, hr⟩ := ha.slot_of_hand hhand (by simp [WorkItem.concerns])
  have hpos := countAt_pos_of_hand (f := WorkItem.isReclaimOf net) hhand
    (by simp [WorkItem.isReclaimOf])
  have hle := countAt_le_count (s := s) s.worker (WorkItem.isReclaimOf net)
  have hlive := Registry.retire_eq_error hretire hslot
  cases hr.stage with
  | stopped hstate => exact hlive hstate
  | _ => omega

theorem Alike.stop (hm : m ≠ net) : Alike s (s.stop w m state) net :=
  .trans (.setActive fun h => absurd h hm) (.setHalting hm)

theorem Accounted.stopAny (ha : Accounted s net) (hs : Sound s)
    (hhand : s.hand = .halt m origin :: rest) (hactive : s.active s.worker m = some state) :
    Accounted (((s.stop s.worker m state).post s.worker (.reclaim m)).finish (.halt m origin) rest)
      net := by
  by_cases hm : m = net
  · subst hm
    exact ha.stop hs hhand hactive
  · have hkept := hand_stop_post m state (.reclaim m) hhand
    refine ha.congr (.trans (.stop hm) (.trans (.post ?_ ?_) (.finish hkept ?_)))
    · exact hs.hand_valid (by simp [hhand])
    all_goals simp [WorkItem.concerns, hm]

/-- Dealing with an item moves an instance on in its life, and keeps the others. -/
theorem Deals.accounted (h : Deals s item ws events t) (hhand : s.hand = item :: rest) (hs : Sound s)
    (ha : ∀ net, Accounted s net) (net : NetId) : Accounted (t.finish item rest) net := by
  cases h with
  | @adopt made state registry hactivate =>
    by_cases hid : NetBehaviour.id made = net
    · rw [hid] at hactivate ⊢
      exact (ha net).adopt hhand hid hactivate
    · obtain ⟨slot, -, -, hregistry⟩ := Registry.activate_eq_ok hactivate
      refine (ha net).congr (.trans (.setSlot hregistry hid) (.trans
        (.setActive fun h => absurd h hid) (.finish hhand ?_)))
      simp [WorkItem.concerns, hid]
  | @hand parcel state hactive =>
    refine (ha net).congr (.trans (.setActive ?_) (.finish hhand rfl))
    rintro rfl
    simp [hactive]
  | reroute hnet hadopt hreclaim _ _ howner =>
    refine (ha net).congr (.requeue (hs.known_owner howner) hhand ?_ ?_)
    · cases item <;> first | rfl | exact absurd rfl (hadopt _)
    · cases item <;> first | rfl | (cases hnet; exact absurd rfl hreclaim)
  | drop | fired => exact (ha net).congr (.finish hhand rfl)
  | dropHalt _ hgone =>
    obtain ⟨hnone, hslot⟩ := (ha _).not_stopped hhand
    exact absurd hgone (by simp [hnone, hslot])
  | stopForgotten hactive hnone =>
    obtain ⟨slot, hslot, -⟩ := (ha _).slot_of_active hactive
    simp [hnone] at hslot
  | stopCopy hactive => exact (ha net).stopAny hs hhand hactive
  | stopLocal hactive => exact (ha net).stopAny hs hhand hactive
  | @stopGlobal m state registry _ hactive hannounces hexpect =>
    by_cases hm : m = net
    · subst hm
      exact (ha m).stopGlobal hs hhand hactive hannounces.2 hexpect _
    · obtain ⟨slot, hslot, -, hregistry⟩ := Registry.expectAcks_eq_ok hexpect
      have hsound : Sound (s.setRegistry registry) :=
        hs.setSlot hregistry (hs.owner_valid m slot hslot)
      refine (ha net).congr (.trans (.setSlot hregistry hm) (.trans (.stop hm)
        (.trans (.excuse (hsound.stop ..) hm _) (.finish ((excuse_hand ..).trans hhand) ?_))))
      simp [WorkItem.concerns, hm]
  | @reclaim m slot registry hretire =>
    by_cases hm : m = net
    · subst hm
      exact (ha m).reclaim hhand hretire
    · obtain ⟨-, -, -, hregistry⟩ := Registry.retire_eq_ok hretire
      refine (ha net).congr (.trans (.setSlot hregistry hm)
        (.trans (.setHalting hm) (.finish hhand ?_)))
      simp [WorkItem.concerns, hm]
  | reclaimRefused hretire => exact absurd hretire ((ha _).retires hhand _)
  | log hweight =>
    refine (ha net).congr (.finish hhand ?_)
    cases item <;> first | rfl | simp [WorkItem.weight, WorkItem.isObligation] at hweight

/-- Instances are kept under their names. -/
structure Named (s : Scene σ) : Prop where
  active : ∀ w net state, s.active w net = some state → NetBehaviour.id state = net
  halting : ∀ w net state, s.halting w net = some state → NetBehaviour.id state = net

section

variable (hn : Named s)

include hn

theorem Named.setActive {state : Option σ}
    (h : ∀ made, state = some made → NetBehaviour.id made = m) : Named (s.setActive w m state) where
  active v net made hmade := by
    by_cases hv : v = w
    · subst hv
      by_cases hnet : net = m
      · subst hnet
        exact h made (by simpa using hmade)
      · exact hn.active v net made (by simpa [Function.update_of_ne hnet] using hmade)
    · exact hn.active v net made (by simpa [Function.update_of_ne hv] using hmade)
  halting := hn.halting

theorem Named.setHalting {state : Option σ}
    (h : ∀ made, state = some made → NetBehaviour.id made = m) : Named (s.setHalting w m state) where
  active := hn.active
  halting v net made hmade := by
    by_cases hv : v = w
    · subst hv
      by_cases hnet : net = m
      · subst hnet
        exact h made (by simpa using hmade)
      · exact hn.halting v net made (by simpa [Function.update_of_ne hnet] using hmade)
    · exact hn.halting v net made (by simpa [Function.update_of_ne hv] using hmade)

theorem Named.of_eq (hactive : t.active = s.active) (hhalting : t.halting = s.halting) :
    Named t where
  active := hactive ▸ hn.active
  halting := hhalting ▸ hn.halting

theorem Named.setRegistry (registry : Registry) : Named (s.setRegistry registry) :=
  hn.of_eq rfl rfl

theorem Named.stop (hactive : s.active w m = some state) : Named (s.stop w m state) := by
  refine (hn.setActive (by simp)).setHalting fun made hmade => ?_
  cases hmade
  exact hn.active w m state hactive

end

theorem Deals.named [LawfulNet σ] (h : Deals s item ws events t) (hn : Named s) : Named t := by
  cases h with
  | adopt h =>
    refine (hn.setRegistry _).setActive fun made hmade => ?_
    cases hmade
    rfl
  | @hand parcel state h =>
    refine hn.setActive fun made hmade => ?_
    cases hmade
    exact (LawfulNet.id_receive ..).trans (hn.active _ _ state h)
  | reroute => exact hn.of_eq rfl rfl
  | drop | dropHalt | fired | log => exact hn
  | stopForgotten h => exact hn.stop h
  | stopCopy h => exact (hn.stop h).of_eq rfl rfl
  | stopLocal h => exact (hn.stop h).of_eq rfl rfl
  | stopGlobal h =>
    exact ((hn.setRegistry _).stop h).of_eq (excuse_active ..) (excuse_halting ..)
  | reclaim => exact (hn.setRegistry _).setHalting (by simp)
  | reclaimRefused => exact hn.setHalting (by simp)

theorem Asks.instances_eq {naming : Prop} (h : Asks naming s ws events t) :
    t.active = s.active ∧ t.halting = s.halting := by
  cases h <;> exact ⟨rfl, rfl⟩

theorem Takes.instances_eq {packet : Packet} (h : Takes s packet ws events t) :
    t.active = s.active ∧ t.halting = s.halting := by
  cases h with
  | haltAck => exact ⟨excuse_active _ 1, excuse_halting _ 1⟩
  | _ => exact ⟨rfl, rfl⟩

variable {naming open_ : Prop}

/-- One step keeps instances under their names. -/
theorem Step.named [LawfulNet σ] (h : Step naming open_ s ws events t) (hn : Named s) : Named t := by
  cases h with
  | rest => exact hn
  | ask _ h => exact hn.of_eq h.instances_eq.1 h.instances_eq.2
  | take h => exact hn.of_eq h.instances_eq.1 h.instances_eq.2
  | deal _ h => exact (h.named hn).of_eq rfl rfl
  | store hactive hends =>
    refine hn.setActive fun made hmade => ?_
    cases hmade
    exact (LawfulNet.id_fire hends).trans (hn.active _ _ _ hactive)
  | @migrate w _ m _ registry =>
    have hset : Named ((s.setRegistry registry).setActive w m none) :=
      (hn.setRegistry registry).setActive (by simp)
    exact hset.of_eq rfl rfl
  | migrateLost => exact hn.setActive (by simp)
  | turn | quit | drain | probe | requestFiring => exact hn.of_eq rfl rfl

/-- One step keeps all instances accounted for. -/
theorem Step.accounted (h : Step naming open_ s ws events t) (hs : Sound s) (hn : Named s)
    (ha : ∀ net, Accounted s net) (net : NetId) : Accounted t net := by
  cases h with
  | rest => exact ha net
  | turn w hhand => exact (ha net).congr (.turnTo hhand w)
  | ask _ h => exact h.accounted hs (ha net)
  | quit | probe => exact (ha net).congr (.of_eq rfl rfl rfl rfl rfl rfl)
  | take h => exact h.accounted hs (ha net)
  | drain hhand => exact (ha net).congr (.drain hhand)
  | deal hhand h => exact h.accounted hhand hs ha net
  | store hactive =>
    refine (ha net).congr (.setActive ?_)
    rintro rfl
    simp [hactive]
  | requestFiring _ h =>
    exact (ha net).congr (.post (hs.live_owner h) rfl)
  | @migrate w target m state registry _ hactive htarget howner =>
    have hid := hn.active w m state hactive
    rw [hid] at howner
    by_cases hm : m = net
    · subst hm
      exact (ha m).migrate hactive htarget hid howner
    · obtain ⟨slot, -, hregistry⟩ := Registry.setOwner_eq_ok howner
      refine (ha net).congr (.trans (.setSlot hregistry hm) (.trans
        (.setActive fun h => absurd h hm) (.post htarget ?_)))
      simp [WorkItem.concerns, hid, hm]
  | @migrateLost w target m state e _ hactive howner =>
    obtain ⟨slot, hslot, -⟩ := (ha m).slot_of_active hactive
    rw [hn.active w m state hactive] at howner
    simp [Registry.setOwner_eq_error howner] at hslot

end Scene

end PetriCluster
