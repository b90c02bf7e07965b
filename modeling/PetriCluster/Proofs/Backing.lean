import PetriCluster.Proofs.Refinement
import PetriCluster.Proofs.Residence

/-!
# Active instances have slots

An operation may crash, and then items are lost and slots stay behind that have no instance. Still no
active instance is without a slot. A net that is to be released has no instance that is active or waits
to be: of an item that hands the instance over, the active instance, acknowledgments to wait for and an
item that releases the net there is at most one.
-/

namespace PetriCluster.Scene

variable {registry : Registry} {w owner : WorkerId} {isGlobal : Bool}

variable {σ : Type} [NetBehaviour σ] {s t : Scene σ} {net m : NetId}
variable {rest : List (WorkItem σ)} {item : WorkItem σ} {state : σ}

/-- The net has at most one of what leads to its release, and has a slot if it has any. -/
structure Backed (s : Scene σ) (net : NetId) : Prop where
  absent : s.registry.slot? net = none → (∀ w, s.active w net = none) ∧
    s.count (WorkItem.isAdoptOf net) = 0 ∧ s.count (WorkItem.isReclaimOf net) = 0
  resides : ∀ slot, s.registry.slot? net = some slot →
    (∀ w, w ≠ slot.owner → s.active w net = none) ∧
    s.count (WorkItem.isAdoptOf net) + s.count (WorkItem.isReclaimOf net) +
      held (s.active slot.owner net) + min slot.pendingAcks 1 ≤ 1

namespace Backed

theorem of_slot (slot : Slot) (h : s.registry.slot? net = some slot)
    (helsewhere : ∀ w, w ≠ slot.owner → s.active w net = none)
    (hload : s.count (WorkItem.isAdoptOf net) + s.count (WorkItem.isReclaimOf net) +
      held (s.active slot.owner net) + min slot.pendingAcks 1 ≤ 1) : Backed s net where
  absent hnone := by simp [h] at hnone
  resides found hfound := by
    rw [h] at hfound
    cases hfound
    exact ⟨helsewhere, hload⟩

section

variable (hs : Backed s net)

include hs

theorem mono (hslot : t.registry.slot? net = s.registry.slot? net)
    (hactive : ∀ w, s.active w net = none → t.active w net = none)
    (hadopts : t.count (WorkItem.isAdoptOf net) ≤ s.count (WorkItem.isAdoptOf net))
    (hreclaims : t.count (WorkItem.isReclaimOf net) ≤ s.count (WorkItem.isReclaimOf net)) :
    Backed t net where
  absent hnone := by
    obtain ⟨hnone, hadopt, hreclaim⟩ := hs.absent (hslot ▸ hnone)
    exact ⟨fun w => hactive w (hnone w), by omega, by omega⟩
  resides slot h := by
    obtain ⟨helsewhere, hload⟩ := hs.resides slot (hslot ▸ h)
    refine ⟨fun w hw => hactive w (helsewhere w hw), ?_⟩
    have hheld : held (t.active slot.owner net) ≤ held (s.active slot.owner net) := by
      cases h : s.active slot.owner net with
      | none => simp [held, hactive _ h]
      | some => exact Bool.toNat_le _
    omega

theorem slot_of_active (h : s.active w net = some state) :
    ∃ slot, s.registry.slot? net = some slot ∧ slot.owner = w ∧
      (∀ v, v ≠ w → s.active v net = none) ∧ s.count (WorkItem.isAdoptOf net) = 0 ∧
      s.count (WorkItem.isReclaimOf net) = 0 ∧ slot.pendingAcks = 0 := by
  cases hslot : s.registry.slot? net with
  | none => simp [(hs.absent hslot).1 w] at h
  | some slot =>
    obtain ⟨helsewhere, hload⟩ := hs.resides slot hslot
    obtain rfl : w = slot.owner := by
      by_contra hne
      simp [helsewhere w hne] at h
    have hheld : held (s.active slot.owner net) = 1 := by simp [held, h]
    exact ⟨slot, rfl, rfl, helsewhere, by omega, by omega, by omega⟩

theorem finish (hhand : s.hand = item :: rest) :
    Backed (s.finish item rest) net := by
  have hadopts := count_finish hhand (WorkItem.isAdoptOf net)
  have hreclaims := count_finish hhand (WorkItem.isReclaimOf net)
  exact hs.mono rfl (fun _ h => h) (by omega) (by omega)

theorem letGo : Backed s.letGo net := by
  have hle (f : WorkItem σ → Bool) : s.letGo.count f ≤ s.count f := by
    simp [count]
  exact hs.mono rfl (fun _ h => h) (hle _) (hle _)

theorem post (hw : s.HasWorker w) (hadopt : item.isAdoptOf net = false)
    (hreclaim : item.isReclaimOf net = false) : Backed (s.post w item) net :=
  hs.mono rfl (fun _ h => h) (by simp [count_post hw, hadopt]) (by simp [count_post hw, hreclaim])

theorem setSlot_of_ne {slot : Option Slot}
    (h : registry.slot? = Function.update s.registry.slot? m slot) (hm : m ≠ net) :
    Backed (s.setRegistry registry) net :=
  hs.mono (by rw [setRegistry_registry, h, Function.update_of_ne (Ne.symm hm)]) (fun _ h => h)
    Nat.le.refl Nat.le.refl

theorem setSlot {slot slot' : Slot} (hslot : s.registry.slot? net = some slot)
    (h : registry.slot? = Function.update s.registry.slot? net (some slot'))
    (howner : slot'.owner = slot.owner) (hacks : slot'.pendingAcks ≤ slot.pendingAcks) :
    Backed (s.setRegistry registry) net := by
  obtain ⟨helsewhere, hload⟩ := hs.resides slot hslot
  refine .of_slot slot' (by rw [setRegistry_registry, h, Function.update_self])
    (howner ▸ helsewhere) ?_
  simp only [count_setRegistry, setRegistry_active, howner]
  omega

theorem setActive {state : Option σ}
    (h : m = net → s.active w net = none → state = none) : Backed (s.setActive w m state) net := by
  refine hs.mono rfl (fun v hv => ?_) Nat.le.refl Nat.le.refl
  simp only [setActive_active]
  by_cases hw : v = w
  · subst hw
    rw [Function.update_self]
    by_cases hm : m = net
    · subst hm
      rw [Function.update_self, h rfl hv]
    · rw [Function.update_of_ne (Ne.symm hm), hv]
  · rw [Function.update_of_ne hw, hv]

theorem insert {index : Nat} {parent : Option NetId}
    (h : s.registry.insert m index owner parent isGlobal = .ok registry) :
    Backed (s.setRegistry registry) net := by
  obtain ⟨hnone, hupdate⟩ := Registry.insert_eq_ok h
  by_cases hm : m = net
  · subst hm
    obtain ⟨hactive, hadopt, hreclaim⟩ := hs.absent hnone
    refine .of_slot _ (by rw [setRegistry_registry, hupdate, Function.update_self])
      (fun w _ => hactive w) ?_
    simp [hadopt, hreclaim, hactive, held]
  · exact hs.setSlot_of_ne hupdate hm

theorem spawn {index : Nat} {parent : Option NetId} {made : σ}
    (howner : s.HasWorker owner) (h : s.registry.insert m index owner parent isGlobal = .ok registry)
    (hid : NetBehaviour.id made = m) :
    Backed ((s.setRegistry registry).post owner (.adopt made)) net := by
  by_cases hm : m = net
  · obtain ⟨hnone, hupdate⟩ := Registry.insert_eq_ok h
    subst hm
    obtain ⟨hactive, hadopt, hreclaim⟩ := hs.absent hnone
    refine .of_slot _ (by rw [post_registry, setRegistry_registry, hupdate, Function.update_self])
      (fun w _ => hactive w) ?_
    simp [count_post, howner, hadopt, hreclaim, hactive, held, WorkItem.isAdoptOf,
      WorkItem.isReclaimOf, hid]
  · exact (hs.insert h).post howner (by simp [WorkItem.isAdoptOf, hid, hm]) rfl

theorem beginHalt (hsound : s.Sound) {origin : Option ProcessId}
    (h : s.registry.beginHalt m = .ok (.started owner isGlobal, registry)) :
    Backed ((s.setRegistry registry).post owner (.halt m origin)) net := by
  obtain ⟨slot, hslot, rfl, -, -, hupdate⟩ := Registry.beginHalt_eq_started h
  have howner := hsound.owner_valid m slot hslot
  refine post ?_ howner rfl rfl
  by_cases hm : m = net
  · subst hm
    exact hs.setSlot hslot hupdate rfl Nat.le.refl
  · exact hs.setSlot_of_ne hupdate hm

/-- The last acknowledgment gives way to an item that releases the net. -/
theorem countAck (hsound : s.Sound) (m : NetId) : Backed (s.countAck m) net := by
  rcases countAck_cases s m with ⟨e, -, heq⟩ | ⟨slot, registry, hslot, -, hacks, hupdate, heq⟩
  · rwa [heq]
  · have howner := hsound.owner_valid m slot hslot
    rw [heq]
    by_cases hm : m = net
    · subst hm
      split
      · obtain ⟨helsewhere, hload⟩ := hs.resides slot hslot
        refine .of_slot { slot with pendingAcks := slot.pendingAcks - 1 }
          (by rw [post_registry, setRegistry_registry, hupdate, Function.update_self]) helsewhere ?_
        simp only [count_post (s := s.setRegistry registry) howner, count_setRegistry, post_active,
          setRegistry_active, WorkItem.isAdoptOf, WorkItem.isReclaimOf, decide_true, if_true,
          Bool.false_eq_true, if_false]
        omega
      · exact hs.setSlot hslot hupdate rfl (Nat.sub_le ..)
    · split
      · exact (hs.setSlot_of_ne hupdate hm).post howner rfl (by simp [WorkItem.isReclaimOf, hm])
      · exact hs.setSlot_of_ne hupdate hm

theorem excuse (hsound : s.Sound) (m : NetId) (count : Nat) :
    Backed (s.excuse m count) net := by
  induction count generalizing s with
  | zero => exact hs
  | succ count ih => exact ih (hs.countAck hsound m) (hsound.countAck m)

theorem adopt {state : NetState} {made : σ} (hhand : s.hand = .adopt made :: rest)
    (h : s.registry.activate (NetBehaviour.id made) s.worker = .ok (state, registry)) :
    Backed (((s.setRegistry registry).setActive s.worker (NetBehaviour.id made) (some made)).finish
      (.adopt made) rest) net := by
  obtain ⟨slot, hslot, -, hupdate⟩ := Registry.activate_eq_ok h
  by_cases hm : NetBehaviour.id made = net
  · subst hm
    obtain ⟨helsewhere, hload⟩ := hs.resides slot hslot
    have hadopts := count_finish (s := (s.setRegistry registry).setActive s.worker
      (NetBehaviour.id made) (some made)) hhand (WorkItem.isAdoptOf (NetBehaviour.id made))
    have hreclaims := count_finish (s := (s.setRegistry registry).setActive s.worker
      (NetBehaviour.id made) (some made)) hhand (WorkItem.isReclaimOf (NetBehaviour.id made))
    simp only [count_setActive, count_setRegistry, WorkItem.isAdoptOf, WorkItem.isReclaimOf,
      decide_true, if_true, Bool.false_eq_true, if_false] at hadopts hreclaims
    have hnone w : s.active w (NetBehaviour.id made) = none := by
      by_cases hw : w = slot.owner
      · have hzero : held (s.active slot.owner (NetBehaviour.id made)) = 0 := by omega
        rw [hw]
        simpa [held] using hzero
      · exact helsewhere w hw
    refine .of_slot { slot with owner := s.worker, state }
      (by rw [finish_registry, setActive_registry, setRegistry_registry, hupdate, Function.update_self])
      (fun w hw => ?_) ?_
    · rw [finish_active, setActive_active, Function.update_of_ne hw]
      exact hnone w
    · rw [finish_active, setActive_active, Function.update_self, Function.update_self]
      show _ + _ + 1 + min slot.pendingAcks 1 ≤ 1
      omega
  · exact ((hs.setSlot_of_ne hupdate hm).setActive fun e => absurd e hm).finish hhand

theorem setHalting (w : WorkerId) (m : NetId) (state : Option σ) :
    Backed (s.setHalting w m state) net :=
  hs.mono rfl (fun _ h => h) Nat.le.refl Nat.le.refl

theorem stop (w : WorkerId) (m : NetId) (state : σ) :
    Backed (s.stop w m state) net :=
  (hs.setActive fun _ _ => rfl).setHalting w m (some state)

/-- An instance stops, and an item that releases the net comes in its place. -/
theorem stopLocal (hworker : s.HasWorker s.worker)
    (h : s.active s.worker m = some state) :
    Backed ((s.stop s.worker m state).post s.worker (.reclaim m)) net := by
  by_cases hm : m = net
  · subst hm
    obtain ⟨slot, hslot, -, helsewhere, hadopts, hreclaims, hacks⟩ := hs.slot_of_active h
    have hnone w : ((s.stop s.worker m state).post s.worker (.reclaim m)).active w m = none := by
      rw [post_active, stop_active]
      by_cases hw : w = s.worker
      · rw [hw, Function.update_self, Function.update_self]
      · rw [Function.update_of_ne hw, helsewhere w hw]
    have hkept : ((s.stop s.worker m state).post s.worker (.reclaim m)).registry.slot? m = some slot := by
      rw [post_registry, stop_registry]
      exact hslot
    refine .of_slot slot hkept (fun w _ => hnone w) ?_
    rw [hnone, count_post (s := s.stop s.worker m state) hworker,
      count_post (s := s.stop s.worker m state) hworker]
    simp [hadopts, hreclaims, hacks, held, WorkItem.isAdoptOf, WorkItem.isReclaimOf]
  · exact (hs.stop ..).post hworker rfl (by simp [WorkItem.isReclaimOf, hm])

/-- An instance stops, and acknowledgments to wait for come in its place. -/
theorem stopGlobal (hsound : s.Sound) {count : Nat}
    (h : s.active s.worker m = some state) (hexpect : s.registry.expectAcks m count = .ok registry)
    (refused : Nat) :
    Backed (((s.setRegistry registry).stop s.worker m state).excuse m refused) net := by
  obtain ⟨slot, hslot, -, hupdate⟩ := Registry.expectAcks_eq_ok hexpect
  have howner := hsound.owner_valid m slot hslot
  refine excuse ?_ ((hsound.setSlot hupdate howner).stop ..) m refused
  by_cases hm : m = net
  · subst hm
    obtain ⟨found, hfound, -, helsewhere, hadopts, hreclaims, -⟩ := hs.slot_of_active h
    have hnone w : ((s.setRegistry registry).stop s.worker m state).active w m = none := by
      rw [stop_active]
      by_cases hw : w = s.worker
      · rw [hw, Function.update_self, Function.update_self]
      · rw [Function.update_of_ne hw]
        exact helsewhere w hw
    refine .of_slot { slot with pendingAcks := count }
      (by rw [stop_registry, setRegistry_registry, hupdate, Function.update_self])
      (fun w _ => hnone w) ?_
    rw [hnone, count_stop, count_stop, count_setRegistry, count_setRegistry, hadopts, hreclaims]
    simp only [held, Option.isSome_none, Bool.toNat_false]
    omega
  · exact (hs.setSlot_of_ne hupdate hm).stop ..

theorem reclaim {slot : Slot} (hhand : s.hand = .reclaim m :: rest)
    (h : s.registry.retire m = .ok (slot, registry)) :
    Backed (((s.setRegistry registry).setHalting s.worker m none).finish (.reclaim m) rest) net := by
  obtain ⟨slot, hslot, -, hupdate⟩ := Registry.retire_eq_ok h
  by_cases hm : m = net
  · subst hm
    obtain ⟨helsewhere, hload⟩ := hs.resides slot hslot
    have hadopts := count_finish (s := (s.setRegistry registry).setHalting s.worker m none) hhand
      (WorkItem.isAdoptOf m)
    have hreclaims := count_finish (s := (s.setRegistry registry).setHalting s.worker m none) hhand
      (WorkItem.isReclaimOf m)
    simp only [count_setHalting, count_setRegistry, WorkItem.isAdoptOf, WorkItem.isReclaimOf,
      decide_true, if_true, Bool.false_eq_true, if_false] at hadopts hreclaims
    refine ⟨fun _ => ⟨fun w => ?_, by omega, by omega⟩, fun found hfound => ?_⟩
    · by_cases hw : w = slot.owner
      · have hzero : held (s.active slot.owner m) = 0 := by omega
        rw [hw]
        simpa [held] using hzero
      · exact helsewhere w hw
    · rw [finish_registry, setHalting_registry, setRegistry_registry, hupdate,
        Function.update_self] at hfound
      cases hfound
  · exact ((hs.setSlot_of_ne hupdate hm).setHalting ..).finish hhand

theorem migrate {target : WorkerId} (h : s.active w m = some state)
    (htarget : s.HasWorker target) (hid : NetBehaviour.id state = m)
    (howner : s.registry.setOwner m target = .ok registry) :
    Backed (((s.setRegistry registry).setActive w m none).post target (.adopt state)) net := by
  obtain ⟨slot, hslot, hupdate⟩ := Registry.setOwner_eq_ok howner
  by_cases hm : m = net
  · subst hm
    obtain ⟨found, hfound, rfl, helsewhere, hadopts, hreclaims, hacks⟩ := hs.slot_of_active h
    rw [hslot] at hfound
    cases hfound
    have hnone v : ((s.setRegistry registry).setActive slot.owner m none).active v m = none := by
      rw [setActive_active]
      by_cases hv : v = slot.owner
      · rw [hv, Function.update_self, Function.update_self]
      · rw [Function.update_of_ne hv]
        exact helsewhere v hv
    refine .of_slot { slot with owner := target }
      (by rw [post_registry, setActive_registry, setRegistry_registry, hupdate, Function.update_self])
      (fun v _ => hnone v) ?_
    have hposted : ((s.setRegistry registry).setActive slot.owner m none).HasWorker target := htarget
    rw [post_active, hnone, count_post hposted, count_post hposted]
    simp [hadopts, hreclaims, hacks, held, WorkItem.isAdoptOf, WorkItem.isReclaimOf, hid]
  · exact ((hs.setSlot_of_ne hupdate hm).setActive fun e => absurd e hm).post htarget
      (by simp [WorkItem.isAdoptOf, hid, hm]) rfl

end

end Backed

variable {naming open_ : Prop} {ws : List Wire} {events : List TokenEvent}

theorem Asks.backed (h : Asks naming s ws events t) (hs : s.Sound) (hb : Backed s net) :
    Backed t net := by
  cases h with
  | sendLocal h =>
    exact hb.post (hs.live_owner h) rfl rfl
  | sendRemote | sendRefused | draw => exact hb.mono rfl (fun _ h => h) Nat.le.refl Nat.le.refl
  | spawn howner hinsert hid =>
    exact (hb.spawn howner hinsert hid).mono rfl (fun _ h => h) Nat.le.refl Nat.le.refl
  | halt h => exact hb.beginHalt hs h

/-- Taking a packet in keeps every halting net backed. -/
theorem Takes.backed {packet : Packet} (h : Takes s packet ws events t) (hs : s.Sound)
    (hb : Backed s net) : Backed t net := by
  cases h with
  | @tokens parcel _ _ h =>
    obtain ⟨slot, hslot, -, rfl⟩ := Registry.liveOwner?_eq_some.mp h
    have hposted : Backed (s.post slot.owner (.tokens parcel)) net :=
      hb.post (hs.owner_valid _ slot hslot) rfl rfl
    exact hposted.mono rfl (fun _ h => h) Nat.le.refl Nat.le.refl
  | spawned _ howner hinsert hid =>
    exact (hb.spawn howner hinsert hid).mono rfl (fun _ h => h) Nat.le.refl Nat.le.refl
  | halted _ h => exact hb.beginHalt hs h
  | haltAck => exact hb.countAck hs _
  | lateTokens | badTokens | spawnRefused | haltedBefore | quit | ignored | probe | reply =>
    exact hb.mono rfl (fun _ h => h) Nat.le.refl Nat.le.refl

/-- Dealing with an item hands the backing of a halting net on. -/
theorem Deals.backed (h : Deals s item ws events t) (hhand : s.hand = item :: rest) (hs : s.Sound)
    (hb : Backed s net) : Backed (t.finish item rest) net := by
  have hworker : s.HasWorker s.worker := hs.hand_valid (by simp [hhand])
  cases h with
  | adopt h => exact hb.adopt hhand h
  | hand h =>
    refine .finish (.setActive hb fun hm hnone => ?_) hhand
    simp [← hm, h] at hnone
  | reroute _ hadopt hreclaim _ _ howner =>
    obtain ⟨slot, hslot, rfl⟩ := Registry.owner?_eq_some.mp howner
    have howner := hs.owner_valid _ slot hslot
    have hcount (f : WorkItem σ → Bool) :
        ((s.post slot.owner item).finish item rest).count f ≤ s.count f := by
      have hfinish := count_finish (s := s.post slot.owner item) hhand f
      rw [count_post howner] at hfinish
      omega
    exact hb.mono rfl (fun _ h => h) (hcount _) (hcount _)
  | drop | dropHalt | fired | log => exact hb.finish hhand
  | stopForgotten => exact (hb.stop ..).finish hhand
  | stopCopy hactive | stopLocal hactive =>
    exact (hb.stopLocal hworker hactive).finish (hand_stop_post _ _ _ hhand)
  | stopGlobal hactive _ hexpect =>
    exact (hb.stopGlobal hs hactive hexpect _).finish (by rw [excuse_hand]; exact hhand)
  | reclaim h => exact hb.reclaim hhand h
  | reclaimRefused => exact (hb.setHalting ..).finish hhand

theorem Request.backed (h : Request naming s ws events t) (hs : s.Sound) (hb : Backed s net) :
    Backed t net := by
  cases h with
  | rest => exact hb
  | ask h => exact h.backed hs hb
  | quit => exact hb.mono rfl (fun _ h => h) Nat.le.refl Nat.le.refl

theorem RequestWreck.backed {c : Crash} (h : RequestWreck naming c s ws t) (hb : Backed s net) :
    Backed t net := by
  cases h with
  | misfit _ hinsert =>
    exact (hb.insert hinsert).letGo.mono rfl (fun _ h => h) Nat.le.refl Nat.le.refl

/-- If nets may be moved, they have to have their names: an instance that changes its name would get
another slot. -/
theorem Step.backed (h : Step naming open_ s ws events t) (hs : s.Sound) (hn : open_ → s.Named)
    (hb : Backed s net) : Backed t net := by
  cases h with
  | rest => exact hb
  | turn | quit | probe => exact hb.mono rfl (fun _ h => h) Nat.le.refl Nat.le.refl
  | ask _ h => exact h.backed hs hb
  | take h => exact h.backed hs hb
  | drain hhand =>
    exact hb.mono rfl (fun _ h => h) (Nat.le_of_eq (count_drain hhand _))
      (Nat.le_of_eq (count_drain hhand _))
  | deal hhand h => exact h.backed hhand hs hb
  | store h =>
    refine hb.setActive fun hm hnone => ?_
    simp [← hm, h] at hnone
  | requestFiring _ h =>
    exact hb.post (hs.live_owner h) rfl rfl
  | migrate hopen hactive htarget howner =>
    have hid := (hn hopen).active _ _ _ hactive
    exact hb.migrate hactive htarget hid (hid ▸ howner)
  | migrateLost => exact hb.setActive fun _ _ => rfl

theorem Wreck.backed {c : Crash} (h : Wreck naming open_ c s ws t) (hb : Backed s net) : Backed t net := by
  cases h with
  | lost => exact hb.letGo
  | handed h =>
    refine .letGo (.setActive hb fun hm hnone => ?_)
    simp [← hm, h] at hnone
  | misfit _ _ hinsert | misfitCopy _ _ hinsert =>
    exact (hb.insert hinsert).letGo.mono rfl (fun _ h => h) Nat.le.refl Nat.le.refl
  | overflow => exact hb.letGo.mono rfl (fun _ h => h) Nat.le.refl Nat.le.refl

end PetriCluster.Scene
