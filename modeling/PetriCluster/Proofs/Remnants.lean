import PetriCluster.Proofs.Confinement

/-!
# What is left of a net that halts

Once the only net of a process halts, what the process still has of it is at most one instance, which
waits to be adopted, stopped or released, and nothing waits but what brings it to its end
(`Scene.Dwindles`).
-/

namespace PetriCluster

variable {owner w : WorkerId} {adopted : Bool}

/-- Where the last instance of a process may be. -/
inductive Spot where
  | queued (w : WorkerId)
  | active (w : WorkerId)
  | stopped (w : WorkerId)

namespace WorkItem

/-- The item brings an instance. -/
def isAdopt {σ : Type} : WorkItem σ → Bool
  | adopt _ => true
  | _ => false

/-- Whether an item is about the end of a net. -/
def IsExit {σ : Type} : WorkItem σ → Prop
  | halt .. | reclaim _ => True
  | _ => False

end WorkItem

namespace Scene

variable {σ : Type} [NetBehaviour σ] {s t : Scene σ} {net : NetId} {state : σ} {spot : Spot}
  {item : WorkItem σ} {rest : List (WorkItem σ)} {packet : Packet} {ws : List Wire}
  {events : List TokenEvent}

/-- At most one instance is there, and no token; what waits is about its end. -/
structure Idles (s : Scene σ) (net : NetId) (state : σ) (spot : Spot) : Prop where
  name : NetBehaviour.id state = net
  active : ∀ w m found, s.active w m = some found → spot = .active w ∧ m = net ∧ found = state
  halting : ∀ w m found, s.halting w m = some found → spot = .stopped w ∧ m = net ∧ found = state
  items : ∀ w, ∀ item ∈ s.items w, item = .adopt state ∧ spot = .queued w ∨ item.IsExit
  once : ∀ w, s.countAt w WorkItem.isAdopt ≤ 1

theorem Seats.not_stopped {bound : List Parcel} (h : s.Seats net owner adopted state bound) :
    ¬ s.registry.Stopped net := by
  intro hstopped
  cases h.liveOwner?.symm.trans hstopped.not_live

theorem Seats.lone {bound : List Parcel} (h : s.Seats net owner adopted state bound) :
    s.registry.Lone net := by
  refine ⟨fun m hm => ?_, .inl h.retired⟩
  obtain ⟨slot, -, -, hslot⟩ := h.slot
  rw [hslot, Function.update_of_ne hm]

theorem Seats.idles (h : s.Seats net owner adopted state []) :
    s.Idles net state (if adopted = true then .active owner else .queued owner) where
  name := h.name
  active w m found hfound := by
    obtain ⟨rfl, rfl, rfl, rfl⟩ := h.eq_of_active hfound
    simp
  halting w m found hfound := by simp [h.halting] at hfound
  items w item hitem := by
    rw [h.items] at hitem
    cases adopted <;> by_cases hw : w = owner <;> simp_all
  once w := by
    rw [countAt, h.items]
    cases adopted <;> by_cases hw : w = owner <;> simp [hw, WorkItem.isAdopt]

namespace Idles

section

variable (h : s.Idles net state spot)

include h

theorem shrink (hactive : t.active = s.active)
    (hhalting : t.halting = s.halting) (hitems : ∀ w, (t.items w).Sublist (s.items w)) :
    t.Idles net state spot where
  name := h.name
  active := by rw [hactive]; exact h.active
  halting := by rw [hhalting]; exact h.halting
  items w item hitem := h.items w item ((hitems w).mem hitem)
  once w := Nat.le_trans ((hitems w).countP_le) (h.once w)

theorem finish (hhand : s.hand = item :: rest) :
    (s.finish item rest).Idles net state spot := by
  refine h.shrink rfl rfl fun w => ?_
  rw [items_finish hhand w]
  exact List.sublist_append_right ..

theorem letGo : s.letGo.Idles net state spot := by
  refine h.shrink rfl rfl fun w => ?_
  show ((if w = s.worker then [] else []) ++ s.inbox w).Sublist (s.items w)
  rw [ite_self, List.nil_append]
  exact List.sublist_append_right ..

theorem setRegistry (registry : Registry) :
    (s.setRegistry registry).Idles net state spot :=
  h.shrink rfl rfl fun _ => .refl _

theorem post (hw : s.HasWorker w) (item : WorkItem σ) (hitem : item.IsExit) :
    (s.post w item).Idles net state spot where
  name := h.name
  active := h.active
  halting := h.halting
  items v other hother := by
    rcases mem_items_post hother with hother | rfl
    · exact h.items v other hother
    · exact .inr hitem
  once v := by
    have hnot : item.isAdopt = false := by
      cases item <;> first | rfl | cases hitem
    rw [countAt_post hw, hnot]
    simpa using h.once v

theorem stop {m : NetId} {found : σ} (hactive : s.active w m = some found) :
    (s.stop w m found).Idles net state (.stopped w) := by
  obtain ⟨rfl, rfl, rfl⟩ := h.active w m found hactive
  refine { h with active := ?_, halting := ?_, items := ?_ }
  · intro v k other hother
    rw [stop_active] at hother
    by_cases hv : v = w
    · subst hv
      by_cases hk : k = m
      · simp [hk] at hother
      · rw [Function.update_self, Function.update_of_ne hk] at hother
        exact absurd (h.active v k other hother).2.1 hk
    · rw [Function.update_of_ne hv] at hother
      cases (h.active v k other hother).1
      exact absurd rfl hv
  · intro v k other hother
    rw [stop_halting] at hother
    by_cases hv : v = w
    · subst hv
      by_cases hk : k = m
      · subst hk
        simp only [Function.update_self, Option.some.injEq] at hother
        exact ⟨rfl, rfl, hother.symm⟩
      · rw [Function.update_self, Function.update_of_ne hk] at hother
        cases (h.halting v k other hother).1
    · rw [Function.update_of_ne hv] at hother
      cases (h.halting v k other hother).1
  · intro v item hitem
    rcases h.items v item hitem with ⟨-, hspot⟩ | hexit
    · cases hspot
    · exact .inr hexit

theorem release (w : WorkerId) (m : NetId) :
    (s.setHalting w m none).Idles net state spot := by
  refine { h with halting := fun v k found hfound => h.halting v k found ?_ }
  rw [setHalting_halting] at hfound
  by_cases hv : v = w
  · subst hv
    by_cases hk : k = m
    · simp [hk] at hfound
    · rwa [Function.update_self, Function.update_of_ne hk] at hfound
  · rwa [Function.update_of_ne hv] at hfound

theorem countAck (hs : s.Sound) (m : NetId) :
    (s.countAck m).Idles net state spot := by
  unfold Scene.countAck
  rcases hack : s.registry.acknowledge m with e | ⟨outcome, registry⟩
  · exact h
  · obtain ⟨slot, hslot, -, -, houtcome, rfl⟩ := Registry.acknowledge_eq_setSlot hack
    cases outcome with
    | waiting => exact h.setRegistry _
    | complete owner =>
      split at houtcome <;> cases houtcome
      refine (h.setRegistry _).post (w := slot.owner) ?_ (.reclaim m) trivial
      exact hs.owner_valid _ _ hslot

theorem excuse (hs : s.Sound) (m : NetId) (count : Nat) :
    (s.excuse m count).Idles net state spot := by
  induction count generalizing s with
  | zero => exact h
  | succ count ih => exact ih (h.countAck hs m) (hs.countAck m)

theorem adopt (hhand : s.hand = .adopt state :: rest)
    (registry : Registry) :
    (((s.setRegistry registry).setActive s.worker net (some state)).finish
        (.adopt state) rest).Idles net state (.active s.worker) := by
  have hitem : WorkItem.adopt state ∈ s.items s.worker := by simp [Scene.items, hhand]
  obtain rfl : spot = .queued s.worker := by
    rcases h.items _ _ hitem with ⟨-, hspot⟩ | hexit
    · exact hspot
    · cases hexit
  have hleft := (h.setRegistry registry).finish hhand
  refine { hleft with active := ?_, halting := ?_, items := ?_ }
  · intro v k found hfound
    rw [finish_active, setActive_active] at hfound
    by_cases hv : v = s.worker
    · subst hv
      by_cases hk : k = net
      · subst hk
        simp only [Function.update_self, Option.some.injEq] at hfound
        exact ⟨rfl, rfl, hfound.symm⟩
      · rw [Function.update_self, Function.update_of_ne hk] at hfound
        cases (h.active _ k found hfound).1
    · rw [Function.update_of_ne hv] at hfound
      cases (h.active v k found hfound).1
  · intro v k found hfound
    cases (h.halting v k found hfound).1
  · intro v item hitem
    rcases hleft.items v item hitem with ⟨rfl, hspot⟩ | hexit
    · -- The instance waits only once, and that was at hand.
      cases hspot
      have hcount := countAt_finish_self hhand WorkItem.isAdopt
      have hpos : 0 < (s.finish (.adopt state) rest).countAt s.worker WorkItem.isAdopt :=
        List.countP_pos_iff.mpr ⟨_, hitem, rfl⟩
      have honce := h.once s.worker
      simp only [WorkItem.isAdopt, if_true] at hcount hpos honce
      omega
    · exact .inr hexit

theorem of_hand (hhand : s.hand = item :: rest) :
    item = .adopt state ∨ item.IsExit :=
  (h.items s.worker item (by simp [Scene.items, hhand])).imp_left And.left

theorem deal (hs : s.Sound) (hhand : s.hand = item :: rest)
    (hdeals : Deals s item ws events t) :
    events = [] ∧ ∃ spot, (t.finish item rest).Idles net state spot := by
  have hworker : s.HasWorker s.worker := hs.hand_valid (by simp [hhand])
  have hitem := h.of_hand hhand
  have hend : t.hand = item :: rest := hdeals.hand_eq.1.trans hhand
  cases hdeals with
  | adopt hactivate =>
    rcases hitem with heq | hexit
    · cases heq
      rw [h.name] at hactivate ⊢
      exact ⟨rfl, _, h.adopt hhand _⟩
    · cases hexit
  | hand | drop | fired =>
    rcases hitem with heq | hexit
    · cases heq
    · cases hexit
  | reroute _ hadopt _ _ _ howner =>
    have hexit := hitem.resolve_left (hadopt _)
    exact ⟨rfl, spot, (h.post (hs.known_owner howner) item hexit).finish hend⟩
  | dropHalt => exact ⟨rfl, spot, h.finish hend⟩
  | stopForgotten hactive => exact ⟨rfl, _, (h.stop hactive).finish hend⟩
  | stopCopy hactive | stopLocal hactive =>
    exact ⟨rfl, _, ((h.stop hactive).post hworker (.reclaim _) trivial).finish hend⟩
  | @stopGlobal m found _ _ hactive _ hexpect =>
    obtain ⟨slot, hslot, -, rfl⟩ := Registry.expectAcks_eq_setSlot hexpect
    have howner : s.HasWorker slot.owner := hs.owner_valid _ _ hslot
    have hslots := Registry.slot?_setSlot s.registry m { slot with pendingAcks := s.processCount - 1 }
    have hsound := (hs.setSlot hslots howner).stop s.worker m found
    have hset := h.setRegistry (s.registry.setSlot m { slot with pendingAcks := s.processCount - 1 })
    exact ⟨rfl, _, ((hset.stop hactive).excuse hsound m _).finish hend⟩
  | reclaim => exact ⟨rfl, _, ((h.setRegistry _).release ..).finish hend⟩
  | reclaimRefused => exact ⟨rfl, _, (h.release ..).finish hend⟩
  | log hweight =>
    rcases hitem with rfl | hexit
    · cases hweight
    · cases item with
      | halt | reclaim => cases hweight
      | _ => cases hexit

end

end Idles

/-- The registry knows one net only, and at most one instance is left. -/
structure Dwindles (s : Scene σ) (net : NetId) (state : σ) : Prop where
  lone : s.registry.Lone net
  idles : ∃ spot, s.Idles net state spot

/-- What goes on after the halt: notices are sent, no token is touched, and the halt is not undone. -/
structure Subsides (s : Scene σ) (net : NetId) (ws : List Wire) (events : List TokenEvent)
    (t : Scene σ) : Prop where
  utters : Wire.Utters (Packet.Tells ControlMessage.isNotice) ws
  events : events = []
  stopped : s.registry.Stopped net → t.registry.Stopped net

theorem Seats.dwindles (h : s.Seats net owner adopted state []) : s.Dwindles net state :=
  ⟨h.lone, _, h.idles⟩

theorem Seats.halts (h : s.Seats net owner adopted state []) {slot : Slot}
    (hslot : s.registry.slot? net = some slot) (hworker : s.HasWorker slot.owner) :
    ((s.setRegistry (s.registry.setSlot net { slot with state := .halting })).post slot.owner
      (.halt net none)).Dwindles net state := by
  refine ⟨h.lone.setSlot hslot _, _, (h.idles.setRegistry _).post (w := slot.owner) ?_ _ trivial⟩
  exact hworker

namespace Dwindles

section

variable (h : s.Dwindles net state)

include h

theorem congr (hsame : s.Unmoved t) : t.Dwindles net state := by
  obtain ⟨hlone, spot, hidles⟩ := h
  refine ⟨hsame.registry ▸ hlone, spot, hidles.shrink hsame.active hsame.halting fun w => ?_⟩
  rw [hsame.items]

theorem of_hand (hhand : s.hand = item :: rest) :
    item = .adopt state ∨ item.IsExit := by
  obtain ⟨spot, hidles⟩ := h.idles
  exact hidles.of_hand hhand

theorem eq_of_active {m : NetId} {found : σ}
    (hfound : s.active w m = some found) : m = net ∧ found = state := by
  obtain ⟨spot, hidles⟩ := h.idles
  exact (hidles.active w m found hfound).2

theorem deal (hs : s.Sound) (hhand : s.hand = item :: rest)
    (hdeals : Deals s item ws events t) :
    Subsides s net ws events t ∧ (t.finish item rest).Dwindles net state := by
  obtain ⟨hlone, spot, hidles⟩ := h
  obtain ⟨hlone', hstopped⟩ := hdeals.fades hlone
  obtain ⟨hevents, hidles'⟩ := hidles.deal hs hhand hdeals
  exact ⟨⟨hdeals.utters.1, hevents, hstopped⟩, hlone', hidles'⟩

theorem fail (hhand : s.hand = item :: rest) {c : Crash}
    (hfails : Fails s item c t) : t.letGo.Dwindles net state ∧ t.registry = s.registry := by
  obtain ⟨hlone, spot, hidles⟩ := h
  cases hfails with
  | orphan | stray => exact ⟨⟨hlone, spot, hidles.letGo⟩, rfl⟩
  | broken =>
    rcases hidles.of_hand hhand with heq | hexit
    · cases heq
    · cases hexit

theorem take (hs : s.Sound)
    (hpacket : packet.Tells ControlMessage.isNotice) (htakes : Takes s packet ws events t) :
    Subsides s net ws events t ∧ t.Dwindles net state := by
  obtain ⟨hlone, spot, hidles⟩ := h
  have hfades : Registry.Fades net s.registry t.registry := htakes.fades hpacket.2
  obtain ⟨hlone', hstopped⟩ := hfades hlone
  have hutters := htakes.utters.mono fun p (hp : p.Tells ControlMessage.isMild) =>
    hp.mono fun _ => ControlMessage.isNotice_of_isMild
  suffices hrest : events = [] ∧ t.Idles net state spot from
    ⟨⟨hutters, hrest.1, hstopped⟩, hlone', spot, hrest.2⟩
  have htag := hpacket.1
  cases htakes with
  | tokens hparcel => simp [Packet.tag_of_parcel hparcel] at htag
  | lateTokens hparcel => simp [Packet.tag_of_parcel hparcel] at htag
  | badTokens htokens => simp [htokens] at htag
  | spawned hmessage => cases hpacket.2 _ hmessage
  | spawnRefused hmessage => cases hpacket.2 _ hmessage
  | halted _ hbegin =>
    obtain ⟨slot, hslot, rfl, -, -, rfl⟩ := Registry.beginHalt_eq_setSlot hbegin
    refine ⟨rfl, (hidles.setRegistry _).post (w := slot.owner) ?_ (.halt ..) trivial⟩
    exact hs.owner_valid _ _ hslot
  | haltAck => exact ⟨rfl, hidles.countAck hs _⟩
  | quit | reply => exact ⟨rfl, hidles.shrink rfl rfl fun _ => .refl _⟩
  | ignored | haltedBefore | probe => exact ⟨rfl, hidles⟩

end

end Dwindles

end Scene

end PetriCluster
