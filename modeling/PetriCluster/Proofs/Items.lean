import PetriCluster.Proofs.Scene
import PetriCluster.Proofs.Slots

/-!
# Items that wait or are at hand

The invariants of a process count items of some kind: those that wait for a worker or are at its hand
(`countAt`), and those of all workers (`count`). Beside the counting lemmas this module has the first
invariant: a scene is sound if its parts fit together, so that no owner is missing and every item that
stands for work is among the obligations.
-/

namespace PetriCluster

variable {naming : Prop} {v w : WorkerId} {net : NetId}

section Lists

variable {α : Type} (f : α → Bool)

section

variable (l : List (List α))

theorem countP_flatten_modify_append {i : Nat} (h : i < l.length) (x : α) :
    (l.modify i (· ++ [x])).flatten.countP f = l.flatten.countP f + (if f x then 1 else 0) := by
  induction l generalizing i with
  | nil => simp at h
  | cons a rest ih =>
    cases i with
    | zero => simp [List.countP_cons]; omega
    | succ i =>
      have := ih (i := i) (by simpa using h)
      simp [this]; omega

theorem countP_flatten_set_nil (i : Nat) :
    (l.set i []).flatten.countP f + (l[i]?.getD []).countP f = l.flatten.countP f := by
  induction l generalizing i with
  | nil => simp
  | cons a rest ih =>
    cases i with
    | zero => simp; omega
    | succ i =>
      have := ih i
      simp only [List.set_cons_succ, List.flatten_cons, List.countP_append, List.getElem?_cons_succ]
      omega

theorem countP_getD_le_flatten (i : Nat) :
    (l[i]?.getD []).countP f ≤ l.flatten.countP f := by
  have := countP_flatten_set_nil f l i
  omega

theorem countP_getD_add_le_flatten {i j : Nat} (h : i ≠ j) :
    (l[i]?.getD []).countP f + (l[j]?.getD []).countP f ≤ l.flatten.countP f := by
  have hi := countP_flatten_set_nil f l i
  have hj := countP_getD_le_flatten f (l.set i []) j
  rw [List.getElem?_set_ne h] at hj
  omega

end

end Lists

namespace Scene

variable {σ : Type} (s : Scene σ)
variable {f : WorkItem σ → Bool} {item : WorkItem σ}

/-- The items that wait for a worker or are at its hand. -/
def items (w : WorkerId) : List (WorkItem σ) :=
  (if w = s.worker then s.hand else []) ++ s.inbox w

/-- The number of items of a kind with a worker. -/
def countAt (w : WorkerId) (f : WorkItem σ → Bool) : Nat :=
  (s.items w).countP f

/-- The number of items of a kind with all workers. -/
def count (f : WorkItem σ → Bool) : Nat :=
  s.hand.countP f + s.inboxes.flatten.countP f

variable {s}

theorem countAt_eq (w : WorkerId) (f : WorkItem σ → Bool) :
    s.countAt w f = (if w = s.worker then s.hand.countP f else 0) + (s.inbox w).countP f := by
  by_cases h : w = s.worker <;> simp [countAt, items, h]

theorem countAt_add_le_count (h : v ≠ w) (f : WorkItem σ → Bool) :
    s.countAt v f + s.countAt w f ≤ s.count f := by
  have hboxes := countP_getD_add_le_flatten f s.inboxes
    (i := v.index) (j := w.index) (fun e => h (WorkerId.index_inj e))
  rw [countAt_eq, countAt_eq]
  simp only [count, inbox]
  by_cases hv : v = s.worker
  · have hw : w ≠ s.worker := fun e => h (hv.trans e.symm)
    rw [if_pos hv, if_neg hw]
    omega
  · rw [if_neg hv]
    split <;> omega

/-- If all items of a kind are with one worker, none is with another. -/
theorem countAt_eq_zero (h : s.count f = s.countAt w f) (hne : v ≠ w) : s.countAt v f = 0 := by
  have := countAt_add_le_count (s := s) hne f
  omega

theorem countAt_pos_of_hand {rest : List (WorkItem σ)} (h : s.hand = item :: rest) (hf : f item = true) :
    0 < s.countAt s.worker f := by
  rw [countAt_eq, if_pos rfl, h, List.countP_cons_of_pos hf]
  omega

theorem countAt_le_count (w : WorkerId) (f : WorkItem σ → Bool) : s.countAt w f ≤ s.count f := by
  have := countP_getD_le_flatten f s.inboxes w.index
  rw [countAt_eq]
  simp only [count, inbox]
  split <;> omega

section Setters

/-! Items are not touched by changes of other parts. -/

variable (f : WorkItem σ → Bool) (v : WorkerId)

@[simp] theorem count_setRegistry (registry : Registry) :
    (s.setRegistry registry).count f = s.count f := rfl

@[simp] theorem countAt_setRegistry (registry : Registry) :
    (s.setRegistry registry).countAt v f = s.countAt v f := rfl

@[simp] theorem count_setTermination (termination : Termination) :
    (s.setTermination termination).count f = s.count f := rfl

@[simp] theorem count_setIds (ids : IdSource) : (s.setIds ids).count f = s.count f := rfl

section

variable (w : WorkerId) (net : NetId)

@[simp] theorem count_setActive (state : Option σ) :
    (s.setActive w net state).count f = s.count f := rfl

@[simp] theorem countAt_setActive (state : Option σ) :
    (s.setActive w net state).countAt v f = s.countAt v f := rfl

@[simp] theorem count_setHalting (state : Option σ) :
    (s.setHalting w net state).count f = s.count f := rfl

@[simp] theorem count_stop (state : σ) :
    (s.stop w net state).count f = s.count f := rfl

@[simp] theorem countAt_stop (state : σ) :
    (s.stop w net state).countAt v f = s.countAt v f := rfl

end

theorem hand_stop_post {hand : List (WorkItem σ)} (net : NetId) (state : σ) (item : WorkItem σ)
    (h : s.hand = hand) : ((s.stop s.worker net state).post s.worker item).hand = hand := by
  rw [post_hand, stop_hand, h]

@[simp] theorem hasWorker_setRegistry (registry : Registry) :
    (s.setRegistry registry).HasWorker v ↔ s.HasWorker v := Iff.rfl

@[simp] theorem hasWorker_setTermination (termination : Termination) :
    (s.setTermination termination).HasWorker v ↔ s.HasWorker v := Iff.rfl

@[simp] theorem hasWorker_setIds (ids : IdSource) :
    (s.setIds ids).HasWorker v ↔ s.HasWorker v := Iff.rfl

@[simp] theorem hasWorker_setActive (w : WorkerId) (net : NetId) (state : Option σ) :
    (s.setActive w net state).HasWorker v ↔ s.HasWorker v := Iff.rfl

@[simp] theorem hasWorker_stop (w : WorkerId) (net : NetId) (state : σ) :
    (s.stop w net state).HasWorker v ↔ s.HasWorker v := Iff.rfl

end Setters

section Post

variable {w : WorkerId}

@[simp] theorem hasWorker_post (v : WorkerId) (item : WorkItem σ) :
    (s.post w item).HasWorker v ↔ s.HasWorker v := by
  simp [HasWorker, post]

theorem count_post (h : s.HasWorker w) (item : WorkItem σ) (f : WorkItem σ → Bool) :
    (s.post w item).count f = s.count f + (if f item then 1 else 0) := by
  simp only [count, post, countP_flatten_modify_append f s.inboxes h item]
  omega

theorem inbox_post_self (h : s.HasWorker w) (item : WorkItem σ) :
    (s.post w item).inbox w = s.inbox w ++ [item] := by
  unfold HasWorker at h
  simp [inbox, post, h]

theorem inbox_post_of_ne (hne : v ≠ w) (item : WorkItem σ) : (s.post w item).inbox v = s.inbox v := by
  have hidx : w.index ≠ v.index := fun e => hne (WorkerId.index_inj e).symm
  simp [inbox, post, hidx]

theorem items_post (h : s.HasWorker w) (v : WorkerId) (item : WorkItem σ) :
    (s.post w item).items v = s.items v ++ if v = w then [item] else [] := by
  show (if v = s.worker then s.hand else []) ++ (s.post w item).inbox v = _
  by_cases hv : v = w
  · subst hv
    rw [inbox_post_self h, if_pos rfl, items, List.append_assoc]
  · rw [inbox_post_of_ne hv, if_neg hv, List.append_nil]
    rfl

theorem countAt_post (h : s.HasWorker w) (v : WorkerId) (item : WorkItem σ)
    (f : WorkItem σ → Bool) :
    (s.post w item).countAt v f = s.countAt v f + (if v = w ∧ f item then 1 else 0) := by
  rw [countAt, items_post h, List.countP_append]
  by_cases hv : v = w <;> simp [hv, countAt, List.countP_singleton]

theorem countAt_post_self (h : s.HasWorker w) (item : WorkItem σ) (f : WorkItem σ → Bool) :
    (s.post w item).countAt w f = s.countAt w f + (if f item then 1 else 0) := by
  simp [countAt_post h]

end Post

section Hand

variable {item : WorkItem σ} {rest : List (WorkItem σ)}

section

variable (h : s.hand = item :: rest)

include h

theorem count_finish
    (f : WorkItem σ → Bool) :
    (s.finish item rest).count f + (if f item then 1 else 0) = s.count f := by
  simp only [count, finish, h, List.countP_cons]
  omega

theorem count_finish_of_not (hf : f item = false) :
    (s.finish item rest).count f = s.count f := by
  simpa [hf] using count_finish h f

theorem items_finish (w : WorkerId) :
    s.items w = (if w = s.worker then [item] else []) ++ (s.finish item rest).items w := by
  show _ = _ ++ ((if w = s.worker then rest else []) ++ s.inbox w)
  by_cases hw : w = s.worker <;> simp [items, hw, h]

theorem countAt_finish
    (w : WorkerId) (f : WorkItem σ → Bool) :
    (s.finish item rest).countAt w f + (if w = s.worker ∧ f item then 1 else 0) =
      s.countAt w f := by
  rw [countAt, countAt, items_finish h, List.countP_append, Nat.add_comm]
  by_cases hw : w = s.worker <;> simp [hw, List.countP_singleton]

theorem countAt_finish_self (f : WorkItem σ → Bool) :
    (s.finish item rest).countAt s.worker f + (if f item then 1 else 0) =
      s.countAt s.worker f := by
  simpa using countAt_finish h s.worker f

end

section

variable (h : s.hand = [])

include h

/-- Taking the items out of an inbox leaves them with their worker. -/
theorem count_drain (f : WorkItem σ → Bool) : s.drain.count f = s.count f := by
  have hset := countP_flatten_set_nil f s.inboxes s.worker.index
  simp only [count, drain_hand, drain_inboxes, h, inbox, List.countP_nil] at hset ⊢
  omega

theorem items_drain (w : WorkerId) : s.drain.items w = s.items w := by
  rw [items, items, drain_worker, drain_hand, h]
  by_cases hw : w = s.worker
  · subst hw
    by_cases hidx : s.worker.index < s.inboxes.length <;> simp [inbox, hidx]
  · have hidx : s.worker.index ≠ w.index := fun e => hw (WorkerId.index_inj e).symm
    simp [hw, inbox, List.getElem?_set_ne hidx]

theorem countAt_drain (w : WorkerId) (f : WorkItem σ → Bool) :
    s.drain.countAt w f = s.countAt w f := by
  rw [countAt, items_drain h, countAt]

theorem items_turnTo (v w : WorkerId) : (s.turnTo v).items w = s.items w := by
  rw [items, items, turnTo_hand, h]
  simp [inbox]

theorem countAt_turnTo (v w : WorkerId) (f : WorkItem σ → Bool) :
    (s.turnTo v).countAt w f = s.countAt w f := by
  rw [countAt, items_turnTo h, countAt]

end

end Hand

/-- A scene whose parts fit together. -/
structure Sound (s : Scene σ) : Prop where
  threads_pos : 0 < s.threads
  inboxes_length : s.inboxes.length = s.threads
  workers_length : s.workerCount = s.threads
  owner_valid : ∀ net slot, s.registry.slot? net = some slot → s.HasWorker slot.owner
  hand_valid : s.hand ≠ [] → s.HasWorker s.worker
  owed : s.count WorkItem.isObligation ≤ s.obligations

namespace Sound

section

variable (hs : Sound s)

include hs

theorem known_owner {net : NetId} {owner : WorkerId} (h : s.registry.owner? net = some owner) :
    s.HasWorker owner := by
  obtain ⟨slot, hslot, rfl⟩ := Registry.owner?_eq_some.mp h
  exact hs.owner_valid net slot hslot

theorem live_owner {net : NetId} {owner : WorkerId} (h : s.registry.liveOwner? net = some owner) :
    s.HasWorker owner := by
  obtain ⟨slot, hslot, -, rfl⟩ := Registry.liveOwner?_eq_some.mp h
  exact hs.owner_valid net slot hslot

theorem post (hw : s.HasWorker w) (item : WorkItem σ) : Sound (s.post w item) where
  threads_pos := hs.threads_pos
  inboxes_length := by
    simpa [Scene.post] using hs.inboxes_length
  workers_length := hs.workers_length
  owner_valid net slot h := (hasWorker_post ..).mpr (hs.owner_valid net slot h)
  hand_valid h := (hasWorker_post ..).mpr (hs.hand_valid h)
  owed := by
    rw [count_post hw, post_obligations]
    exact Nat.add_le_add hs.owed (Nat.le_of_eq rfl)

theorem update_owner {slot : Slot} (hslot : s.HasWorker slot.owner) (m : NetId)
    (found : Slot) (h : Function.update s.registry.slot? net (some slot) m = some found) :
    s.HasWorker found.owner := by
  by_cases hm : m = net
  · subst hm
    rw [Function.update_self] at h
    cases h
    exact hslot
  · rw [Function.update_of_ne hm] at h
    exact hs.owner_valid m found h

/-- The registry may change one slot, as long as its owner is a worker. -/
theorem setSlot {registry : Registry} {slot : Slot}
    (h : registry.slot? = Function.update s.registry.slot? net (some slot))
    (hslot : s.HasWorker slot.owner) : Sound (s.setRegistry registry) :=
  { hs with
    owner_valid := fun m found hfound => by
      rw [setRegistry_registry, h] at hfound
      exact hs.update_owner hslot m found hfound }

theorem eraseSlot {registry : Registry}
    (h : registry.slot? = Function.update s.registry.slot? net none) : Sound (s.setRegistry registry) :=
  { hs with
    owner_valid := fun m found hfound => by
      rw [setRegistry_registry, h] at hfound
      by_cases hm : m = net
      · rw [hm, Function.update_self] at hfound
        cases hfound
      · rw [Function.update_of_ne hm] at hfound
        exact hs.owner_valid m found hfound }

theorem setIds (ids : IdSource) : Sound (s.setIds ids) := { hs with }

theorem setActive (w : WorkerId) (net : NetId) (state : Option σ) :
    Sound (s.setActive w net state) := { hs with }

theorem setHalting (w : WorkerId) (net : NetId) (state : Option σ) :
    Sound (s.setHalting w net state) := { hs with }

theorem stop (w : WorkerId) (net : NetId) (state : σ) :
    Sound (s.stop w net state) := (hs.setActive w net none).setHalting w net (some state)

theorem setTermination (termination : Termination) :
    Sound (s.setTermination termination) := { hs with }

end

end Sound

/-- What counting an acknowledgment does: nothing if none is expected; else one less is expected, and
the last has the net released. -/
theorem countAck_cases (s : Scene σ) (net : NetId) :
    (∃ e, s.registry.acknowledge net = .error e ∧ s.countAck net = s) ∨
    ∃ slot registry, s.registry.slot? net = some slot ∧ slot.state = .halting ∧
      0 < slot.pendingAcks ∧
      registry.slot? = Function.update s.registry.slot? net
        (some { slot with pendingAcks := slot.pendingAcks - 1 }) ∧
      s.countAck net = if slot.pendingAcks = 1 then
          (s.setRegistry registry).post slot.owner (.reclaim net)
        else s.setRegistry registry := by
  unfold countAck
  rcases h : s.registry.acknowledge net with e | ⟨outcome, registry⟩
  · exact .inl ⟨e, rfl, rfl⟩
  · obtain ⟨slot, hslot, hstate, hpos, houtcome, hregistry⟩ := Registry.acknowledge_eq_ok h
    refine .inr ⟨slot, registry, hslot, hstate, hpos, hregistry, ?_⟩
    by_cases hone : slot.pendingAcks = 1
    · rw [houtcome, if_pos hone, if_pos (by omega)]
    · rw [houtcome, if_neg hone, if_neg (by omega)]

theorem excuse_eq (s : Scene σ) (net : NetId) (count : Nat) :
    ∃ registry inboxes obligations,
      s.excuse net count = { s with registry, inboxes, obligations } := by
  induction count generalizing s with
  | zero => exact ⟨s.registry, s.inboxes, s.obligations, rfl⟩
  | succ count ih =>
    obtain ⟨registry, inboxes, obligations, heq⟩ := ih (s.countAck net)
    refine ⟨registry, inboxes, obligations, heq.trans ?_⟩
    rcases countAck_cases s net with ⟨e, -, hsame⟩ | ⟨slot, registry, -, -, -, -, hsame⟩ <;>
      rw [hsame]
    split <;> rfl

section

variable (net : NetId)

section

variable (count : Nat)

@[simp] theorem excuse_hand : (s.excuse net count).hand = s.hand := by
  obtain ⟨registry, inboxes, obligations, heq⟩ := s.excuse_eq net count
  rw [heq]

@[simp] theorem excuse_worker :
    (s.excuse net count).worker = s.worker := by
  obtain ⟨registry, inboxes, obligations, heq⟩ := s.excuse_eq net count
  rw [heq]

@[simp] theorem excuse_id : (s.excuse net count).id = s.id := by
  obtain ⟨registry, inboxes, obligations, heq⟩ := s.excuse_eq net count
  rw [heq]

@[simp] theorem excuse_processCount :
    (s.excuse net count).processCount = s.processCount := by
  obtain ⟨registry, inboxes, obligations, heq⟩ := s.excuse_eq net count
  rw [heq]

@[simp] theorem excuse_termination :
    (s.excuse net count).termination = s.termination := by
  obtain ⟨registry, inboxes, obligations, heq⟩ := s.excuse_eq net count
  rw [heq]

@[simp] theorem excuse_active :
    (s.excuse net count).active = s.active := by
  obtain ⟨registry, inboxes, obligations, heq⟩ := s.excuse_eq net count
  rw [heq]

@[simp] theorem excuse_halting :
    (s.excuse net count).halting = s.halting := by
  obtain ⟨registry, inboxes, obligations, heq⟩ := s.excuse_eq net count
  rw [heq]

end

end

theorem Sound.countAck (hs : Sound s) (net : NetId) : Sound (s.countAck net) := by
  rcases countAck_cases s net with ⟨e, -, heq⟩ | ⟨slot, registry, hslot, -, -, hregistry, heq⟩
  · rwa [heq]
  · have howner := hs.owner_valid net slot hslot
    have hset : Sound (s.setRegistry registry) := hs.setSlot hregistry howner
    rw [heq]
    split
    · exact hset.post howner _
    · exact hset

theorem Sound.excuse (hs : Sound s) (net : NetId) (count : Nat) : Sound (s.excuse net count) := by
  induction count generalizing s with
  | zero => exact hs
  | succ count ih => exact ih (hs.countAck net)

theorem count_excuse (hs : Sound s) (net : NetId) (count : Nat) (hf : f (.reclaim net) = false) :
    (s.excuse net count).count f = s.count f := by
  induction count generalizing s with
  | zero => rfl
  | succ count ih =>
    rw [Scene.excuse, ih (hs.countAck net)]
    rcases countAck_cases s net with ⟨e, -, heq⟩ | ⟨slot, registry, hslot, -, -, -, heq⟩
    · rw [heq]
    · rw [heq]
      split
      · simp [count_post (s := s.setRegistry registry) (hs.owner_valid net slot hslot), hf]
      · rfl

theorem Sound.finish {rest : List (WorkItem σ)} (hs : Sound s) (hhand : s.hand = item :: rest) :
    Sound (s.finish item rest) where
  threads_pos := hs.threads_pos
  inboxes_length := hs.inboxes_length
  workers_length := hs.workers_length
  owner_valid := hs.owner_valid
  hand_valid _ := hs.hand_valid (by simp [hhand])
  owed := by
    have := hs.owed
    simp only [count, hhand, List.countP_cons] at this
    simp only [count, Scene.finish, WorkItem.weight]
    omega

variable [NetBehaviour σ] {t : Scene σ} {ws : List Wire} {events : List TokenEvent}

/-- A request keeps a scene sound. -/
theorem Asks.sound (h : Asks naming s ws events t) (hs : Sound s) : Sound t := by
  cases h with
  | sendLocal h =>
    exact hs.post (hs.live_owner h) _
  | sendRemote => exact { hs with }
  | sendRefused => exact hs
  | draw => exact hs.setIds _
  | spawn howner hinsert =>
    have hset := hs.setSlot (Registry.insert_eq_ok hinsert).2 howner
    exact ((hset.setTermination _).setIds _).post howner _
  | halt h =>
    obtain ⟨slot, hslot, rfl, -, -, hregistry⟩ := Registry.beginHalt_eq_started h
    have howner := hs.owner_valid _ _ hslot
    exact (hs.setSlot hregistry howner).post howner _

/-- Taking a packet in keeps a scene sound. -/
theorem Takes.sound {packet : Packet} (h : Takes s packet ws events t) (hs : Sound s) :
    Sound t := by
  cases h with
  | tokens _ h =>
    exact (hs.setTermination s.termination.recordReceived).post (hs.live_owner h) _
  | lateTokens | badTokens | spawnRefused | quit | reply => exact { hs with }
  | spawned _ howner hinsert =>
    have hset := hs.setSlot (Registry.insert_eq_ok hinsert).2 howner
    exact (hset.setTermination _).post howner _
  | halted _ h =>
    obtain ⟨slot, hslot, rfl, -, -, hregistry⟩ := Registry.beginHalt_eq_started h
    have howner := hs.owner_valid _ _ hslot
    exact (hs.setSlot hregistry howner).post howner _
  | haltedBefore | ignored | probe => exact hs
  | haltAck => exact hs.countAck _

section

variable (h : Deals s item ws events t)

include h

/-- Dealing with an item keeps a scene sound. -/
theorem Deals.sound (hs : Sound s) (hw : s.HasWorker s.worker) :
    Sound t := by
  cases h with
  | adopt h =>
    obtain ⟨slot, hslot, -, hregistry⟩ := Registry.activate_eq_ok h
    exact (hs.setSlot hregistry hw).setActive ..
  | hand => exact hs.setActive ..
  | reroute _ _ _ _ _ h =>
    exact hs.post (hs.known_owner h) _
  | drop | dropHalt | fired | log => exact hs
  | stopForgotten => exact (hs.setActive ..).setHalting ..
  | stopCopy | stopLocal => exact ((hs.setActive ..).setHalting ..).post hw _
  | stopGlobal _ _ h =>
    obtain ⟨slot, hslot, -, hregistry⟩ := Registry.expectAcks_eq_ok h
    have howner := hs.owner_valid _ _ hslot
    have hset := hs.setSlot hregistry howner
    exact Sound.excuse ((hset.setActive ..).setHalting ..) _ _
  | reclaim h =>
    obtain ⟨slot, -, -, hregistry⟩ := Registry.retire_eq_ok h
    exact (hs.eraseSlot hregistry).setHalting ..
  | reclaimRefused => exact hs.setHalting ..

theorem Deals.hand_eq : t.hand = s.hand ∧ t.worker = s.worker := by
  cases h with
  | stopGlobal => exact ⟨excuse_hand .., excuse_worker ..⟩
  | stopCopy | stopLocal => exact ⟨hand_stop_post _ _ _ rfl, by rw [post_worker, stop_worker]⟩
  | _ => exact ⟨rfl, rfl⟩

end

/-- One step keeps a scene sound. -/
theorem Step.sound {open_ : Prop} (h : Step naming open_ s ws events t) (hs : Sound s) : Sound t := by
  cases h with
  | rest => exact hs
  | turn w hhand => exact { hs with hand_valid := fun h => absurd hhand h }
  | ask _ h => exact h.sound hs
  | quit => exact { hs with }
  | take h => exact h.sound hs
  | drain hhand =>
    refine { hs with inboxes_length := ?_, owner_valid := ?_, hand_valid := ?_, owed := ?_ }
    · simpa using hs.inboxes_length
    · intro net slot h
      simpa [HasWorker] using hs.owner_valid net slot h
    · intro h
      by_contra hno
      simp only [HasWorker, drain_inboxes, drain_worker, List.length_set, Nat.not_lt] at hno
      simp [inbox, List.getElem?_eq_none hno] at h
    · rw [count_drain hhand]
      exact hs.owed
  | deal hhand h =>
    have ht := h.sound hs (hs.hand_valid (by simp [hhand]))
    exact ht.finish (h.hand_eq.1.trans hhand)
  | store => exact hs.setActive ..
  | probe => exact { hs with }
  | requestFiring _ h =>
    exact hs.post (hs.live_owner h) _
  | migrate _ _ htarget h =>
    obtain ⟨slot, hslot, hregistry⟩ := Registry.setOwner_eq_ok h
    exact ((hs.setSlot hregistry htarget).setActive ..).post htarget _
  | migrateLost => exact hs.setActive ..

/-- So does what a crash leaves behind. -/
theorem Wreck.sound {open_ : Prop} {c : Crash} (h : Wreck naming open_ c s ws t) (hs : Sound s) :
    Sound t := by
  have drop {u : Scene σ} (hu : Sound u) : Sound u.letGo := by
    refine { hu with hand_valid := fun h => absurd rfl h, owed := ?_ }
    have := hu.owed
    simp only [count, letGo_hand, letGo_inboxes, letGo_obligations, List.countP_nil] at this ⊢
    omega
  cases h with
  | lost => exact drop hs
  | handed => exact drop (hs.setActive ..)
  | misfit _ howner hinsert =>
    exact drop ((hs.setSlot (Registry.insert_eq_ok hinsert).2 howner).setIds _)
  | misfitCopy _ howner hinsert =>
    have hset := hs.setSlot (Registry.insert_eq_ok hinsert).2 howner
    exact drop (hset.setTermination _)
  | overflow => exact (drop hs).setTermination _

end Scene

end PetriCluster
