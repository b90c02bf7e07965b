import PetriCluster.Registry.Basic
import Mathlib.Data.Finset.Card
import Mathlib.Logic.Function.Basic

/-!
# What each change of the registry does to the slots

A registry is seen through `slot?`. Each change that succeeds tells the slot it found, and puts one
slot in its place (`*_eq_setSlot`) or takes it away; all other slots stay (`*_eq_ok`).
-/

namespace PetriCluster

variable {w owner : WorkerId} {e : RuntimeError} {slot : Slot} {isGlobal : Bool}

namespace OrderedMap

variable {κ υ : Type} [Numbered κ]
variable {m : OrderedMap κ υ} {k : κ} {l : List (κ × υ)} {e : κ × υ}

theorem lookup_of_mem (h : l.Pairwise fun a b => number a.1 < number b.1)
    (he : e ∈ l) : lookup e.1 l = some e.2 := by
  induction l with
  | nil => simp at he
  | cons d rest ih =>
    obtain ⟨hd, hrest⟩ := List.pairwise_cons.mp h
    rcases List.mem_cons.mp he with rfl | he
    · simp [lookup]
    · have := hd e he
      rw [lookup, if_neg (by omega)]
      exact ih hrest he

theorem find?_of_mem (m : OrderedMap κ υ) (h : e ∈ m.entries) :
    m.find? e.1 = some e.2 :=
  lookup_of_mem m.ordered h

theorem mem_of_lookup {v : υ} (h : lookup k l = some v) : (k, v) ∈ l := by
  induction l with
  | nil => cases h
  | cons e rest ih =>
    unfold lookup at h
    split at h
    · rename_i hk
      cases h
      rw [← Numbered.number_inj hk]
      exact List.mem_cons_self
    · exact List.mem_cons_of_mem _ (ih h)

theorem mem_keys : k ∈ m.keys ↔ m.find? k ≠ none := by
  rw [keys, List.mem_map, Option.ne_none_iff_exists']
  constructor
  · rintro ⟨e, he, rfl⟩
    exact ⟨e.2, m.find?_of_mem he⟩
  · rintro ⟨v, hv⟩
    exact ⟨(k, v), mem_of_lookup hv, rfl⟩

theorem nodup_keys (m : OrderedMap κ υ) : m.keys.Nodup := by
  rw [keys, List.nodup_iff_pairwise_ne, List.pairwise_map]
  refine m.ordered.imp fun hlt heq => ?_
  rw [heq] at hlt
  exact Nat.lt_irrefl _ hlt

theorem size_eq_card [DecidableEq κ] (m : OrderedMap κ υ) : m.size = m.keys.toFinset.card := by
  rw [List.toFinset_card_of_nodup m.nodup_keys, keys, List.length_map, size]

theorem size_insert_of_none [DecidableEq κ] (h : m.find? k = none) (v : υ) :
    (m.insert k v).size = m.size + 1 := by
  rw [size_eq_card, size_eq_card, ← Finset.card_insert_of_notMem (a := k) (by simp [mem_keys, h])]
  congr 1
  ext j
  by_cases hj : j = k
  · simp [hj, mem_keys]
  · simp [hj, mem_keys, find?_insert_of_ne m (Ne.symm hj)]

theorem size_insert_of_some [DecidableEq κ] (h : m.find? k ≠ none) (v : υ) :
    (m.insert k v).size = m.size := by
  rw [size_eq_card, size_eq_card]
  congr 1
  ext j
  by_cases hj : j = k
  · simp [hj, mem_keys, h]
  · simp [mem_keys, find?_insert_of_ne m (Ne.symm hj)]

theorem size_erase_of_some [DecidableEq κ] (h : m.find? k ≠ none) : (m.erase k).size + 1 = m.size := by
  rw [size_eq_card, size_eq_card, ← Finset.card_insert_of_notMem (a := k) (by simp [mem_keys])]
  congr 1
  ext j
  by_cases hj : j = k
  · simp [hj, mem_keys, h]
  · simp [hj, mem_keys, find?_erase_of_ne m (Ne.symm hj)]

end OrderedMap

namespace Registry

variable {r r' : Registry} {net : NetId}

theorem slot?_create (window : Nat) (net : NetId) : (create window).slot? net = none := rfl

@[simp] theorem isRetired_create (window : Nat) (net : NetId) :
    (create window).isRetired net = false := by
  simp [isRetired, create, Retired.create, Retired.contains]

@[simp] theorem isRetired_setSlot (r : Registry) (m net : NetId) (slot : Slot) :
    (r.setSlot m slot).isRetired net = r.isRetired net := rfl

theorem slot?_setSlot (r : Registry) (net : NetId) (slot : Slot) :
    (r.setSlot net slot).slot? = Function.update r.slot? net (some slot) := by
  funext m
  by_cases h : m = net
  · subst h
    simp [slot?, setSlot]
  · rw [Function.update_of_ne h]
    exact OrderedMap.find?_insert_of_ne _ (Ne.symm h) _

variable {template : Nat} {parent : Option NetId} {state : NetState} {count : Nat} {outcome : AckOutcome}

theorem insert_eq_setSlot
    (h : r.insert net template owner parent isGlobal = .ok r') :
    r.isRetired net = false ∧ r.slot? net = none ∧
      r' = r.setSlot net ⟨template, owner, parent, isGlobal, .spawned, 0⟩ := by
  unfold insert at h
  split at h
  · cases h
  · rename_i hnot
    cases h
    simp only [Bool.or_eq_true, not_or, Bool.not_eq_true] at hnot
    exact ⟨hnot.1, by simpa using hnot.2, rfl⟩

theorem insert_eq_ok
    (h : r.insert net template owner parent isGlobal = .ok r') :
    r.slot? net = none ∧ r'.slot? =
      Function.update r.slot? net (some ⟨template, owner, parent, isGlobal, .spawned, 0⟩) := by
  obtain ⟨-, hnone, rfl⟩ := insert_eq_setSlot h
  exact ⟨hnone, slot?_setSlot ..⟩

theorem activate_eq_setSlot (h : r.activate net w = .ok (state, r')) :
    ∃ slot, r.slot? net = some slot ∧
      state = (if slot.state = .spawned then .active else slot.state) ∧
      r' = r.setSlot net { slot with owner := w, state } := by
  unfold activate at h
  split at h
  · cases h
  · rename_i slot hslot
    cases h
    exact ⟨slot, hslot, rfl, rfl⟩

theorem activate_eq_ok (h : r.activate net w = .ok (state, r')) :
    ∃ slot, r.slot? net = some slot ∧
      state = (if slot.state = .spawned then .active else slot.state) ∧
      r'.slot? = Function.update r.slot? net (some { slot with owner := w, state }) := by
  obtain ⟨slot, hslot, hstate, rfl⟩ := activate_eq_setSlot h
  exact ⟨slot, hslot, hstate, slot?_setSlot ..⟩

theorem activate_eq_error (h : r.activate net w = .error e) : r.slot? net = none := by
  unfold activate at h
  split at h
  · assumption
  · cases h

theorem setOwner_eq_setSlot (h : r.setOwner net w = .ok r') :
    ∃ slot, r.slot? net = some slot ∧ r' = r.setSlot net { slot with owner := w } := by
  unfold setOwner at h
  split at h
  · cases h
  · rename_i slot hslot
    cases h
    exact ⟨slot, hslot, rfl⟩

theorem setOwner_eq_ok (h : r.setOwner net w = .ok r') :
    ∃ slot, r.slot? net = some slot ∧
      r'.slot? = Function.update r.slot? net (some { slot with owner := w }) := by
  obtain ⟨slot, hslot, rfl⟩ := setOwner_eq_setSlot h
  exact ⟨slot, hslot, slot?_setSlot ..⟩

theorem setOwner_eq_error (h : r.setOwner net w = .error e) : r.slot? net = none := by
  unfold setOwner at h
  split at h
  · assumption
  · cases h

theorem beginHalt_eq_setSlot (h : r.beginHalt net = .ok (.started owner isGlobal, r')) :
    ∃ slot, r.slot? net = some slot ∧ slot.owner = owner ∧ slot.isGlobal = isGlobal ∧
      slot.state.isLive = true ∧ r' = r.setSlot net { slot with state := .halting } := by
  unfold beginHalt at h
  split at h
  · cases h
  · split at h
    · cases h
    · rename_i slot hslot
      split at h
      · rename_i hlive
        cases h
        exact ⟨slot, hslot, rfl, rfl, hlive, rfl⟩
      · cases h

theorem beginHalt_eq_started (h : r.beginHalt net = .ok (.started owner isGlobal, r')) :
    ∃ slot, r.slot? net = some slot ∧ slot.owner = owner ∧ slot.isGlobal = isGlobal ∧
      slot.state.isLive = true ∧
      r'.slot? = Function.update r.slot? net (some { slot with state := .halting }) := by
  obtain ⟨slot, hslot, howner, hglobal, hlive, rfl⟩ := beginHalt_eq_setSlot h
  exact ⟨slot, hslot, howner, hglobal, hlive, slot?_setSlot ..⟩

theorem beginHalt_eq_alreadyHalting (h : r.beginHalt net = .ok (.alreadyHalting, r')) : r' = r := by
  unfold beginHalt at h
  split at h
  · cases h
    rfl
  · split at h
    · cases h
    · split at h
      · cases h
      · cases h
        rfl

theorem expectAcks_eq_setSlot (h : r.expectAcks net count = .ok r') :
    ∃ slot, r.slot? net = some slot ∧ slot.state = .halting ∧
      r' = r.setSlot net { slot with pendingAcks := count } := by
  unfold expectAcks at h
  split at h
  · cases h
  · rename_i slot hslot
    split at h
    · cases h
    · rename_i hstate
      cases h
      exact ⟨slot, hslot, by simpa using hstate, rfl⟩

theorem expectAcks_eq_ok (h : r.expectAcks net count = .ok r') :
    ∃ slot, r.slot? net = some slot ∧ slot.state = .halting ∧
      r'.slot? = Function.update r.slot? net (some { slot with pendingAcks := count }) := by
  obtain ⟨slot, hslot, hstate, rfl⟩ := expectAcks_eq_setSlot h
  exact ⟨slot, hslot, hstate, slot?_setSlot ..⟩

theorem acknowledge_eq_setSlot (h : r.acknowledge net = .ok (outcome, r')) :
    ∃ slot, r.slot? net = some slot ∧ slot.state = .halting ∧ 0 < slot.pendingAcks ∧
      outcome = (if slot.pendingAcks - 1 = 0 then .complete slot.owner
        else .waiting (slot.pendingAcks - 1)) ∧
      r' = r.setSlot net { slot with pendingAcks := slot.pendingAcks - 1 } := by
  unfold acknowledge at h
  split at h
  · cases h
  · rename_i slot hslot
    split at h
    · cases h
    · rename_i hguard
      cases h
      simp only [not_or, ne_eq, not_not] at hguard
      exact ⟨slot, hslot, hguard.1, Nat.pos_of_ne_zero hguard.2, rfl, rfl⟩

theorem acknowledge_eq_ok (h : r.acknowledge net = .ok (outcome, r')) :
    ∃ slot, r.slot? net = some slot ∧ slot.state = .halting ∧ 0 < slot.pendingAcks ∧
      outcome = (if slot.pendingAcks - 1 = 0 then .complete slot.owner
        else .waiting (slot.pendingAcks - 1)) ∧
      r'.slot? =
        Function.update r.slot? net (some { slot with pendingAcks := slot.pendingAcks - 1 }) := by
  obtain ⟨slot, hslot, hstate, hpos, houtcome, rfl⟩ := acknowledge_eq_setSlot h
  exact ⟨slot, hslot, hstate, hpos, houtcome, slot?_setSlot ..⟩

theorem acknowledge_eq_error (h : r.acknowledge net = .error e) (hslot : r.slot? net = some slot)
    (hstate : slot.state = .halting) : slot.pendingAcks = 0 := by
  unfold acknowledge at h
  rw [hslot] at h
  simp only [hstate] at h
  by_contra hne
  simp [hne] at h

theorem retire_eq_erase (h : r.retire net = .ok (slot, r')) :
    ∃ found, r.slot? net = some found ∧ found.state = .halting ∧
      slot = { found with state := .halted } ∧
      r' = { slots := r.slots.erase net, retired := r.retired.insert net } := by
  unfold retire at h
  split at h
  · cases h
  · rename_i found hfound
    split at h
    · cases h
    · rename_i hstate
      cases h
      exact ⟨found, hfound, by simpa using hstate, rfl, rfl⟩

theorem slot?_erase (r : Registry) (net : NetId) (retired : Retired) :
    slot? { slots := r.slots.erase net, retired } = Function.update r.slot? net none := by
  funext m
  by_cases hm : m = net
  · subst hm
    simp [slot?]
  · rw [Function.update_of_ne hm]
    exact OrderedMap.find?_erase_of_ne _ (Ne.symm hm)

theorem retire_eq_ok (h : r.retire net = .ok (slot, r')) :
    ∃ slot, r.slot? net = some slot ∧ slot.state = .halting ∧
      r'.slot? = Function.update r.slot? net none := by
  obtain ⟨found, hfound, hstate, -, rfl⟩ := retire_eq_erase h
  exact ⟨found, hfound, hstate, slot?_erase ..⟩

theorem retire_eq_error (h : r.retire net = .error e) (hslot : r.slot? net = some slot) :
    slot.state ≠ .halting := by
  unfold retire at h
  rw [hslot] at h
  intro hstate
  simp [hstate] at h

theorem owner?_eq_some : r.owner? net = some w ↔ ∃ slot, r.slot? net = some slot ∧ slot.owner = w := by
  simp [owner?]

theorem owner?_eq_none : r.owner? net = none ↔ r.slot? net = none := by
  simp [owner?]

theorem liveOwner?_eq_some :
    r.liveOwner? net = some w ↔
      ∃ slot, r.slot? net = some slot ∧ slot.state.isLive = true ∧ slot.owner = w := by
  simp [liveOwner?, Option.filter_eq_some_iff, and_assoc]

theorem liveOwner?_of_halting (h : r.slot? net = some slot) (hstate : slot.state = .halting) :
    r.liveOwner? net = none := by
  simp [liveOwner?, h, hstate, NetState.isLive]

theorem liveOwner?_of_none (h : r.slot? net = none) : r.liveOwner? net = none := by
  simp [liveOwner?, h]

theorem isDrained_iff : r.isDrained = true ↔ ∀ net, r.slot? net = none := by
  unfold isDrained OrderedMap.isEmpty slot? OrderedMap.find?
  constructor
  · intro h net
    rw [List.isEmpty_iff.mp h]
    rfl
  · intro h
    rcases hentries : r.slots.entries with _ | ⟨e, rest⟩
    · rfl
    · have hfirst := h e.1
      simp [hentries, OrderedMap.lookup] at hfirst

end Registry

end PetriCluster
