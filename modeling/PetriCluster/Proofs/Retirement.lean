import PetriCluster.Proofs.Fates
import PetriCluster.Proofs.Fronts

/-!
# What a registry remembers

The slots of a registry and its memory of retired names are kept apart and in order (`Healthy`), and a
net that has had a slot is known as long as no more names than the memory holds were retired since
(`Remembers`). Both are shown for the two ways in which a registry changes: a change of its slots, and
a new slot.
-/

namespace PetriCluster

theorem Fifo.toList_of_pop? {α : Type} {q rest : Fifo α} {a : α} (h : q.pop? = some (a, rest)) :
    q.toList = a :: rest.toList := by
  have hpop := pop?_eq q
  rw [h, Option.map_some] at hpop
  split at hpop
  · cases hpop
  · rename_i hlist
    cases hpop
    exact hlist

namespace Retired

variable {r : Retired} {net m : NetId} {since : Nat}

/-- The names are counted, each is there once, and they are those that are found. -/
structure Sound (r : Retired) : Prop where
  length : r.length = r.order.toList.length
  nodup : r.order.toList.Nodup
  mem : ∀ net, r.contains net = true ↔ net ∈ r.order.toList

theorem sound_create (window : Nat) : (create window).Sound where
  length := rfl
  nodup := List.nodup_nil
  mem net := by simp [create, contains]

theorem evict_cases (r : Retired) : r.evict = r ∨ ∃ oldest order, r.capacity < r.length ∧
    r.order.toList = oldest :: order.toList ∧
    r.evict = { r with order, length := r.length - 1, ids := r.ids.erase oldest } := by
  unfold evict
  split
  · exact .inl rfl
  · rename_i hfull
    split
    · rename_i oldest order hpop
      exact .inr ⟨oldest, order, Nat.not_le.mp hfull, Fifo.toList_of_pop? hpop, rfl⟩
    · exact .inl rfl

theorem evict_bounds (r : Retired) : r.evict.capacity = r.capacity ∧ r.evict.total = r.total := by
  rcases r.evict_cases with hsame | ⟨_, _, -, -, hevict⟩
  · rw [hsame]
    exact ⟨rfl, rfl⟩
  · rw [hevict]
    exact ⟨rfl, rfl⟩

theorem Sound.evict (h : r.Sound) : r.evict.Sound := by
  rcases r.evict_cases with hsame | ⟨oldest, order, -, hlist, hevict⟩
  · rwa [hsame]
  · have hnodup := h.nodup
    rw [hlist, List.nodup_cons] at hnodup
    rw [hevict]
    refine ⟨?_, hnodup.2, fun net => ?_⟩
    · simp [h.length, hlist]
    · have hmem := h.mem net
      rw [hlist, List.mem_cons] at hmem
      simp only [contains, Std.HashSet.contains_erase, Bool.and_eq_true, Bool.not_eq_true',
        beq_eq_false_iff_ne] at hmem ⊢
      constructor
      · rintro ⟨hne, hfound⟩
        exact (hmem.mp hfound).resolve_left (Ne.symm hne)
      · intro hrest
        refine ⟨?_, hmem.mpr (.inr hrest)⟩
        rintro rfl
        exact hnodup.1 hrest

/-- The memory when a name has been added and nothing forgotten. -/
def extend (r : Retired) (net : NetId) : Retired :=
  { r with
    order := r.order.push net
    length := r.length + 1
    ids := r.ids.insert net
    total := r.total + 1 }

theorem insert_of_not_contains (h : r.contains net = false) : r.insert net = (r.extend net).evict := by
  simp [insert, h, extend]

theorem Sound.extend (h : r.Sound) (hnew : r.contains net = false) : (r.extend net).Sound where
  length := by simp [Retired.extend, h.length]
  nodup := by
    have hnot : net ∉ r.order.toList := fun hmem => by simp [(h.mem net).mpr hmem] at hnew
    rw [Retired.extend, Fifo.toList_push, List.nodup_append]
    refine ⟨h.nodup, List.nodup_singleton net, fun a ha b hb => ?_⟩
    rw [List.mem_singleton.mp hb]
    rintro rfl
    exact hnot ha
  mem m := by
    have hmem := h.mem m
    simp only [contains] at hmem
    simp only [Retired.extend, contains, Std.HashSet.contains_insert, Bool.or_eq_true, beq_iff_eq,
      Fifo.toList_push, List.mem_append, List.mem_singleton, hmem]
    exact ⟨fun h => h.symm.imp id Eq.symm, fun h => h.symm.imp Eq.symm id⟩

theorem Sound.insert (h : r.Sound) (net : NetId) : (r.insert net).Sound := by
  cases hnew : r.contains net with
  | true => simpa [Retired.insert, hnew] using h
  | false =>
    rw [insert_of_not_contains hnew]
    exact (h.extend hnew).evict

theorem capacity_insert (r : Retired) (net : NetId) : (r.insert net).capacity = r.capacity := by
  cases hnew : r.contains net with
  | true => simp [insert, hnew]
  | false =>
    rw [insert_of_not_contains hnew]
    exact (r.extend net).evict_bounds.1

theorem total_le_insert (r : Retired) (net : NetId) : r.total ≤ (r.insert net).total := by
  cases hnew : r.contains net with
  | true => simp [insert, hnew]
  | false =>
    rw [insert_of_not_contains hnew, (r.extend net).evict_bounds.2]
    exact Nat.le_succ _

/-- A name that was retired when no more than `since` names had been is remembered together with all
that were retired after it, or there were more of them than the memory holds. -/
def Recalls (r : Retired) (since : Nat) (net : NetId) : Prop :=
  (∃ older newer, r.order.toList = older ++ net :: newer ∧ since + newer.length < r.total) ∨
    since + r.capacity < r.total

theorem Recalls.evict (h : r.Recalls since net) (hlength : r.length = r.order.toList.length) :
    r.evict.Recalls since net := by
  rcases r.evict_cases with hsame | ⟨oldest, order, hfull, hlist, hevict⟩
  · rwa [hsame]
  · rw [hevict]
    rcases h with ⟨older, newer, horder, htotal⟩ | hforgotten
    · rw [horder] at hlist hlength
      cases older with
      | nil =>
        -- the name itself goes: it was the oldest of more than the memory holds
        simp only [List.nil_append, List.length_cons] at hlength
        have hnewer : r.capacity ≤ newer.length := by omega
        exact .inr (by simp only; omega)
      | cons first older =>
        obtain ⟨-, hrest⟩ := List.cons.inj hlist
        exact .inl ⟨older, newer, hrest.symm, htotal⟩
    · exact .inr hforgotten

theorem Recalls.insert (h : r.Recalls since net) (hr : r.Sound) (m : NetId) :
    (r.insert m).Recalls since net := by
  cases hnew : r.contains m with
  | true => simpa [Retired.insert, hnew] using h
  | false =>
    rw [insert_of_not_contains hnew]
    refine Recalls.evict ?_ (hr.extend hnew).length
    rcases h with ⟨older, newer, horder, htotal⟩ | hforgotten
    · refine .inl ⟨older, newer ++ [m], ?_, ?_⟩
      · simp [extend, horder]
      · simp only [extend, List.length_append, List.length_singleton]
        omega
    · exact .inr (Nat.lt_succ_of_lt hforgotten)

theorem recalls_insert_self (hr : r.Sound) (hnew : r.contains net = false) (hsince : since ≤ r.total) :
    (r.insert net).Recalls since net := by
  rw [insert_of_not_contains hnew]
  refine Recalls.evict (.inl ⟨r.order.toList, [], ?_, ?_⟩) (hr.extend hnew).length
  · simp [extend]
  · simpa [extend] using Nat.lt_succ_of_le hsince

end Retired

/-- What a slot says of where its net comes from: the template, the parent and whether it is global. -/
def Slot.origin (slot : Slot) : Nat × Option NetId × Bool := (slot.template, slot.parent, slot.isGlobal)

namespace Registry

variable {r r' s : Registry} {net : NetId} {since : Nat}

/-- Every slot of the second registry is one of the first, of the same origin. -/
def Covers (r r' : Registry) : Prop :=
  ∀ net slot', r'.slot? net = some slot' → ∃ slot, r.slot? net = some slot ∧ slot'.origin = slot.origin

theorem Covers.refl : r.Covers r := fun _ slot hslot => ⟨slot, hslot, rfl⟩

theorem Covers.trans (h : r.Covers r') (h' : r'.Covers s) : r.Covers s := by
  intro net slot hslot
  obtain ⟨later, hlater, hsame⟩ := h' net slot hslot
  obtain ⟨first, hfirst, hsame'⟩ := h net later hlater
  exact ⟨first, hfirst, hsame.trans hsame'⟩

theorem Covers.slot?_none (h : r.Covers r') (hnone : r.slot? net = none) : r'.slot? net = none := by
  by_contra hsome
  obtain ⟨slot', hslot'⟩ := Option.ne_none_iff_exists'.mp hsome
  obtain ⟨slot, hslot, -⟩ := h net slot' hslot'
  simp [hnone] at hslot

/-- What a change may be: a slot changes but not its origin, or a name is retired. -/
theorem Changes.inv (h : r.Changes r') : r' = r ∨
    (∃ m slot slot', r.slot? m = some slot ∧ r' = r.setSlot m slot' ∧ slot'.origin = slot.origin) ∨
    ∃ m slot, r.slot? m = some slot ∧ r'.slot? = Function.update r.slot? m none ∧
      r'.retired = r.retired.insert m := by
  cases h with
  | activate hactivate =>
    obtain ⟨slot, hslot, -, rfl⟩ := activate_eq_setSlot hactivate
    exact .inr (.inl ⟨_, slot, _, hslot, rfl, rfl⟩)
  | setOwner hsetOwner =>
    obtain ⟨slot, hslot, rfl⟩ := setOwner_eq_setSlot hsetOwner
    exact .inr (.inl ⟨_, slot, _, hslot, rfl, rfl⟩)
  | @beginHalt _ outcome hbegin =>
    cases outcome with
    | started =>
      obtain ⟨slot, hslot, -, -, -, rfl⟩ := beginHalt_eq_setSlot hbegin
      exact .inr (.inl ⟨_, slot, _, hslot, rfl, rfl⟩)
    | alreadyHalting => exact .inl (beginHalt_eq_alreadyHalting hbegin)
  | expectAcks hexpect =>
    obtain ⟨slot, hslot, -, rfl⟩ := expectAcks_eq_setSlot hexpect
    exact .inr (.inl ⟨_, slot, _, hslot, rfl, rfl⟩)
  | acknowledge hack =>
    obtain ⟨slot, hslot, -, -, -, rfl⟩ := acknowledge_eq_setSlot hack
    exact .inr (.inl ⟨_, slot, _, hslot, rfl, rfl⟩)
  | @retire m _ hretire =>
    obtain ⟨slot, hslot, -, -, rfl⟩ := retire_eq_erase hretire
    exact .inr (.inr ⟨m, slot, hslot, slot?_erase .., rfl⟩)

theorem Changes.covers (h : r.Changes r') : r.Covers r' := by
  intro net slot' hslot
  rcases h.inv with rfl | ⟨m, slot, found, hm, rfl, horigin⟩ | ⟨m, slot, hm, hupdate, -⟩
  · exact ⟨slot', hslot, rfl⟩
  · rw [slot?_setSlot] at hslot
    by_cases hne : net = m
    · subst hne
      rw [Function.update_self] at hslot
      cases hslot
      exact ⟨slot, hm, horigin⟩
    · rw [Function.update_of_ne hne] at hslot
      exact ⟨slot', hslot, rfl⟩
  · rw [hupdate] at hslot
    by_cases hne : net = m
    · subst hne
      simp at hslot
    · rw [Function.update_of_ne hne] at hslot
      exact ⟨slot', hslot, rfl⟩

theorem Changes.isRetired (h : r.Changes r') (hretired : r'.isRetired net = true) :
    r.isRetired net = true ∨ r.slot? net ≠ none := by
  rcases h.inv with rfl | ⟨m, slot, found, hm, rfl, -⟩ | ⟨m, slot, hm, -, hinsert⟩
  · exact .inl hretired
  · exact .inl hretired
  · rw [Registry.isRetired, hinsert] at hretired
    rcases Retired.contains_insert hretired with rfl | hold
    · exact .inr (by simp [hm])
    · exact .inl hold

/-- The memory is sound and of the usual size, and holds no name that has a slot. -/
structure Healthy (r : Registry) : Prop where
  sound : r.retired.Sound
  window : r.retired.capacity = retiredWindow
  tidy : ∀ net, r.TidyAt net

theorem healthy_create : (create retiredWindow).Healthy where
  sound := Retired.sound_create _
  window := by decide
  tidy net hretired := by simp at hretired

theorem Healthy.changes (hr : r.Healthy) (h : r.Changes r') : r'.Healthy := by
  have htidy (net : NetId) : r'.TidyAt net := by
    intro hretired
    have hcovers := h.covers
    rcases h.inv with rfl | ⟨m, _, found, -, rfl, -⟩ | ⟨m, _, -, hupdate, hinsert⟩
    · exact hr.tidy net hretired
    · exact hcovers.slot?_none (hr.tidy net hretired)
    · rw [Registry.isRetired, hinsert] at hretired
      rcases Retired.contains_insert hretired with rfl | hold
      · simp [hupdate]
      · exact hcovers.slot?_none (hr.tidy net hold)
  rcases h.inv with rfl | ⟨m, _, found, -, rfl, -⟩ | ⟨m, _, -, hupdate, hinsert⟩
  · exact hr
  · exact ⟨hr.sound, hr.window, htidy⟩
  · exact ⟨hinsert ▸ hr.sound.insert m, hinsert ▸ (r.retired.capacity_insert m).trans hr.window, htidy⟩

theorem Healthy.insert (hr : r.Healthy) {template : Nat} {owner : WorkerId} {parent : Option NetId}
    {isGlobal : Bool} (h : r.insert net template owner parent isGlobal = .ok r') : r'.Healthy := by
  obtain ⟨hnot, -, rfl⟩ := insert_eq_setSlot h
  refine ⟨hr.sound, hr.window, fun m hretired => ?_⟩
  have hne : m ≠ net := by
    rintro rfl
    simp [hnot] at hretired
  rw [slot?_setSlot, Function.update_of_ne hne]
  exact hr.tidy m hretired

/-- A net that had a slot when `since` names were retired has it still, or is recalled. -/
def Remembers (r : Registry) (since : Nat) (net : NetId) : Prop :=
  r.slot? net ≠ none ∧ since ≤ r.retiredCount ∨ r.retired.Recalls since net

theorem Remembers.changes (hr : r.Healthy) (h : r.Changes r') (hold : r.Remembers since net) :
    r'.Remembers since net := by
  rcases h.inv with rfl | ⟨m, slot, found, hm, rfl, -⟩ | ⟨m, slot, hm, hupdate, hinsert⟩
  · exact hold
  · refine hold.imp (fun ⟨hslot, hsince⟩ => ⟨?_, hsince⟩) id
    rw [slot?_setSlot]
    by_cases hne : net = m
    · simp [hne]
    · rwa [Function.update_of_ne hne]
  · have hnew : r.retired.contains m = false := by
      by_contra htrue
      have hnone := hr.tidy m (by simpa [Registry.isRetired] using htrue)
      simp [hnone] at hm
    rcases hold with ⟨hslot, hsince⟩ | hrecalls
    · by_cases hne : net = m
      · subst hne
        exact .inr (hinsert ▸ Retired.recalls_insert_self hr.sound hnew hsince)
      · refine .inl ⟨by rwa [hupdate, Function.update_of_ne hne], ?_⟩
        rw [retiredCount, hinsert]
        exact hsince.trans (r.retired.total_le_insert m)
    · exact .inr (hinsert ▸ hrecalls.insert hr.sound m)

theorem Remembers.insert (h : r.Remembers since net) {m : NetId} {template : Nat} {owner : WorkerId}
    {parent : Option NetId} {isGlobal : Bool}
    (hinsert : r.insert m template owner parent isGlobal = .ok r') : r'.Remembers since net := by
  obtain ⟨-, hnone, rfl⟩ := insert_eq_setSlot hinsert
  refine h.imp (fun ⟨hslot, hsince⟩ => ⟨?_, hsince⟩) id
  have hne : net ≠ m := by
    rintro rfl
    exact hslot hnone
  rwa [slot?_setSlot, Function.update_of_ne hne]

theorem Remembers.known (h : r.Remembers since net) (hr : r.Healthy) (hunknown : r.state? net = none) :
    since + retiredWindow < r.retiredCount := by
  have hslot : r.slot? net = none := by
    cases hfound : r.slot? net with
    | none => rfl
    | some slot => simp [state?, hfound] at hunknown
  have hretired : ¬r.isRetired net = true := by
    intro hretired
    simp [state?, hslot, hretired] at hunknown
  rcases h with ⟨hsome, -⟩ | ⟨older, newer, horder, -⟩ | hforgotten
  · exact absurd hslot hsome
  · exact absurd ((hr.sound.mem net).mpr (by simp [horder])) hretired
  · exact hr.window ▸ hforgotten

end Registry

end PetriCluster
