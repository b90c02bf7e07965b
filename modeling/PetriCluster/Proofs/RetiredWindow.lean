import PetriCluster.Proofs.Lifetimes

/-!
# The memory of retired names is the recent past

A registry remembers retired names in a queue and in a set, and counts all of them. The queue holds the
end of the list of all names that were ever retired, as long as the memory is (`Retired.Recent`); it may
hold no name twice, though that list does when a forgotten name was used again, since a name that is
retired had a slot and so was not remembered.
-/

namespace PetriCluster

theorem Fifo.pop?_of_toList {α : Type} {q : Fifo α} {a : α} {rest : List α}
    (h : q.toList = a :: rest) : ∃ q', q.pop? = some (a, q') ∧ q'.toList = rest := by
  have hpop := pop?_eq q
  rw [h, Option.map_eq_some_iff] at hpop
  obtain ⟨⟨b, q'⟩, hq', heq⟩ := hpop
  cases heq
  exact ⟨q', hq', rfl⟩

/-! ## Queue and set -/

namespace Retired

variable {r : Retired} {net : NetId} {past : List NetId}

/-- Of all names ever retired, the oldest first, the memory has the last, as many as it can hold. -/
structure Recent (past : List NetId) (r : Retired) : Prop where
  sound : r.Sound
  total : r.total = past.length
  order : r.order.toList = past.drop (past.length - r.capacity)
  size : r.ids.size = r.length

theorem recent_create (window : Nat) : (create window).Recent [] where
  sound := sound_create window
  total := rfl
  order := List.drop_nil.symm
  size := rfl

theorem Recent.length (h : r.Recent past) : r.length = min r.capacity past.length := by
  rw [h.sound.length, h.order, List.length_drop]
  omega

theorem evict_of_le (h : r.length ≤ r.capacity) : r.evict = r := if_pos h

theorem evict_of_lt {oldest : NetId} {rest : List NetId} (h : r.capacity < r.length)
    (hlist : r.order.toList = oldest :: rest) : ∃ order, order.toList = rest ∧
      r.evict = { r with order, length := r.length - 1, ids := r.ids.erase oldest } := by
  obtain ⟨order, hpop, hrest⟩ := Fifo.pop?_of_toList hlist
  refine ⟨order, hrest, ?_⟩
  rw [evict, if_neg (Nat.not_le.mpr h), hpop]

theorem size_extend (hsize : r.ids.size = r.length) (hnew : r.contains net = false) :
    (r.extend net).ids.size = (r.extend net).length := by
  have hnot : net ∉ r.ids := by
    rw [← Std.HashSet.contains_iff_mem]
    exact Bool.eq_false_iff.mp hnew
  simp only [extend]
  rw [Std.HashSet.size_insert, if_neg hnot, hsize]

theorem Recent.insert (h : r.Recent past) (hnew : r.contains net = false) (hpos : 0 < r.capacity) :
    (r.insert net).Recent (past ++ [net]) := by
  have hlength := h.length
  have hsound := h.sound.extend hnew
  have hsize := size_extend h.size hnew
  have htotal : (r.extend net).total = (past ++ [net]).length := by
    rw [List.length_append, ← h.total]
    rfl
  have hlist : (r.extend net).order.toList = past.drop (past.length - r.capacity) ++ [net] := by
    rw [extend, Fifo.toList_push, h.order]
  rw [insert_of_not_contains hnew]
  by_cases hroom : past.length < r.capacity
  · have hle : (r.extend net).length ≤ (r.extend net).capacity := by
      simp only [extend]
      omega
    rw [evict_of_le hle]
    refine ⟨hsound, htotal, ?_, hsize⟩
    have hall : past.length - r.capacity = 0 := by omega
    have hall' : (past ++ [net]).length - (r.extend net).capacity = 0 := by
      simp only [List.length_append, List.length_singleton, extend]
      omega
    rw [hlist, hall, hall', List.drop_zero, List.drop_zero]
  · -- the memory is full, so there is an oldest name, at the place where the window began
    have hfirst : past.length - r.capacity < past.length := by omega
    rw [List.drop_eq_getElem_cons hfirst, List.cons_append] at hlist
    have hlt : (r.extend net).capacity < (r.extend net).length := by
      simp only [extend]
      omega
    obtain ⟨order, horder, hevict⟩ := evict_of_lt hlt hlist
    refine ⟨hsound.evict, (evict_bounds _).2.trans htotal, ?_, ?_⟩
    · have hnext : (past ++ [net]).length - r.capacity = past.length - r.capacity + 1 := by
        rw [List.length_append, List.length_singleton]
        omega
      rw [hevict]
      simp only [extend]
      rw [horder, hnext, List.drop_append_of_le_length (by omega)]
    · have hmem : past[past.length - r.capacity] ∈ (r.extend net).ids := by
        rw [← Std.HashSet.contains_iff_mem]
        exact (hsound.mem _).mpr (by rw [hlist]; exact List.mem_cons_self)
      rw [hevict]
      simp only
      rw [Std.HashSet.size_erase, if_pos hmem, hsize]

end Retired

/-! ## The names that calls retire -/

namespace Registry

variable {r r' : Registry} {call : Call} {past : List NetId}

/-- The registry after a call. One that is refused changes nothing. -/
def serve (r : Registry) (call : Call) : Registry := (call.apply r).toOption.getD r

/-- The registry after one call after the other. -/
def serveAll (r : Registry) (calls : List Call) : Registry := calls.foldl serve r

namespace Call

theorem registry_runAll {σ τ : Type} (n : Node σ τ) (calls : List Call) :
    (runAll n calls).process.registry = n.process.registry.serveAll calls := by
  induction calls generalizing n with
  | nil => rfl
  | cons call rest ih =>
    have hstep : (Node.final (call.run n)).process.registry = n.process.registry.serve call := by
      rw [run, Node.changeRegistry_apply, serve]
      cases call.apply n.process.registry <;> rfl
    rw [runAll_cons, ih, hstep]
    rfl

/-- The name that a call retires, unless it is refused. -/
def retirement? (r : Registry) : Call → Option NetId
  | retire net => (r.retire net).toOption.map fun _ => net
  | _ => none

/-- The names that calls retire one after the other. -/
def retirements (r : Registry) : List Call → List NetId
  | [] => []
  | call :: rest => (call.retirement? r).toList ++ retirements (r.serve call) rest

theorem retirement?_eq_none (hcall : ∀ net, call ≠ .retire net) : call.retirement? r = none := by
  cases call with
  | retire net => exact absurd rfl (hcall net)
  | _ => rfl

theorem Yields.retired_eq (h : call.Yields r r') (hcall : ∀ net, call ≠ .retire net) :
    r'.retired = r.retired := by
  cases h with
  | inserted => rfl
  | idle => rfl
  | changed => rfl
  | retired => exact absurd rfl (hcall _)

end Call

/-- A registry as it comes about, with these names retired before. -/
structure Recalling (window : Nat) (past : List NetId) (r : Registry) : Prop where
  inOrder : r.InOrder
  recent : r.retired.Recent past
  capacity : r.retired.capacity = max window 1

theorem recalling_create (window : Nat) : (create window).Recalling window [] where
  inOrder := inOrder_create window
  recent := Retired.recent_create window
  capacity := rfl

namespace Recalling

variable {window : Nat} {net : NetId}

section

variable (h : r.Recalling window past)

include h

theorem retire {ended : Slot} (hretire : r.retire net = .ok (ended, r')) :
    r'.Recalling window (past ++ [net]) := by
  obtain ⟨slot, hslot, -, -, rfl⟩ := retire_eq_erase hretire
  have hpos : 0 < r.retired.capacity := by
    rw [h.capacity]
    omega
  -- it has a slot, so its name is not remembered from an earlier life
  have hnew : r.retired.contains net = false := h.inOrder.isRetired_of_slot hslot
  exact ⟨h.inOrder.retire net, h.recent.insert hnew hpos, (Retired.capacity_insert _ _).trans h.capacity⟩

/-- The step: with every call the past grows by the name that it retires. -/
theorem serve (call : Call) :
    (r.serve call).Recalling window (past ++ (call.retirement? r).toList) := by
  by_cases hcall : ∃ net, call = .retire net
  · obtain ⟨net, rfl⟩ := hcall
    rcases hretire : r.retire net with e | ⟨ended, r'⟩
    · simpa [Registry.serve, Call.apply, Call.retirement?, hretire, Except.map, Except.toOption] using h
    · simpa [Registry.serve, Call.apply, Call.retirement?, hretire, Except.map, Except.toOption]
        using h.retire hretire
  · have hother : ∀ net, call ≠ .retire net := fun net heq => hcall ⟨net, heq⟩
    rw [Call.retirement?_eq_none hother, Option.toList_none, List.append_nil, Registry.serve]
    cases happly : call.apply r with
    | error e => exact h
    | ok r' =>
      have hyields := Call.apply_eq_ok happly
      have hsame := hyields.retired_eq hother
      exact ⟨h.inOrder.yields hyields, hsame ▸ h.recent, hsame ▸ h.capacity⟩

/-- By induction on the calls. -/
theorem serveAll (calls : List Call) :
    (r.serveAll calls).Recalling window (past ++ Call.retirements r calls) := by
  induction calls generalizing r past with
  | nil => simpa [Registry.serveAll, Call.retirements] using h
  | cons call rest ih =>
    have hrest := ih (h.serve call)
    rwa [List.append_assoc] at hrest

theorem isRetired_iff (net : NetId) :
    r.isRetired net = true ↔ net ∈ past.drop (past.length - max window 1) := by
  rw [isRetired, h.recent.sound.mem, h.recent.order, h.capacity]

/-- A net is said to be halted exactly while its name is remembered. -/
theorem state?_eq_halted_iff (net : NetId) :
    r.state? net = some .halted ↔ r.isRetired net = true := by
  rw [state?]
  cases hslot : r.slot? net with
  | none => simp
  | some slot =>
    have hstate := (h.inOrder.proper net slot hslot).1
    have hnot := h.inOrder.isRetired_of_slot hslot
    simp [hstate, hnot]

end

end Recalling

/-- An instance is refused exactly if its name is remembered or in use. -/
theorem insert_eq_error_iff {net : NetId} {template : Nat} {owner : WorkerId} {parent : Option NetId}
    {isGlobal : Bool} {e : RuntimeError} :
    r.insert net template owner parent isGlobal = .error e ↔
      e = .duplicateNet net ∧ ((r.slot? net).isSome = true ∨ r.isRetired net = true) := by
  rw [insert, ← Bool.or_eq_true, Bool.or_comm]
  split
  · rename_i hknown
    rw [Except.error.injEq, and_iff_left hknown, eq_comm]
  · rename_i hknown
    exact iff_of_false (by simp) fun herror => hknown herror.2

/-- Whatever is asked of a registry with a memory of any size, what it remembers are the last of the
names that were retired, as many as its memory holds. They are all different and have no slot, the queue
and the set hold the same ones, and all retirements are counted. Nets of these names are said to be
halted, and no others; and an instance is refused exactly if its name is one of them or has a slot. -/
theorem memory_is_the_recent_past (window : Nat) (calls : List Call) :
    let r := (create window).serveAll calls
    let past := Call.retirements (create window) calls
    let recent := past.drop (past.length - max window 1)
    r.retiredCount = past.length ∧
    recent.length = min (max window 1) r.retiredCount ∧
    recent.Nodup ∧
    (∀ net ∈ recent, r.slot? net = none) ∧
    r.retired.order.toList = recent ∧
    r.retired.length = recent.length ∧
    (∀ net, net ∈ r.retired.ids ↔ net ∈ recent) ∧
    r.retired.ids.size = recent.length ∧
    (∀ net, r.isRetired net = true ↔ net ∈ recent) ∧
    (∀ net, r.state? net = some .halted ↔ r.isRetired net = true) ∧
    ∀ net template owner parent isGlobal e,
      r.insert net template owner parent isGlobal = .error e ↔
        e = .duplicateNet net ∧ ((r.slot? net).isSome = true ∨ net ∈ recent) := by
  intro r past recent
  have h : r.Recalling window past := (recalling_create window).serveAll calls
  have horder : r.retired.order.toList = recent := by rw [h.recent.order, h.capacity]
  have hlength : r.retired.length = recent.length := by rw [h.recent.sound.length, horder]
  have hcount : r.retiredCount = past.length := h.recent.total
  refine ⟨hcount, ?_, horder ▸ h.recent.sound.nodup, fun net hnet => ?_, horder, hlength, fun net => ?_,
    h.recent.size.trans hlength, h.isRetired_iff, h.state?_eq_halted_iff,
    fun net template owner parent isGlobal e => ?_⟩
  · rw [← hlength, h.recent.length, h.capacity, hcount]
  · exact h.inOrder.tidy net ((h.isRetired_iff net).mpr hnet)
  · rw [← Std.HashSet.contains_iff_mem]
    exact h.isRetired_iff net
  · rw [insert_eq_error_iff, h.isRetired_iff net]

/-- A memory for two names: of the names 7, 8 and 9, retired in this order, 7 is forgotten and used
again. When it is retired again, 8 is forgotten, and the memory holds 9 and 7. -/
theorem memory_is_the_recent_past_and_takes_a_name_again :
    let life (net : NetId) : List Call := [.insert net 0 ⟨0⟩ none true, .beginHalt net, .retire net]
    let r := (create 2).serveAll (life ⟨7⟩ ++ life ⟨8⟩ ++ life ⟨9⟩ ++ life ⟨7⟩)
    r.retiredCount = 4 ∧ r.retired.order.toList = [⟨9⟩, ⟨7⟩] ∧ r.retired.ids.size = 2 ∧
      r.insert ⟨9⟩ 0 ⟨0⟩ none true = .error (.duplicateNet ⟨9⟩) ∧
      ∀ e, r.insert ⟨8⟩ 0 ⟨0⟩ none true ≠ .error e := by
  intro life
  have hpast : Call.retirements (create 2) (life ⟨7⟩ ++ life ⟨8⟩ ++ life ⟨9⟩ ++ life ⟨7⟩) =
      [⟨7⟩, ⟨8⟩, ⟨9⟩, ⟨7⟩] := by cbv
  have hslot : ((create 2).serveAll (life ⟨7⟩ ++ life ⟨8⟩ ++ life ⟨9⟩ ++ life ⟨7⟩)).slot? ⟨8⟩ = none := by
    cbv
  have hall := memory_is_the_recent_past 2 (life ⟨7⟩ ++ life ⟨8⟩ ++ life ⟨9⟩ ++ life ⟨7⟩)
  generalize (create 2).serveAll (life ⟨7⟩ ++ life ⟨8⟩ ++ life ⟨9⟩ ++ life ⟨7⟩) = r at hslot hall ⊢
  simp only [hpast] at hall
  obtain ⟨hcount, -, -, -, horder, -, -, hsize, -, -, hinsert⟩ := hall
  refine ⟨hcount, horder, hsize, (hinsert ⟨9⟩ 0 ⟨0⟩ none true _).mpr ⟨rfl, .inr (by decide)⟩,
    fun e he => ?_⟩
  obtain ⟨-, hfound | hmem⟩ := (hinsert ⟨8⟩ 0 ⟨0⟩ none true e).mp he
  · rw [hslot] at hfound
    cases hfound
  · exact absurd hmem (by decide)

end Registry

end PetriCluster
