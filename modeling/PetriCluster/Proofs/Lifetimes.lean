import PetriCluster.Proofs.Retirement
import Mathlib

/-!
# The life of an instance

Whatever is asked of a registry, in whatever order, an instance goes one way: it is inserted spawned,
its state only goes up from there (`Slot.Becomes`), and it leaves when a halting instance is retired.
No instance is lost or made on the way: those ever inserted are those that are there and those retired
(`population`).
-/

namespace PetriCluster

/-! ## Slots that go forward -/

/-- How far along the life of an instance a state is. -/
def NetState.rank : NetState → Nat
  | spawned => 0
  | active => 1
  | halting => 2
  | halted => 3

namespace Slot

variable {slot slot' slot'' : Slot}

/-- A slot as it may be stored: its instance is not released, and acknowledgments are expected only
while it stops. -/
def Proper (slot : Slot) : Prop :=
  slot.state ≠ .halted ∧ (slot.pendingAcks ≠ 0 → slot.state = .halting)

/-- What a slot may turn into: that of the same instance, no less far in its life. -/
structure Becomes (slot slot' : Slot) : Prop where
  origin : slot'.origin = slot.origin
  forward : slot.state.rank ≤ slot'.state.rank

theorem Becomes.refl : slot.Becomes slot := ⟨rfl, Nat.le_refl _⟩

theorem Becomes.trans (h : slot.Becomes slot') (h' : slot'.Becomes slot'') : slot.Becomes slot'' :=
  ⟨h'.origin.trans h.origin, h.forward.trans h'.forward⟩

end Slot

namespace Registry

/-! ## What can be asked of a registry -/

/-- A change asked of a registry. -/
inductive Call where
  | insert (net : NetId) (template : Nat) (owner : WorkerId) (parent : Option NetId)
    (isGlobal : Bool)
  | activate (net : NetId) (worker : WorkerId)
  | setOwner (net : NetId) (worker : WorkerId)
  | beginHalt (net : NetId)
  | expectAcks (net : NetId) (count : Nat)
  | acknowledge (net : NetId)
  | retire (net : NetId)
  deriving DecidableEq, Repr

namespace Call

variable {σ τ : Type}

/-- The registry after a call. -/
def apply (r : Registry) : Call → Except RuntimeError Registry
  | insert net template owner parent isGlobal => r.insert net template owner parent isGlobal
  | activate net worker => (r.activate net worker).map (·.2)
  | setOwner net worker => r.setOwner net worker
  | beginHalt net => (r.beginHalt net).map (·.2)
  | expectAcks net count => r.expectAcks net count
  | acknowledge net => (r.acknowledge net).map (·.2)
  | retire net => (r.retire net).map (·.2)

/-- A process carries the call out, or refuses it. -/
def run (call : Call) : NodeM σ τ Unit := Node.changeRegistry call.apply

/-- The call registers a net. -/
def isInsert : Call → Bool
  | insert .. => true
  | _ => false

/-- The process when it has carried out or refused one call after the other. -/
def runAll (n : Node σ τ) (calls : List Call) : Node σ τ :=
  calls.foldl (fun n call => Node.final (call.run n)) n

/-- How many of the calls have put an instance into the registry. -/
def insertions (n : Node σ τ) : List Call → Nat
  | [] => 0
  | call :: rest =>
    (if call.isInsert && (Node.answer? (call.run n)).isSome then 1 else 0) +
      insertions (Node.final (call.run n)) rest

/-- What a call that is carried out makes of a registry. -/
inductive Yields (r : Registry) : Call → Registry → Prop
  | inserted {net : NetId} {template : Nat} {owner : WorkerId} {parent : Option NetId}
      {isGlobal : Bool} : r.isRetired net = false → r.slot? net = none →
      Yields r (insert net template owner parent isGlobal)
        (r.setSlot net ⟨template, owner, parent, isGlobal, .spawned, 0⟩)
  | idle {call : Call} : call.isInsert = false → Yields r call r
  | changed {call : Call} {net : NetId} {slot slot' : Slot} : call.isInsert = false →
      r.slot? net = some slot → slot.Becomes slot' → (slot.Proper → slot'.Proper) →
      Yields r call (r.setSlot net slot')
  | retired {net : NetId} {slot : Slot} : r.slot? net = some slot → slot.state = .halting →
      Yields r (retire net) { slots := r.slots.erase net, retired := r.retired.insert net }

variable {call : Call} {r r' : Registry} {n : Node σ τ}

theorem map_eq_ok {α : Type} {x : Except RuntimeError (α × Registry)} (h : x.map (·.2) = .ok r') :
    ∃ a, x = .ok (a, r') := by
  rcases x with e | ⟨a, r⟩
  · cases h
  · cases h
    exact ⟨a, rfl⟩

theorem apply_eq_ok (h : call.apply r = .ok r') : Yields r call r' := by
  cases call with
  | insert net template owner parent isGlobal =>
    obtain ⟨hretired, hnone, rfl⟩ := insert_eq_setSlot h
    exact .inserted hretired hnone
  | activate net worker =>
    obtain ⟨state, hactivate⟩ := map_eq_ok h
    obtain ⟨slot, hslot, hstate, rfl⟩ := activate_eq_setSlot hactivate
    refine .changed rfl hslot ⟨rfl, ?_⟩ fun ⟨hhalted, hacks⟩ => ?_
    · rw [hstate]
      split <;> simp_all [NetState.rank]
    · rw [hstate]
      refine ⟨?_, fun hne => ?_⟩
      · simp only
        split <;> simp [hhalted]
      · simp [hacks hne]
  | setOwner net worker =>
    obtain ⟨slot, hslot, rfl⟩ := setOwner_eq_setSlot h
    exact .changed rfl hslot ⟨rfl, Nat.le_refl _⟩ id
  | beginHalt net =>
    obtain ⟨outcome, hbegin⟩ := map_eq_ok h
    cases outcome with
    | started owner isGlobal =>
      obtain ⟨slot, hslot, -, -, hlive, rfl⟩ := beginHalt_eq_setSlot hbegin
      refine .changed rfl hslot ⟨rfl, ?_⟩ fun _ => ⟨by simp, fun _ => rfl⟩
      cases hstate : slot.state <;> simp_all [NetState.rank, NetState.isLive]
    | alreadyHalting =>
      rw [beginHalt_eq_alreadyHalting hbegin]
      exact .idle rfl
  | expectAcks net count =>
    obtain ⟨slot, hslot, hstate, rfl⟩ := expectAcks_eq_setSlot h
    exact .changed rfl hslot ⟨rfl, Nat.le_refl _⟩ fun hproper => ⟨hproper.1, fun _ => hstate⟩
  | acknowledge net =>
    obtain ⟨outcome, hack⟩ := map_eq_ok h
    obtain ⟨slot, hslot, hstate, -, -, rfl⟩ := acknowledge_eq_setSlot hack
    exact .changed rfl hslot ⟨rfl, Nat.le_refl _⟩ fun hproper => ⟨hproper.1, fun _ => hstate⟩
  | retire net =>
    obtain ⟨ended, hretire⟩ := map_eq_ok h
    obtain ⟨slot, hslot, hstate, -, rfl⟩ := retire_eq_erase hretire
    exact .retired hslot hstate

/-- A call is refused, and nothing has changed, or it is carried out. -/
theorem run_cases (call : Call) (n : Node σ τ) :
    (∃ fault, call.run n = .error fault n) ∨
      ∃ r, call.run n = .ok () { n with process := { n.process with registry := r } } ∧
        Yields n.process.registry call r := by
  rw [run, Node.changeRegistry_apply]
  rcases h : call.apply n.process.registry with e | r
  · exact .inl ⟨_, rfl⟩
  · exact .inr ⟨r, rfl, apply_eq_ok h⟩

@[simp] theorem runAll_nil (n : Node σ τ) : runAll n [] = n := rfl

@[simp] theorem runAll_cons (n : Node σ τ) (call : Call) (calls : List Call) :
    runAll n (call :: calls) = runAll (Node.final (call.run n)) calls := rfl

theorem runAll_append (n : Node σ τ) (before later : List Call) :
    runAll n (before ++ later) = runAll (runAll n before) later :=
  List.foldl_append ..

end Call

/-! ## Nothing is lost -/

/-- A registry as it comes about: its slots are as they may be stored, and its memory holds no name
that has one. -/
structure InOrder (r : Registry) : Prop where
  proper : ∀ net slot, r.slot? net = some slot → slot.Proper
  tidy : ∀ net, r.TidyAt net

/-- The instances that are there and those that are retired. -/
def population (r : Registry) : Nat := r.slots.size + r.retiredCount

variable {call : Call} {r r' : Registry} {net : NetId} {slot slot' : Slot}

theorem inOrder_create (window : Nat) : (create window).InOrder where
  proper net slot h := by simp [slot?_create] at h
  tidy net h := by simp at h

@[simp] theorem population_create (window : Nat) : (create window).population = 0 := rfl

section

variable (h : r.InOrder)

include h

theorem InOrder.setSlot (hproper : slot'.Proper) (hnot : r.isRetired net = false) :
    (r.setSlot net slot').InOrder where
  proper m found hfound := by
    rw [slot?_setSlot] at hfound
    by_cases hm : m = net
    · subst hm
      rw [Function.update_self] at hfound
      cases hfound
      exact hproper
    · rw [Function.update_of_ne hm] at hfound
      exact h.proper m found hfound
  tidy m hretired := by
    have hm : m ≠ net := by
      rintro rfl
      simp [hnot] at hretired
    rw [slot?_setSlot, Function.update_of_ne hm]
    exact h.tidy m hretired

theorem InOrder.isRetired_of_slot (hslot : r.slot? net = some slot) :
    r.isRetired net = false := by
  by_contra htrue
  simp [h.tidy net (by simpa using htrue)] at hslot

theorem InOrder.retire (net : NetId) :
    InOrder { slots := r.slots.erase net, retired := r.retired.insert net } where
  proper m found hfound := by
    by_cases hm : m = net
    · simp [hm, slot?] at hfound
    · rw [slot?, OrderedMap.find?_erase_of_ne _ (Ne.symm hm)] at hfound
      exact h.proper m found hfound
  tidy m hretired := by
    by_cases hm : m = net
    · simp [hm, slot?]
    · rw [slot?, OrderedMap.find?_erase_of_ne _ (Ne.symm hm)]
      exact h.tidy m ((Retired.contains_insert hretired).resolve_left hm)

theorem InOrder.yields (hyields : call.Yields r r') : r'.InOrder := by
  cases hyields with
  | inserted hretired _ => exact h.setSlot ⟨by simp, by simp⟩ hretired
  | idle => exact h
  | changed _ hslot _ hproper =>
    exact h.setSlot (hproper (h.proper _ _ hslot)) (h.isRetired_of_slot hslot)
  | retired => exact h.retire _

theorem InOrder.population_yields (hyields : call.Yields r r') :
    r'.population = r.population + if call.isInsert then 1 else 0 := by
  cases hyields with
  | inserted hretired hnone =>
    have hsize := OrderedMap.size_insert_of_none hnone
    simp only [population, Registry.setSlot, retiredCount, Call.isInsert, hsize, if_true]
    omega
  | idle hinsert => simp [hinsert]
  | changed hinsert hslot _ _ =>
    have hsize := OrderedMap.size_insert_of_some (m := r.slots) (by rw [← slot?, hslot]; simp)
    simp [population, Registry.setSlot, retiredCount, hinsert, hsize]
  | @retired net _ hslot _ =>
    have hsize := OrderedMap.size_erase_of_some (m := r.slots) (by rw [← slot?, hslot]; simp)
    have htotal : (r.retired.insert net).total = r.retired.total + 1 := by
      rw [Retired.insert_of_not_contains (h.isRetired_of_slot hslot), (r.retired.extend net).evict_bounds.2]
      rfl
    simp only [population, retiredCount, Call.isInsert, htotal]
    simp
    omega

theorem InOrder.live_add_halting : r.liveCount + r.haltingCount = r.slots.size := by
  have hproper : ∀ slot ∈ r.slots.values, ¬ slot.state.isLive = true ↔ slot.state = .halting := by
    intro slot hmem
    obtain ⟨entry, hentry, rfl⟩ := List.mem_map.mp hmem
    have hnot := (h.proper entry.1 entry.2 (r.slots.find?_of_mem hentry)).1
    cases hstate : entry.2.state <;> simp_all [NetState.isLive]
  have hhalting : r.haltingCount = r.slots.values.countP fun slot => ¬ slot.state.isLive = true :=
    List.countP_congr fun slot hmem => by simp only [decide_eq_true_eq, hproper slot hmem]
  rw [hhalting, liveCount, ← List.length_eq_countP_add_countP, OrderedMap.values, List.length_map,
    OrderedMap.size]

end

theorem isDrained_iff_size : r.isDrained = true ↔ r.slots.size = 0 := by
  simp [isDrained, OrderedMap.isEmpty, OrderedMap.size]

/-! ## The way an instance goes -/

theorem Call.Yields.becomes (h : call.Yields r r') (hslot : r.slot? net = some slot) :
    (∃ slot', r'.slot? net = some slot' ∧ slot.Becomes slot') ∨
      call = .retire net ∧ slot.state = .halting ∧ r'.slot? net = none := by
  have hkeep {m : NetId} (found : Slot) (hm : net ≠ m) :
      ∃ slot', (r.setSlot m found).slot? net = some slot' ∧ slot.Becomes slot' :=
    ⟨slot, by rw [slot?_setSlot, Function.update_of_ne hm, hslot], .refl⟩
  cases h with
  | inserted _ hnone =>
    refine .inl (hkeep _ ?_)
    rintro rfl
    simp [hnone] at hslot
  | idle => exact .inl ⟨slot, hslot, .refl⟩
  | @changed _ m found slot' _ hfound hbecomes _ =>
    by_cases hm : net = m
    · subst hm
      rw [hslot] at hfound
      cases hfound
      exact .inl ⟨slot', by rw [slot?_setSlot, Function.update_self], hbecomes⟩
    · exact .inl (hkeep slot' hm)
  | @retired m found hfound hstate =>
    by_cases hm : net = m
    · subst hm
      rw [hslot] at hfound
      cases hfound
      exact .inr ⟨rfl, hstate, by simp [slot?]⟩
    · refine .inl ⟨slot, ?_, .refl⟩
      rw [slot?, OrderedMap.find?_erase_of_ne _ (Ne.symm hm)]
      exact hslot

theorem Call.Yields.inserted_of_slot (h : call.Yields r r') (hnone : r.slot? net = none)
    (hslot : r'.slot? net = some slot) : ∃ template owner parent isGlobal,
    call = .insert net template owner parent isGlobal ∧
      slot = ⟨template, owner, parent, isGlobal, .spawned, 0⟩ := by
  cases h with
  | @inserted m template owner parent isGlobal =>
    rw [slot?_setSlot] at hslot
    by_cases hm : net = m
    · subst hm
      rw [Function.update_self] at hslot
      cases hslot
      exact ⟨template, owner, parent, isGlobal, rfl, rfl⟩
    · rw [Function.update_of_ne hm, hnone] at hslot
      cases hslot
  | idle =>
    rw [hnone] at hslot
    cases hslot
  | @changed _ m found slot' _ hfound =>
    have hm : net ≠ m := by
      rintro rfl
      simp [hnone] at hfound
    rw [slot?_setSlot, Function.update_of_ne hm, hnone] at hslot
    cases hslot
  | @retired m =>
    by_cases hm : net = m
    · simp [hm, slot?] at hslot
    · rw [slot?, OrderedMap.find?_erase_of_ne _ (Ne.symm hm), ← slot?, hnone] at hslot
      cases hslot

namespace Call

variable {σ τ : Type} {n : Node σ τ}

section

variable (h : n.process.registry.InOrder)

include h

theorem final_run_inOrder (call : Call) :
    (Node.final (call.run n)).process.registry.InOrder := by
  rcases run_cases call n with ⟨fault, hrun⟩ | ⟨r, hrun, hyields⟩
  · rwa [hrun]
  · rw [hrun]
    exact h.yields hyields

/-- Every sequence of calls keeps the lives of nets in order. -/
theorem runAll_inOrder (calls : List Call) :
    (runAll n calls).process.registry.InOrder := by
  induction calls generalizing n with
  | nil => exact h
  | cons call rest ih => exact ih (final_run_inOrder h call)

/-- The population is what there was and what has been put in since. -/
theorem runAll_population (calls : List Call) :
    (runAll n calls).process.registry.population =
      n.process.registry.population + insertions n calls := by
  induction calls generalizing n with
  | nil => rfl
  | cons call rest ih =>
    rw [runAll_cons, ih (final_run_inOrder h call), insertions]
    rcases run_cases call n with ⟨fault, hrun⟩ | ⟨r, hrun, hyields⟩
    · simp [hrun, Node.final, Node.answer?]
    · have hstep := h.population_yields hyields
      simp only [hrun, Node.final, Node.answer?, hstep, Option.isSome_some, Bool.and_true]
      omega

end

/-- From where it is, an instance goes forward until a retirement takes it away while it halts. -/
theorem runAll_slot {calls : List Call} (hslot : n.process.registry.slot? net = some slot) :
    (∃ slot', (runAll n calls).process.registry.slot? net = some slot' ∧ slot.Becomes slot') ∨
      ∃ early late last, calls = early ++ .retire net :: late ∧
        (runAll n early).process.registry.slot? net = some last ∧ slot.Becomes last ∧
        last.state = .halting ∧
        (runAll n (early ++ [.retire net])).process.registry.slot? net = none := by
  induction calls generalizing n slot with
  | nil => exact .inl ⟨slot, hslot, .refl⟩
  | cons call rest ih =>
    have hstep : (∃ slot', (Node.final (call.run n)).process.registry.slot? net = some slot' ∧
        slot.Becomes slot') ∨ call = .retire net ∧ slot.state = .halting ∧
        (Node.final (call.run n)).process.registry.slot? net = none := by
      rcases run_cases call n with ⟨fault, hrun⟩ | ⟨r, hrun, hyields⟩
      · rw [hrun]
        exact .inl ⟨slot, hslot, .refl⟩
      · rw [hrun]
        exact hyields.becomes hslot
    rcases hstep with ⟨next, hnext, hbecomes⟩ | ⟨rfl, hhalting, hgone⟩
    · rcases ih hnext with ⟨slot', hslot', hlater⟩ | ⟨early, late, last, rfl, hlast, hlater, hends⟩
      · exact .inl ⟨slot', hslot', hbecomes.trans hlater⟩
      · exact .inr ⟨call :: early, late, last, rfl, hlast, hbecomes.trans hlater, hends⟩
    · exact .inr ⟨[], rest, slot, rfl, hslot, .refl, hhalting, hgone⟩

end Call

/-- Whatever is asked of a registry with a memory of any size: an instance that is there goes forward,
until a retirement takes it away while it halts, and comes into being by an insertion. No slot is
halted, and acknowledgments are expected only of one that halts. The instances put in are those that are
live, those that halt and those retired, and the registry is drained when there are none of the first
two. A call that is refused changes nothing. -/
theorem instances_go_one_way {σ τ : Type} {window : Nat} {start : Node σ τ}
    (hstart : start.process.registry = .create window) (before later : List Call) :
    let earlier := Call.runAll start before
    let now := Call.runAll earlier later
    let r := now.process.registry
    (∀ net slot, earlier.process.registry.slot? net = some slot →
      (∃ slot', r.slot? net = some slot' ∧ slot.Becomes slot') ∨
      ∃ early late last, later = early ++ .retire net :: late ∧
        (Call.runAll earlier early).process.registry.slot? net = some last ∧
        slot.Becomes last ∧ last.state = .halting ∧
        (Call.runAll earlier (early ++ [.retire net])).process.registry.slot? net = none) ∧
    (∀ call net slot, r.slot? net = none →
      (Call.runAll now [call]).process.registry.slot? net = some slot →
      ∃ template owner parent isGlobal, call = .insert net template owner parent isGlobal ∧
        slot = ⟨template, owner, parent, isGlobal, .spawned, 0⟩) ∧
    (∀ net slot, r.slot? net = some slot →
      slot.state ≠ .halted ∧ (slot.pendingAcks ≠ 0 → slot.state = .halting)) ∧
    Call.insertions start (before ++ later) =
      r.liveCount + r.haltingCount + r.retiredCount ∧
    (r.isDrained = true ↔ r.liveCount = 0 ∧ r.haltingCount = 0) ∧
    ∀ (call : Call) fault m, call.run now = .error fault m → m = now := by
  intro earlier now r
  have hempty : start.process.registry.InOrder := hstart ▸ inOrder_create window
  have hnow : now = Call.runAll start (before ++ later) :=
    (Call.runAll_append start before later).symm
  have horder : r.InOrder := Call.runAll_inOrder (Call.runAll_inOrder hempty before) later
  refine ⟨fun net slot hslot => Call.runAll_slot hslot, fun call net slot hnone hslot => ?_,
    horder.proper, ?_, ?_, fun call fault m hrun => ?_⟩
  · rcases Call.run_cases call now with ⟨fault, hrun⟩ | ⟨r', hrun, hyields⟩
    · simp only [Call.runAll_cons, Call.runAll_nil, hrun, Node.final] at hslot
      simp [r, hslot] at hnone
    · simp only [Call.runAll_cons, Call.runAll_nil, hrun, Node.final] at hslot
      exact hyields.inserted_of_slot hnone hslot
  · have hpopulation := Call.runAll_population hempty (before ++ later)
    rw [← hnow, hstart] at hpopulation
    rw [horder.live_add_halting]
    rw [population_create, Nat.zero_add] at hpopulation
    exact hpopulation.symm
  · rw [isDrained_iff_size, ← horder.live_add_halting]
    omega
  · rcases Call.run_cases call now with ⟨fault', hrun'⟩ | ⟨r', hrun', -⟩
    · rw [hrun'] at hrun
      cases hrun
      rfl
    · rw [hrun'] at hrun
      cases hrun

/-- An instance is asked for twice and goes all its way, another one follows, and the name of the first
is taken again when the memory has let go of it. -/
theorem instances_go_one_way_and_names_come_back :
    let life (net : NetId) : List Call :=
      [.insert net 0 ⟨0⟩ none true, .insert net 0 ⟨0⟩ none true, .activate net ⟨0⟩, .beginHalt net,
        .expectAcks net 1, .acknowledge net, .retire net]
    ∃ start : Node Bare Mailbox.Link, start.process.registry = .create 1 ∧
      let calls := life ⟨7⟩ ++ life ⟨8⟩
      let r := (Call.runAll (Call.runAll start calls) [.insert ⟨7⟩ 0 ⟨0⟩ none true]).process.registry
      r.liveCount = 1 ∧ r.haltingCount = 0 ∧ r.retiredCount = 2 ∧
      Call.insertions start (calls ++ [.insert ⟨7⟩ 0 ⟨0⟩ none true]) = 3 := by
  intro life
  let p : Process Bare :=
    ((Process.create ⟨1, false, 0, 0, none⟩ [] ⟨0⟩ 1).toOption).get rfl
  let start : Node Bare Mailbox.Link :=
    ⟨{ p with registry := .create 1 }, ⟨{ process := ⟨0⟩ }, ⟨[{}]⟩⟩, .create [], 0⟩
  have hcounts : let r := (Call.runAll (Call.runAll start (life ⟨7⟩ ++ life ⟨8⟩))
      [.insert ⟨7⟩ 0 ⟨0⟩ none true]).process.registry
      r.liveCount = 1 ∧ r.haltingCount = 0 ∧ r.retiredCount = 2 := by cbv
  obtain ⟨hlive, hhalting, hretired⟩ := hcounts
  obtain ⟨-, -, -, hconserved, -⟩ := instances_go_one_way (rfl : start.process.registry = .create 1)
    (life ⟨7⟩ ++ life ⟨8⟩) [.insert ⟨7⟩ 0 ⟨0⟩ none true]
  exact ⟨start, rfl, hlive, hhalting, hretired, by rw [hconserved, hlive, hhalting, hretired]⟩

end Registry

end PetriCluster
