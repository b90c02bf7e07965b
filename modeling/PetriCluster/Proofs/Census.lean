import PetriCluster.Proofs.Regimes
import PetriCluster.Proofs.Remnants

/-!
# The instances of a process

Where the instances of a process are, and what waits in its inboxes, told from what its scene shows.
-/

namespace PetriCluster

namespace OrderedMap

variable {κ υ : Type} [Numbered κ] {m : OrderedMap κ υ} {k : κ}

theorem values_eq_toList (h : ∀ k' v, m.find? k' = some v → k' = k) : m.values = (m.find? k).toList := by
  obtain ⟨entries, hordered⟩ := m
  have hkey {e : κ × υ} (he : lookup e.1 entries = some e.2) : e.1 = k := h e.1 e.2 he
  cases entries with
  | nil => rfl
  | cons e rest =>
    have hfirst : lookup e.1 (e :: rest) = some e.2 := by simp [lookup]
    obtain rfl := hkey hfirst
    cases rest with
    | nil => simp [values, find?, lookup]
    | cons other rest =>
      -- a second entry has a key of its own
      have hlt := (List.pairwise_cons.mp hordered).1 other (List.mem_cons_self ..)
      have hne : ¬ number e.1 = number other.1 := by omega
      have hsecond := hkey (e := other) (by simp [lookup, hne])
      rw [hsecond] at hlt
      exact absurd hlt (Nat.lt_irrefl _)

end OrderedMap

theorem flatMap_eq_getD {α β : Type} {l : List α} {g : α → List β} {i : Nat} {d : α} (hd : g d = [])
    (h : ∀ j x, l[j]? = some x → j ≠ i → g x = []) : l.flatMap g = g (l[i]?.getD d) := by
  induction l generalizing i with
  | nil => simp [hd]
  | cons x rest ih =>
    cases i with
    | zero =>
      have hrest : rest.flatMap g = [] := List.flatMap_eq_nil_iff.mpr fun y hy => by
        obtain ⟨j, hj⟩ := List.getElem?_of_mem hy
        exact h (j + 1) y (by simpa using hj) (by simp)
      simp [hrest]
    | succ i =>
      have hx : g x = [] := h 0 x rfl (by simp)
      have hrest := ih fun j y hy hj => h (j + 1) y (by simpa using hy) (by simpa using hj)
      simp [hx, hrest]

/-- Among the workers, or their inboxes, one has something to show. -/
theorem flatMap_eq_named {α β : Type} {l : List α} {g : α → List β} {d : α} (hd : g d = [])
    (hunnamed : ∀ x ∈ l.drop IdSource.wordSize, g x = []) (v : WorkerId)
    (h : ∀ w : WorkerId, w ≠ v → g (l[w.index]?.getD d) = []) : l.flatMap g = g (l[v.index]?.getD d) := by
  refine flatMap_eq_getD hd fun j x hx hj => ?_
  by_cases hlt : j < IdSource.wordSize
  · have hindex : (WorkerId.ofIndex j).index = j := UInt32.toNat_ofNat_of_lt' hlt
    have hw := h (.ofIndex j) fun heq => hj (hindex ▸ congrArg WorkerId.index heq)
    rwa [hindex, hx] at hw
  · refine hunnamed x (List.mem_iff_getElem?.mpr ⟨j - IdSource.wordSize, ?_⟩)
    rw [List.getElem?_drop, Nat.add_sub_cancel' (Nat.le_of_not_lt hlt)]
    exact hx

namespace WorkItem

variable {σ : Type}

/-- The instance an item brings. -/
def adopted? : WorkItem σ → Option σ
  | adopt made => some made
  | _ => none

/-- The tokens an item brings. -/
def parcel? : WorkItem σ → Option Parcel
  | tokens parcel => some parcel
  | _ => none

end WorkItem

namespace Process

/-- The instances of a process: those that its workers have active or stopped, and those that wait to
be adopted. -/
def instances {σ : Type} (p : Process σ) : List σ :=
  p.workers.flatMap (fun x => x.nets.values ++ x.halting.values) ++
    p.inboxes.flatMap (·.filterMap WorkItem.adopted?)

end Process

/-- A net with a slot has an instance. -/
theorem Process.instances_ne_nil {σ : Type} [NetBehaviour σ] {p : Process σ} {net : NetId} {slot : Slot}
    (h : p.outline.Accounted net) (hslot : p.registry.slot? net = some slot) : p.instances ≠ [] := by
  intro hnone
  obtain ⟨hworkers, hinboxes⟩ := List.append_eq_nil_iff.mp hnone
  have hresides := h.resides slot hslot
  have hworker : (p.worker slot.owner).nets.values ++ (p.worker slot.owner).halting.values = [] := by
    unfold Process.worker
    cases hfound : p.workers[slot.owner.index]? with
    | none => rfl
    | some x => exact List.flatMap_eq_nil_iff.mp hworkers x (List.mem_of_getElem? hfound)
  obtain ⟨hnets, hstopped⟩ := List.append_eq_nil_iff.mp hworker
  have hheld {m : OrderedMap NetId σ} (hempty : m.values = []) : Scene.held (m.find? net) = 0 := by
    rw [OrderedMap.find?, List.map_eq_nil_iff.mp hempty]
    rfl
  have hadopts : p.outline.count (WorkItem.isAdoptOf net) = 0 := by
    rw [hresides.adopts, Scene.countAt_eq, Process.outline_hand, List.countP_nil, ite_self,
      Nat.zero_add, List.countP_eq_zero]
    intro item hitem hadopt
    have hitem : item ∈ p.inboxes[slot.owner.index]?.getD [] := hitem
    cases hbox : p.inboxes[slot.owner.index]? with
    | none => simp [hbox] at hitem
    | some box =>
      rw [hbox] at hitem
      have hempty := List.flatMap_eq_nil_iff.mp hinboxes box (List.mem_of_getElem? hbox)
      have hnot := List.filterMap_eq_nil_iff.mp hempty item hitem
      cases item <;> first | cases hadopt | cases hnot
  have hactive : Scene.held (p.outline.active slot.owner net) = 0 := hheld hnets
  have hhalting : Scene.held (p.outline.halting slot.owner net) = 0 := hheld hstopped
  cases hresides.stage <;> omega

variable {n : Nat} {limit : UInt32} {i : Fin n} {p : Process DemoNet} {net : NetId} {state : DemoNet}
  (hhome : p.books.Home limit i)

include hhome

theorem Process.flatMap_inboxes {β : Type} {f : WorkItem DemoNet → Option β} (w : WorkerId)
    (h : ∀ u, u ≠ w → (p.outline.items u).filterMap f = []) :
    p.inboxes.flatMap (·.filterMap f) = (p.outline.items w).filterMap f := by
  simp only [items_outline] at h ⊢
  refine flatMap_eq_named rfl (fun x hx => ?_) w h
  rw [hhome.inboxes x hx]
  rfl

theorem Process.flatMap_workers (w : WorkerId) (net : NetId)
    (hactive : ∀ u m state, p.outline.active u m = some state → u = w ∧ m = net)
    (hhalting : ∀ u m state, p.outline.halting u m = some state → u = w ∧ m = net) :
    p.workers.flatMap (fun x => x.nets.values ++ x.halting.values) =
      (p.outline.active w net).toList ++ (p.outline.halting w net).toList := by
  have hvalues (u : WorkerId) : (p.worker u).nets.values ++ (p.worker u).halting.values =
      (p.outline.active u net).toList ++ (p.outline.halting u net).toList := by
    rw [OrderedMap.values_eq_toList fun m state h => (hactive u m state h).2,
      OrderedMap.values_eq_toList fun m state h => (hhalting u m state h).2]
    rfl
  rw [← hvalues]
  refine flatMap_eq_named rfl (fun x hx => ?_) w fun u hu => (hvalues u).trans ?_
  · have hempty := hhome.nets _ (List.mem_map_of_mem hx)
    obtain ⟨hnets, hstopped⟩ := Prod.mk.inj hempty
    rw [hnets, hstopped]
    rfl
  · rw [Option.eq_none_iff_forall_ne_some.mpr fun state h => hu (hactive u _ state h).1,
      Option.eq_none_iff_forall_ne_some.mpr fun state h => hu (hhalting u _ state h).1]
    rfl

theorem Scene.Seats.census {owner : WorkerId} {adopted : Bool} {bound : List Parcel}
    (h : p.outline.Seats net owner adopted state bound) :
    p.instances = [state] ∧ p.inboxes.flatMap (·.filterMap WorkItem.parcel?) = bound := by
  have hboxes {β : Type} (f : WorkItem DemoNet → Option β) : p.inboxes.flatMap (·.filterMap f) =
      (p.outline.items owner).filterMap f :=
    Process.flatMap_inboxes hhome owner fun u hu => by rw [h.items, if_neg hu]; rfl
  constructor
  · have hnone : (bound.map WorkItem.tokens).filterMap (WorkItem.adopted? (σ := DemoNet)) = [] := by
      rw [List.filterMap_map]
      exact List.filterMap_eq_nil_iff.mpr fun _ _ => rfl
    rw [Process.instances, hboxes, h.items, if_pos rfl, List.filterMap_append, hnone,
      Process.flatMap_workers hhome owner net, h.active, h.halting]
    · cases adopted <;> simp [WorkItem.adopted?]
    · intro u m found hfound
      obtain ⟨-, hu, hm, -⟩ := h.eq_of_active hfound
      exact ⟨hu, hm⟩
    · intro u m found hfound
      cases (h.halting u m).symm.trans hfound
  · have hall : (bound.map WorkItem.tokens).filterMap (WorkItem.parcel? (σ := DemoNet)) = bound := by
      rw [List.filterMap_map]
      exact List.filterMap_some
    rw [hboxes, h.items, if_pos rfl, List.filterMap_append, hall]
    cases adopted <;> rfl

omit hhome in
theorem Scene.Idles.adopts {s : Scene DemoNet} {spot : Spot} (h : s.Idles net state spot)
    (w : WorkerId) : (s.items w).filterMap WorkItem.adopted? = [] ∨
      (s.items w).filterMap WorkItem.adopted? = [state] ∧ spot = .queued w := by
  have hlength : ((s.items w).filterMap WorkItem.adopted?).length ≤ 1 := by
    have hsame : (fun item : WorkItem DemoNet => item.adopted?.isSome) = WorkItem.isAdopt := by
      funext item
      cases item <;> rfl
    rw [List.length_filterMap_eq_countP, hsame]
    exact h.once w
  have hmem {made : DemoNet} (hmade : made ∈ (s.items w).filterMap WorkItem.adopted?) :
      made = state ∧ spot = .queued w := by
    obtain ⟨item, hitem, heq⟩ := List.mem_filterMap.mp hmade
    cases item with
    | adopt other =>
      cases heq
      rcases h.items w _ hitem with ⟨hcopy, hspot⟩ | hexit
      · cases hcopy
        exact ⟨rfl, hspot⟩
      · cases hexit
    | _ => cases heq
  cases hlist : (s.items w).filterMap WorkItem.adopted? with
  | nil => exact .inl rfl
  | cons made rest =>
    rw [hlist] at hlength hmem
    obtain ⟨rfl, hspot⟩ := hmem (List.mem_cons_self ..)
    obtain rfl : rest = [] := List.length_eq_zero_iff.mp (by simpa using hlength)
    exact .inr ⟨rfl, hspot⟩

theorem Scene.Idles.instances {spot : Spot} (h : p.outline.Idles net state spot) :
    p.instances = [] ∨ p.instances = [state] := by
  have hadopts (u : WorkerId) (hu : spot ≠ .queued u) :
      (p.outline.items u).filterMap WorkItem.adopted? = [] :=
    (h.adopts u).resolve_right fun hqueued => hu hqueued.2
  have hactive (hspot : ∀ w, spot ≠ .active w) (u : WorkerId) (m : NetId) :
      p.outline.active u m = none :=
    Option.eq_none_iff_forall_ne_some.mpr fun found hfound => hspot u (h.active u m found hfound).1
  have hhalting (hspot : ∀ w, spot ≠ .stopped w) (u : WorkerId) (m : NetId) :
      p.outline.halting u m = none :=
    Option.eq_none_iff_forall_ne_some.mpr fun found hfound => hspot u (h.halting u m found hfound).1
  have hstate {o : Option DemoNet} (hcopy : ∀ copy, o = some copy → copy = state) :
      o.toList = [] ∨ o.toList = [state] := by
    cases o with
    | none => exact .inl rfl
    | some copy => exact .inr (by rw [hcopy copy rfl]; rfl)
  rw [Process.instances]
  cases spot with
  | queued w =>
    rw [Process.flatMap_inboxes hhome w fun u hu => hadopts u fun heq => hu (by cases heq; rfl),
      Process.flatMap_workers hhome w net (by simp [hactive]) (by simp [hhalting]), hactive (by simp),
      hhalting (by simp)]
    exact (h.adopts w).imp_right And.left
  | active w =>
    rw [Process.flatMap_inboxes hhome w fun u _ => hadopts u (by simp), hadopts w (by simp),
      Process.flatMap_workers hhome w net _ (by simp [hhalting]), hhalting (by simp)]
    · simpa using hstate fun copy hcopy => (h.active w _ copy hcopy).2.2
    · intro u m found hfound
      obtain ⟨heq, hnet, -⟩ := h.active u m found hfound
      cases heq
      exact ⟨rfl, hnet⟩
  | stopped w =>
    rw [Process.flatMap_inboxes hhome w fun u _ => hadopts u (by simp), hadopts w (by simp),
      Process.flatMap_workers hhome w net (by simp [hactive]), hactive (by simp)]
    · simpa using hstate fun copy hcopy => (h.halting w _ copy hcopy).2.2
    · intro u m found hfound
      obtain ⟨heq, hnet, -⟩ := h.halting u m found hfound
      cases heq
      exact ⟨rfl, hnet⟩

theorem Scene.Dwindles.census (h : p.outline.Dwindles net state) :
    (p.instances = [] ∨ p.instances = [state]) ∧
      p.inboxes.flatMap (·.filterMap WorkItem.parcel?) = [] := by
  obtain ⟨spot, hidles⟩ := h.idles
  have hparcels (u : WorkerId) : (p.outline.items u).filterMap WorkItem.parcel? = [] := by
    refine List.filterMap_eq_nil_iff.mpr fun item hitem => ?_
    rcases hidles.items u item hitem with ⟨rfl, -⟩ | hexit
    · rfl
    · cases item <;> first | rfl | cases hexit
  exact ⟨hidles.instances hhome,
    (Process.flatMap_inboxes hhome ⟨0⟩ fun u _ => hparcels u).trans (hparcels _)⟩

end PetriCluster
