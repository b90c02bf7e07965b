import PetriCluster.Proofs.Operations
import PetriCluster.Transport.Mailbox

/-!
# Every instance has one owner

Wherever a process gets to by its operations, each of its slots stands for exactly one instance, which
is with the owner of the slot: in an item that hands it over, among the active nets, or among the
stopped ones. No instance is without a slot. Packets may be forged, repeated or lost: nothing is asked
of the transport.
-/

namespace PetriCluster

/-- The kinds of places where a worker has instances. -/
inductive Residence where
  | inbox
  | active
  | halting
  deriving DecidableEq, Repr

namespace OrderedMap

variable {κ υ : Type} [Numbered κ]

theorem lookup_eq_none {k : κ} {l : List (κ × υ)} (h : ∀ e ∈ l, e.1 ≠ k) : lookup k l = none := by
  induction l with
  | nil => rfl
  | cons d rest ih =>
    have hd : number d.1 ≠ number k := fun e => h d (by simp) (Numbered.number_inj e)
    rw [lookup, if_neg hd]
    exact ih fun e he => h e (by simp [he])

theorem filter_values [DecidableEq κ] (m : OrderedMap κ υ) {g : υ → κ}
    (h : ∀ k v, m.find? k = some v → g v = k) (k : κ) :
    m.values.filter (g · = k) = (m.find? k).toList := by
  have hkeys : ∀ e ∈ m.entries, g e.2 = e.1 := fun e he => h e.1 e.2 (m.find?_of_mem he)
  unfold values find?
  generalize hl : m.entries = l at hkeys
  have hordered := m.ordered
  rw [hl] at hordered
  clear hl h
  induction l with
  | nil => rfl
  | cons d rest ih =>
    obtain ⟨hd, hrest⟩ := List.pairwise_cons.mp hordered
    have ih := ih (fun e he => hkeys e (by simp [he])) hrest
    rw [List.map_cons, List.filter_cons, ih, lookup, hkeys d (by simp)]
    by_cases hk : d.1 = k
    · subst hk
      have hnone : lookup d.1 rest = none := lookup_eq_none fun e he heq => by
        have := hd e he
        rw [heq] at this
        omega
      simp [hnone]
    · have hne : number d.1 ≠ number k := fun e => hk (Numbered.number_inj e)
      simp [hk, hne]

end OrderedMap

namespace Process

variable {σ : Type} [NetBehaviour σ]

/-- The places where a worker has instances of the given name, one for each such instance. -/
def residences (p : Process σ) (w : WorkerId) (net : NetId) : List Residence :=
  ((p.inbox w).filter (WorkItem.isAdoptOf net)).map (fun _ => .inbox) ++
    ((p.worker w).nets.values.filter (NetBehaviour.id · = net)).map (fun _ => .active) ++
    ((p.worker w).halting.values.filter (NetBehaviour.id · = net)).map (fun _ => .halting)

variable {p : Process σ}

theorem residences_eq (hn : p.outline.Named) (w : WorkerId) (net : NetId) :
    p.residences w net =
      List.replicate (p.outline.countAt w (WorkItem.isAdoptOf net)) .inbox ++
        List.replicate (Scene.held (p.outline.active w net)) .active ++
        List.replicate (Scene.held (p.outline.halting w net)) .halting := by
  have hmap {α : Type} (l : List α) (r : Residence) :
      l.map (fun _ => r) = List.replicate l.length r := List.map_const' ..
  have hheld (o : Option σ) : o.toList.length = Scene.held o := by cases o <;> rfl
  have hcount : p.outline.countAt w (WorkItem.isAdoptOf net) =
      ((p.inbox w).filter (WorkItem.isAdoptOf net)).length := by
    rw [← List.countP_eq_length_filter, Scene.countAt, Scene.items]
    split <;> rfl
  have hactive := (p.worker w).nets.filter_values (hn.active w) net
  have hhalting := (p.worker w).halting.filter_values (hn.halting w) net
  rw [residences, hactive, hhalting, hmap, hmap, hmap, hheld, hheld, hcount]
  rfl

/-- A net with a slot has one residence, with the owner of the slot. -/
theorem residences_of_slot (hn : p.outline.Named) {net : NetId} (ha : p.outline.Accounted net)
    {slot : Slot} (hslot : p.registry.slot? net = some slot) :
    ∃ place, p.residences slot.owner net = [place] ∧ (slot.state = .spawned → place = .inbox) ∧
      (place = .halting → slot.state = .halting) := by
  have hr := ha.resides slot hslot
  have hadopts := hr.adopts
  rw [residences_eq hn]
  cases hr.stage with
  | spawned _ hadopt hactive _ hhalting =>
    refine ⟨.inbox, ?_, fun _ => rfl, nofun⟩
    rw [← hadopts, hadopt, hactive, hhalting]
    rfl
  | active hstate hone _ hhalting | stopping hstate hone _ hhalting =>
    obtain ⟨hadopt, hactive⟩ | ⟨hadopt, hactive⟩ := Nat.add_eq_one_iff.mp hone
    · refine ⟨.active, ?_, by simp [hstate], nofun⟩
      rw [← hadopts, hadopt, hactive, hhalting]
      rfl
    · refine ⟨.inbox, ?_, fun _ => rfl, nofun⟩
      rw [← hadopts, hadopt, hactive, hhalting]
      rfl
  | stopped hstate hadopt hactive _ hhalting =>
    refine ⟨.halting, ?_, by simp [hstate], fun _ => hstate⟩
    rw [← hadopts, hadopt, hactive, hhalting]
    rfl

theorem slot_of_residences (hn : p.outline.Named) {net : NetId} (ha : p.outline.Accounted net)
    {w : WorkerId} (hw : p.residences w net ≠ []) :
    ∃ slot, p.registry.slot? net = some slot ∧ slot.owner = w := by
  have hnone (hadopt : p.outline.countAt w (WorkItem.isAdoptOf net) = 0)
      (hactive : p.outline.active w net = none) (hhalting : p.outline.halting w net = none) : False := by
    rw [residences_eq hn, hadopt, hactive, hhalting] at hw
    exact hw rfl
  cases hslot : p.registry.slot? net with
  | none =>
    obtain ⟨hactive, hhalting, hadopts, -, -⟩ := ha.absent hslot
    have hle := Scene.countAt_le_count (s := p.outline) w (WorkItem.isAdoptOf net)
    exact (hnone (by omega) (hactive w) (hhalting w)).elim
  | some slot =>
    refine ⟨slot, rfl, ?_⟩
    by_contra hne
    have hr := ha.resides slot hslot
    have hne : w ≠ slot.owner := Ne.symm hne
    exact hnone (Scene.countAt_eq_zero hr.adopts hne) (hr.active_elsewhere w hne)
      (hr.halting_elsewhere w hne)

end Process

variable {σ τ : Type} [NetBehaviour σ] [Transport τ]

/-- In every state that a process gets to, each slot stands for exactly one instance of its name, which
is with the owner of the slot, and every instance has a slot. A net that is only spawned is still in
the inbox, and a net that has been stopped is halting. Instances are filed under their names. Calls
that are refused belong to such a run; a run ends at a call that panics, so what such a call leaves
behind is not spoken of. -/
theorem instance_has_one_owner [LawfulNet σ] {settings : Settings} {templates : List (Template σ)}
    {id : ProcessId} {count : Nat} {p q : Process σ} {calls : List (Call τ)}
    (hcreate : Process.create settings templates id count = .ok p) (hcalls : p.follow? calls = some q)
    (net : NetId) :
    (∀ slot, q.registry.slot? net = some slot →
      ∃ place, q.residences slot.owner net = [place] ∧ (slot.state = .spawned → place = .inbox) ∧
        (place = .halting → slot.state = .halting)) ∧
    (∀ w, q.residences w net ≠ [] → ∃ slot, q.registry.slot? net = some slot ∧ slot.owner = w) ∧
    ∀ w state, (q.worker w).nets.find? net = some state ∨ (q.worker w).halting.find? net = some state →
      NetBehaviour.id state = net := by
  obtain ⟨-, -, -, -, hfresh⟩ := Process.create_eq_ok hcreate
  obtain ⟨-, hn, ha⟩ := Process.follow?_invariant
    (I := fun s => s.Sound ∧ s.Named ∧ ∀ net, s.Accounted net) (fun _ h => h.1)
    (fun _ _ _ _ hstep ⟨hs, hn, ha⟩ => ⟨hstep.sound hs, hstep.named hn, hstep.accounted hs hn ha⟩)
    ⟨hfresh.sound, hfresh.named, hfresh.accounted⟩ hcalls
  refine ⟨fun slot => Process.residences_of_slot hn (ha net),
    fun w => Process.slot_of_residences hn (ha net), fun w state => ?_⟩
  rintro (h | h)
  · exact hn.active w net state h
  · exact hn.halting w net state h

/-- A net that was spawned for worker 1 and adopted there is active there. -/
theorem instance_has_one_owner_after_adoption :
    ∃ p q : Process Bare, Process.create ⟨2, false, 0, 0, none⟩ [Bare.template] ⟨0⟩ 1 = .ok p ∧
      q.residences ⟨1⟩ ⟨0⟩ = [.active] ∧
      ∀ w, q.residences w ⟨0⟩ ≠ [] → ∃ slot, q.registry.slot? ⟨0⟩ = some slot ∧ slot.owner = w := by
  let link : Mailbox.Link := ⟨{ process := ⟨0⟩ }, ⟨[{}]⟩⟩
  let calls : List (Call Mailbox.Link) :=
    [⟨.spawn ⟨1⟩ 0 none none false, link, .create [], 0⟩, ⟨.processMessages ⟨1⟩, link, .create [], 0⟩]
  obtain ⟨p, hcreate, hcalls⟩ : ∃ p : Process Bare,
      Process.create ⟨2, false, 0, 0, none⟩ [Bare.template] ⟨0⟩ 1 = .ok p ∧
      (p.follow? calls).map (·.residences ⟨1⟩ ⟨0⟩) = some [.active] := by
    refine ⟨_, rfl, ?_⟩
    simp only [calls, Process.follow?, Node.after?, Operation.run, Node.bind_apply]
    rw [Node.spawn_local ⟨0⟩ (by decide) rfl rfl (by simp) rfl rfl]
    rfl
  obtain ⟨q, hq, hactive⟩ := Option.map_eq_some_iff.mp hcalls
  exact ⟨p, q, hcreate, hactive, (instance_has_one_owner hcreate hq ⟨0⟩).2.1⟩

end PetriCluster
