import PetriCluster.Proofs.Happenings

/-!
# A net on its way out

When a net that no peer has to know of is halted, its owner gets an item that stops it. The instance
is with the owner, or on its way there in front of that item. When the owner has come to the item, the
instance is stopped and an item that releases it waits behind; when it has come to that, the net is
gone.
-/

namespace PetriCluster

variable {owner : WorkerId} {isGlobal : Bool} {registry : Registry} {origin : Option ProcessId}
  {parent : Option NetId}

/-! ## Registries over time -/

namespace Registry

variable {r r' : Registry} {net : NetId}

/-- Slots change, names are retired and new slots come. -/
abbrev Evolves : Registry → Registry → Prop :=
  Relation.ReflTransGen fun r r' => r.Changes r' ∨ ∃ net template owner parent isGlobal,
    r.insert net template owner parent isGlobal = .ok r'

theorem Evolves.of_changes (h : r.Changes r') : r.Evolves r' := .single (.inl h)

theorem Evolves.of_insert {template : Nat} (h : r.insert net template owner parent isGlobal = .ok r') :
    r.Evolves r' :=
  .single (.inr ⟨_, _, _, _, _, h⟩)

theorem Evolves.retains (h : r.Evolves r') (hr : r.Healthy) : r.Retains r' := by
  induction h with
  | refl => exact hr.retains_refl
  | tail _ hlast ih =>
    rcases hlast with hchanges | ⟨_, _, _, _, _, hinsert⟩
    · have hnext := ih.healthy.retains_changes hchanges
      exact ⟨hnext.healthy, fun h => hnext.remembers (ih.remembers h)⟩
    · have hnext := ih.healthy.retains_insert hinsert
      exact ⟨hnext.healthy, fun h => hnext.remembers (ih.remembers h)⟩

theorem Evolves.retiredCount_le (h : r.Evolves r') : r.retiredCount ≤ r'.retiredCount := by
  induction h with
  | refl => exact Nat.le_refl _
  | tail _ hlast ih =>
    refine ih.trans ?_
    rcases hlast with hchanges | ⟨_, _, _, _, _, hinsert⟩
    · rcases hchanges.inv with rfl | ⟨m, slot, slot', -, rfl, -⟩ | ⟨m, slot, -, -, hretired⟩
      · exact Nat.le_refl _
      · exact Nat.le_refl _
      · rw [retiredCount, retiredCount, hretired]
        exact Retired.total_le_insert _ m
    · obtain ⟨-, -, rfl⟩ := insert_eq_setSlot hinsert
      exact Nat.le_refl _

/-- The net is stopping and waits for no acknowledgment, or it was retired: there is no way back, and no
request changes anything. -/
structure Closed (r : Registry) (net : NetId) : Prop where
  halting : ∀ slot, r.slot? net = some slot → slot.state = .halting ∧ slot.pendingAcks = 0
  retired : r.slot? net = none → r.isRetired net = true

theorem Closed.of_halting {slot : Slot} (h : r.slot? net = some slot) (hstate : slot.state = .halting)
    (hacks : slot.pendingAcks = 0) : r.Closed net where
  halting found hfound := by
    rw [h] at hfound
    cases hfound
    exact ⟨hstate, hacks⟩
  retired hnone := by
    rw [h] at hnone
    cases hnone

theorem Closed.of_retired (h : r.slot? net = none) (hretired : r.isRetired net = true) :
    r.Closed net where
  halting slot hslot := by
    rw [h] at hslot
    cases hslot
  retired _ := hretired

theorem Closed.ne_of_insert (h : r.Closed net) {m : NetId} {template : Nat}
    (hinsert : r.insert m template owner parent isGlobal = .ok r') : m ≠ net := by
  rintro rfl
  obtain ⟨hnot, hnone, -⟩ := insert_eq_setSlot hinsert
  rw [h.retired hnone] at hnot
  cases hnot

theorem Closed.ne_of_beginHalt (h : r.Closed net) {m : NetId}
    (hbegin : r.beginHalt m = .ok (.started owner isGlobal, r')) : m ≠ net := by
  rintro rfl
  obtain ⟨slot, hslot, -, -, hlive, -⟩ := beginHalt_eq_started hbegin
  rw [(h.halting slot hslot).1] at hlive
  cases hlive

end Registry

namespace Scene

open Registry

variable {σ : Type} {s t u : Scene σ} {net m : NetId}
variable {item : WorkItem σ}

theorem countAck_evolves (s : Scene σ) (m : NetId) : s.registry.Evolves (s.countAck m).registry := by
  unfold countAck
  rcases hack : s.registry.acknowledge m with e | ⟨outcome, registry⟩
  · exact .refl
  · cases outcome <;> exact .of_changes (.acknowledge hack)

theorem excuse_evolves (s : Scene σ) (m : NetId) (count : Nat) :
    s.registry.Evolves (s.excuse m count).registry := by
  induction count generalizing s with
  | zero => exact .refl
  | succ count ih => exact (s.countAck_evolves m).trans (ih _)

variable [NetBehaviour σ] {moving : NetId → Prop} {losing : Prop} {naming open_ : Prop}
  {ws : List Wire} {events : List TokenEvent}

theorem Asks.evolves (h : Asks naming s ws events t) : s.registry.Evolves t.registry := by
  cases h with
  | spawn _ hinsert => exact .of_insert hinsert
  | halt hbegin => exact .of_changes (.beginHalt hbegin)
  | sendLocal | sendRemote | sendRefused | draw => exact .refl

theorem Takes.evolves {packet : Packet} (h : Takes s packet ws events t) :
    s.registry.Evolves t.registry := by
  cases h with
  | spawned _ _ hinsert => exact .of_insert hinsert
  | halted _ hbegin => exact .of_changes (.beginHalt hbegin)
  | haltAck => exact s.countAck_evolves _
  | _ => exact .refl

theorem Deals.evolves (h : Deals s item ws events t) : s.registry.Evolves t.registry := by
  cases h with
  | adopt hactivate => exact .of_changes (.activate hactivate)
  | @stopGlobal m state registry _ _ _ hexpect =>
    have hfirst : s.registry.Evolves registry := .of_changes (.expectAcks hexpect)
    exact hfirst.trans (excuse_evolves ((s.setRegistry registry).stop s.worker m state) m _)
  | reclaim hretire => exact .of_changes (.retire hretire)
  | _ => exact .refl

theorem Step.evolves (h : Step naming open_ s ws events t) : s.registry.Evolves t.registry := by
  cases h with
  | ask _ h => exact h.evolves
  | take h => exact h.evolves
  | deal _ h => exact h.evolves
  | migrate _ _ _ howner => exact .of_changes (.setOwner howner)
  | _ => exact .refl

theorem Happens.evolves (h : Happens moving False s t) : s.registry.Evolves t.registry := by
  rcases h.cases with ⟨_, _, hstep⟩ | ⟨w, item, -, -, rfl⟩ | ⟨hlosing, -⟩
  · exact hstep.evolves
  · exact .refl
  · exact hlosing.elim

/-! ## Nothing has ever got lost -/

/-- The process is in order, and every net is accounted for. -/
structure Untroubled (s : Scene σ) : Prop where
  upright : s.Upright
  accounted : ∀ net, s.Accounted net

theorem Fresh.untroubled (h : s.Fresh) (hhealthy : s.registry.Healthy) (hfaithful : ¬ s.Misnames) :
    s.Untroubled :=
  ⟨h.upright hhealthy hfaithful, h.accounted⟩

theorem Untroubled.happens [LawfulNet σ] (hs : s.Untroubled) (h : Happens moving False s t) :
    t.Untroubled := by
  obtain ⟨hupright, haccounted⟩ := hs
  rcases h.cases with ⟨ws, events, hstep⟩ | ⟨w, item, hw, hitem, rfl⟩ | ⟨hlosing, -⟩
  · exact ⟨hupright.goes (.step hstep), hstep.accounted hupright.sound hupright.named haccounted⟩
  · have habout : item.net? = none := by cases item <;> first | rfl | cases hitem
    have hconcerns (net : NetId) : item.concerns net = false := by
      cases item <;> first | rfl | cases hitem
    refine ⟨⟨hupright.sound.post hw item, hupright.named.of_eq rfl rfl, fun net => ?_, ?_,
      hupright.faithful⟩, fun net => (haccounted net).congr (.post hw (hconcerns net))⟩
    · exact (hupright.backed net).post hw
        (WorkItem.eq_false_of_concerns (fun _ => WorkItem.concerns_of_isAdoptOf) (hconcerns net))
        (WorkItem.eq_false_of_concerns (fun _ => WorkItem.concerns_of_isReclaimOf) (hconcerns net))
    · refine hupright.familiar.post hw fun net hnet => ?_
      rw [habout] at hnet
      cases hnet
  · exact hlosing.elim

theorem Untroubled.leads [LawfulNet σ] (hs : s.Untroubled) (h : Leads moving False s t) :
    t.Untroubled := by
  induction h with
  | refl => exact hs
  | tail _ hlast ih => exact ih.happens hlast

theorem Leads.evolves (h : Leads moving False s t) : s.registry.Evolves t.registry := by
  induction h with
  | refl => exact .refl
  | tail _ hlast ih => exact ih.trans hlast.evolves

/-! ## The slot stays, and lines grow at their ends -/

/-- A net keeps its slot, and only items are added to lines that neither hand its instance over nor stop
it. -/
structure Carries (s t : Scene σ) (net : NetId) : Prop where
  slot : t.registry.slot? net = s.registry.slot? net
  processCount : t.processCount = s.processCount
  line : ∀ w, ∃ more, t.items w = s.items w ++ more ∧ ∀ item ∈ more, item.isAdoptOf net = false
  halts : t.count (WorkItem.isHaltOf net) = s.count (WorkItem.isHaltOf net)
  hand : s.hand ≠ [] → t.hand = s.hand ∧ t.worker = s.worker

namespace Carries

theorem of_eq (hslot : t.registry.slot? net = s.registry.slot? net)
    (hcount : t.processCount = s.processCount) (hinboxes : t.inboxes = s.inboxes)
    (hhand : t.hand = s.hand) (hworker : t.worker = s.worker) : Carries s t net where
  slot := hslot
  processCount := hcount
  line w := ⟨[], by simp [items, inbox, hinboxes, hhand, hworker], by simp⟩
  halts := by simp only [count, hinboxes, hhand]
  hand _ := ⟨hhand, hworker⟩

theorem refl (s : Scene σ) (net : NetId) : Carries s s net := .of_eq rfl rfl rfl rfl rfl

theorem trans (h : Carries s t net) (h' : Carries t u net) : Carries s u net where
  slot := h'.slot.trans h.slot
  processCount := h'.processCount.trans h.processCount
  line w := by
    obtain ⟨more, hmore, hfirst⟩ := h.line w
    obtain ⟨later, hlater, hsecond⟩ := h'.line w
    refine ⟨more ++ later, by rw [hlater, hmore, List.append_assoc], fun item hitem => ?_⟩
    exact (List.mem_append.mp hitem).elim (hfirst item) (hsecond item)
  halts := h'.halts.trans h.halts
  hand hne := by
    obtain ⟨hhand, hworker⟩ := h.hand hne
    obtain ⟨hhand', hworker'⟩ := h'.hand (hhand ▸ hne)
    exact ⟨hhand'.trans hhand, hworker'.trans hworker⟩

theorem post {w : WorkerId} (hw : s.HasWorker w) (hadopt : item.isAdoptOf net = false)
    (hhalt : item.isHaltOf net = false) : Carries s (s.post w item) net where
  slot := rfl
  processCount := rfl
  line v := by
    refine ⟨_, items_post hw v item, fun found hfound => ?_⟩
    split at hfound
    · rw [List.mem_singleton.mp hfound]
      exact hadopt
    · cases hfound
  halts := by simp [count_post hw, hhalt]
  hand _ := ⟨rfl, rfl⟩

theorem setSlot {slot : Option Slot} (h : registry.slot? = Function.update s.registry.slot? m slot)
    (hm : m ≠ net) : Carries s (s.setRegistry registry) net := by
  refine .of_eq ?_ rfl rfl rfl rfl
  rw [setRegistry_registry, h, Function.update_of_ne (Ne.symm hm)]

theorem countAck_of_ne (hs : s.Sound) (hm : m ≠ net) : Carries s (s.countAck m) net := by
  rcases countAck_cases s m with ⟨e, -, heq⟩ | ⟨slot, registry, hslot, -, -, hupdate, heq⟩
  · rw [heq]
    exact .refl s net
  · have howner : (s.setRegistry registry).HasWorker slot.owner := hs.owner_valid m slot hslot
    rw [heq]
    split
    · exact (setSlot hupdate hm).trans (.post howner rfl rfl)
    · exact setSlot hupdate hm

theorem countAck (hs : s.Sound) (hclosed : s.registry.Closed net) : Carries s (s.countAck m) net := by
  by_cases hm : m = net
  · subst hm
    rcases countAck_cases s m with ⟨e, -, heq⟩ | ⟨slot, registry, hslot, -, hpos, -⟩
    · rw [heq]
      exact .refl s m
    · have hzero := (hclosed.halting slot hslot).2
      omega
  · exact countAck_of_ne hs hm

theorem excuse (hs : s.Sound) (hm : m ≠ net) (count : Nat) : Carries s (s.excuse m count) net := by
  induction count generalizing s with
  | zero => exact .refl s net
  | succ count ih => exact (countAck_of_ne hs hm).trans (ih (hs.countAck m))

theorem spawn {index : Nat} {made : σ} (hclosed : s.registry.Closed net) (howner : s.HasWorker owner)
    (hinsert : s.registry.insert m index owner parent isGlobal = .ok registry)
    (hid : NetBehaviour.id made = m) :
    Carries s ((s.setRegistry registry).post owner (.adopt made)) net := by
  have hm := hclosed.ne_of_insert hinsert
  obtain ⟨-, hupdate⟩ := Registry.insert_eq_ok hinsert
  have howner' : (s.setRegistry registry).HasWorker owner := howner
  exact (setSlot hupdate hm).trans (.post howner' (by simp [WorkItem.isAdoptOf, hid, hm]) rfl)

theorem beginHalt (hclosed : s.registry.Closed net) (hs : s.Sound)
    (hbegin : s.registry.beginHalt m = .ok (.started owner isGlobal, registry)) :
    Carries s ((s.setRegistry registry).post owner (.halt m origin)) net := by
  have hm := hclosed.ne_of_beginHalt hbegin
  obtain ⟨slot, hslot, rfl, -, -, hupdate⟩ := Registry.beginHalt_eq_started hbegin
  have howner : (s.setRegistry registry).HasWorker slot.owner := hs.owner_valid m slot hslot
  exact (setSlot hupdate hm).trans (.post howner rfl (by simp [WorkItem.isHaltOf, hm]))

theorem postLive (hs : s.Sound) (howner : s.registry.liveOwner? m = some owner)
    (hadopt : item.isAdoptOf net = false) (hhalt : item.isHaltOf net = false) :
    Carries s (s.post owner item) net := by
  obtain ⟨slot, hslot, -, rfl⟩ := Registry.liveOwner?_eq_some.mp howner
  exact .post (hs.owner_valid m slot hslot) hadopt hhalt

end Carries

theorem Asks.carries (h : Asks naming s ws events t) (hs : s.Sound) (hclosed : s.registry.Closed net) :
    Carries s t net := by
  cases h with
  | sendLocal howner => exact .postLive hs howner rfl rfl
  | sendRemote | sendRefused | draw => exact .of_eq rfl rfl rfl rfl rfl
  | spawn howner hinsert hid =>
    exact (Carries.spawn hclosed howner hinsert hid).trans (.of_eq rfl rfl rfl rfl rfl)
  | halt hbegin => exact .beginHalt hclosed hs hbegin

/-- Taking a packet in leaves a closed net as it is. -/
theorem Takes.carries {packet : Packet} (h : Takes s packet ws events t) (hs : s.Sound)
    (hclosed : s.registry.Closed net) : Carries s t net := by
  cases h with
  | @tokens parcel owner _ howner =>
    have hposted : Carries s (s.post owner (.tokens parcel)) net := .postLive hs howner rfl rfl
    exact hposted.trans (.of_eq rfl rfl rfl rfl rfl)
  | spawned _ howner hinsert hid =>
    exact (Carries.spawn hclosed howner hinsert hid).trans (.of_eq rfl rfl rfl rfl rfl)
  | halted _ hbegin => exact .beginHalt hclosed hs hbegin
  | haltAck => exact .countAck hs hclosed
  | lateTokens | badTokens | spawnRefused | haltedBefore | quit | ignored | probe | reply =>
    exact .of_eq rfl rfl rfl rfl rfl

/-- Dealing with an item that does not belong to the life of the net. -/
theorem Deals.carries {rest : List (WorkItem σ)} (h : Deals s item ws events t)
    (hhand : s.hand = item :: rest) (hs : s.Sound) (hitem : item.concerns net = false) :
    Carries s t net := by
  have hworker : s.HasWorker s.worker := hs.hand_valid (by simp [hhand])
  have hne {m : NetId} {origin : Option ProcessId} (heq : item = .halt m origin) : m ≠ net := by
    subst heq
    simpa [WorkItem.concerns] using hitem
  cases h with
  | @adopt made state registry hactivate =>
    obtain ⟨slot, -, -, hupdate⟩ := Registry.activate_eq_ok hactivate
    have hm : NetBehaviour.id made ≠ net := by simpa [WorkItem.concerns] using hitem
    exact (Carries.setSlot hupdate hm).trans (.of_eq rfl rfl rfl rfl rfl)
  | hand | drop | dropHalt | stopForgotten | reclaimRefused | fired | log =>
    exact .of_eq rfl rfl rfl rfl rfl
  | reroute _ _ _ _ _ howner =>
    exact .post (hs.known_owner howner)
      (WorkItem.eq_false_of_concerns (fun _ => WorkItem.concerns_of_isAdoptOf) hitem)
      (WorkItem.eq_false_of_concerns (fun _ => WorkItem.concerns_of_isHaltOf) hitem)
  | @stopCopy m origin state =>
    have hstop : Carries s (s.stop s.worker m state) net := .of_eq rfl rfl rfl rfl rfl
    exact hstop.trans (.post hworker rfl rfl)
  | @stopLocal m state =>
    have hstop : Carries s (s.stop s.worker m state) net := .of_eq rfl rfl rfl rfl rfl
    exact hstop.trans (.post hworker rfl rfl)
  | @stopGlobal m state registry _ _ _ hexpect =>
    have hm := hne rfl
    obtain ⟨slot, hslot, -, hupdate⟩ := Registry.expectAcks_eq_ok hexpect
    have hsound : ((s.setRegistry registry).stop s.worker m state).Sound :=
      (hs.setSlot hupdate (hs.owner_valid m slot hslot)).stop s.worker m state
    have hstop : Carries (s.setRegistry registry) ((s.setRegistry registry).stop s.worker m state) net :=
      .of_eq rfl rfl rfl rfl rfl
    exact ((Carries.setSlot hupdate hm).trans hstop).trans (.excuse hsound hm _)
  | @reclaim m slot registry hretire =>
    obtain ⟨slot, -, -, hupdate⟩ := Registry.retire_eq_ok hretire
    have hm : m ≠ net := by simpa [WorkItem.concerns] using hitem
    exact (Carries.setSlot hupdate hm).trans (.of_eq rfl rfl rfl rfl rfl)

theorem Happens.carries (h : Happens (· ≠ net) False s t) (hs : s.Upright)
    (hclosed : s.registry.Closed net) : Carries s t net ∨
      ∃ item rest ws events u, s.hand = item :: rest ∧ Deals s item ws events u ∧
        t = u.finish item rest := by
  cases h with
  | step hstep =>
    cases hstep with
    | rest => exact .inl (.refl s net)
    | turn w hhand =>
      refine .inl ⟨rfl, rfl, fun v => ⟨[], ?_, by simp⟩, rfl, fun hne => absurd hhand hne⟩
      rw [items_turnTo hhand, List.append_nil]
    | ask _ h => exact .inl (h.carries hs.sound hclosed)
    | quit | probe | store => exact .inl (.of_eq rfl rfl rfl rfl rfl)
    | take h => exact .inl (h.carries hs.sound hclosed)
    | drain hhand =>
      refine .inl ⟨rfl, rfl, fun v => ⟨[], ?_, by simp⟩, count_drain hhand _, fun hne => absurd hhand hne⟩
      rw [items_drain hhand, List.append_nil]
    | deal hhand h => exact .inr ⟨_, _, _, _, _, hhand, h, rfl⟩
    | requestFiring hopen | migrate hopen | migrateLost hopen => exact hopen.elim
  | ask h => exact .inl (h.carries hs.sound hclosed)
  | requestFiring howner => exact .inl (.postLive hs.sound howner rfl rfl)
  | log hw hitem =>
    refine .inl (.post hw ?_ ?_) <;> rename_i item <;> cases item <;> first | rfl | cases hitem
  | @migrate w target m state registry hne hactive htarget howner =>
    have hid := hs.named.active w m state hactive
    rw [hid] at howner
    obtain ⟨slot, -, hupdate⟩ := Registry.setOwner_eq_ok howner
    have hset : Carries s ((s.setRegistry registry).setActive w m none) net :=
      (Carries.setSlot hupdate hne).trans (.of_eq rfl rfl rfl rfl rfl)
    exact .inl (hset.trans (.post htarget (by simp [WorkItem.isAdoptOf, hid, hne]) rfl))
  | migrateLost => exact .inl (.of_eq rfl rfl rfl rfl rfl)
  | wreck hlosing | discard hlosing => exact hlosing.elim

/-! ## From phase to phase -/

/-- The net is to stop: the item that says so is in the line of its owner, behind the instance if that is
in the line as well. If the item is `due`, the owner has it at hand. -/
structure Stopping (s : Scene σ) (w : WorkerId) (net : NetId) (due : Prop) : Prop where
  slot : ∃ slot, s.registry.slot? net = some slot ∧ slot.owner = w ∧ slot.state = .halting ∧
    (slot.isGlobal = true → s.processCount ≤ 1)
  line : ∃ before after, s.items w = before ++ .halt net none :: after ∧
    (∀ item ∈ after, item.isAdoptOf net = false) ∧
    (due → s.worker = w ∧ before.length < s.hand.length)

/-- The net is stopped, and waits for nobody. If its release is `due`, the owner has the item at hand. -/
structure Stopped (s : Scene σ) (w : WorkerId) (net : NetId) (due : Prop) : Prop where
  slot : ∃ slot, s.registry.slot? net = some slot ∧ slot.owner = w ∧ slot.state = .halting ∧
    slot.pendingAcks = 0
  halts : s.count (WorkItem.isHaltOf net) = 0
  release : due → s.worker = w ∧ .reclaim net ∈ s.hand

/-- The net has no slot any more, and is remembered. -/
structure Gone (s : Scene σ) (net : NetId) : Prop where
  slot : s.registry.slot? net = none
  remembered : s.registry.Remembers 0 net

variable {w : WorkerId} {due : Prop} {item : WorkItem σ} {rest : List (WorkItem σ)}

namespace Stopping

section

variable (h : Stopping s w net due)

include h

theorem countAt_pos : 0 < s.countAt w (WorkItem.isHaltOf net) := by
  obtain ⟨before, after, hline, -⟩ := h.line
  rw [countAt, hline]
  simp [WorkItem.isHaltOf]

theorem stage (ha : s.Accounted net) : ∃ slot,
    s.registry.slot? net = some slot ∧ slot.owner = w ∧ slot.state = .halting ∧
      (slot.isGlobal = true → s.processCount ≤ 1) ∧ slot.pendingAcks = 0 ∧
      s.count (WorkItem.isHaltOf net) = 1 ∧ s.count (WorkItem.isReclaimOf net) = 0 ∧
      s.countAt w (WorkItem.isAdoptOf net) + held (s.active w net) = 1 := by
  obtain ⟨slot, hslot, rfl, hstate, hlocal⟩ := h.slot
  have hr := ha.resides slot hslot
  have hpos := h.countAt_pos
  have hle := countAt_le_count (s := s) slot.owner (WorkItem.isHaltOf net)
  have hadopts := hr.adopts
  refine ⟨slot, hslot, rfl, hstate, hlocal, ?_⟩
  cases hr.stage with
  | spawned => omega
  | active => omega
  | stopping _ hinstance hhalts _ hreclaims hacks => exact ⟨hacks, hhalts, hreclaims, by omega⟩
  | stopped => omega

theorem closed (ha : s.Accounted net) : s.registry.Closed net := by
  obtain ⟨slot, hslot, -, hstate, -, hacks, -⟩ := h.stage ha
  exact .of_halting hslot hstate hacks

theorem carries (hcarries : Carries s t net) : Stopping t w net due := by
  obtain ⟨slot, hslot, howner, hstate, hlocal⟩ := h.slot
  obtain ⟨before, after, hline, hafter, hdue⟩ := h.line
  obtain ⟨more, hmore, hadopts⟩ := hcarries.line w
  refine ⟨⟨slot, hcarries.slot.trans hslot, howner, hstate, hcarries.processCount ▸ hlocal⟩,
    before, after ++ more, by simp [hmore, hline], fun item hitem => ?_, fun hd => ?_⟩
  · exact (List.mem_append.mp hitem).elim (hafter item) (hadopts item)
  · obtain ⟨hworker, hlength⟩ := hdue hd
    have hne : s.hand ≠ [] := by
      intro hnil
      rw [hnil] at hlength
      cases hlength
    obtain ⟨hhand, hsame⟩ := hcarries.hand hne
    exact ⟨hsame.trans hworker, hhand ▸ hlength⟩

/-- The worker at work is done with an item that does not stop the net. -/
theorem finish (hhand : s.hand = item :: rest)
    (hitem : item.isHaltOf net = false) : Stopping (s.finish item rest) w net due := by
  obtain ⟨before, after, hline, hafter, hdue⟩ := h.line
  refine ⟨h.slot, ?_⟩
  have hitems := items_finish hhand w
  by_cases hw : w = s.worker
  · rw [if_pos hw, hline] at hitems
    cases before with
    | nil =>
      obtain ⟨rfl, -⟩ := List.cons.inj hitems
      simp [WorkItem.isHaltOf] at hitem
    | cons first before =>
      obtain ⟨rfl, htail⟩ := List.cons.inj hitems
      refine ⟨before, after, htail.symm, hafter, fun hd => ?_⟩
      obtain ⟨hworker, hlength⟩ := hdue hd
      rw [hhand] at hlength
      exact ⟨hworker, Nat.lt_of_succ_lt_succ hlength⟩
  · rw [if_neg hw, List.nil_append, hline] at hitems
    exact ⟨before, after, hitems.symm, hafter, fun hd => absurd (hdue hd).1.symm hw⟩

theorem adopt {state : NetState} {made : σ} (hworker : s.worker = w)
    (hactivate : s.registry.activate net s.worker = .ok (state, registry)) :
    Stopping ((s.setRegistry registry).setActive s.worker net (some made)) w net due := by
  obtain ⟨slot, hslot, howner, hstate, hlocal⟩ := h.slot
  obtain ⟨found, hfound, hnew, hupdate⟩ := Registry.activate_eq_ok hactivate
  rw [hslot] at hfound
  cases hfound
  refine ⟨⟨{ slot with owner := s.worker, state }, ?_, hworker, ?_, hlocal⟩, h.line⟩
  · rw [setActive_registry, setRegistry_registry, hupdate, Function.update_self]
  · simp [hnew, hstate]

end

section

variable (h : Stopping s w net due)

include h

/-- The item that stops the net is at hand: it is the owner who has it, and the instance is there, since
none is left in the line behind. -/
theorem at_hand (ha : s.Accounted net)
    (hhand : s.hand = .halt net origin :: rest) :
    s.worker = w ∧ origin = none ∧ s.active w net ≠ none := by
  obtain ⟨slot, -, -, -, -, -, hhalts, -, hinstance⟩ := h.stage ha
  have hworker : s.worker = w := by
    by_contra hne
    have hpos := countAt_pos_of_hand (f := WorkItem.isHaltOf net) hhand (by simp [WorkItem.isHaltOf])
    have hsum := countAt_add_le_count (s := s) hne (WorkItem.isHaltOf net)
    have hown := h.countAt_pos
    omega
  obtain ⟨before, after, hline, hafter, -⟩ := h.line
  have hsplit := items_finish hhand w
  rw [if_pos hworker.symm, hline] at hsplit
  cases before with
  | cons first before =>
    obtain ⟨rfl, -⟩ := List.cons.inj hsplit
    have htwo : 2 ≤ s.countAt w (WorkItem.isHaltOf net) := by
      rw [countAt, hline]
      simp only [List.cons_append, List.countP_cons, List.countP_append, WorkItem.isHaltOf, decide_true,
        if_true]
      omega
    have hle := countAt_le_count (s := s) w (WorkItem.isHaltOf net)
    omega
  | nil =>
    obtain ⟨hitem, -⟩ := List.cons.inj hsplit
    cases hitem
    have hnone : s.countAt w (WorkItem.isAdoptOf net) = 0 := by
      rw [countAt, hline, List.nil_append, List.countP_cons_of_neg (by simp [WorkItem.isAdoptOf])]
      exact List.countP_eq_zero.mpr fun item hitem => by simp [hafter item hitem]
    refine ⟨hworker, rfl, fun hempty => ?_⟩
    have hzero : held (s.active w net) = 0 := by simp [hempty, held]
    omega

theorem stop (ha : s.Accounted net) (hs : s.Sound)
    (hhand : s.hand = .halt net origin :: rest) (hdeals : Deals s (.halt net origin) ws events u) :
    Stopped (u.finish (.halt net origin) rest) w net False := by
  obtain ⟨rfl, rfl, hactive⟩ := h.at_hand ha hhand
  obtain ⟨slot, hslot, howner, hstate, hlocal, hacks, hhalts, -⟩ := h.stage ha
  cases hdeals with
  | reroute hnet _ _ hempty =>
    cases hnet
    exact absurd hempty hactive
  | dropHalt hempty => exact absurd hempty hactive
  | stopForgotten _ hforgotten =>
    rw [hslot] at hforgotten
    cases hforgotten
  | @stopLocal _ state _ =>
    refine ⟨⟨slot, ?_, howner, hstate, hacks⟩, ?_, False.elim⟩
    · rw [finish_registry, post_registry, stop_registry]
      exact hslot
    have hvalid : (s.stop s.worker net state).HasWorker s.worker := hs.hand_valid (by simp [hhand])
    have hcount := count_finish (hand_stop_post net state (.reclaim net) hhand) (WorkItem.isHaltOf net)
    rw [count_post hvalid] at hcount
    simp only [count_stop, WorkItem.isHaltOf, decide_true, if_true, Bool.false_eq_true, if_false] at hcount
    omega
  | stopGlobal _ hannounces =>
    obtain ⟨⟨found, hfound, hglobal⟩, hmany⟩ := hannounces
    rw [hslot] at hfound
    cases hfound
    have hone := hlocal hglobal
    omega
  | log hweight => cases hweight

theorem deal (hs : s.Untroubled) (hhand : s.hand = item :: rest)
    (hdeals : Deals s item ws events u) :
    Stopping (u.finish item rest) w net due ∨ Stopped (u.finish item rest) w net False := by
  have ha := hs.accounted net
  have hsound := hs.upright.sound
  have hsame := hdeals.hand_eq.1
  by_cases hitem : item.concerns net = true
  · cases item with
    | adopt made =>
      obtain rfl : NetBehaviour.id made = net := by simpa [WorkItem.concerns] using hitem
      obtain ⟨slot, hslot, howner, -⟩ := h.stage ha
      have hworker : s.worker = w :=
        ((ha.resides slot hslot).owner_of_adopt hhand rfl).trans howner
      cases hdeals with
      | adopt hactivate => exact .inl ((h.adopt hworker hactivate).finish hhand rfl)
      | reroute _ hadopt => exact absurd rfl (hadopt made)
      | log hweight => cases hweight
    | halt m origin =>
      obtain rfl : m = net := by simpa [WorkItem.concerns] using hitem
      exact .inr (h.stop ha hsound hhand hdeals)
    | reclaim m =>
      obtain rfl : m = net := by simpa [WorkItem.concerns] using hitem
      obtain ⟨slot, -, -, -, -, -, -, hreclaims, -⟩ := h.stage ha
      simp [count, hhand, WorkItem.isReclaimOf] at hreclaims
    | _ => cases hitem
  · have hfalse : item.concerns net = false := by simpa using hitem
    have hcarries := hdeals.carries hhand hsound hfalse
    exact .inl ((h.carries hcarries).finish (hsame.trans hhand)
      (WorkItem.eq_false_of_concerns (fun _ => WorkItem.concerns_of_isHaltOf) hfalse))

theorem happens (hs : s.Untroubled) (hnext : Happens (· ≠ net) False s t) :
    Stopping t w net due ∨ Stopped t w net False := by
  rcases hnext.carries hs.upright (h.closed (hs.accounted net)) with
    hcarries | ⟨item, rest, ws, events, u, hhand, hdeals, rfl⟩
  · exact .inl (h.carries hcarries)
  · exact h.deal hs hhand hdeals

end

end Stopping

namespace Stopped

variable (h : Stopped s w net due)

include h

theorem stage (ha : s.Accounted net) :
    (∀ v, s.active v net = none) ∧ s.count (WorkItem.isAdoptOf net) = 0 ∧
      s.countAt w (WorkItem.isReclaimOf net) = 1 := by
  obtain ⟨slot, hslot, rfl, hstate, hacks⟩ := h.slot
  have hr := ha.resides slot hslot
  have hhalts := h.halts
  have hreclaims := hr.reclaims
  have helsewhere := hr.active_elsewhere
  cases hr.stage with
  | spawned hspawned => simp [hstate] at hspawned
  | active hactive => simp [hstate] at hactive
  | stopping => omega
  | stopped _ hadopts hactive _ _ hrelease =>
    refine ⟨fun v => ?_, hadopts, by omega⟩
    by_cases hv : v = slot.owner
    · rw [hv]
      simpa [held] using hactive
    · exact helsewhere v hv

omit [NetBehaviour σ] in
theorem closed : s.registry.Closed net := by
  obtain ⟨slot, hslot, -, hstate, hacks⟩ := h.slot
  exact .of_halting hslot hstate hacks

theorem carries (hcarries : Carries s t net) : Stopped t w net due := by
  obtain ⟨slot, hslot, hrest⟩ := h.slot
  refine ⟨⟨slot, hcarries.slot.trans hslot, hrest⟩, hcarries.halts.trans h.halts, fun hd => ?_⟩
  obtain ⟨hworker, hmem⟩ := h.release hd
  obtain ⟨hhand, hsame⟩ := hcarries.hand (List.ne_nil_of_mem hmem)
  exact ⟨hsame.trans hworker, hhand ▸ hmem⟩

theorem deal (hs : s.Untroubled) (hhand : s.hand = item :: rest)
    (hdeals : Deals s item ws events u) :
    Stopped (u.finish item rest) w net due ∨ (u.finish item rest).Gone net := by
  have ha := hs.accounted net
  obtain ⟨-, hadopts, -⟩ := h.stage ha
  have hhalts := h.halts
  by_cases hitem : item.concerns net = true
  · cases item with
    | adopt made =>
      obtain rfl : NetBehaviour.id made = net := by simpa [WorkItem.concerns] using hitem
      simp [count, hhand, WorkItem.isAdoptOf] at hadopts
    | halt m origin =>
      obtain rfl : m = net := by simpa [WorkItem.concerns] using hitem
      simp [count, hhand, WorkItem.isHaltOf] at hhalts
    | reclaim m =>
      obtain rfl : m = net := by simpa [WorkItem.concerns] using hitem
      cases hdeals with
      | reclaim hretire =>
        obtain ⟨slot, hslot, -, hupdate⟩ := Registry.retire_eq_ok hretire
        have hremembers := (hs.upright.familiar.healthy.retains_changes (.retire hretire)).remembers
          (Registry.remembers_of_slot hslot)
        refine .inr ⟨?_, hremembers⟩
        rw [finish_registry, setHalting_registry, setRegistry_registry, hupdate, Function.update_self]
      | reclaimRefused hretire => exact absurd hretire (ha.retires hhand _)
      | reroute hnet _ hreclaim =>
        cases hnet
        exact absurd rfl hreclaim
      | log hweight => cases hweight
    | _ => cases hitem
  · have hfalse : item.concerns net = false := by simpa using hitem
    have hu := h.carries (hdeals.carries hhand hs.upright.sound hfalse)
    have hhalt := WorkItem.eq_false_of_concerns (fun _ => WorkItem.concerns_of_isHaltOf) hfalse
    have huhand : u.hand = item :: rest := hdeals.hand_eq.1.trans hhand
    refine .inl ⟨hu.slot, (count_finish_of_not huhand hhalt).trans hu.halts, fun hd => ?_⟩
    obtain ⟨hworker, hmem⟩ := hu.release hd
    rw [huhand] at hmem
    refine ⟨hworker, (List.mem_cons.mp hmem).resolve_left ?_⟩
    rintro rfl
    simp [WorkItem.concerns] at hfalse

theorem happens (hs : s.Untroubled) (hnext : Happens (· ≠ net) False s t) :
    Stopped t w net due ∨ t.Gone net := by
  rcases hnext.carries hs.upright h.closed with
    hcarries | ⟨item, rest, ws, events, u, hhand, hdeals, rfl⟩
  · exact .inl (h.carries hcarries)
  · exact h.deal hs hhand hdeals

end Stopped

theorem Gone.happens (h : s.Gone net) (hs : s.Untroubled) (hnext : Happens (· ≠ net) False s t)
    (hretired : t.registry.retiredCount ≤ Registry.retiredWindow) : t.Gone net := by
  have hevolves := hnext.evolves
  have hhealthy := hs.upright.familiar.healthy
  refine ⟨?_, (hevolves.retains hhealthy).remembers h.remembered⟩
  have hisRetired : s.registry.isRetired net = true := by
    by_contra hnot
    have hunknown : s.registry.state? net = none := by simp [Registry.state?, h.slot, hnot]
    have hforgotten := h.remembered.known hhealthy hunknown
    have hle := hevolves.retiredCount_le
    omega
  rcases hnext.carries hs.upright (.of_retired h.slot hisRetired) with
    hcarries | ⟨item, rest, ws, events, u, hhand, hdeals, rfl⟩
  · exact hcarries.slot.trans h.slot
  · have hitem : item.concerns net = false := by
      by_contra hconcerns
      obtain ⟨slot, hslot, -⟩ := (hs.accounted net).slot_of_hand hhand (by simpa using hconcerns)
      rw [h.slot] at hslot
      cases hslot
    exact (hdeals.carries hhand hs.upright.sound hitem).slot.trans h.slot

/-! ## On a way of many steps -/

variable [LawfulNet σ]

/-- As long as no name was forgotten, a net that is gone stays so in a run. -/
theorem Gone.leads (h : s.Gone net) (hs : s.Untroubled) (hleads : Leads (· ≠ net) False s t)
    (hretired : t.registry.retiredCount ≤ Registry.retiredWindow) : t.Gone net := by
  induction hleads with
  | refl => exact h
  | tail hbefore hlast ih =>
    have hle := hlast.evolves.retiredCount_le
    exact (ih (hle.trans hretired)).happens (hs.leads hbefore) hlast hretired

/-- A stopped net stays stopped in a run until it is gone. -/
theorem Stopped.leads (h : Stopped s w net due) (hs : s.Untroubled)
    (hleads : Leads (· ≠ net) False s t)
    (hretired : t.registry.retiredCount ≤ Registry.retiredWindow) :
    Stopped t w net due ∨ t.Gone net := by
  induction hleads with
  | refl => exact .inl h
  | tail hbefore hlast ih =>
    have hle := hlast.evolves.retiredCount_le
    rcases ih (hle.trans hretired) with hstopped | hgone
    · exact hstopped.happens (hs.leads hbefore) hlast
    · exact .inr (hgone.happens (hs.leads hbefore) hlast hretired)

/-- A net that is to stop is stopped in a run, and then gone, and nothing else. -/
theorem Stopping.leads (h : Stopping s w net due) (hs : s.Untroubled)
    (hleads : Leads (· ≠ net) False s t)
    (hretired : t.registry.retiredCount ≤ Registry.retiredWindow) :
    Stopping t w net due ∨ Stopped t w net False ∨ t.Gone net := by
  induction hleads with
  | refl => exact .inl h
  | tail hbefore hlast ih =>
    have hmid := hs.leads hbefore
    have hle := hlast.evolves.retiredCount_le
    rcases ih (hle.trans hretired) with hstopping | hstopped | hgone
    · exact (hstopping.happens hmid hlast).imp_right .inl
    · exact .inr (hstopped.happens hmid hlast)
    · exact .inr (.inr (hgone.happens hmid hlast hretired))

end Scene

end PetriCluster
