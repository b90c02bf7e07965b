import PetriCluster.Proofs.Footprints
import PetriCluster.Proofs.Waning
import Mathlib

/-!
# A local halt takes two passes

A net that no peer has to know of is halted in two passes of its owner. In the first pass the owner
comes to the item that stops the net, whatever is in front of it; in the second it comes to the item
that releases the net, and counts it.
-/

namespace PetriCluster

/-! ## A pass comes to its end -/

namespace Node

open Rules Scene

variable {σ τ : Type} [NetBehaviour σ] [Transport τ] {n m : Node σ τ} {w : WorkerId} {net : NetId}
  {item : WorkItem σ} {items rest hand : List (WorkItem σ)} {c : Crash}
  {transition : TransitionIndex} {moving : NetId → Prop}

theorem fireTransition_crash {state : σ}
    (hs : (n.process.scene w hand).Sound)
    (h : fireTransition w net state transition n = .error (.crashed c) m) :
    c.isAssertion = true ∨ NetBehaviour.CanCrash σ c := by
  rw [fireTransition_eq] at h
  rcases bind_eq_error h with hperform | ⟨outcome, k, hperform, hrest⟩
  · have hfollows : (requests True).Follows False w hand hand n _ (perform w net false
        (NetBehaviour.fire state ⟨net, w, n.process.id, n.process.processCount⟩ transition) n) :=
      perform_follows w net false _ hs
    rw [hperform] at hfollows
    obtain ⟨earlier, t, l, ws, -, hwreck, -⟩ := hfollows
    change RequestWreck True c t ws (m.process.scene w []) at hwreck
    generalize m.process.scene w [] = u at hwreck
    cases hwreck
    exact .inl rfl
  · rcases bind_eq_error hrest with hstore | ⟨_, k', -, hend⟩
    · cases hstore
    · cases hresult : outcome.result with
      | crashed c' =>
        simp only [hresult] at hend
        cases hend
        exact .inr (.inr ⟨_, _, _, (perform_ends hperform).2 _ hresult⟩)
      | fired | notEnabled | failed =>
        simp only [hresult] at hend
        cases hend

theorem fireOne_crash (hs : (n.process.scene w hand).Sound)
    (h : fireOne w net transition n = .error (.crashed c) m) :
    c.isAssertion = true ∨ NetBehaviour.CanCrash σ c := by
  rw [fireOne, bind_apply, getWorker_apply] at h
  cases hfound : (n.process.worker w).nets.find? net with
  | none =>
    simp only [hfound] at h
    rcases reroute_cases net (.fire net transition) hs with
      ⟨p, hrun, -⟩ | ⟨p, owner, hrun, -⟩ | ⟨p, hrun, -⟩ <;> rw [hrun] at h <;> cases h
    exact .inl rfl
  | some state =>
    simp only [hfound] at h
    rcases bind_eq_error h with hfire | ⟨outcome, k, -, hrest⟩
    · exact fireTransition_crash hs hfire
    · split at hrest
      · rcases bind_eq_error hrest with htally | ⟨_, k', -, hrecord⟩
        · cases htally
        · cases hrecord
      · cases hrest

theorem dealWith_crash (hs : (n.process.scene w (item :: rest)).Sound)
    (h : dealWith w item n = .error (.crashed c) m) :
    c.isAssertion = true ∨ NetBehaviour.CanCrash σ c := by
  by_cases hfire : ∃ net transition, item = .fire net transition
  · obtain ⟨net, transition, rfl⟩ := hfire
    rw [dealWith, complete, handle] at h
    rcases bind_eq_error h with hcomplete | ⟨released, k, hcomplete, hnote⟩
    · rcases bind_eq_error hcomplete with hhandle | ⟨released, k, -, hfinish⟩
      · rcases bind_eq_error hhandle with hfire | ⟨_, k, -, hpure⟩
        · exact fireOne_crash hs hfire
        · cases hpure
      · rcases bind_eq_error hfinish with howed | ⟨_, k', -, hpure⟩
        · rw [completeObligation_apply] at howed
          split at howed <;> cases howed
          exact .inl rfl
        · cases hpure
    · obtain ⟨_, k₁, hhandle, hfinish⟩ := bind_eq_ok hcomplete
      obtain ⟨_, k₂, -, hpure⟩ := bind_eq_ok hhandle
      cases hpure
      obtain ⟨_, k₃, -, hpure⟩ := bind_eq_ok hfinish
      cases hpure
      cases hnote
  · have hconcludes := dealWith_concludes (fun net transition heq => hfire ⟨net, transition, heq⟩) hs
    rw [h] at hconcludes
    obtain ⟨t, hfails, -⟩ := hconcludes
    cases hfails with
    | orphan | stray => exact .inl rfl
    | broken _ hreceive => exact .inr (.inl ⟨_, _, _, _, hreceive⟩)

variable [LawfulNet σ]

theorem dealWith_calm (hs : (n.process.scene w (item :: rest)).Upright)
    (h : dealWith w item n = .error (.crashed c) m)
    (hretired : m.process.registry.retiredCount ≤ Registry.retiredWindow) :
    NetBehaviour.CanCrash σ c := by
  rcases dealWith_crash hs.sound h with hassertion | hnet
  · have hfollows : (steps True False).Follows False w (item :: rest) rest n _ _ := dealWith_follows hs.sound
    rw [h] at hfollows
    obtain ⟨earlier, t, k, ws, hpath, hwreck, -⟩ := hfollows
    exact (hs.along hpath.crashing).wreck hwreck hretired hassertion
  · exact hnet

omit [LawfulNet σ] in
theorem dealWith_leads (hs : (n.process.scene w (item :: rest)).Sound)
    (h : dealWith w item n = .ok () m) :
    Leads moving False (n.process.scene w (item :: rest)) (m.process.scene w rest) := by
  have hfollows : (steps True False).Follows False w (item :: rest) rest n _ _ := dealWith_follows hs
  rw [h] at hfollows
  exact Path.leads hfollows

omit [LawfulNet σ] in
theorem handleAll_leads (hs : (n.process.scene w items).Sound)
    (h : handleAll w items n = .ok () m) :
    Leads moving False (n.process.scene w items) (m.process.scene w []) := by
  have hfollows : (steps True False).Follows False w items [] n _ _ := handleAll_follows items hs
  rw [h] at hfollows
  exact Path.leads hfollows

/-- As long as no net crashes, all items are dealt with. -/
theorem handleAll_returns (hs : (n.process.scene w items).Untroubled)
    (hretired : (final (handleAll w items n)).process.registry.retiredCount ≤ Registry.retiredWindow)
    (hcalm : ∀ c m, handleAll w items n = .error (.crashed c) m → ¬ NetBehaviour.CanCrash σ c) :
    ∃ m, handleAll w items n = .ok () m := by
  induction items generalizing n with
  | nil => exact ⟨n, rfl⟩
  | cons item rest ih =>
    have hfollows : (steps True False).Follows False w (item :: rest) rest n _ _ :=
      dealWith_follows hs.upright.sound
    rw [handleAll_cons, bind_apply] at hretired hcalm ⊢
    rcases hrun : dealWith w item n with ⟨_, k⟩ | ⟨e | c, k⟩ <;> rw [hrun] at hfollows hretired hcalm
    · have hleads : Leads (fun _ => True) False _ (k.process.scene w rest) := Path.leads hfollows
      exact ih (hs.leads hleads) hretired hcalm
    · exact hfollows.1.elim
    · exact absurd (dealWith_calm hs.upright hrun hretired) (hcalm c k rfl)

/-- The node when a worker has taken everything out of its inbox. -/
def drained (n : Node σ τ) (w : WorkerId) : Node σ τ :=
  { n with process := { n.process with inboxes := n.process.inboxes.set w.index [] } }

/-- A pass is calm if no net crashes in it, and if the registry has not forgotten any net at its end. -/
structure CalmPass (n : Node σ τ) (w : WorkerId) : Prop where
  calm : ∀ c m, processMessages w n = .error (.crashed c) m → ¬ NetBehaviour.CanCrash σ c
  retired : (final (processMessages w n)).process.registry.retiredCount ≤ Registry.retiredWindow

/-- A calm pass comes to its end: the worker has dealt with all that was in its inbox. -/
theorem CalmPass.returns (h : n.CalmPass w) (hs : n.process.outline.Untroubled) :
    n.process.registry.retiredCount ≤ Registry.retiredWindow ∧
    ((n.drained w).process.scene w (n.process.inbox w)).Untroubled ∧
    ∃ m k count, handleAll w (n.process.inbox w) (n.drained w) = .ok () m ∧
      m.process.registry.retiredCount ≤ Registry.retiredWindow ∧ processMessages w n = .ok count k ∧
      k.process.outline.Untroubled ∧ ∀ v hand, k.process.scene v hand = m.process.scene v hand := by
  obtain ⟨hcalm, hretired⟩ := h
  have hdrain : Leads (fun _ => True) False n.process.outline
      ((n.drained w).process.scene w (n.process.inbox w)) :=
    (leads_turn n.process ⟨0⟩ w).tail (.step (.drain rfl))
  have hdrained := hs.leads hdrain
  have hpass : processMessages w n = (handleAll w (n.process.inbox w) >>= fun _ =>
      tallyWorker w (fun s => { s with messages := s.messages + (n.process.inbox w).length }) >>= fun _ =>
        pure (n.process.inbox w).length) (n.drained w) := rfl
  have hreturns : ∃ m, handleAll w (n.process.inbox w) (n.drained w) = .ok () m := by
    rw [hpass, bind_apply] at hcalm hretired
    refine handleAll_returns hdrained ?_ fun c m hrun => hcalm c m (by rw [hrun])
    rcases hrun : handleAll w (n.process.inbox w) (n.drained w) with ⟨_, m⟩ | ⟨e, m⟩ <;>
      rw [hrun] at hretired <;> exact hretired
  obtain ⟨m, hrun⟩ := hreturns
  obtain ⟨p, htally, hregistry, hscene⟩ := tallyWorker_apply w
    (fun s => { s with messages := s.messages + (n.process.inbox w).length }) m
  have hend : processMessages w n = .ok (n.process.inbox w).length { m with process := p } := by
    rw [hpass, bind_apply, hrun]
    simp only [bind_apply, htally, pure_apply]
  have hall : Leads (fun _ => True) False _ (m.process.scene w []) :=
    handleAll_leads hdrained.upright.sound hrun
  have hlast : p.outline.Untroubled := by
    rw [show p.outline = m.process.outline from hscene ⟨0⟩ []]
    exact hdrained.leads (hall.trans (leads_turn m.process w ⟨0⟩))
  rw [hend] at hretired
  have hm : m.process.registry.retiredCount ≤ Registry.retiredWindow := hregistry ▸ hretired
  have hway : Leads (fun _ => True) False n.process.outline _ := hdrain.trans hall
  have hle : n.process.registry.retiredCount ≤ m.process.registry.retiredCount :=
    hway.evolves.retiredCount_le
  exact ⟨hle.trans hm, hdrained, m, _, _, hrun, hm, hend, hlast, hscene⟩

/-! ## What a worker counts for a net -/

omit [LawfulNet σ]

/-- By how much the count of released nets of a worker rises while it deals with the items about a net. -/
def releasesOf (w : WorkerId) (net : NetId) : List (WorkItem σ) → Node σ τ → Nat
  | [], _ => 0
  | item :: rest, n =>
    match dealWith w item n with
    | .ok _ m =>
      (if item.net? = some net then
        (m.process.worker w).stats.reclaimed - (n.process.worker w).stats.reclaimed
      else 0) + releasesOf w net rest m
    | .error .. => 0

theorem releasesOf_cons (hrun : dealWith w item n = .ok () m) (hitem : item ≠ .reclaim net) :
    releasesOf w net (item :: rest) n = releasesOf w net rest m := by
  simp only [releasesOf, hrun]
  split
  · rename_i habout
    have hother : ∀ other, item ≠ .reclaim other := by
      rintro other rfl
      cases habout
      exact hitem rfl
    have hwithin : Within ⟨True, fun _ => False, fun _ => False⟩ (dealWith w item : NodeM σ τ Unit) :=
      dealWith_within w (.inl trivial) (.inr hother)
    have hsame := hwithin.reclaimed_eq (w := w) id n
    rw [hrun] at hsame
    simp only [final] at hsame
    omega
  · rw [Nat.zero_add]

theorem releasesOf_eq_zero (h : .reclaim net ∉ items) : releasesOf w net items n = 0 := by
  induction items generalizing n with
  | nil => rfl
  | cons item rest ih =>
    rw [List.mem_cons, not_or] at h
    rcases hrun : dealWith w item n with ⟨_, m⟩ | ⟨e, m⟩
    · rw [releasesOf_cons hrun (Ne.symm h.1)]
      exact ih h.2
    · simp only [releasesOf, hrun]

theorem reclaimed_dealWith (hs : (n.process.scene w (.reclaim net :: rest)).Untroubled)
    (hrun : dealWith w (.reclaim net) n = .ok () m) :
    (m.process.worker w).stats.reclaimed = (n.process.worker w).stats.reclaimed + 1 := by
  have hsound := hs.upright.sound
  have hw : w.index < n.process.workers.length := by
    have h₁ : w.index < n.process.inboxes.length := hsound.hand_valid (by simp [Process.scene])
    have h₂ : n.process.inboxes.length = n.process.settings.threads := hsound.inboxes_length
    have h₃ : n.process.workers.length = n.process.settings.threads := hsound.workers_length
    omega
  have hhandle : ∃ k, handle w (.reclaim net) n = .ok true k ∧
      (k.process.worker w).stats.reclaimed = (n.process.worker w).stats.reclaimed + 1 := by
    rcases hretire : n.process.registry.retire net with e | ⟨slot, registry⟩
    · exact absurd hretire ((hs.accounted net).retires rfl e)
    · have hretire' (f : Worker σ → Worker σ) :
          (n.process.updateWorker w f).registry.retire net = .ok (slot, registry) := hretire
      simp only [handle, reclaim, tallyWorker, record, bind_apply, modifyWorker_apply, attempt_apply,
        withRegistry_apply, hretire', get_apply, pure_apply]
      refine ⟨_, rfl, ?_⟩
      simp [Process.worker, Process.updateWorker, hw]
  obtain ⟨k, hk, hcount⟩ := hhandle
  rw [dealWith, complete] at hrun
  obtain ⟨released, k₁, hcomplete, hnote⟩ := bind_eq_ok hrun
  obtain ⟨_, k₂, hk₂, hfinish⟩ := bind_eq_ok hcomplete
  rw [hk] at hk₂
  cases hk₂
  -- What comes after the release does not count.
  have hfirst : (k₁.process.worker w).stats.reclaimed = (k.process.worker w).stats.reclaimed := by
    have hwithin : Within ⟨True, fun _ => False, fun _ => False⟩
        (completeObligation >>= fun _ => pure true : NodeM σ τ Bool) :=
      completeObligation_within.bind fun _ => .pure _
    have hsame := hwithin.reclaimed_eq (w := w) id k
    rwa [show (completeObligation >>= fun _ => pure true : NodeM σ τ Bool) k = _ from hfinish] at hsame
  have hsecond : (m.process.worker w).stats.reclaimed = (k₁.process.worker w).stats.reclaimed := by
    have hwithin : Within ⟨True, fun _ => False, fun _ => False⟩
        (if released then noteReclaimed else pure () : NodeM σ τ Unit) :=
      .ite noteReclaimed_within (.pure _)
    have hsame := hwithin.reclaimed_eq (w := w) id k₁
    rwa [hnote] at hsame
  omega

end Node

/-! ## The two passes -/

namespace Scene

variable {σ : Type} [NetBehaviour σ] {s t : Scene σ} {w : WorkerId} {net : NetId} {item : WorkItem σ}

omit [NetBehaviour σ] in
theorem eq_false_of_count {f : WorkItem σ → Bool} (h : s.count f = 0) (hmem : item ∈ s.items w) :
    f item = false := by
  have hle := countAt_le_count (s := s) w f
  have hzero : s.countAt w f = 0 := by omega
  simpa using List.countP_eq_zero.mp hzero item hmem

theorem Gone.not_mem (h : s.Gone net) (hs : s.Untroubled) (hitem : item.concerns net = true) :
    item ∉ s.items w := by
  intro hmem
  have habsent := (hs.accounted net).absent h.slot
  have hadopt := eq_false_of_count habsent.adopts hmem
  have hhalt := eq_false_of_count habsent.halts hmem
  have hreclaim := eq_false_of_count habsent.reclaims hmem
  cases item <;> simp_all [WorkItem.concerns, WorkItem.isAdoptOf, WorkItem.isHaltOf, WorkItem.isReclaimOf]

variable {owner : WorkerId} {due : Prop}

omit [NetBehaviour σ] in
theorem Stopped.halt_not_mem {origin : Option ProcessId}
    (h : Stopped s owner net due) : .halt net origin ∉ s.items w := by
  intro hmem
  have hfalse := eq_false_of_count h.halts hmem
  simp [WorkItem.isHaltOf] at hfalse

theorem Stopping.reclaim_not_mem (h : Stopping s owner net due)
    (hs : s.Untroubled) : .reclaim net ∉ s.items w := by
  intro hmem
  obtain ⟨-, -, -, -, -, -, -, hnone, -⟩ := h.stage (hs.accounted net)
  have hfalse := eq_false_of_count hnone hmem
  simp [WorkItem.isReclaimOf] at hfalse

/-- If it is due, the owner has the item that stops the net at hand. -/
theorem Stopping.mem_hand (h : Stopping s w net True) : .halt net none ∈ s.hand := by
  obtain ⟨before, after, hline, -, hdue⟩ := h.line
  obtain ⟨rfl, hlength⟩ := hdue trivial
  have hitem := congrArg (·[before.length]?) hline
  rw [items, if_pos rfl] at hitem
  simp only [List.getElem?_append_left hlength, List.getElem?_append_right (Nat.le_refl _), Nat.sub_self,
    List.getElem?_cons_zero] at hitem
  exact List.mem_of_getElem? hitem

theorem Stopped.mem_items (h : Stopped s w net due) (hs : s.Untroubled) :
    .reclaim net ∈ s.items w := by
  obtain ⟨-, -, hone⟩ := h.stage (hs.accounted net)
  have hpos : 0 < s.countAt w (WorkItem.isReclaimOf net) := by omega
  obtain ⟨found, hmem, hkind⟩ := List.countP_pos_iff.mp hpos
  obtain rfl : found = .reclaim net := by
    cases found <;> simp_all [WorkItem.isReclaimOf]
  exact hmem

omit [NetBehaviour σ] in
theorem mem_items_scene {p : Process σ} {hand : List (WorkItem σ)} :
    item ∈ (p.scene w hand).items w ↔ item ∈ hand ∨ item ∈ p.inbox w := by
  rw [Process.items_scene, List.mem_append]

theorem Checks.carries {ws : List Wire} (h : Checks s ws t) : Carries s t net := by
  cases h <;> exact .of_eq rfl rfl rfl rfl rfl

end Scene

namespace Node

open Rules Scene

variable {σ τ : Type} [NetBehaviour σ] [Transport τ] [LawfulNet σ] {n m : Node σ τ} {w : WorkerId}
  {net : NetId} {items : List (WorkItem σ)}

/-- In the first pass the owner stops the net, and the item that releases it waits. -/
theorem handleAll_stops (hs : (n.process.scene w items).Untroubled)
    (hstopping : Stopping (n.process.scene w items) w net True)
    (hrun : handleAll w items n = .ok () m)
    (hretired : m.process.registry.retiredCount ≤ Registry.retiredWindow) :
    Stopped (m.process.scene w []) w net False ∧ .reclaim net ∈ m.process.inbox w := by
  -- Until the owner comes to the item it stays at hand, so the net cannot be stopped before.
  induction items generalizing n with
  | nil => cases hstopping.mem_hand
  | cons item rest ih =>
    rw [handleAll_cons] at hrun
    obtain ⟨_, k, hdeal, hrest⟩ := bind_eq_ok hrun
    have hleads : Leads (· ≠ net) False _ _ := dealWith_leads hs.upright.sound hdeal
    have hk := hs.leads hleads
    have hlater : Leads (· ≠ net) False _ _ := handleAll_leads hk.upright.sound hrest
    have hle := hlater.evolves.retiredCount_le
    by_cases hitem : ∃ origin, item = .halt net origin
    · obtain ⟨origin, rfl⟩ := hitem
      have hstopped : Stopped (k.process.scene w rest) w net False := by
        have hconcludes := dealWith_concludes (by simp) hs.upright.sound
        rw [hdeal] at hconcludes
        obtain ⟨u, ws, link, later, hdeals, -, hchecks, -⟩ := hconcludes
        exact (hstopping.stop (hs.accounted net) hs.upright.sound rfl hdeals).carries hchecks.carries
      have hwaits : .reclaim net ∈ k.process.inbox w := by
        refine (mem_items_scene.mp (hstopped.mem_items hk)).resolve_left fun hhand => ?_
        exact hstopping.reclaim_not_mem hs (mem_items_scene.mpr (.inl (List.mem_cons_of_mem _ hhand)))
      have hstill : .reclaim net ∈ m.process.inbox w := by
        have hwithin : Within ⟨True, fun _ => True, fun _ => False⟩ (handleAll w rest : NodeM σ τ Unit) :=
          handleAll_within w rest trivial trivial
        have hgrows := hwithin.inbox_grows (w := w) id k
        rw [hrest] at hgrows
        exact hgrows.subset hwaits
      rcases hstopped.leads hk hlater hretired with hend | hgone
      · exact ⟨hend, hstill⟩
      · have hline : .reclaim net ∈ (m.process.scene w []).items w := mem_items_scene.mpr (.inr hstill)
        exact absurd hline (hgone.not_mem (hk.leads hlater) (by simp [WorkItem.concerns]))
    · have hmem : .halt net none ∈ rest :=
        (List.mem_cons.mp hstopping.mem_hand).resolve_left fun heq => hitem ⟨none, heq.symm⟩
      have hline : .halt net none ∈ (k.process.scene w rest).items w := mem_items_scene.mpr (.inl hmem)
      rcases hstopping.leads hs hleads (hle.trans hretired) with hstill | hstopped | hgone
      · exact ih hk hstill hrest
      · exact absurd hline hstopped.halt_not_mem
      · exact absurd hline (hgone.not_mem hk (by simp [WorkItem.concerns]))

/-- In the second pass the owner releases the net, and counts it once. -/
theorem handleAll_releases (hs : (n.process.scene w items).Untroubled)
    (hstopped : Stopped (n.process.scene w items) w net True)
    (hrun : handleAll w items n = .ok () m)
    (hretired : m.process.registry.retiredCount ≤ Registry.retiredWindow) :
    (m.process.scene w []).Gone net ∧ releasesOf w net items n = 1 := by
  induction items generalizing n with
  | nil => cases (hstopped.release trivial).2
  | cons item rest ih =>
    rw [handleAll_cons] at hrun
    obtain ⟨_, k, hdeal, hrest⟩ := bind_eq_ok hrun
    have hleads : Leads (· ≠ net) False _ _ := dealWith_leads hs.upright.sound hdeal
    have hk := hs.leads hleads
    have hlater : Leads (· ≠ net) False _ _ := handleAll_leads hk.upright.sound hrest
    have hle := hlater.evolves.retiredCount_le
    rcases hstopped.leads hs hleads (hle.trans hretired) with hstill | hgone
    · have hmem : .reclaim net ∈ rest := (hstill.release trivial).2
      have hitem : item ≠ .reclaim net := by
        rintro rfl
        obtain ⟨-, -, hone⟩ := hstopped.stage (hs.accounted net)
        have hpos := List.countP_pos_iff.mpr ⟨_, hmem, show WorkItem.isReclaimOf net (.reclaim net) = true by
          simp [WorkItem.isReclaimOf]⟩
        rw [countAt, Process.items_scene] at hone
        simp only [List.cons_append, List.countP_cons, List.countP_append, WorkItem.isReclaimOf, decide_true,
          if_true] at hone
        omega
      obtain ⟨hend, hone⟩ := ih hk hstill hrest
      exact ⟨hend, (releasesOf_cons hdeal hitem).trans hone⟩
    · have hnone : .reclaim net ∉ rest := by
        intro hmem
        have hline : .reclaim net ∈ (k.process.scene w rest).items w := mem_items_scene.mpr (.inl hmem)
        exact hgone.not_mem hk (by simp [WorkItem.concerns]) hline
      obtain rfl : .reclaim net = item := (List.mem_cons.mp (hstopped.release trivial).2).resolve_right hnone
      refine ⟨hgone.leads hk hlater hretired, ?_⟩
      have hcount := reclaimed_dealWith hs hdeal
      simp only [releasesOf, hdeal, WorkItem.net?, if_true, releasesOf_eq_zero hnone]
      omega

/-- By how much the count of released nets of a worker rises for a net in a pass of the worker. -/
def releasedInPass (n : Node σ τ) (w : WorkerId) (net : NetId) : Nat :=
  releasesOf w net (n.process.inbox w) (n.drained w)

omit [LawfulNet σ] [Transport τ] [NetBehaviour σ] in
theorem items_drained (n : Node σ τ) (w : WorkerId) :
    ((n.drained w).process.scene w (n.process.inbox w)).items w = n.process.inbox w := by
  have hdrain : (n.process.scene w []).drain.items w = _ := items_drain rfl w
  exact hdrain.trans (n.process.items_scene w [])

theorem CalmPass.stops (h : n.CalmPass w) (hs : n.process.outline.Untroubled)
    (hstopping : Stopping n.process.outline w net False) :
    ∃ k count, processMessages w n = .ok count k ∧ k.process.outline.Untroubled ∧
      Stopped k.process.outline w net False ∧ .reclaim net ∈ k.process.inbox w ∧
      n.releasedInPass w net = 0 := by
  obtain ⟨-, hdrained, m, k, count, hrun, hretired, hend, hlast, hscene⟩ := h.returns hs
  have hdue : Stopping ((n.drained w).process.scene w (n.process.inbox w)) w net True := by
    obtain ⟨before, after, hline, hafter, -⟩ := hstopping.line
    rw [Process.items_outline] at hline
    refine ⟨hstopping.slot, before, after, (items_drained n w).trans hline, hafter, fun _ => ⟨rfl, ?_⟩⟩
    show before.length < (n.process.inbox w).length
    rw [hline]
    simp
  have hnone : .reclaim net ∉ n.process.inbox w :=
    n.process.items_outline w ▸ hstopping.reclaim_not_mem hs
  obtain ⟨hstopped, hwaits⟩ := handleAll_stops hdrained hdue hrun hretired
  have houtline : k.process.outline = m.process.outline := hscene ⟨0⟩ []
  have hinboxes : k.process.inboxes = m.process.inboxes := congrArg Scene.inboxes houtline
  refine ⟨k, count, hend, hlast, ?_, ?_, releasesOf_eq_zero hnone⟩
  · rw [houtline]
    exact ⟨hstopped.slot, hstopped.halts, False.elim⟩
  · rw [Process.inbox, hinboxes]
    exact hwaits

theorem CalmPass.releases (h : n.CalmPass w) (hs : n.process.outline.Untroubled)
    (hstopped : Stopped n.process.outline w net False) (hwaits : .reclaim net ∈ n.process.inbox w) :
    ∃ k count, processMessages w n = .ok count k ∧ k.process.outline.Untroubled ∧
      k.process.outline.Gone net ∧ n.releasedInPass w net = 1 := by
  obtain ⟨-, hdrained, m, k, count, hrun, hretired, hend, hlast, hscene⟩ := h.returns hs
  have hdue : Stopped ((n.drained w).process.scene w (n.process.inbox w)) w net True := by
    refine ⟨hstopped.slot, ?_, fun _ => ⟨rfl, hwaits⟩⟩
    have hcount : (n.process.scene w []).drain.count (WorkItem.isHaltOf net) = _ := count_drain rfl _
    exact hcount.trans hstopped.halts
  obtain ⟨hgone, hone⟩ := handleAll_releases hdrained hdue hrun hretired
  have houtline : k.process.outline = m.process.outline := hscene ⟨0⟩ []
  refine ⟨k, count, hend, hlast, ?_, hone⟩
  rw [houtline]
  exact ⟨hgone.slot, hgone.remembered⟩

/-- A live net that no peer has to know of is to stop when it was halted. -/
theorem halt_stopping {slot : Slot} {v : WorkerId} (hs : n.process.outline.Untroubled)
    (hslot : n.process.registry.slot? net = some slot) (hlive : slot.state.isLive = true)
    (hlocal : slot.isGlobal = false ∨ n.process.processCount = 1) (hv : n.process.hasWorker v = true) :
    ∃ m, halt v net n = .ok () m ∧ m.process.outline.Untroubled ∧
      Stopping m.process.outline slot.owner net False := by
  have hsound := hs.upright.sound
  have hretired : n.process.registry.isRetired net = false := by
    by_contra htrue
    have hnone : n.process.registry.slot? net = none :=
      hs.upright.familiar.healthy.tidy net (Bool.eq_true_of_not_eq_false htrue)
    rw [hslot] at hnone
    cases hnone
  have howner : slot.owner.index < n.process.inboxes.length := hsound.owner_valid _ _ hslot
  have hrequester : v.index < n.process.inboxes.length := by simpa [Process.hasWorker] using hv
  obtain ⟨m, hhalt, -, hscene⟩ := halt_apply hrequester hretired hslot hlive howner
  have hbrings : Brings (fun _ => True) False n (halt v net n) :=
    (Operation.halt v net).brings (fun _ _ => trivial) hsound
  rw [hhalt] at hbrings
  refine ⟨m, hhalt, hs.leads (hbrings (by simp)), ?_⟩
  let s := n.process.outline.setRegistry (n.process.registry.setSlot net { slot with state := .halting })
  have hvalid : s.HasWorker slot.owner := howner
  have houtline : m.process.outline = s.post slot.owner (.halt net none) := hscene ⟨0⟩ []
  rw [houtline]
  refine ⟨⟨{ slot with state := .halting }, ?_, rfl, rfl, fun hglobal => ?_⟩, s.items slot.owner, [], ?_,
    by simp, False.elim⟩
  · rw [post_registry, setRegistry_registry, Registry.slot?_setSlot, Function.update_self]
  · have hglobal : slot.isGlobal = true := hglobal
    have hone : n.process.processCount = 1 := hlocal.resolve_left (by simp [hglobal])
    exact hone.le
  · rw [items_post hvalid, if_pos rfl]

end Node

namespace Command

variable {σ τ : Type} [NetBehaviour σ] [Transport τ]

/-- Whether the command has a worker take what is in its inbox. -/
def serves (w : WorkerId) : Command σ → Prop
  | act (.operation (.processMessages v)) | act (.operation (.runOnce v)) | act (.cleanMessages v) => v = w
  | _ => False

theorem within {w : WorkerId} {command : Command σ} (h : ¬ command.serves w) :
    Node.Within ⟨True, (· ≠ w), (· ≠ w)⟩ (command.run : NodeM σ τ Unit) := by
  cases command with
  | act action =>
    cases action with
    | operation op =>
      cases op with
      | spawn => exact (Node.spawn_within _ _ _ _ _).bind fun _ => .pure _
      | spawnInitial =>
        exact .bind (.bind .getProcess fun _ => .ite ((Node.spawn_within _ _ _ _ _).bind fun _ => .pure _) (.pure _))
          fun _ => .pure _
      | send target parcel => exact Node.sendTokens_within target parcel trivial
      | multicast targets parcel => exact (Node.multicast_within targets parcel trivial).bind fun _ => .pure _
      | requestFiring net transition => exact Node.requestFiring_within net transition
      | halt requester net => exact Node.halt_within requester net
      | migrate v net target => exact Node.migrate_within v net target
      | processMessages v => exact (Node.processMessages_within v trivial h h).bind fun _ => .pure _
      | fireReady v => exact (Node.fireReady_within v trivial).bind fun _ => .pure _
      | receivePackets limit => exact (Node.receivePackets_within limit).bind fun _ => .pure _
      | tick => exact Node.tick_within
      | runOnce v => exact (Node.runOnce_within v trivial h h).bind fun _ => .pure _
    | post v item => exact Node.post_within v item
    | handOver made target => exact Node.handOver_within made target
    | cleanMessages v => exact (Node.cleanMessages_within v h).bind fun _ => .pure _
    | startLogs | stopLogs => exact .bind .getProcess fun _ => Node.postEach_within _
  | drawName => exact Node.drawId_within.bind fun _ => .pure _
  | activate net v => exact (Node.withRegistry_within _).bind fun _ => .pure _
  | noteStopped net v origin => exact Node.noteStopped_within net v origin
  | noteReclaimed => exact Node.noteReclaimed_within
  | remove v net => exact Node.modifyWorker_within v (fun _ => rfl) fun _ => rfl
  | quitAll => exact Node.quitAll_within
  | enterBarrier phase => exact Node.enterBarrier_within phase
  | pollBarrier phase => exact (Node.pollBarrier_within phase).bind fun _ => .pure _
  | pollSends => exact Node.pollSends_within.bind fun _ => .pure _
  | broadcast packet exclude => exact (Node.broadcast_within packet exclude).bind fun _ => .pure _
  | consume message => exact Node.handleControl_within message
  | shutdown => exact fun _ => .refl

end Command

/-- What may go on while a net waits for the next pass of its owner: commands leave it to the runtime to say
what has become of instances, clear no inbox, do not move the net, and do not serve its owner. -/
structure Command.Suits {σ : Type} (command : Command σ) (owner : WorkerId) (net : NetId) : Prop where
  orderly : command.isOrderly = true
  keeps : command.clears = false
  stays : command.moved? ≠ some net
  waits : ¬ command.serves owner

namespace Process

open Scene

variable {σ τ : Type} [NetBehaviour σ] [Transport τ] {p q : Process σ} {errands : List (Errand σ τ)}
  {w : WorkerId} {net : NetId}

theorem leads_of_suits (hsuits : ∀ errand ∈ errands, errand.command.Suits w net)
    (hrun : p.pursue? errands = some q) (hs : p.outline.Sound) :
    Leads (· ≠ net) False p.outline q.outline := by
  refine leads_of_pursue? hrun (fun errand hmem => ?_) (fun errand hmem moved hmoved => ?_) hs
  · exact ⟨(hsuits errand hmem).orderly, (hsuits errand hmem).keeps⟩
  · rintro rfl
    exact (hsuits errand hmem).stays hmoved

theorem waits_of_suits (hsuits : ∀ errand ∈ errands, errand.command.Suits w net)
    (hrun : p.pursue? errands = some q) :
    p.inbox w <+: q.inbox w ∧ (q.worker w).stats.reclaimed = (p.worker w).stats.reclaimed := by
  refine pursue?_keeps (I := fun q => p.inbox w <+: q.inbox w ∧
    (q.worker w).stats.reclaimed = (p.worker w).stats.reclaimed)
    (fun {q m} errand hmem hafter ⟨hgrows, hsame⟩ => ?_) hrun ⟨List.prefix_rfl, rfl⟩
  have hwithin : Node.Within ⟨True, (· ≠ w), (· ≠ w)⟩ (errand.command.run : NodeM σ τ Unit) :=
    Command.within (hsuits errand hmem).waits
  let node : Node σ τ := ⟨q, errand.link, errand.storage, errand.now⟩
  have hfinal : (Node.final (errand.command.run node)) = m := by
    unfold Node.after? at hafter
    rcases hresult : errand.command.run node with ⟨a, k⟩ | ⟨e | c, k⟩ <;> rw [hresult] at hafter <;>
      cases hafter <;> rfl
  have hinbox := hwithin.inbox_grows (w := w) (by simp) node
  have hcount := hwithin.reclaimed_eq (w := w) (by simp) node
  rw [hfinal] at hinbox hcount
  exact ⟨hgrows.trans hinbox, hcount.trans hsame⟩

variable [LawfulNet σ]

theorem stopping_of_suits (hs : p.outline.Untroubled) (hstopping : Stopping p.outline w net False)
    (hsuits : ∀ errand ∈ errands, errand.command.Suits w net) (hrun : p.pursue? errands = some q)
    (hq : q.outline.Untroubled) (hretired : q.registry.retiredCount ≤ Registry.retiredWindow) :
    Stopping q.outline w net False := by
  have hline : .halt net none ∈ q.outline.items w := by
    obtain ⟨before, after, hline, -⟩ := hstopping.line
    rw [items_outline] at hline ⊢
    refine (waits_of_suits hsuits hrun).1.subset ?_
    rw [hline]
    simp
  rcases hstopping.leads hs (leads_of_suits hsuits hrun hs.upright.sound) hretired with
    hstill | hstopped | hgone
  · exact hstill
  · exact absurd hline hstopped.halt_not_mem
  · exact absurd hline (hgone.not_mem hq (by simp [WorkItem.concerns]))

theorem stopped_of_suits (hs : p.outline.Untroubled) (hstopped : Stopped p.outline w net False)
    (hwaits : .reclaim net ∈ q.inbox w) (hsuits : ∀ errand ∈ errands, errand.command.Suits w net)
    (hrun : p.pursue? errands = some q) (hq : q.outline.Untroubled)
    (hretired : q.registry.retiredCount ≤ Registry.retiredWindow) : Stopped q.outline w net False := by
  rcases hstopped.leads hs (leads_of_suits hsuits hrun hs.upright.sound) hretired with hstill | hgone
  · exact hstill
  · exact absurd (q.items_outline w ▸ hwaits) (hgone.not_mem hq (by simp [WorkItem.concerns]))

end Process

open Scene in
/-- Whatever orderly commands have brought a process to its state, if none of them cleared an inbox or
crashed: a live net that is not global or has no peers, and that some worker halts, is in no worker's map
after the next pass of its owner, and has neither slot nor instance nor items that halt or release it after
the pass that follows. The owner counts it as released in the second pass, once. Meanwhile other workers and
callers may do as they like, except that they do not move the net. No net crashes in the two passes, and the
process has not retired more nets than its registry remembers. -/
theorem local_halt_takes_two_passes {σ τ : Type} [NetBehaviour σ] [Transport τ] [LawfulNet σ]
    {settings : Settings} {templates : List (Template σ)} {id : ProcessId} {count : Nat}
    {start p : Process σ} {errands : List (Errand σ τ)} {net : NetId} {slot : Slot} {v : WorkerId}
    (hcreate : Process.create settings templates id count = .ok start)
    (htemplates : ∀ template ∈ templates, ∀ context, NetBehaviour.id (template.create context) = context.net)
    (herrands : ∀ errand ∈ errands, errand.command.isOrderly = true ∧ errand.command.clears = false)
    (hrun : start.pursue? errands = some p)
    (hslot : p.registry.slot? net = some slot) (hlive : slot.state.isLive = true)
    (hlocal : slot.isGlobal = false ∨ p.processCount = 1) (hv : p.hasWorker v = true)
    (link : τ) (storage : Storage) (now : Nat) :
    ∃ halted, Node.halt v net ⟨p, link, storage, now⟩ = .ok () halted ∧
      ∀ (meanwhile : List (Errand σ τ)) (n : Node σ τ),
        (∀ errand ∈ meanwhile, errand.command.Suits slot.owner net) →
        halted.process.pursue? meanwhile = some n.process → n.CalmPass slot.owner →
        ∃ first handled, Node.processMessages slot.owner n = .ok handled first ∧
          (∀ u, (first.process.worker u).nets.find? net = none) ∧
          (n.process.worker slot.owner).stats.reclaimed =
            (halted.process.worker slot.owner).stats.reclaimed ∧
          n.releasedInPass slot.owner net = 0 ∧
          ∀ (meanwhile : List (Errand σ τ)) (n : Node σ τ),
            (∀ errand ∈ meanwhile, errand.command.Suits slot.owner net) →
            first.process.pursue? meanwhile = some n.process → n.CalmPass slot.owner →
            ∃ second handled, Node.processMessages slot.owner n = .ok handled second ∧
              second.process.registry.slot? net = none ∧
              (∀ u, (second.process.worker u).halting.find? net = none) ∧
              (n.process.worker slot.owner).stats.reclaimed =
                (first.process.worker slot.owner).stats.reclaimed ∧
              n.releasedInPass slot.owner net = 1 ∧
              ∀ line ∈ second.process.inboxes, ∀ item ∈ line,
                item ≠ .reclaim net ∧ ∀ origin, item ≠ .halt net origin := by
  obtain ⟨-, -, -, -, hfresh⟩ := Process.create_eq_ok hcreate
  have hfront := Process.front_create hcreate
  have hhealthy : start.registry.Healthy := by
    rw [show start.registry = .create Registry.retiredWindow from congrArg Front.registry hfront]
    exact Registry.healthy_create
  have hfaithful : ¬ start.outline.Misnames := by
    rintro ⟨template, hmem, context, hne⟩
    have hsame : start.templates = templates := congrArg Front.templates hfront
    exact hne (htemplates template (hsame ▸ hmem) context)
  have hstart := hfresh.untroubled hhealthy hfaithful
  have hway : Leads (fun _ => True) False start.outline p.outline :=
    Process.leads_of_pursue? hrun herrands (fun _ _ _ _ => trivial) hstart.upright.sound
  obtain ⟨halted, hhalt, hhalted, hstopping⟩ :=
    Node.halt_stopping (n := ⟨p, link, storage, now⟩) (hstart.leads hway) hslot hlive hlocal hv
  refine ⟨halted, hhalt, fun meanwhile n hsuits hn hcalm => ?_⟩
  have hn' := hhalted.leads (Process.leads_of_suits hsuits hn hhalted.upright.sound)
  have hpast := (hcalm.returns hn').1
  obtain ⟨first, handled, hpass, hfirst, hstopped, hwaits, hzero⟩ :=
    hcalm.stops hn' (Process.stopping_of_suits hhalted hstopping hsuits hn hn' hpast)
  refine ⟨first, handled, hpass, (hstopped.stage (hfirst.accounted net)).1,
    (Process.waits_of_suits hsuits hn).2, hzero, fun meanwhile n hsuits hn hcalm => ?_⟩
  have hn' := hfirst.leads (Process.leads_of_suits hsuits hn hfirst.upright.sound)
  have hpast := (hcalm.returns hn').1
  obtain ⟨hgrows, hcounted⟩ := Process.waits_of_suits hsuits hn
  have hstill := hgrows.subset hwaits
  obtain ⟨second, handled, hpass, hsecond, hgone, hone⟩ :=
    hcalm.releases hn' (Process.stopped_of_suits hfirst hstopped hstill hsuits hn hn' hpast) hstill
  have habsent := (hsecond.accounted net).absent hgone.slot
  have hnone {f : WorkItem σ → Bool} (hcount : second.process.outline.count f = 0)
      {line : List (WorkItem σ)} (hline : line ∈ second.process.inboxes) {item : WorkItem σ}
      (hitem : item ∈ line) : f item = false := by
    have hzero : second.process.inboxes.flatten.countP f = 0 := by
      have hsum : [].countP f + second.process.inboxes.flatten.countP f = 0 := hcount
      omega
    simpa using List.countP_eq_zero.mp hzero item (List.mem_flatten.mpr ⟨line, hline, hitem⟩)
  refine ⟨second, handled, hpass, hgone.slot, habsent.halting, hcounted, hone,
    fun line hline item hitem => ⟨?_, fun origin => ?_⟩⟩
  · rintro rfl
    have hfalse := hnone habsent.reclaims hline hitem
    simp [WorkItem.isReclaimOf] at hfalse
  · rintro rfl
    have hfalse := hnone habsent.halts hline hitem
    simp [WorkItem.isHaltOf] at hfalse

/-- Worker 1 halts a net that worker 0 has not taken over yet. In its next pass worker 0 takes the instance
over and stops it, and in the pass after that it releases the net. -/
theorem local_halt_takes_two_passes_of_its_owner :
    let link : Mailbox.Link := ⟨{ process := ⟨0⟩ }, ⟨[{}]⟩⟩
    let errands : List (Errand Bare Mailbox.Link) :=
      [⟨.act (.operation (.spawn ⟨0⟩ 0 none none false)), link, .create [], 0⟩]
    ∃ start p halted first second handled, Process.create ⟨2, false, 0, 0, none⟩ [Bare.template] ⟨0⟩ 1 =
        .ok start ∧ start.pursue? errands = some p ∧
      Node.halt ⟨1⟩ ⟨0⟩ ⟨p, link, .create [], 0⟩ = .ok () halted ∧
      Node.after? (Node.processMessages ⟨0⟩) halted = some first ∧
      (first.process.worker ⟨0⟩).nets.find? ⟨0⟩ = none ∧
      Node.processMessages ⟨0⟩ first = .ok handled second ∧
      second.process.registry.slot? ⟨0⟩ = none ∧ first.releasedInPass ⟨0⟩ ⟨0⟩ = 1 := by
  intro link errands
  obtain ⟨start, hcreate, hfacts⟩ : ∃ start : Process Bare,
      Process.create ⟨2, false, 0, 0, none⟩ [Bare.template] ⟨0⟩ 1 = .ok start ∧
      (start.pursue? errands).map (fun p =>
        let halted := Node.final (Node.halt ⟨1⟩ ⟨0⟩ (⟨p, link, .create [], 0⟩ : Node Bare Mailbox.Link))
        let first := Node.final (Node.processMessages ⟨0⟩ halted)
        let second := Node.final (Node.processMessages ⟨0⟩ first)
        (p.registry.slot? ⟨0⟩, p.hasWorker ⟨1⟩, first.process.registry.retiredCount,
          second.process.registry.retiredCount)) =
        some (some ⟨0, ⟨0⟩, none, false, .spawned, 0⟩, true, 0, 1) := by
    refine ⟨_, rfl, ?_⟩
    cbv
  obtain ⟨p, hrun, hfacts⟩ := Option.map_eq_some_iff.mp hfacts
  simp only [Prod.mk.injEq] at hfacts
  obtain ⟨hslot, hv, hfirst, hsecond⟩ := hfacts
  have hcalm (n : Node Bare Mailbox.Link) (hretired :
      (Node.final (Node.processMessages ⟨0⟩ n)).process.registry.retiredCount ≤ 1) : n.CalmPass ⟨0⟩ := by
    refine ⟨fun c m _ hcrash => ?_, hretired.trans (by decide)⟩
    rcases hcrash with ⟨state, after, place, batch, hreceive⟩ | ⟨state, context, transition, hfire⟩
    · cases hreceive
    · cases hfire
  have htemplates : ∀ template ∈ [Bare.template], ∀ context,
      NetBehaviour.id (template.create context) = context.net := by
    intro template hmem context
    rw [List.mem_singleton.mp hmem]
    rfl
  have herrands : ∀ errand ∈ errands, errand.command.isOrderly = true ∧ errand.command.clears = false := by
    simp [errands, Command.isOrderly, Command.clears]
  obtain ⟨halted, hhalt, hpasses⟩ := local_halt_takes_two_passes hcreate htemplates herrands hrun hslot rfl
    (.inl rfl) hv link (.create []) 0
  rw [hhalt] at hfirst hsecond
  obtain ⟨first, handled, hpass, hnets, -, -, hpasses⟩ :=
    hpasses [] halted (by simp) rfl (hcalm halted (hfirst.le.trans (Nat.zero_le 1)))
  rw [show Node.processMessages ⟨0⟩ (Node.final (.ok () halted)) = _ from hpass] at hsecond
  obtain ⟨second, handled', hpass', hslot', -, -, hone, -⟩ :=
    hpasses [] first (by simp) rfl (hcalm first hsecond.le)
  refine ⟨start, p, halted, first, second, handled', hcreate, hrun, hhalt, ?_, hnets ⟨0⟩, hpass', hslot', hone⟩
  rw [Node.after?, hpass]

/-- Somebody says by hand that worker 1 has taken over a net that worker 0 has. When the net is halted,
worker 1 is to stop it and passes this on to itself, over and over: worker 0 keeps the instance. -/
theorem misreported_net_outlives_its_halt :
    let link : Mailbox.Link := ⟨{ process := ⟨0⟩ }, ⟨[{}]⟩⟩
    let errand (command : Command Bare) : Errand Bare Mailbox.Link := ⟨command, link, .create [], 0⟩
    let errands := [errand (.act (.operation (.spawn ⟨0⟩ 0 none none false))),
      errand (.act (.operation (.processMessages ⟨0⟩))), errand (.activate ⟨0⟩ ⟨1⟩)]
    let later := [errand (.act (.operation (.halt ⟨0⟩ ⟨0⟩))),
      errand (.act (.operation (.processMessages ⟨1⟩)))]
    ∃ start p q, Process.create ⟨2, false, 0, 0, none⟩ [Bare.template] ⟨0⟩ 1 = .ok start ∧
      start.pursue? errands = some p ∧ p.registry.slot? ⟨0⟩ = some ⟨0, ⟨1⟩, none, false, .active, 0⟩ ∧
      p.pursue? later = some q ∧ q.registry.slot? ⟨0⟩ = some ⟨0, ⟨1⟩, none, false, .halting, 0⟩ ∧
      (q.worker ⟨0⟩).nets.keys = [⟨0⟩] := by
  intro link errand errands later
  obtain ⟨start, hcreate, hfacts⟩ : ∃ start : Process Bare,
      Process.create ⟨2, false, 0, 0, none⟩ [Bare.template] ⟨0⟩ 1 = .ok start ∧
      (start.pursue? errands).map (fun p => (p.registry.slot? ⟨0⟩, (p.pursue? later).map fun q =>
        (q.registry.slot? ⟨0⟩, (q.worker ⟨0⟩).nets.keys))) =
        some (some ⟨0, ⟨1⟩, none, false, .active, 0⟩,
          some (some ⟨0, ⟨1⟩, none, false, .halting, 0⟩, [⟨0⟩])) := by
    refine ⟨_, rfl, ?_⟩
    cbv
  obtain ⟨p, hp, hfacts⟩ := Option.map_eq_some_iff.mp hfacts
  obtain ⟨hslot, hfacts⟩ := Prod.mk.inj hfacts
  obtain ⟨q, hq, hfacts⟩ := Option.map_eq_some_iff.mp hfacts
  obtain ⟨hhalting, hkeys⟩ := Prod.mk.inj hfacts
  exact ⟨start, p, q, hcreate, hp, hslot, hq, hhalting, hkeys⟩

end PetriCluster
