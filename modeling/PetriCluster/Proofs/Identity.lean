import PetriCluster.Proofs.Allocation

/-!
# Nets and their names

No two nets of a cluster have the same name, ever, and no process makes a net or a copy of one twice.
A process that is asked for a net finds its name free, and so does a process that is told of one. This
does not rest on the memory of retired names, which is bounded.
-/

namespace PetriCluster

variable {parent : Option NetId} {owner : WorkerId} {isGlobal : Bool} {net e : NetId} {index : Nat}

theorem countP_le_one {α : Type} {f : α → Bool} {l : List α}
    (h : l.Pairwise fun a b => f a = true → f b = false) : l.countP f ≤ 1 := by
  induction h with
  | nil => simp
  | @cons a l hfirst _ ih =>
    rw [List.countP_cons]
    cases ha : f a with
    | false => simpa using ih
    | true =>
      have hnone : l.countP f = 0 := by
        rw [List.countP_eq_zero]
        intro b hb
        simp [hfirst b hb ha]
      simp [hnone]

theorem Registry.insert_eq_error {r : Registry} {template : Nat} {e : RuntimeError}
    (h : r.insert net template owner parent isGlobal = .error e) :
    r.slot? net ≠ none ∨ r.isRetired net = true := by
  unfold insert at h
  split at h
  · rename_i hknown
    rw [Bool.or_eq_true, Option.isSome_iff_ne_none] at hknown
    exact hknown.symm
  · cases h

namespace Node

variable {σ τ : Type} [NetBehaviour σ] [Transport τ] {n : Node σ τ}
variable {m : Node σ τ}

section Refusals

variable {α β : Type} {x : NodeM σ τ α} {f : α → NodeM σ τ β}

omit [NetBehaviour σ] [Transport τ]

theorem refusal?_bind_of_ok {a : α} (h : x n = .ok a m) : refusal? (x >>= f) n = refusal? (f a) m := by
  rw [refusal?, bind_apply, h]
  rfl

theorem refusal?_bind_of_refused {e : RuntimeError} (h : x n = .error (.refused e) m) :
    refusal? (x >>= f) n = some e := by
  rw [refusal?, bind_apply, h]

theorem refusal?_bind_of_crashed {c : Crash} (h : x n = .error (.crashed c) m) :
    refusal? (x >>= f) n = none := by
  rw [refusal?, bind_apply, h]

theorem refusal?_post (w : WorkerId) (item : WorkItem σ) (e : NetId) :
    refusal? (post w item) n ≠ some (.duplicateNet e) := by
  rw [refusal?, post_apply]
  split_ifs <;> simp

theorem refusal?_post_bind (w : WorkerId) (item : WorkItem σ) (a : α) (e : NetId) :
    refusal? (post w item >>= fun _ => pure a) n ≠ some (.duplicateNet e) := by
  rw [refusal?, bind_apply, post_apply]
  split_ifs <;> simp

end Refusals

omit [Transport τ] in
/-- If the making of an instance is refused for its name, the name is known. -/
theorem createInstance_duplicate {template : Template σ} {α : Type} {f : σ → NodeM σ τ α}
    (h : refusal? (createInstance owner template index net parent isGlobal >>= f) n =
      some (.duplicateNet e)) (hf : ∀ made m, refusal? (f made) m ≠ some (.duplicateNet e)) :
    n.process.registry.slot? net ≠ none ∨ n.process.registry.isRetired net = true := by
  have hcreate := createInstance_apply owner template index net parent isGlobal n
  rcases hinsert : n.process.registry.insert net index owner parent isGlobal with e' | registry
  · exact Registry.insert_eq_error hinsert
  · simp only [hinsert] at hcreate
    split_ifs at hcreate
    · rw [refusal?_bind_of_ok hcreate] at h
      exact absurd h (hf _ _)
    · rw [refusal?_bind_of_crashed hcreate] at h
      cases h

theorem spawnNamed_duplicate {template : Template σ}
    (h : refusal? (spawnNamed owner template index parent isGlobal net) n = some (.duplicateNet e)) :
    n.process.registry.slot? net ≠ none ∨ n.process.registry.isRetired net = true := by
  refine createInstance_duplicate h fun made m => ?_
  rw [refusal?_bind_of_ok (getProcess_apply m)]
  split_ifs
  · obtain ⟨report, link, ws, hrun, -⟩ := broadcastControl_apply
      (.spawned net (UInt32.ofNat index) parent m.process.id) m
    rw [refusal?_bind_of_ok hrun, tallyTransportErrors, refusal?_bind_of_ok (tally_apply _ _)]
    exact refusal?_post_bind _ _ _ _
  · exact refusal?_post_bind _ _ _ _

theorem spawn_duplicate {requested : Option NetId}
    (h : refusal? (spawn owner index requested parent isGlobal) n = some (.duplicateNet e)) :
    ∃ net ids, n.process.front.Names (fun m => requested = some m) requested net ids ∧
      (n.process.registry.slot? net ≠ none ∨ n.process.registry.isRetired net = true) := by
  rw [spawn_eq] at h
  have howner := checkWorker_apply owner n
  split_ifs at howner
  · have htemplate := getTemplate_apply index n
    rw [refusal?_bind_of_ok howner] at h
    cases hfound : n.process.templates[index]? with
    | none =>
      rw [hfound] at htemplate
      rw [refusal?_bind_of_refused htemplate] at h
      cases h
    | some template =>
      rw [hfound] at htemplate
      rw [refusal?_bind_of_ok htemplate] at h
      cases requested with
      | some net => exact ⟨net, _, .chosen rfl, spawnNamed_duplicate h⟩
      | none =>
        have hid := drawId_apply n
        rcases hdraw : n.process.ids.draw with e' | ⟨net, ids⟩
        · rw [hdraw] at hid
          rw [refusal?_bind_of_refused hid] at h
          cases h
          unfold IdSource.draw at hdraw
          simp only at hdraw
          split_ifs at hdraw
          cases hdraw
        · rw [hdraw] at hid
          rw [refusal?_bind_of_ok hid] at h
          have hknown := spawnNamed_duplicate h
          exact ⟨net, ids, .drawn hdraw, hknown⟩
  · rw [refusal?_bind_of_refused howner] at h
    cases h

omit [Transport τ] in
/-- If the copy of a net is refused for its name, the name is known. -/
theorem copy_duplicate {template : Nat}
    (h : refusal? (do recordReceived; spawnCopy template net parent) n = some (.duplicateNet e)) :
    n.process.registry.slot? net ≠ none ∨ n.process.registry.isRetired net = true := by
  have hreceived : recordReceived n = .ok () { n with
      process := { n.process with termination := n.process.termination.recordReceived } } := rfl
  have hturn (m : Node σ τ) :
      nextOwner m = .ok (.ofIndex (m.process.copies % m.process.settings.threads))
        { m with process := { m.process with copies := m.process.copies + 1 } } := rfl
  rw [refusal?_bind_of_ok hreceived, spawnCopy, refusal?_bind_of_ok (hturn _)] at h
  have htemplate := getTemplate_apply template { n with process := { n.process with
    termination := n.process.termination.recordReceived, copies := n.process.copies + 1 } }
  cases hfound : n.process.templates[template]? with
  | none =>
    rw [hfound] at htemplate
    rw [refusal?_bind_of_refused htemplate] at h
    cases h
  | some found =>
    rw [hfound] at htemplate
    rw [refusal?_bind_of_ok htemplate] at h
    have hknown := createInstance_duplicate h fun made m => refusal?_post _ _ _
    exact hknown

end Node

namespace Forum

variable {n : Nat} {σ : Type} [NetBehaviour σ] {hand : Prop} {F G : Forum n σ} {i q : Fin n}
  {net : NetId} {m : Moment σ Mailbox.Link} {ws : List Wire} {g : Front σ} {hub : Mailbox.Hub}
  {H : List (Nat × Moment σ Mailbox.Link)}

/-! ## Moments -/

theorem front_past : (F.past i m).front i = m.after.process.front :=
  Function.update_self ..

namespace Meets

variable (h : F.Meets hand i m ws g hub) (hF : F.Allotted) (hn : n < IdSource.wordSize)

include h hF hn

theorem allotted : (F.past i m).Allotted := h.saga.allotted hn hF

theorem spawned (hspawned : m.spawned? = some net) : ¬F.Taken net ∧ (F.past i m).Taken net := by
  have hbirths := (hspawned ▸ h.acts).births
  refine ⟨hF.not_taken hbirths.named, ?_⟩
  exact h.past.taken hn (acts_allotted hF hn h.acts h.carries) (births_taken hbirths hF)

omit hF hn in
theorem slots : m.node.process.registry = (F.front i).registry ∧
    m.after.process.registry = ((F.past i m).front i).registry :=
  ⟨congrArg Front.registry h.front, congrArg Front.registry front_past.symm⟩

/-- A process that has made its slot for a net has had its part in it. -/
theorem settled_of_makes (hmakes : m.makes net = true) : (F.past i m).Settled i net := by
  refine (h.allotted hF hn).settled i net (.inl ?_)
  rw [Moment.makes, Bool.and_eq_true, h.slots.2] at hmakes
  exact Option.isSome_iff_ne_none.mp hmakes.2

omit hn in
/-- A process that has had its part in a net does not make a slot for it. -/
theorem makes_eq_false (hsettled : F.Settled i net) : m.makes net = false := by
  by_contra hmakes
  rw [Bool.not_eq_false, Moment.makes, Bool.and_eq_true, h.slots.1, h.slots.2, Option.isNone_iff_eq_none,
    Option.isSome_iff_ne_none] at hmakes
  refine hmakes.2 ?_
  have hnone := acts_slot?_none hF h.acts h.carries hsettled hmakes.1
  exact (h.past.covers_of_nil i).slot?_none hnone

omit hF in
/-- A process that takes in the news of a net has not had its part in it. -/
theorem not_settled {packet : Packet} (hpacket : m.occasion = .packet packet)
    (hspawns : packet.spawns net = true) : ¬F.Settled i net := by
  intro hsettled
  have hacts := h.acts
  rw [hpacket] at hacts
  obtain rfl := hacts.took
  have hmem : packet ∈ F.mail i := h.carries.traffic.took_mem hn (List.mem_singleton_self _)
  exact List.countP_eq_zero.mp hsettled.2 packet hmem hspawns

theorem not_duplicate (e : NetId) : m.refusal? ≠ some (.duplicateNet e) := by
  intro hrefused
  have hacts := h.acts
  have hregistry := h.slots.1
  unfold Moment.refusal? at hrefused
  split at hrefused
  · rename_i owner index requested parent isGlobal hoccasion
    obtain ⟨name, ids, hname, hknown⟩ := Node.spawn_duplicate hrefused
    rw [hregistry] at hknown
    rw [hoccasion] at hacts
    rw [h.front] at hname
    exact hF.not_taken (hname.mono hacts.requested) (hF.settled i name hknown).1
  · rename_i packet hoccasion
    split at hrefused
    · rename_i name template parent origin hmessage
      have hknown := Node.copy_duplicate hrefused
      rw [hregistry] at hknown
      have hspawns : packet.spawns name = true := Packet.spawns_iff.mpr ⟨_, _, _, hmessage⟩
      exact h.not_settled hn hoccasion hspawns (hF.settled i name hknown)
    · cases hrefused

omit hn in
/-- Every slot was there before, or the process makes it now: as the copy of a global net, or else for
a net whose name is its own if it was left to draw it. -/
theorem slot_origin (hasked : m.occasion.requested? = none) {slot : Slot}
    (hslot : ((F.past i m).front q).registry.slot? net = some slot) :
    (∃ old, (F.front q).registry.slot? net = some old ∧ slot.isGlobal = old.isGlobal) ∨
      q = i ∧ m.makes net = true ∧
        if m.occasion.isPacket then slot.isGlobal = true else net.index % n = i := by
  obtain ⟨acted, hacted, horigin⟩ := h.past.covers_of_nil q net slot hslot
  have hglobal : slot.isGlobal = acted.isGlobal := congrArg (·.2.2) horigin
  rcases acts_slot? h.acts hub hacted with ⟨old, hold, hsame⟩ | ⟨rfl, hnone, hmade⟩
  · exact .inl ⟨old, hold, hglobal.trans (congrArg (·.2.2) hsame)⟩
  · have hmakes : m.makes net = true := by
      simp [Moment.makes, h.slots, hnone, hslot]
    refine .inr ⟨rfl, hmakes, ?_⟩
    rcases hmade with hbirths | ⟨hcopies, hcopy⟩
    · have hnone : m.spent? = none := h.acts.spent_eq.elim id (·.trans hasked)
      rcases hbirths.named.inv with ⟨-, hdraw⟩ | ⟨hspent, -⟩
      · rw [hbirths.asked]
        exact hF.mod_of_draw hdraw
      · simp [hnone] at hspent
    · obtain ⟨packet, hoccasion, -, -⟩ := hcopies.took
      rw [hoccasion]
      exact hglobal.trans hcopy

omit hn in
/-- What a process makes otherwise than as a copy has a name of its own. -/
theorem mod_of_makes (hasked : m.occasion.requested? = none) (hmakes : m.makes net = true)
    (hspawn : m.occasion.isPacket = false) : net.index % n = i := by
  rw [Moment.makes, Bool.and_eq_true, h.slots.1, h.slots.2, Option.isNone_iff_eq_none] at hmakes
  obtain ⟨slot, hslot⟩ := Option.isSome_iff_exists.mp hmakes.2
  rcases h.slot_origin hF hasked hslot with ⟨old, hold, -⟩ | ⟨-, -, hname⟩
  · simp [hmakes.1] at hold
  · simpa [hspawn] using hname

end Meets

/-! ## Histories -/

/-- Two moments do not make the same net, nor the same process its slot for one. -/
def Apart (a b : Nat × Moment σ Mailbox.Link) : Prop :=
  (∀ net, a.2.spawned? = some net → b.2.spawned? ≠ some net) ∧
    ∀ net, a.1 = b.1 → a.2.makes net = true → b.2.makes net = false

theorem Meets.apart (h : F.Meets hand i m ws g hub) (hF : F.Allotted) (hn : n < IdSource.wordSize)
    (hrest : (F.past i m).Saga hand H G) {b : Nat × Moment σ Mailbox.Link} (hb : b ∈ H) :
    Apart (i.val, m) b := by
  obtain ⟨before, after, rfl⟩ := List.append_of_mem hb
  obtain ⟨j, K, ws', g', hub', hj, hbetween, hmeets, -⟩ := hrest.split
  have hpast := h.allotted hF hn
  have hK := hbetween.allotted hn hpast
  refine ⟨fun net hspawned hagain => ?_, fun net hsame hmakes => ?_⟩
  -- a name once taken stays so, and a net is made only under a name that is not
  · have htaken := hbetween.taken hn hpast (h.spawned hF hn hspawned).2
    exact (hmeets.spawned hK hn hagain).1 htaken
  -- a process that has had its part in a net stays so, whether it still knows the net or not
  · obtain rfl : i = j := Fin.ext (hsame.trans hj.symm)
    have hsettled := hbetween.settled hn hpast (h.settled_of_makes hF hn hmakes)
    exact hmeets.makes_eq_false hK hsettled

/-- No two moments of a saga make the same net in one process. -/
theorem Saga.apart (h : F.Saga hand H G) (hn : n < IdSource.wordSize) (hF : F.Allotted) :
    H.Pairwise Apart := by
  induction h with
  | nil => exact .nil
  | stir hstirs _ ih => exact ih (hstirs.quiet.allotted hF)
  | @moment F K i m ws g hub later hfront hhub hacts hcarries hinner hrest _ ih =>
    have hmeets : F.Meets hand i m ws g hub := ⟨hfront, hhub, hacts, hcarries, hinner⟩
    exact List.pairwise_cons.mpr ⟨fun b hb => hmeets.apart hF hn hrest hb, ih (hmeets.allotted hF hn)⟩

theorem Saga.not_duplicate (h : F.Saga hand H G) (hn : n < IdSource.wordSize) (hF : F.Allotted) :
    ∀ e ∈ H, ∀ net, e.2.refusal? ≠ some (.duplicateNet net) := by
  intro e he net
  obtain ⟨before, after, rfl⟩ := List.append_of_mem he
  obtain ⟨j, K, ws, g, hub, -, hbefore, hmeets, -⟩ := h.split
  exact hmeets.not_duplicate (hbefore.allotted hn hF) hn net

theorem Saga.mod_of_makes (h : F.Saga hand H G) (hn : n < IdSource.wordSize) (hF : F.Allotted)
    (hasked : ∀ e ∈ H, e.2.occasion.requested? = none) :
    ∀ e ∈ H, ∀ net, e.2.makes net = true → e.2.occasion.isPacket = false → net.index % n = e.1 := by
  intro e he net hmakes hspawn
  have hnone := hasked e he
  obtain ⟨before, after, rfl⟩ := List.append_of_mem he
  obtain ⟨j, K, ws, g, hub, hj, hbefore, hmeets, -⟩ := h.split
  rw [← hj]
  exact hmeets.mod_of_makes (hbefore.allotted hn hF) hnone hmakes hspawn

/-- Every slot was there before or was made at a moment of the saga. -/
theorem Saga.slot_origin (h : F.Saga hand H G) (hn : n < IdSource.wordSize) (hF : F.Allotted)
    (hasked : ∀ e ∈ H, e.2.occasion.requested? = none) {slot : Slot}
    (hslot : (G.front q).registry.slot? net = some slot) :
    (∃ old, (F.front q).registry.slot? net = some old ∧ slot.isGlobal = old.isGlobal) ∨
      ∃ m, (q.val, m) ∈ H ∧ m.makes net = true ∧
        if m.occasion.isPacket then slot.isGlobal = true else net.index % n = q := by
  induction h with
  | nil => exact .inl ⟨slot, hslot, rfl⟩
  | stir hstirs _ ih =>
    rcases ih (hstirs.quiet.allotted hF) hasked hslot with ⟨late, hlate, hsame⟩ | hmade
    · obtain ⟨old, hold, horigin⟩ := hstirs.quiet.covers q net late hlate
      exact .inl ⟨old, hold, hsame.trans (congrArg (·.2.2) horigin)⟩
    · exact .inr hmade
  | @moment F K i m ws g hub later hfront hhub hacts hcarries hinner hrest _ ih =>
    have hmeets : F.Meets hand i m ws g hub := ⟨hfront, hhub, hacts, hcarries, hinner⟩
    obtain ⟨hnone, hlater⟩ := List.forall_mem_cons.mp hasked
    rcases ih (hmeets.allotted hF hn) hlater hslot with ⟨late, hlate, hsame⟩ | ⟨m', hm', hmade⟩
    · rcases hmeets.slot_origin hF hnone hlate with ⟨old, hold, hsame'⟩ | ⟨rfl, hmakes, hname⟩
      · exact .inl ⟨old, hold, hsame.trans hsame'⟩
      · exact .inr ⟨m, List.mem_cons_self .., hmakes, hsame ▸ hname⟩
    · exact .inr ⟨m', List.mem_cons_of_mem _ hm', hmade⟩

end Forum

/-! ## Clusters -/

/-- If no caller chooses a name or tells of a net by hand, then in every history of a cluster no two
nets that were asked for have the same name, nothing is refused because a name is known, no process
makes a slot for a net twice, and a slot is for a net with a name of the process or for the copy of a
global net. -/
theorem net_names_are_unique {σ : Type} [NetBehaviour σ] {n : Nat} {settings : Settings}
    {templates : List (Template σ)} {storage : Storage} {start : Cluster σ}
    (hcreate : Cluster.create n settings templates storage = .ok start) {orders : List (Cluster.Order σ)}
    (hchosen : ∀ order ∈ orders, order.command.chosenName? = none)
    (hrumour : ∀ order ∈ orders, order.command.isRumour = false) :
    ((start.history orders).filterMap (·.2.spawned?)).Nodup ∧
    (∀ i m, (i, m) ∈ start.history orders → ∀ net, m.refusal? ≠ some (.duplicateNet net)) ∧
    (∀ i net, (start.history orders).countP (fun e => decide (e.1 = i) && e.2.makes net) ≤ 1) ∧
    (∀ i m, (i, m) ∈ start.history orders → ∀ net, m.makes net = true →
      m.occasion.isPacket = false → net.index % n = i) ∧
    ∀ i member, (orders.foldl Cluster.obey start).members[i]? = some member →
      ∀ net slot, member.process.registry.slot? net = some slot →
        ∃ m, (i, m) ∈ start.history orders ∧ m.makes net = true ∧
          if m.occasion.isPacket then slot.isGlobal = true else net.index % n = i := by
  obtain ⟨-, hn, hpresents⟩ := Cluster.create_presents hcreate
  have hF : (Forum.fresh n settings templates).Allotted := Forum.fresh_allotted
  obtain ⟨G, hG, hsaga⟩ := hpresents.saga hn (by simp) (Cluster.allocates_of_none hchosen []) hrumour
  have hapart := hsaga.apart hn hF
  have hasked := start.requested_eq_none hchosen
  refine ⟨?_, fun i m hm => hsaga.not_duplicate hn hF _ hm, fun i net => ?_,
    fun i m hm => hsaga.mod_of_makes hn hF hasked _ hm, fun i member hmember net slot hslot => ?_⟩
  · refine List.pairwise_filterMap.mpr (hapart.imp ?_)
    rintro a b ⟨hnames, -⟩ net hnet other hother rfl
    exact hnames net hnet hother
  · refine countP_le_one (hapart.imp ?_)
    rintro a b ⟨-, hmakes⟩ ha
    simp only [Bool.and_eq_true, decide_eq_true_eq, Bool.and_eq_false_iff,
      decide_eq_false_iff_not] at ha ⊢
    by_cases hsame : b.1 = i
    · exact .inr (hmakes net (ha.1.trans hsame.symm) ha.2)
    · exact .inl hsame
  · have hi : i < n := hG.count ▸ (List.getElem?_eq_some_iff.mp hmember).1
    have hfront := (hG.member ⟨i, hi⟩ member hmember).1
    rw [show member.process.registry = (G.front ⟨i, hi⟩).registry from
      congrArg Front.registry hfront] at hslot
    rcases hsaga.slot_origin hn hF hasked hslot with ⟨old, hold, -⟩ | hmade
    · cases (Registry.slot?_create _ net).symm.trans hold
    · exact hmade

/-- Two processes make nets of their own and one that both have, and one of them halts in between. -/
theorem net_names_are_unique_between_halts :
    ∃ history : List (Nat × Moment Bare Mailbox.Link),
      history.filterMap (·.2.spawned?) = [⟨0⟩, ⟨1⟩, ⟨2⟩, ⟨3⟩] ∧
      (∀ i m, (i, m) ∈ history → ∀ net, m.refusal? ≠ some (.duplicateNet net)) ∧
      (history.countP fun e => decide (e.1 = 1) && e.2.makes ⟨0⟩) = 1 ∧
      ∀ i m, (i, m) ∈ history → ∀ net, m.makes net = true → m.occasion.isPacket = false →
        net.index % 2 = i := by
  let orders : List (Cluster.Order Bare) := [⟨0, .act (.operation (.spawn ⟨0⟩ 0 none none true)), 0⟩,
    ⟨1, .act (.operation (.spawn ⟨0⟩ 0 none none false)), 0⟩,
    ⟨1, .act (.operation (.receivePackets 1)), 0⟩, ⟨0, .act (.operation (.halt ⟨0⟩ ⟨0⟩)), 0⟩,
    ⟨0, .act (.operation (.spawn ⟨0⟩ 0 none none false)), 0⟩,
    ⟨1, .act (.operation (.spawn ⟨0⟩ 0 none none true)), 0⟩,
    ⟨0, .act (.operation (.receivePackets 1)), 0⟩]
  obtain ⟨start, hcreate⟩ : ∃ start : Cluster Bare,
      Cluster.create 2 ⟨1, false, 0, 0, none⟩ [Bare.template] (.create []) = .ok start := ⟨_, rfl⟩
  have hspawned : (start.history orders).filterMap (·.2.spawned?) = [⟨0⟩, ⟨1⟩, ⟨2⟩, ⟨3⟩] := by
    cases hcreate
    cbv
  have hcopied : 0 < (start.history orders).countP fun e => decide (e.1 = 1) && e.2.makes ⟨0⟩ := by
    cases hcreate
    cbv
  have hchosen : ∀ order ∈ orders, order.command.chosenName? = none := by decide
  have hrumour : ∀ order ∈ orders, order.command.isRumour = false := by decide
  obtain ⟨-, hrefusals, honce, hmade, -⟩ := net_names_are_unique hcreate hchosen hrumour
  exact ⟨_, hspawned, hrefusals, Nat.le_antisymm (honce 1 ⟨0⟩) hcopied, hmade⟩

end PetriCluster
