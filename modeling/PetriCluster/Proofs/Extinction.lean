import PetriCluster.Proofs.Fates
import Mathlib

/-!
# A net that is released is dead everywhere

A process that halts a global net tells all peers and waits for their acknowledgments. When the last
one is in, the net is live nowhere in the cluster and never will be again. The reason is the order of
packets in a mailbox: that a net was spawned is told before that it halted, so a peer that takes in
the latter has nothing more to hear of the former.
-/

namespace PetriCluster

namespace IdSource

/-- The name has been drawn from the supply. -/
def Drawn (ids : IdSource) (net : NetId) : Prop :=
  net.index % ids.count = ids.process ∧ net.index / ids.count < ids.drawn

variable {ids ids' : IdSource} {net m : NetId}

section

variable (h : ids.draw = .ok (net, ids'))

include h

theorem draw_eq_ok :
    net.index = ids.count * ids.drawn + ids.process ∧ ids' = { ids with drawn := ids.drawn + 1 } := by
  unfold draw at h
  simp only at h
  split at h
  · cases h
  · rename_i hroom
    cases h
    refine ⟨?_, rfl⟩
    have hlt : ids.drawn * ids.count + ids.process < wordSize :=
      Nat.not_le.mp fun hle => hroom (.inl hle)
    rw [NetId.index, UInt32.toNat_ofNat', Nat.mul_comm ids.count]
    exact Nat.mod_eq_of_lt hlt

theorem mod_of_draw (hplace : ids.process < ids.count) :
    net.index % ids.count = ids.process := by
  rw [(draw_eq_ok h).1, Nat.mul_add_mod, Nat.mod_eq_of_lt hplace]

theorem div_of_draw (hplace : ids.process < ids.count) :
    net.index / ids.count = ids.drawn := by
  rw [(draw_eq_ok h).1, Nat.mul_add_div (by omega), Nat.div_eq_of_lt hplace, Nat.add_zero]

theorem Drawn.of_draw (hplace : ids.process < ids.count) :
    ids'.Drawn net := by
  have hmod := mod_of_draw h hplace
  have hdiv := div_of_draw h hplace
  rw [(draw_eq_ok h).2]
  exact ⟨hmod, by simp only [hdiv]; omega⟩

end

theorem Drawn.mono (hd : ids.Drawn net) (h : ids' = ids ∨ ∃ m, ids.draw = .ok (m, ids')) :
    ids'.Drawn net := by
  rcases h with rfl | ⟨m, h⟩
  · exact hd
  · rw [(draw_eq_ok h).2]
    exact ⟨hd.1, Nat.lt_succ_of_lt hd.2⟩

end IdSource

namespace World

open Scene

variable {n : Nat} {σ : Type} [NetBehaviour σ] {w : World n σ} {i p q : Fin n} {net : NetId}

/-- The name was drawn from some process. -/
def Issued (w : World n σ) (net : NetId) : Prop := ∃ q, (w.scene q).ids.Drawn net

/-- A net is not live in a process, and the process will not hear that it was spawned. -/
def Dead (w : World n σ) (q : Fin n) (net : NetId) : Prop :=
  ¬(w.scene q).Lives net ∧ ∀ packet ∈ w.mail q, packet.spawns net = false

/-- A net is dead in process `p`, and every other process is done with it or is yet to hear that it
halted there. -/
def Condemned (w : World n σ) (p : Fin n) (net : NetId) : Prop :=
  w.Dead p net ∧ ∀ q, q ≠ p → w.Dead q net ∨
    ∃ packet ∈ w.mail q, packet.isHaltedOf net (.at p) = true

/-- What is known of a net, and where. -/
structure Traced (w : World n σ) : Prop where
  acknowledged : w.Acknowledged
  supply : ∀ q, (w.scene q).ids.process = q ∧ (w.scene q).ids.count = n
  tidy : ∀ q net, (w.scene q).registry.TidyAt net
  queued : ∀ q net, (w.mail q).Pairwise fun a b => a.concerns net = true → b.spawns net = false
  arrived : ∀ q net, (w.scene q).registry.slot? net ≠ none →
    ∀ packet ∈ w.mail q, packet.spawns net = false
  registered : ∀ q net, (w.scene q).registry.slot? net ≠ none → w.Issued net
  mailed : ∀ q, ∀ packet ∈ w.mail q, ∀ net, packet.concerns net = true → w.Issued net
  condemned : ∀ p net, 0 < (w.scene p).pending net → w.Condemned p net

theorem Fresh.traced (h : w.Fresh) : w.Traced where
  acknowledged := h.acknowledged
  supply q := by
    rw [(h.scene q).ids, h.id q, h.processCount q]
    exact ⟨ProcessId.index_at h.size q, rfl⟩
  tidy q net hretired := by simp [(h.scene q).retired] at hretired
  queued q net := by simp [h.mail q]
  arrived q net hslot := absurd ((h.scene q).slots net) hslot
  registered q net hslot := absurd ((h.scene q).slots net) hslot
  mailed q packet hmem := by simp [h.mail q] at hmem
  condemned p net hpos := by simp [pending_of_none ((h.scene p).slots net)] at hpos

namespace Traced

variable {ws : List Wire} {t : Scene σ} {mail : Fin n → List Packet} {ids : IdSource}

theorem not_issued (hw : w.Traced) (hdraw : (w.scene i).ids.draw = .ok (net, ids)) : ¬w.Issued net := by
  -- The remainder of a name tells who drew it, and the quotient how many that process had drawn.
  rintro ⟨q, hmod, hdiv⟩
  obtain ⟨hprocess, hcount⟩ := hw.supply i
  have hplace : (w.scene i).ids.process < (w.scene i).ids.count := by
    rw [hprocess, hcount]
    exact i.isLt
  have hown := IdSource.mod_of_draw hdraw hplace
  have hlast := IdSource.div_of_draw hdraw hplace
  rw [(hw.supply q).1, (hw.supply q).2] at hmod
  rw [hprocess, hcount, hmod] at hown
  obtain rfl : q = i := Fin.ext hown
  omega

theorem issued_of_pending (hw : w.Traced) (h : 0 < (w.scene p).pending net) : w.Issued net := by
  refine hw.registered p net fun hnone => ?_
  simp [pending_of_none hnone] at h

section Step

variable (hw : w.Traced) (hfate : ∀ net, Fate i net (w.scene i) ws t) (hex : Exchange i w.mail ws mail)

include hfate in
omit [NetBehaviour σ] in
theorem issued_step (h : w.Issued net) : Issued ⟨Function.update w.scene i t, mail⟩ net := by
  obtain ⟨q, hq⟩ := h
  refine ⟨q, ?_⟩
  by_cases hi : q = i
  · subst hi
    simp only [Function.update_self]
    exact hq.mono (hfate net).ids
  · simpa only [Function.update_of_ne hi] using hq

include hw in
theorem issued_of_draw (hdraw : (w.scene i).ids.draw = .ok (net, t.ids)) :
    Issued ⟨Function.update w.scene i t, mail⟩ net := by
  refine ⟨i, ?_⟩
  simp only [Function.update_self]
  refine .of_draw hdraw ?_
  rw [(hw.supply i).1, (hw.supply i).2]
  exact i.isLt

include hw hfate hex in
theorem dead_step (hissued : w.Issued net) (h : w.Dead q net) :
    Dead ⟨Function.update w.scene i t, mail⟩ q net := by
  constructor
  · by_cases hi : q = i
    · subst hi
      simp only [Function.update_self]
      intro hlives
      rcases (hfate net).lives hlives with hold | ⟨packet, hmem, hspawns⟩ | hdraw
      · exact h.1 hold
      · simp [h.2 packet (hex.took_mem hw.acknowledged.size hmem)] at hspawns
      · exact hw.not_issued hdraw hissued
    · simp only [Function.update_of_ne hi]
      exact h.1
  · intro packet hmem
    by_contra hspawns
    rw [Bool.not_eq_false] at hspawns
    rcases hex.mem hmem with hold | hsent
    · simp [h.2 packet hold] at hspawns
    · exact hw.not_issued ((hfate net).tells _ packet hsent hspawns).1 hissued

include hw hex in
theorem spawns_of_took {packet later : Packet} (htook : .took packet ∈ ws)
    (hconcerns : packet.concerns net = true) (hlater : later ∈ mail i) : later.spawns net = false := by
  have hqueued := hw.queued i net
  rw [hex.mail_own hw.acknowledged.size, List.pairwise_append] at hqueued
  exact hqueued.2.2 packet (List.mem_filterMap.mpr ⟨_, htook, rfl⟩) later hlater hconcerns

include hw hfate hex in
theorem condemned_step (hissued : w.Issued net) (h : w.Condemned p net) :
    Condemned ⟨Function.update w.scene i t, mail⟩ p net := by
  refine ⟨hw.dead_step hfate hex hissued h.1, fun q hq => ?_⟩
  rcases h.2 q hq with hdead | ⟨packet, hmem, hhalted⟩
  · exact .inl (hw.dead_step hfate hex hissued hdead)
  · by_cases hi : q = i
    · subst hi
      rw [hex.mail_own hw.acknowledged.size] at hmem
      rcases List.mem_append.mp hmem with htaken | hkept
      -- The news is taken in. The net stops, and what is still in the mailbox came later.
      · obtain ⟨wire, htook, hwire⟩ := List.mem_filterMap.mp htaken
        obtain rfl : wire = .took packet := by cases wire <;> simp_all [Wire.took?]
        have hhalts := Packet.halts_of_isHaltedOf hhalted
        refine .inl ⟨?_, fun later hlater => ?_⟩
        · simp only [Function.update_self]
          exact (hfate net).stops packet htook hhalts
        · exact hw.spawns_of_took hex htook (Packet.concerns_of_halts hhalts) hlater
      · exact .inr ⟨packet, hkept, hhalted⟩
    · have hkept : packet ∈ mail q := by
        rw [hex.mail_other hi]
        exact List.mem_append_left _ hmem
      exact .inr ⟨packet, hkept, hhalted⟩

include hw hfate hex in
theorem queued_step (q : Fin n) (net : NetId) :
    (mail q).Pairwise fun a b => a.concerns net = true → b.spawns net = false := by
  by_cases hi : q = i
  · subst hi
    have hqueued := hw.queued q net
    rw [hex.mail_own hw.acknowledged.size, List.pairwise_append] at hqueued
    exact hqueued.2.1
  · have hmem packet : packet ∈ ws.filterMap (Wire.sentTo? (.at q)) → Wire.sent (.at q) packet ∈ ws := by
      intro hmem
      obtain ⟨wire, hwire, hsent⟩ := List.mem_filterMap.mp hmem
      cases wire with
      | took | refused => simp [Wire.sentTo?] at hsent
      | sent target other =>
        simp only [Wire.sentTo?, Option.ite_none_right_eq_some, Option.some.injEq] at hsent
        rwa [← hsent.1, ← hsent.2]
    rw [hex.mail_other hi, List.pairwise_append]
    -- A spawn joins the queue only under a new name, and then nothing of that name is ahead of it.
    by_cases hnew : ∃ packet, packet ∈ ws.filterMap (Wire.sentTo? (.at q)) ∧ packet.spawns net = true
    · obtain ⟨packet, hpacket, hspawns⟩ := hnew
      obtain ⟨hdraw, hone⟩ := (hfate net).tells _ packet (hmem packet hpacket) hspawns
      rw [hone]
      refine ⟨hw.queued q net, List.pairwise_singleton .., fun a ha b _ hconcerns => ?_⟩
      exact absurd (hw.mailed q a ha net hconcerns) (hw.not_issued hdraw)
    · have hnone b (hb : b ∈ ws.filterMap (Wire.sentTo? (.at q))) : b.spawns net = false := by
        by_contra hspawns
        exact hnew ⟨b, hb, by simpa using hspawns⟩
      refine ⟨hw.queued q net, List.pairwise_iff_forall_sublist.mpr fun hsub _ => ?_,
        fun a _ b hb _ => hnone b hb⟩
      exact hnone _ (hsub.subset (by simp))

include hw hfate hex in
theorem arrived_step (q : Fin n) (net : NetId)
    (hslot : (Function.update w.scene i t q).registry.slot? net ≠ none) :
    ∀ packet ∈ mail q, packet.spawns net = false := by
  intro packet hmem
  by_contra hspawns
  rw [Bool.not_eq_false] at hspawns
  by_cases hi : q = i
  · subst hi
    rw [Function.update_self] at hslot
    have hold : packet ∈ w.mail q := by
      rw [hex.mail_own hw.acknowledged.size]
      exact List.mem_append_right _ hmem
    rcases (hfate net).arrives hslot with hslot | ⟨first, htook, hfirst⟩ | hdraw
    · simp [hw.arrived q net hslot packet hold] at hspawns
    · simp [hw.spawns_of_took hex htook (Packet.concerns_of_spawns hfirst) hmem] at hspawns
    · exact hw.not_issued hdraw (hw.mailed q packet hold net (Packet.concerns_of_spawns hspawns))
  · rw [Function.update_of_ne hi] at hslot
    rcases hex.mem hmem with hold | hsent
    · simp [hw.arrived q net hslot packet hold] at hspawns
    · exact hw.not_issued ((hfate net).tells _ packet hsent hspawns).1 (hw.registered q net hslot)

include hw hfate hex in
theorem registered_step (q : Fin n) (net : NetId)
    (hslot : (Function.update w.scene i t q).registry.slot? net ≠ none) :
    Issued ⟨Function.update w.scene i t, mail⟩ net := by
  by_cases hi : q = i
  · subst hi
    rw [Function.update_self] at hslot
    rcases (hfate net).arrives hslot with hslot | ⟨packet, htook, hspawns⟩ | hdraw
    · exact issued_step hfate (hw.registered q net hslot)
    · have hmem := hex.took_mem hw.acknowledged.size htook
      exact issued_step hfate (hw.mailed q packet hmem net (Packet.concerns_of_spawns hspawns))
    · exact hw.issued_of_draw hdraw
  · rw [Function.update_of_ne hi] at hslot
    exact issued_step hfate (hw.registered q net hslot)

include hw hfate hex in
theorem mailed_step (q : Fin n) (packet : Packet) (hmem : packet ∈ mail q) (net : NetId)
    (hconcerns : packet.concerns net = true) : Issued ⟨Function.update w.scene i t, mail⟩ net := by
  rcases hex.mem hmem with hold | hsent
  · exact issued_step hfate (hw.mailed q packet hold net hconcerns)
  · rw [Packet.concerns, Bool.or_eq_true] at hconcerns
    rcases hconcerns with hspawns | hhalts
    · exact hw.issued_of_draw ((hfate net).tells _ packet hsent hspawns).1
    · exact issued_step hfate (hw.registered i net ((hfate net).announces _ packet hsent hhalts))

include hw hfate hex in
/-- Whoever waits for acknowledgments has told all peers, and they have done with the net or are yet to
hear of its halt. -/
theorem pending_step (p : Fin n) (net : NetId) (hpos : 0 < (Function.update w.scene i t p).pending net) :
    Condemned ⟨Function.update w.scene i t, mail⟩ p net := by
  have hkeep (hold : 0 < (w.scene p).pending net) :
      Condemned ⟨Function.update w.scene i t, mail⟩ p net :=
    hw.condemned_step hfate hex (hw.issued_of_pending hold) (hw.condemned p net hold)
  by_cases hi : p = i
  · subst hi
    rw [Function.update_self] at hpos
    rcases (hfate net).waits hpos with hold | ⟨hslot, hdead, htold⟩
    · exact hkeep hold
    · refine ⟨⟨?_, fun packet hmem => ?_⟩, fun q hq => ?_⟩
      · simpa only [Function.update_self] using hdead
      · refine hw.arrived p net hslot packet ?_
        rw [hex.mail_own hw.acknowledged.size]
        exact List.mem_append_right _ hmem
      · obtain ⟨packet, hsent, hhalted⟩ := htold q hq
        have hmem : packet ∈ mail q := by
          rw [hex.mail_other hq]
          exact List.mem_append_right _ (List.mem_filterMap.mpr ⟨_, hsent, if_pos rfl⟩)
        exact .inr ⟨packet, hmem, hhalted⟩
  · rw [Function.update_of_ne hi] at hpos
    exact hkeep hpos

end Step

/-- When a process waits no more, the net it has told its peers of is dead everywhere. -/
theorem dead_of_condemned (hw : w.Traced) (h : w.Condemned p net) (hdone : (w.scene p).pending net = 0)
    (q : Fin n) : w.Dead q net := by
  by_cases hq : q = p
  · exact hq ▸ h.1
  · refine (h.2 q hq).resolve_right fun ⟨packet, hmem, hhalted⟩ => ?_
    have hpending := hw.acknowledged.pending p net
    have hnone : ∑ q, (w.mail q).countP (Packet.isHaltedOf net (.at p)) = 0 := by omega
    have hzero := Finset.sum_eq_zero_iff.mp hnone q (Finset.mem_univ q)
    exact List.countP_eq_zero.mp hzero packet hmem hhalted

end Traced

variable {w' : World n σ} {events : List TokenEvent} {open_ : Prop}

theorem Moves.fates (h : w.Moves (Step False open_) i events w') (hw : w.Traced) :
    ∃ ws t mail, w' = ⟨Function.update w.scene i t, mail⟩ ∧ (∀ net, Fate i net (w.scene i) ws t) ∧
      Exchange i w.mail ws mail := by
  obtain @⟨ws, _, t, mail, hstep, hex⟩ := h
  exact ⟨ws, t, mail, rfl, fun net =>
    hstep.fate hw.acknowledged.size (hw.acknowledged.orderly i) hex (hw.tidy i net), hex⟩

variable [LawfulNet σ]

section

variable (h : w.Moves (Step False open_) i events w')

include h

theorem Moves.traced (hw : w.Traced) : w'.Traced := by
  have hack := h.acknowledged hw.acknowledged
  obtain ⟨ws, t, mail, rfl, hfate, hex⟩ := h.fates hw
  refine ⟨hack, ?_, ?_, hw.queued_step hfate hex, hw.arrived_step hfate hex,
    hw.registered_step hfate hex, hw.mailed_step hfate hex, hw.pending_step hfate hex⟩
  · refine (Function.forall_update_iff w.scene fun q s => s.ids.process = q ∧ s.ids.count = n).mpr
      ⟨?_, fun q _ => hw.supply q⟩
    rcases (hfate ⟨0⟩).ids with hids | ⟨m, hdraw⟩
    · rw [hids]
      exact hw.supply i
    · rw [(IdSource.draw_eq_ok hdraw).2]
      exact hw.supply i
  · exact (Function.forall_update_iff w.scene fun _ s => ∀ net, s.registry.TidyAt net).mpr
      ⟨fun net => (hfate net).tidy (hw.tidy i net), fun q _ => hw.tidy q⟩

theorem Moves.condemned
    (hw : w.Traced ∧ w.Issued net ∧ w.Condemned p net) :
    w'.Traced ∧ w'.Issued net ∧ w'.Condemned p net := by
  have htraced := h.traced hw.1
  obtain ⟨ws, t, mail, rfl, hfate, hex⟩ := h.fates hw.1
  exact ⟨htraced, Traced.issued_step hfate hw.2.1, hw.1.condemned_step hfate hex hw.2.1 hw.2.2⟩

theorem Moves.dead
    (hw : w.Traced ∧ w.Issued net ∧ ∀ q, w.Dead q net) :
    w'.Traced ∧ w'.Issued net ∧ ∀ q, w'.Dead q net := by
  have htraced := h.traced hw.1
  obtain ⟨ws, t, mail, rfl, hfate, hex⟩ := h.fates hw.1
  exact ⟨htraced, Traced.issued_step hfate hw.2.1, fun q => hw.1.dead_step hfate hex hw.2.1 (hw.2.2 q)⟩

end

end World

theorem Scene.Lives.of_state? {σ : Type} {p : Process σ} {net : NetId} {state : NetState}
    (h : p.registry.state? net = some state) (hlive : state.isLive = true) : p.outline.Lives net := by
  unfold Registry.state? at h
  split at h
  · cases h
    exact ⟨_, ‹_›, hlive⟩
  · split at h <;> cases h
    simp [NetState.isLive] at hlive

namespace Cluster

variable {σ : Type} {n : Nat} {c c' : Cluster σ} {w : World n σ}

/-- The acknowledgments that the process at a position waits for before it releases a net. -/
def awaited (c : Cluster σ) (i : Nat) (net : NetId) : Nat :=
  (c.members[i]?.bind (·.process.registry.slot? net)).elim 0 Slot.pendingAcks

theorem Shows.awaited (h : c.Shows w) (i : Fin n) (net : NetId) :
    c.awaited i net = (w.scene i).pending net := by
  have hi : i.val < c.members.length := h.length ▸ i.isLt
  have hmember := List.getElem?_eq_getElem hi
  rw [Cluster.awaited, hmember, (h.member i _ hmember).1]
  rfl

/-- What every move keeps, if callers choose no names, holds after calls. -/
theorem Shows.follow? [NetBehaviour σ] (h : c.Shows w) {calls : List Call} {I : World n σ → Prop}
    (hI : ∀ w, I w → w.Traced)
    (hmove : ∀ w i events w', World.Moves (Scene.Step False True) w i events w' → I w → I w')
    (hnames : ∀ call ∈ calls, call.operation.chosenName? = none) (hw : I w)
    (hcalls : c.follow? calls = some c') : ∃ w', c'.Shows w' ∧ I w' :=
  follow?_invariant (I := fun w _ => I w) (hI w hw).acknowledged.size
    (fun w _ hw i => ((hI w hw).acknowledged.orderly i).sound)
    (fun w i events w' _ => hmove w i events w') (fun call hcall => by simp [hnames call hcall]) h [] hw
    hcalls

end Cluster

/-- Only a process that has told its peers of the halt of a net waits for acknowledgments. Once it
waits no more, the net is live nowhere and nobody is yet to hear that it was spawned, then and ever
after. -/
theorem released_net_is_dead_everywhere {σ : Type} [NetBehaviour σ] [LawfulNet σ] {n : Nat}
    {settings : Settings} {templates : List (Template σ)} {storage : Storage}
    {start c c' c'' : Cluster σ}
    {before during after : List Cluster.Call} {i : Nat} {net : NetId}
    (hcreate : Cluster.create n settings templates storage = .ok start)
    (hnames : ∀ call ∈ before ++ during ++ after, call.operation.chosenName? = none)
    (hbefore : start.follow? before = some c) (hwaits : 0 < c.awaited i net)
    (hduring : c.follow? during = some c') (hdone : c'.awaited i net = 0)
    (hafter : c'.follow? after = some c'') :
    ∀ (q : Nat) (member : Member σ), c''.members[q]? = some member →
      member.process.registry.state? net ≠ some .spawned ∧
      member.process.registry.state? net ≠ some .active ∧
      c''.mailed q (Packet.spawns net) = 0 := by
  have hi : i < c.members.length := by
    by_contra hbeyond
    simp [Cluster.awaited, List.getElem?_eq_none (Nat.not_lt.mp hbeyond)] at hwaits
  obtain ⟨w, hshows, hfresh⟩ := Cluster.create_shows hcreate
  obtain ⟨w, hshows, htraced⟩ := hshows.follow? (I := World.Traced) (fun _ => id)
    (fun _ _ _ _ hmove => hmove.traced) (fun call hcall => hnames call (by simp [hcall])) hfresh.traced
    hbefore
  -- While the process waits, the net is condemned, and it stays so until the last acknowledgment.
  let p : Fin n := ⟨i, hshows.length ▸ hi⟩
  rw [show i = p.val from rfl, hshows.awaited p] at hwaits
  obtain ⟨w, hshows, htraced, hissued, hcondemned⟩ := hshows.follow? (fun _ hw => hw.1)
    (fun _ _ _ _ hmove => hmove.condemned) (fun call hcall => hnames call (by simp [hcall]))
    ⟨htraced, htraced.issued_of_pending hwaits, htraced.condemned p net hwaits⟩ hduring
  rw [show i = p.val from rfl, hshows.awaited p] at hdone
  -- With none on its way nobody is yet to hear of the halt, so the net is dead everywhere.
  obtain ⟨w, hshows, -, -, hdead⟩ := hshows.follow? (fun _ hw => hw.1)
    (fun _ _ _ _ hmove => hmove.dead) (fun call hcall => hnames call (by simp [hcall]))
    ⟨htraced, hissued, htraced.dead_of_condemned hcondemned hdone⟩ hafter
  intro q member hmember
  have hq : q < n := hshows.length ▸ (List.getElem?_eq_some_iff.mp hmember).1
  obtain ⟨hnone, hmail⟩ := hdead ⟨q, hq⟩
  rw [(hshows.member ⟨q, hq⟩ member hmember).1] at hnone
  refine ⟨fun h => hnone (.of_state? h rfl), fun h => hnone (.of_state? h rfl), ?_⟩
  rw [hshows.mailed ⟨q, hq⟩, List.countP_eq_zero]
  intro packet hmem
  simp [hmail packet hmem]

/-- Process 0 spawns a global net, halts it and tells process 1, which makes its copy, stops it and
acknowledges. -/
theorem released_net_is_dead_everywhere_after_ack :
    ∃ c : Cluster Bare, c.awaited 0 ⟨0⟩ = 0 ∧ ∀ (q : Nat) (member : Member Bare),
      c.members[q]? = some member → member.process.registry.state? ⟨0⟩ ≠ some .spawned ∧
        member.process.registry.state? ⟨0⟩ ≠ some .active ∧ c.mailed q (Packet.spawns ⟨0⟩) = 0 := by
  let before : List Cluster.Call := [⟨0, .spawn ⟨0⟩ 0 none none true, 0⟩, ⟨0, .processMessages ⟨0⟩, 0⟩,
    ⟨0, .halt ⟨0⟩ ⟨0⟩, 0⟩, ⟨0, .processMessages ⟨0⟩, 0⟩]
  let during : List Cluster.Call := [⟨1, .receivePackets 2, 0⟩, ⟨1, .processMessages ⟨0⟩, 0⟩,
    ⟨0, .receivePackets 1, 0⟩]
  obtain ⟨start, hcreate⟩ : ∃ start : Cluster Bare,
      Cluster.create 2 ⟨1, false, 0, 0, none⟩ [Bare.template] (.create []) = .ok start := ⟨_, rfl⟩
  have hfirst : (start.follow? before).map (·.awaited 0 ⟨0⟩) = some 1 := by
    cases hcreate
    cbv
  have hsecond : ((start.follow? before).bind (·.follow? during)).map (·.awaited 0 ⟨0⟩) = some 0 := by
    cases hcreate
    cbv
  obtain ⟨c, hbefore, hwaits⟩ := Option.map_eq_some_iff.mp hfirst
  rw [hbefore, Option.bind_some] at hsecond
  obtain ⟨c', hduring, hdone⟩ := Option.map_eq_some_iff.mp hsecond
  have hafter : c'.follow? [] = some c' := rfl
  exact ⟨c', hdone, released_net_is_dead_everywhere hcreate (by decide) hbefore (by omega) hduring
    hdone hafter⟩

end PetriCluster
