import PetriCluster.Proofs.Acknowledgments
import Mathlib

/-!
# Halts in two phases

A net that halts is first stopped, and the peers that have copies of it are told. It is released once
all have acknowledged. At every process and at any time a halting net is in exactly one phase: it waits
to be stopped, it waits for acknowledgments, or it waits to be released.
-/

namespace PetriCluster

/-- How far the halt of a net is at a process. -/
inductive HaltPhase where
  | stopping
  /-- The net has been stopped, and peers have to acknowledge that. -/
  | waiting
  | releasing
  deriving DecidableEq, Repr

namespace Cluster

variable {σ : Type}

/-- The acknowledgments on their way to a process: peers have not been told yet that the net halted
there, or have not stopped their copies yet, or their acknowledgments have not been taken in. -/
def acksUnderway (c : Cluster σ) (i : Nat) (net : NetId) : Nat :=
  ∑ q ∈ (Finset.range c.members.length).erase i,
    (c.mailed q (Packet.isHaltedOf net (.ofIndex i)) +
      c.queued q (WorkItem.isHaltFor net (.ofIndex i))) +
    c.mailed i (Packet.isHaltAckOf net)

/-- What is queued for a halting net at a process, and what it waits for, in a phase of the halt. -/
def InPhase (c : Cluster σ) (i : Nat) (p : Process σ) (net : NetId) (slot : Slot) : HaltPhase → Prop
  | .stopping => c.queued i (WorkItem.isHaltOf net) = 1 ∧ c.queued i (WorkItem.isReclaimOf net) = 0 ∧
      slot.pendingAcks = 0
  | .waiting => ((p.worker slot.owner).halting.find? net).isSome ∧
      c.queued i (WorkItem.isHaltOf net) = 0 ∧ c.queued i (WorkItem.isReclaimOf net) = 0 ∧
      0 < slot.pendingAcks ∧ slot.pendingAcks = c.acksUnderway i net
  | .releasing => ((p.worker slot.owner).halting.find? net).isSome ∧
      c.queued i (WorkItem.isHaltOf net) = 0 ∧ c.queued i (WorkItem.isReclaimOf net) = 1 ∧
      (p.inbox slot.owner).countP (WorkItem.isReclaimOf net) = 1 ∧ slot.pendingAcks = 0

variable {c : Cluster σ} {net : NetId}

theorem InPhase.unique {i : Nat} {p : Process σ} {slot : Slot} {a b : HaltPhase}
    (ha : c.InPhase i p net slot a) (hb : c.InPhase i p net slot b) : a = b := by
  cases a <;> cases b <;> simp only [InPhase] at ha hb <;> first | rfl | omega

variable [NetBehaviour σ] {n : Nat} {w : World n σ} {i : Fin n}

theorem acksUnderway_eq (h : c.Shows w) (hw : w.Acknowledged) (i : Fin n) (net : NetId) :
    c.acksUnderway i net = (w.scene i).pending net := by
  have hself : ¬Scene.IsPeer i (.at i) := by
    rintro ⟨k, hk, hne⟩
    exact hne (ProcessId.at_inj hw.size hk).symm
  have hmail : c.mailed i (Packet.isHaltedOf net (.at i)) = 0 := by
    rw [h.mailed, List.countP_eq_zero]
    intro packet hmem htrue
    exact hself (hw.mail i packet hmem net _ (of_decide_eq_true htrue))
  have hitems : c.queued i (WorkItem.isHaltFor net (.at i)) = 0 := by
    rw [h.queued]
    by_contra hne
    exact hself (hw.items i net _ (Nat.pos_of_ne_zero hne))
  have hall : ∑ q ∈ (Finset.range n).erase i.val,
      (c.mailed q (Packet.isHaltedOf net (.at i)) + c.queued q (WorkItem.isHaltFor net (.at i))) =
      ∑ q : Fin n, (c.mailed q (Packet.isHaltedOf net (.at i)) +
        c.queued q (WorkItem.isHaltFor net (.at i))) := by
    rw [Finset.sum_erase _ (by simp [hmail, hitems]), Finset.sum_range]
  rw [acksUnderway, h.length, hw.pending i net, ← h.mailed]
  refine congrArg (· + _) (hall.trans ?_)
  simp only [h.mailed, h.queued, Finset.sum_add_distrib]

theorem exists_inPhase (h : c.Shows w) (hw : w.Acknowledged) {member : Member σ} {slot : Slot}
    (hmember : c.members[i.val]? = some member)
    (hslot : member.process.registry.slot? net = some slot) (hstate : slot.state = .halting) :
    ∃ phase, c.InPhase i member.process net slot phase := by
  obtain ⟨hscene, -⟩ := h.member i member hmember
  have haccounted := (hw.orderly i).accounted net
  have hacks : c.acksUnderway i net = slot.pendingAcks := by
    rw [acksUnderway_eq h hw, hscene]
    exact Scene.pending_of_slot hslot
  have hhalts := h.queued i (WorkItem.isHaltOf net)
  have hreclaims := h.queued i (WorkItem.isReclaimOf net)
  rw [hscene] at haccounted hhalts hreclaims
  have hr := haccounted.resides slot hslot
  have hheld (hone : Scene.held (member.process.outline.halting slot.owner net) = 1) :
      ((member.process.worker slot.owner).halting.find? net).isSome :=
    Bool.toNat_eq_one.mp hone
  -- The stage of a net says what waits for its owner; the phases are the stages of a halt.
  cases hr.stage with
  | spawned hspawned => simp [hstate] at hspawned
  | active hactive => simp [hstate] at hactive
  | stopping _ _ hhalt _ hreclaim hzero =>
    exact ⟨.stopping, hhalts.trans hhalt, hreclaims.trans hreclaim, hzero⟩
  | stopped _ _ _ hhalt hone hrest =>
    rcases hrest with ⟨hreclaim, hzero⟩ | ⟨hreclaim, hpos⟩
    · have hinbox : (member.process.inbox slot.owner).countP (WorkItem.isReclaimOf net) = 1 := by
        have hat := hr.reclaims.symm.trans hreclaim
        rwa [Scene.countAt_eq, Process.outline_hand, List.countP_nil, ite_self, Nat.zero_add] at hat
      exact ⟨.releasing, hheld hone, hhalts.trans hhalt, hreclaims.trans hreclaim, hinbox, hzero⟩
    · exact ⟨.waiting, hheld hone, hhalts.trans hhalt, hreclaims.trans hreclaim, hpos, hacks.symm⟩

end Cluster

variable {σ : Type} [NetBehaviour σ]

/-- In every state that a cluster gets to, a halting net is in exactly one phase of its halt. -/
theorem halting_net_is_in_one_phase [LawfulNet σ] {n : Nat} {settings : Settings}
    {templates : List (Template σ)} {storage : Storage} {start c : Cluster σ}
    {calls : List Cluster.Call} (hcreate : Cluster.create n settings templates storage = .ok start)
    (hcalls : start.follow? calls = some c) {i : Nat} {member : Member σ} {net : NetId} {slot : Slot}
    (hmember : c.members[i]? = some member) (hslot : member.process.registry.slot? net = some slot)
    (hstate : slot.state = .halting) :
    ∃! phase, c.InPhase i member.process net slot phase := by
  obtain ⟨w, hshows, hfresh⟩ := Cluster.create_shows hcreate
  obtain ⟨w, hshows, hw⟩ := Cluster.follow?_invariant (I := fun w _ => w.Acknowledged) hfresh.size
    (fun _ _ hw i => (hw.orderly i).sound) (fun _ _ _ _ _ hmove hw => hmove.acknowledged hw)
    (fun _ _ _ => trivial) hshows [] hfresh.acknowledged hcalls
  have hi : i < n := hshows.length ▸ (List.getElem?_eq_some_iff.mp hmember).1
  obtain ⟨phase, hphase⟩ := Cluster.exists_inPhase (i := ⟨i, hi⟩) hshows hw hmember hslot hstate
  exact ⟨phase, hphase, fun other hother => hother.unique hphase⟩

/-- A global net is halted at process 0. It waits there for process 1, which has been told of the halt and
is to stop its copy. -/
theorem halting_net_is_in_one_phase_after_halt :
    let calls : List Cluster.Call := [⟨0, .spawn ⟨0⟩ 0 none none true, 0⟩, ⟨0, .processMessages ⟨0⟩, 0⟩,
      ⟨1, .receivePackets 1, 0⟩, ⟨0, .halt ⟨0⟩ ⟨0⟩, 0⟩, ⟨0, .processMessages ⟨0⟩, 0⟩,
      ⟨1, .receivePackets 1, 0⟩]
    ∃ (start c : Cluster Bare) (m₀ m₁ : Member Bare) (slot₀ slot₁ : Slot),
      Cluster.create 2 ⟨1, false, 0, 0, none⟩ [Bare.template] (.create []) = .ok start ∧
      start.follow? calls = some c ∧ c.members = [m₀, m₁] ∧
      m₀.process.registry.slot? ⟨0⟩ = some slot₀ ∧ slot₀.pendingAcks = 1 ∧
      c.InPhase 0 m₀.process ⟨0⟩ slot₀ .waiting ∧
      m₁.process.registry.slot? ⟨0⟩ = some slot₁ ∧ c.InPhase 1 m₁.process ⟨0⟩ slot₁ .stopping := by
  intro calls
  obtain ⟨start, hcreate, hviews⟩ : ∃ start : Cluster Bare,
      Cluster.create 2 ⟨1, false, 0, 0, none⟩ [Bare.template] (.create []) = .ok start ∧
      (start.follow? calls).map (fun c => (c.members.map (·.process.registry.slot? ⟨0⟩),
        c.queued 1 (WorkItem.isHaltOf ⟨0⟩))) =
        some ([some ⟨0, ⟨0⟩, none, true, .halting, 1⟩, some ⟨0, ⟨0⟩, none, true, .halting, 0⟩], 1) :=
    ⟨_, rfl, by cbv⟩
  obtain ⟨c, hc, hview⟩ := Option.map_eq_some_iff.mp hviews
  obtain ⟨hslots, hqueued⟩ := Prod.mk.inj hview
  obtain ⟨m₀, m₁, hmembers⟩ : ∃ m₀ m₁, c.members = [m₀, m₁] :=
    List.length_eq_two.mp (by simpa using congrArg List.length hslots)
  simp only [hmembers, List.map_cons, List.map_nil, List.cons.injEq, and_true] at hslots
  obtain ⟨hslot₀, hslot₁⟩ := hslots
  obtain ⟨phase₀, hphase₀, -⟩ :=
    halting_net_is_in_one_phase (i := 0) hcreate hc (by rw [hmembers]; rfl) hslot₀ rfl
  obtain ⟨phase₁, hphase₁, -⟩ :=
    halting_net_is_in_one_phase (i := 1) hcreate hc (by rw [hmembers]; rfl) hslot₁ rfl
  refine ⟨start, c, m₀, m₁, _, _, hcreate, hc, hmembers, hslot₀, rfl, ?_, hslot₁, ?_⟩
  · cases phase₀ with
    | waiting => exact hphase₀
    | stopping => simp [Cluster.InPhase] at hphase₀
    | releasing => simp [Cluster.InPhase] at hphase₀
  · cases phase₁ with
    | stopping => exact hphase₁
    | waiting => simp [Cluster.InPhase] at hphase₁
    | releasing => simp [Cluster.InPhase, hqueued] at hphase₁

end PetriCluster
