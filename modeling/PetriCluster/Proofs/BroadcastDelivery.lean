import PetriCluster.Proofs.BroadcastRounds
import PetriCluster.Proofs.Census
import Mathlib

/-!
# Every round of the broadcast is delivered once

In a cluster that runs the broadcast, process 0 has delivered every round that its main copy has sent,
once to itself and once to each of the others, and the copy has lost none of its tokens. The net halts
when all rounds are consumed, and no sooner.
-/

namespace PetriCluster

/-- The tokens for a net that wait in the inboxes of a process. -/
def Process.tokensFor {σ : Type} (p : Process σ) (net : NetId) : Nat :=
  (p.inboxes.flatMap (·.filterMap WorkItem.parcel?)).countP (·.net = net)

namespace Cluster

open Broadcast

variable {n : Nat} {rounds : UInt32} {open_ : Bool} {c : Cluster DemoNet}

/-- A cluster in which all is as it should be; whether the broadcast may still be live is told. -/
structure Abides (c : Cluster DemoNet) (n : Nat) (rounds : UInt32) (open_ : Bool) : Prop where
  length : c.members.length = n
  serves : c.hub.Serves n
  mail : ∀ j : Fin n, ∀ p ∈ c.hub.mail n j, Hears j p
  member : ∀ (i : Fin n) (m : Member DemoNet), c.members[i.val]? = some m →
    m.endpoint.process = .at i ∧ m.process.books.Home rounds i ∧ m.process.outline.Sound ∧
      Station rounds open_ i m.process.books m.process.outline

theorem abides_governs (hn : n < IdSource.wordSize) (rounds : UInt32) (open_ : Bool) :
    Governs (fun _ => True) fun c => c.Abides n rounds open_ where
  timed _ h := { h with }
  node {c i node} h hnode := by
    obtain ⟨m, hm, rfl⟩ := Option.map_eq_some_iff.mp hnode
    have hi : i < c.members.length := (List.getElem?_eq_some_iff.mp hm).1
    obtain ⟨hendpoint, hhome, hsound, hstation⟩ := h.member ⟨i, h.length ▸ hi⟩ m hm
    refine ⟨hsound, _, regime hn rounds open_ ⟨i, h.length ▸ hi⟩,
      ⟨h.serves, hendpoint, hhome, h.mail, hstation⟩, fun {after} hafter hs => ?_⟩
    refine ⟨by simp [Cluster.update, h.length], hafter.serves, hafter.mail, fun j x hx => ?_⟩
    by_cases hj : j.val = i
    · subst hj
      simp only [Cluster.update, List.getElem?_set_self hi, Option.some.injEq] at hx
      subst hx
      exact ⟨hafter.endpoint, hafter.home, hs, hafter.station⟩
    · simp only [Cluster.update, List.getElem?_set_ne (Ne.symm hj)] at hx
      exact h.member j x hx

theorem create_abides {settings : Settings} {storage : Storage} {start : Cluster DemoNet}
    (hcreate : create n settings (DemoNet.templates rounds) storage = .ok start) (now : Nat) :
    n < IdSource.wordSize ∧
      (start.next ⟨0, .spawnInitial DemoNet.broadcast, now⟩).Abides n rounds true := by
  obtain ⟨hn, h⟩ := starts hcreate now
    (show (DemoNet.templates rounds)[DemoNet.broadcast]? = some _ from rfl)
    (fun hn i hi => (create_template hn rounds i DemoNet.broadcast none true).trans
      (by rw [decide_eq_true hi])) rfl
  refine ⟨hn, h.length, h.serves, fun j p hp => ?_, fun j m hm => ?_⟩
  · rw [h.mail] at hp
    split at hp
    · cases hp
    · rename_i hj
      obtain rfl := List.mem_singleton.mp hp
      refine ⟨fun heq => absurd heq hj, fun m template parent origin hmessage => ?_⟩
      have hsame := Packet.message?_eq_some.mp (Packet.message?_toPacket
        (.spawned ⟨0⟩ (UInt32.ofNat DemoNet.broadcast) none ⟨0⟩) ⟨0⟩)
      cases hsame.symm.trans hmessage
      exact ⟨rfl, rfl⟩
  · obtain ⟨hendpoint, hhome, hblank, hsound, hsettled, hnets⟩ := h.member j m hm
    refine ⟨hendpoint, hhome, hsound, ?_⟩
    by_cases hj : j.val = 0
    · rw [if_pos hj] at hnets
      refine .live rfl hj hnets (by simp) ⟨rfl, rfl, rfl, Nat.zero_le _, ?_, ?_⟩ hsettled
      · exact hblank.localDeliveries
      · exact hblank.remoteDeliveries.trans (Nat.zero_mul _).symm
    · rw [if_neg hj] at hnets
      refine .peer hj ⟨fun w k state hstate => ?_, fun w k state hstate => ?_, fun w x hx => ?_⟩
      · cases (hnets.active w k).symm.trans hstate
      · cases (hnets.halting w k).symm.trans hstate
      · rw [hnets.items] at hx
        cases hx

/-- What process 0 shows of the broadcast while it is live. -/
def BroadcastLive (n : Nat) (rounds : UInt32) (p : Process DemoNet) : Prop :=
  ∃ b : Broadcast, p.instances = [.inr b] ∧ b.isMain = true ∧
    b.consumed.toNat + b.inbox.toNat + p.tokensFor net = b.emitted.toNat ∧
    b.emitted.toNat ≤ rounds.toNat ∧ p.stats.localDeliveries = b.emitted.toNat ∧
    p.stats.remoteDeliveries = b.emitted.toNat * (n - 1)

/-- What process 0 shows of the broadcast from its halt on: the main copy, as long as there is a slot
for it, has sent and consumed all rounds. -/
def BroadcastOver (n : Nat) (rounds : UInt32) (p : Process DemoNet) : Prop :=
  (∃ b : Broadcast, b.isMain = true ∧ b.emitted = rounds ∧ b.consumed = rounds ∧ b.inbox = 0 ∧
      (∀ state ∈ p.instances, state = .inr b) ∧
      (p.registry.slot? net ≠ none → p.instances = [.inr b])) ∧
    p.tokensFor net = 0 ∧ p.stats.localDeliveries = rounds.toNat ∧
    p.stats.remoteDeliveries = rounds.toNat * (n - 1)

theorem Abides.main (h : c.Abides n rounds open_) (hpos : 0 < n) :
    ∃ m : Member DemoNet, c.members[0]? = some m ∧
      (open_ = true ∧ (m.process.registry.liveOwner? net).isSome = true ∧
          BroadcastLive n rounds m.process ∨
        m.process.registry.liveOwner? net = none ∧ BroadcastOver n rounds m.process ∧
          c.Abides n rounds false) := by
  obtain ⟨m, hfound⟩ : ∃ m, c.members[0]? = some m :=
    ⟨_, List.getElem?_eq_getElem (h.length ▸ hpos : 0 < c.members.length)⟩
  obtain ⟨hendpoint, hhome, hsound, hstation⟩ := h.member ⟨0, hpos⟩ m hfound
  refine ⟨m, hfound, ?_⟩
  cases hstation with
  | @live owner adopted copy bound hopen _ hseats _ hmain =>
    obtain ⟨hinstances, hparcels⟩ := Scene.Seats.census hhome hseats
    have hqueued : m.process.tokensFor net = bound.length := by
      rw [Process.tokensFor, hparcels, List.countP_eq_length]
      exact fun parcel hparcel => decide_eq_true (hseats.aimed parcel hparcel)
    refine .inl ⟨hopen, ?_, copy, hinstances, hmain.isMain, ?_, hmain.within, hmain.localDeliveries,
      hmain.remoteDeliveries⟩
    · exact Option.isSome_iff_exists.mpr ⟨owner, hseats.liveOwner?⟩
    · rw [hqueued]
      exact hmain.balance
  | @spent copy _ hleft hstopped hmain hall hsettled =>
    obtain ⟨hinstances, hparcels⟩ := Scene.Dwindles.census hhome hleft
    obtain ⟨hemitted, hinbox, -⟩ := hmain.done hall
    refine .inr ⟨hstopped.not_live, ⟨⟨copy, hmain.isMain, hemitted, hall, hinbox, ?_, ?_⟩, ?_, ?_, ?_⟩,
      { h with member := ?_ }⟩
    · rcases hinstances with heq | heq <;> simp [heq]
    · intro hslot
      obtain ⟨slot, hslot⟩ := Option.ne_none_iff_exists'.mp hslot
      exact hinstances.resolve_left (Process.instances_ne_nil (hsettled net) hslot)
    · rw [Process.tokensFor, hparcels]
      rfl
    · exact hmain.localDeliveries.trans (by rw [hemitted])
    · exact hmain.remoteDeliveries.trans (by rw [hemitted])
    · intro j x hx
      by_cases hj : j.val = 0
      · obtain rfl : j = ⟨0, hpos⟩ := Fin.ext hj
        cases hfound.symm.trans hx
        exact ⟨hendpoint, hhome, hsound, .spent rfl hleft hstopped hmain hall hsettled⟩
      · obtain ⟨hendpoint, hhome, hsound, hstation⟩ := h.member j x hx
        refine ⟨hendpoint, hhome, hsound, ?_⟩
        cases hstation with
        | live _ heq | spent heq => exact absurd heq hj
        | peer _ hcopies => exact .peer hj hcopies
  | peer hi => exact absurd rfl hi

/-- The broadcast of a new cluster delivers every round once, whatever the schedulers of the processes
do in whatever order. While it is live at process 0, every token that the main copy has sent to its own
process is consumed, in the copy or in the inbox, there were no more rounds than asked for, and process 0
has counted one delivery to itself and one to each other process for every round. It is halted there only
when all rounds have been sent and consumed, and then these numbers do not change any more. -/
theorem broadcast_delivers_every_round {settings : Settings} {storage : Storage}
    {start : Cluster DemoNet}
    (hcreate : create n settings (DemoNet.templates rounds) storage = .ok start) (now : Nat)
    {calls : List Call} (hcalls : ∀ call ∈ calls, call.operation.isScheduling = true)
    (hc : calls.foldl Cluster.next (start.next ⟨0, .spawnInitial DemoNet.broadcast, now⟩) = c) :
    ∃ m : Member DemoNet, c.members[0]? = some m ∧
      ((m.process.registry.liveOwner? net).isSome = true → BroadcastLive n rounds m.process) ∧
      (m.process.registry.liveOwner? net = none → BroadcastOver n rounds m.process ∧
        ∀ later : List Call, (∀ call ∈ later, call.operation.isScheduling = true) →
          ∃ m' : Member DemoNet, (later.foldl Cluster.next c).members[0]? = some m' ∧
            m'.process.registry.liveOwner? net = none ∧ BroadcastOver n rounds m'.process) := by
  obtain ⟨hn, hstart⟩ := create_abides hcreate now
  have hpos : 0 < n := (create_eq_ok hcreate).1
  have h := (abides_governs hn rounds true).foldl hstart hcalls
  rw [hc] at h
  obtain ⟨m, hm, ⟨-, hlive, hrounds⟩ | ⟨hnone, hdone, hclosed⟩⟩ := h.main hpos
  · refine ⟨m, hm, fun _ => hrounds, fun hnone => ?_⟩
    rw [hnone] at hlive
    cases hlive
  · refine ⟨m, hm, fun hlive => ?_, fun _ => ⟨hdone, fun later hlater => ?_⟩⟩
    · rw [hnone] at hlive
      cases hlive
    · have hstays := (abides_governs hn rounds false).foldl hclosed hlater
      obtain ⟨m', hm', ⟨hopen, -⟩ | ⟨hnone', hdone', -⟩⟩ := hstays.main hpos
      · cases hopen
      · exact ⟨m', hm', hnone', hdone'⟩

/-- Two processes and one round: it is sent, and then consumed, which halts the net. -/
theorem broadcast_delivers_every_round_one_round :
    ∃ (c d : Cluster DemoNet) (m m' : Member DemoNet), c.members[0]? = some m ∧
      BroadcastLive 2 1 m.process ∧ m.process.stats.remoteDeliveries = 1 ∧ d.members[0]? = some m' ∧
      m'.process.registry.liveOwner? net = none ∧ BroadcastOver 2 1 m'.process := by
  let sending : List Call := [⟨0, .processMessages ⟨0⟩, 0⟩, ⟨0, .fireReady ⟨0⟩, 0⟩]
  let halting : List Call := sending ++ sending
  obtain ⟨start, hcreate⟩ : ∃ start : Cluster DemoNet,
      create 2 ⟨1, false, 0, 0, none⟩ (DemoNet.templates 1) (.create []) = .ok start := ⟨_, rfl⟩
  obtain ⟨c, hc⟩ : ∃ c,
      sending.foldl Cluster.next (start.next ⟨0, .spawnInitial DemoNet.broadcast, 0⟩) = c := ⟨_, rfl⟩
  obtain ⟨d, hd⟩ : ∃ d,
      halting.foldl Cluster.next (start.next ⟨0, .spawnInitial DemoNet.broadcast, 0⟩) = d := ⟨_, rfl⟩
  have hlive : c.members[0]?.any (fun m => (m.process.registry.liveOwner? net).isSome &&
      m.process.stats.remoteDeliveries == 1) = true := by
    rw [← hc]
    cases hcreate
    cbv
  have hhalts : d.members[0]?.any (fun m => m.process.registry.liveOwner? net == none) = true := by
    rw [← hd]
    cases hcreate
    cbv
  obtain ⟨m, hm, hrounds, -⟩ :=
    broadcast_delivers_every_round hcreate 0 (by simp [sending, Operation.isScheduling]) hc
  obtain ⟨m', hm', -, hdone⟩ :=
    broadcast_delivers_every_round hcreate 0 (by simp [halting, sending, Operation.isScheduling]) hd
  rw [hm, Option.any_some, Bool.and_eq_true, beq_iff_eq] at hlive
  rw [hm', Option.any_some, beq_iff_eq] at hhalts
  exact ⟨c, d, m, m', hm, hrounds hlive.1, hlive.2, hm', hhalts, (hdone hhalts).1⟩

end Cluster

end PetriCluster
