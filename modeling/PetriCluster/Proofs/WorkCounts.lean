import PetriCluster.Proofs.Backing
import PetriCluster.Proofs.Contents
import PetriCluster.Proofs.Worlds

/-!
# Counting work packets

Packets that carry tokens or tell of new global nets are work. Every step, and every crash, counts the
work packets it sends and takes in (`Counted`). A process that has no net and owes nothing stays so and
sends no work until it takes a work packet in.
-/

namespace PetriCluster

variable {naming open_ : Prop} {packet : Packet}

/-- The message tells of a new net. -/
def ControlMessage.isSpawn : ControlMessage → Bool
  | spawned .. => true
  | _ => false

/-- The packet carries tokens or tells of a new net. -/
def Packet.isWork (p : Packet) : Bool :=
  p.tag == .tokens || p.message?.any ControlMessage.isSpawn

namespace Packet

theorem isWork_of_tokens {p : Packet} (h : p.tag = .tokens) : p.isWork = true := by
  simp [isWork, h]

theorem isWork_of_message {p : Packet} {m : ControlMessage} (h : ControlMessage.ofPacket p = .ok m) :
    p.isWork = m.isSpawn := by
  simp [isWork, tag_of_message h, message?_eq_some.mpr h]

theorem isWork_toPacket (m : ControlMessage) (source : ProcessId) :
    (m.toPacket source).isWork = m.isSpawn := by
  have htag : (m.toPacket source).tag = .service := rfl
  simp [isWork, htag]

end Packet

namespace Termination

theorem beginWave_counters {t t' : Termination} {own : ProbeSnapshot} {now : Nat} {wave : Option Nat}
    (h : t.beginWave own now = (wave, t')) : t'.sent = t.sent ∧ t'.received = t.received := by
  unfold beginWave at h
  split at h <;> cases h <;> exact ⟨rfl, rfl⟩

theorem onReply_counters {t t' : Termination} {wave : Nat} {sender : ProcessId}
    {answer : ProbeSnapshot} {verdict : Except Crash Verdict}
    (h : t.onReply wave sender answer = (verdict, t')) :
    t'.sent = t.sent ∧ t'.received = t.received := by
  unfold onReply at h
  split at h
  · cases h
    exact ⟨rfl, rfl⟩
  · split at h
    · cases h
      exact ⟨rfl, rfl⟩
    · simp only at h
      split at h
      · cases h
        exact ⟨rfl, rfl⟩
      · split at h <;> cases h <;> exact ⟨rfl, rfl⟩

variable {s t : Termination} {ws : List Wire}

/-- The work packets that are sent and taken in are counted. -/
structure Counted (s : Termination) (ws : List Wire) (t : Termination) : Prop where
  sent : t.sent = s.sent + Wire.accepted Packet.isWork ws
  received : t.received = s.received + Wire.taken Packet.isWork ws

theorem Counted.quiet (hcounters : t.sent = s.sent ∧ t.received = s.received)
    (hws : ∀ w ∈ ws, w.packet.isWork = false) : Counted s ws t where
  sent := by rw [hcounters.1, Wire.accepted_eq_zero hws, Nat.add_zero]
  received := by rw [hcounters.2, Wire.taken_eq_zero hws, Nat.add_zero]

theorem Counted.work (hpacket : packet.isWork = true) (hsent : t.sent = s.sent)
    (hreceived : t.received = s.received + 1) : Counted s [.took packet] t where
  sent := by simp [hsent]
  received := by simp [hreceived, Wire.taken_took, hpacket]

end Termination

namespace Scene

variable {σ : Type} {s t : Scene σ} {ws : List Wire} {events : List TokenEvent}
variable {item : WorkItem σ}

/-- The work packets that are sent and taken in are counted. -/
abbrev Counted (s : Scene σ) (ws : List Wire) (t : Scene σ) : Prop :=
  s.termination.Counted ws t.termination

variable [NetBehaviour σ]

theorem Asks.counted (h : Asks naming s ws events t) : Counted s ws t := by
  cases h with
  | sendLocal | draw | halt => exact .quiet ⟨rfl, rfl⟩ (by simp)
  | @sendRemote target parcel =>
    have hwork : (Packet.ofTokens s.id parcel).isWork = true := Packet.isWork_of_tokens rfl
    exact ⟨by simp [Wire.accepted, Wire.isAccepted, hwork, Termination.recordSent], rfl⟩
  | sendRefused => exact ⟨rfl, rfl⟩
  | spawn _ _ _ hws =>
    split at hws
    · refine ⟨?_, by rw [hws.taken_eq]; rfl⟩
      rw [← hws.countP_isSent (Packet.isWork_toPacket ..)]
      rfl
    · subst hws
      exact ⟨rfl, rfl⟩

/-- Every work packet that is taken in is counted. -/
theorem Takes.counted (h : Takes s packet ws events t) : Counted s (.took packet :: ws) t := by
  cases h with
  | tokens hparcel | lateTokens hparcel =>
    exact .work (Packet.isWork_of_tokens (Packet.tag_of_parcel hparcel)) rfl rfl
  | badTokens htag => exact .work (Packet.isWork_of_tokens htag) rfl rfl
  | spawned hdecode | spawnRefused hdecode => exact .work (Packet.isWork_of_message hdecode) rfl rfl
  | halted hdecode | quit hdecode =>
    exact .quiet ⟨rfl, rfl⟩
      (by simp [Wire.packet, Packet.isWork_of_message hdecode, ControlMessage.isSpawn])
  | haltedBefore hdecode hsingle | probe hdecode _ hsingle =>
    refine .quiet ⟨rfl, rfl⟩ ?_
    rcases hsingle with rfl | rfl <;>
      simp [Wire.packet, Packet.isWork_of_message hdecode, Packet.isWork_toPacket,
        ControlMessage.isSpawn]
  | @haltAck m _ hdecode =>
    have hsame : (s.countAck m).termination = s.termination := excuse_termination m 1
    exact .quiet ⟨by rw [hsame], by rw [hsame]⟩
      (by simp [Wire.packet, Packet.isWork_of_message hdecode, ControlMessage.isSpawn])
  | ignored htag htalk =>
    have hidle : packet.isWork = false := by
      cases hmessage : packet.message? with
      | none => simp [Packet.isWork, htag, hmessage]
      | some m =>
        have hdecode := Packet.message?_eq_some.mp hmessage
        have := htalk m hdecode
        rw [Packet.isWork_of_message hdecode]
        cases m <;> simp_all [isTalk, ControlMessage.isSpawn]
    exact .quiet ⟨rfl, rfl⟩ (by simp [Wire.packet, hidle])
  | reply hdecode _ hreply =>
    exact .quiet (Termination.onReply_counters hreply)
      (by simp [Wire.packet, Packet.isWork_of_message hdecode, ControlMessage.isSpawn])

/-- No work packet goes out while an item is dealt with. -/
theorem Deals.counted (h : Deals s item ws events t) : Counted s ws t := by
  cases h with
  | stopCopy _ hsingle =>
    refine .quiet ⟨rfl, rfl⟩ ?_
    rcases hsingle with rfl | rfl <;>
      simp [Wire.packet, Packet.isWork_toPacket, ControlMessage.isSpawn]
  | stopGlobal _ _ _ hcast =>
    refine .quiet (by simp) fun w hw => ?_
    rw [hcast.packet_eq w hw, Packet.isWork_toPacket]
    rfl
  | _ => exact .quiet ⟨rfl, rfl⟩ (by simp)

/-- One step counts the work packets that it sends and takes in. -/
theorem Step.counted (h : Step naming open_ s ws events t) : Counted s ws t := by
  cases h with
  | ask _ h => exact h.counted
  | quit hfarewell =>
    refine .quiet ⟨rfl, rfl⟩ fun w hw => ?_
    rw [hfarewell.packet_eq w hw, Packet.isWork_toPacket]
    rfl
  | take h => exact h.counted
  | deal _ h => exact ⟨h.counted.sent, h.counted.received⟩
  | probe _ hbegin hcast =>
    refine .quiet (Termination.beginWave_counters hbegin) fun w hw => ?_
    rw [hcast.packet_eq w hw, Packet.isWork_toPacket]
    rfl
  | _ => exact .quiet ⟨rfl, rfl⟩ (by simp)

theorem Wreck.counted {c : Crash} (h : Wreck naming open_ c s ws t) : Counted s ws t := by
  cases h with
  | lost | handed | misfit => exact .quiet ⟨rfl, rfl⟩ (by simp)
  | misfitCopy hdecode => exact .work (Packet.isWork_of_message hdecode) rfl rfl
  | overflow hdecode _ hreply =>
    exact .quiet (Termination.onReply_counters hreply)
      (by simp [Wire.packet, Packet.isWork_of_message hdecode, ControlMessage.isSpawn])

/-! ## Passive processes -/

namespace Passive

section

variable (hp : s.Passive)

include hp

omit [NetBehaviour σ] in
theorem slot?_eq_none (net : NetId) : s.registry.slot? net = none :=
  Registry.isDrained_iff.mp hp.1 net

theorem active_eq_none (hb : ∀ net, s.Backed net) (w : WorkerId) (net : NetId) :
    s.active w net = none :=
  ((hb net).absent (hp.slot?_eq_none net)).1 w

theorem not_firing (hb : ∀ net, s.Backed net) : ¬s.Firing := by
  rintro ⟨w, net, hsome⟩
  simp [hp.active_eq_none hb] at hsome

omit [NetBehaviour σ] in
theorem weight_eq_zero (hs : s.Sound) {rest : List (WorkItem σ)}
    (hhand : s.hand = item :: rest) : item.weight = 0 := by
  have howed := hs.owed
  rw [hp.2, count, hhand, List.countP_cons] at howed
  unfold WorkItem.weight
  omega

theorem takes (h : Takes s packet ws events t) (hidle : packet.isWork = false) :
    t.Passive ∧ t.termination.sent = s.termination.sent := by
  have hnone := hp.slot?_eq_none
  cases h with
  | tokens hparcel | lateTokens hparcel =>
    simp [Packet.isWork_of_tokens (Packet.tag_of_parcel hparcel)] at hidle
  | badTokens htag => simp [Packet.isWork_of_tokens htag] at hidle
  | spawned hdecode | spawnRefused hdecode =>
    simp [Packet.isWork_of_message hdecode, ControlMessage.isSpawn] at hidle
  | halted _ hbegin =>
    obtain ⟨slot, hslot, -⟩ := Registry.beginHalt_eq_started hbegin
    simp [hnone] at hslot
  | @haltAck m =>
    rcases countAck_cases s m with ⟨e, -, heq⟩ | ⟨slot, registry, hslot, -⟩
    · rw [heq]
      exact ⟨hp, rfl⟩
    · simp [hnone] at hslot
  | haltedBefore | quit | ignored | probe => exact ⟨hp, rfl⟩
  | reply _ _ hreply => exact ⟨hp, (Termination.onReply_counters hreply).1⟩

theorem deals {rest : List (WorkItem σ)} (h : Deals s item ws events t)
    (hhand : s.hand = item :: rest) (hs : s.Sound) :
    (t.finish item rest).Passive ∧ t.termination.sent = s.termination.sent := by
  have hweight := hp.weight_eq_zero hs hhand
  have hlog : t = s := by
    cases item with
    | startLog | stopLog =>
      cases h with
      | reroute hnet => simp [WorkItem.net?] at hnet
      | log => rfl
    | _ => simp [WorkItem.weight, WorkItem.isObligation] at hweight
  subst hlog
  refine ⟨⟨hp.1, ?_⟩, rfl⟩
  rw [finish_obligations, hp.2, Nat.zero_sub]

/-- A passive process that takes in no work stays passive and sends none. -/
theorem step (h : Step True False s ws events t) (hs : s.Sound)
    (hb : ∀ net, s.Backed net) (hidle : Wire.taken Packet.isWork ws = 0) :
    t.Passive ∧ t.termination.sent = s.termination.sent := by
  cases h with
  | rest | turn | quit | drain => exact ⟨hp, rfl⟩
  | ask hfiring => exact absurd hfiring (by simp [hp.not_firing hb])
  | take h =>
    refine hp.takes h ?_
    rw [Wire.taken_took] at hidle
    simp_all
  | deal hhand h => exact hp.deals h hhand hs
  | store h => simp [hp.active_eq_none hb] at h
  | probe _ hbegin => exact ⟨hp, (Termination.beginWave_counters hbegin).1⟩
  | requestFiring h | migrate h | migrateLost h => exact h.elim

theorem wreck {c : Crash} (h : Wreck True False c s ws t) (hb : ∀ net, s.Backed net)
    (hidle : Wire.taken Packet.isWork ws = 0) :
    t.Passive ∧ t.termination.sent = s.termination.sent := by
  cases h with
  | lost => exact ⟨hp, rfl⟩
  | handed h => simp [hp.active_eq_none hb] at h
  | misfit hfiring => exact absurd hfiring (by simp [hp.not_firing hb])
  | misfitCopy hdecode =>
    simp [Wire.taken_took, Packet.isWork_of_message hdecode, ControlMessage.isSpawn] at hidle
  | overflow _ _ hreply => exact ⟨hp, (Termination.onReply_counters hreply).1⟩

end

end Passive

end Scene

namespace Rules.Goes

open Scene

variable {σ : Type} [NetBehaviour σ] {s t : Scene σ} {ws : List Wire} {events : List TokenEvent}

theorem id_eq (h : (steps naming open_).Goes s ws events t) : t.id = s.id := by
  cases h with
  | step h => exact (Step.place_eq h).1
  | wreck h => cases h <;> rfl

theorem of_requests (h : (requests True).Goes s ws events t) : (steps True True).Goes s ws events t := by
  cases h with
  | step h => exact .step (Request.step h (.inl trivial))
  | wreck h =>
    cases h with
    | misfit howner hinsert hname hmade =>
      exact .wreck (.misfit (.inl trivial) howner hinsert hname hmade)

theorem backed_of_requests (h : (requests True).Goes s ws events t) (hs : s.Sound) {net : NetId}
    (hb : s.Backed net) : t.Backed net := by
  cases h with
  | step h => exact Request.backed h hs hb
  | wreck h => exact RequestWreck.backed h hb

theorem backed (h : (steps True False).Goes s ws events t) (hs : s.Sound) {net : NetId}
    (hb : s.Backed net) : t.Backed net := by
  cases h with
  | step h => exact Step.backed h hs False.elim hb
  | wreck h => exact Wreck.backed h hb

theorem counted (h : (steps naming open_).Goes s ws events t) : Counted s ws t := by
  cases h with
  | step h => exact Step.counted h
  | wreck h => exact Wreck.counted h

/-- A process that has no net and owes nothing stays so, and sends no work, unless it takes a work
packet in. -/
theorem passive (h : (steps True False).Goes s ws events t) (hs : s.Sound) (hb : ∀ net, s.Backed net)
    (hp : s.Passive) (hidle : Wire.taken Packet.isWork ws = 0) :
    t.Passive ∧ t.termination.sent = s.termination.sent := by
  cases h with
  | step h => exact hp.step h hs hb hidle
  | wreck h => exact hp.wreck h hb hidle

end Rules.Goes

end PetriCluster
