import PetriCluster.Proofs.Contents
import PetriCluster.Proofs.Worlds

/-!
# Every acknowledgment is on its way

A process that has halted a global net waits for acknowledgments of its peers. Each one it waits for
is somewhere: the peer has not yet taken in that the net halted, or has not yet stopped its copy, or
the acknowledgment is in the mailbox of the process.
-/

namespace PetriCluster

namespace Packet

/-- The packet says that a net halted at a process. -/
def isHaltedOf (net : NetId) (origin : ProcessId) (p : Packet) : Bool :=
  decide (p.message? = some (.halted net origin))

/-- An acknowledgment of the halt of a net. -/
def isHaltAckOf (net : NetId) (p : Packet) : Bool :=
  match p.message? with
  | some (.haltAck m _) => decide (m = net)
  | _ => false

/-- A packet about the halt of some net. -/
def isHaltTalk (p : Packet) : Bool :=
  match p.message? with
  | some (.halted ..) | some (.haltAck ..) => true
  | _ => false

variable {p : Packet} {net : NetId} {origin : ProcessId}

theorem isHaltedOf_eq_false (h : p.isHaltTalk = false) : p.isHaltedOf net origin = false := by
  simp only [isHaltedOf, decide_eq_false_iff_not]
  intro heq
  simp [isHaltTalk, heq] at h

theorem isHaltAckOf_eq_false (h : p.isHaltTalk = false) : p.isHaltAckOf net = false := by
  unfold isHaltAckOf
  unfold isHaltTalk at h
  split <;> simp_all

end Packet

/-- The item stops a net that halted at the given process. -/
def WorkItem.isHaltFor {σ : Type} (net : NetId) (origin : ProcessId) : WorkItem σ → Bool
  | halt m (some o) => decide (m = net ∧ o = origin)
  | _ => false

namespace Scene

variable {σ : Type} {s t : Scene σ} {net m : NetId}

/-- The acknowledgments the process waits for before it releases a net. -/
def pending (s : Scene σ) (net : NetId) : Nat :=
  (s.registry.slot? net).elim 0 Slot.pendingAcks

theorem pending_of_slot {slot : Slot} (h : s.registry.slot? net = some slot) :
    s.pending net = slot.pendingAcks := by
  simp [pending, h]

theorem pending_of_none (h : s.registry.slot? net = none) : s.pending net = 0 := by
  simp [pending, h]

theorem pending_update {slot : Option Slot}
    (h : t.registry.slot? = Function.update s.registry.slot? m slot) (net : NetId) :
    t.pending net = if net = m then slot.elim 0 Slot.pendingAcks else s.pending net := by
  rw [pending, h]
  split
  · rename_i hm
    rw [hm, Function.update_self]
  · rw [Function.update_of_ne ‹_›, pending]

theorem pending_of_update {slot : Option Slot}
    (h : t.registry.slot? = Function.update s.registry.slot? m slot)
    (hsame : slot.elim 0 Slot.pendingAcks = s.pending m) (net : NetId) :
    t.pending net = s.pending net := by
  rw [pending_update h, hsame]
  split
  · rw [‹net = m›]
  · rfl

/-- Another process of the cluster. -/
def IsPeer {n : Nat} (i : Fin n) (o : ProcessId) : Prop := ∃ k : Fin n, o = .at k ∧ k ≠ i

/-- What a step of process `i` does to the acknowledgments that are on their way. -/
structure AckFlow {n : Nat} (i : Fin n) (net : NetId) (s : Scene σ) (ws : List Wire) (t : Scene σ) :
    Prop where
  balance : ∀ j : Fin n,
    (if j = i then t.pending net + Wire.taken (Packet.isHaltAckOf net) ws else 0) +
        Wire.taken (Packet.isHaltedOf net (.at j)) ws + s.count (WorkItem.isHaltFor net (.at j)) =
      (if j = i then s.pending net else 0) + Wire.accepted (Packet.isHaltedOf net (.at j)) ws +
        Wire.acceptedFor (.at j) (Packet.isHaltAckOf net) ws + t.count (WorkItem.isHaltFor net (.at j))
  items : ∀ o, t.count (WorkItem.isHaltFor net o) ≤
    s.count (WorkItem.isHaltFor net o) + Wire.taken (Packet.isHaltedOf net o) ws
  sent : ∀ target packet, Wire.sent target packet ∈ ws → ∀ o, packet.message? = some (.halted net o) →
    o = .at i

variable {n : Nat} {i j : Fin n} {ws : List Wire}

theorem AckFlow.quiet (hpending : t.pending net = s.pending net)
    (hcount : ∀ o, t.count (WorkItem.isHaltFor net o) = s.count (WorkItem.isHaltFor net o))
    (hws : ∀ w ∈ ws, w.packet.isHaltTalk = false) : AckFlow i net s ws t where
  balance j := by
    have hhalted w (hw : w ∈ ws) : w.packet.isHaltedOf net (.at j) = false :=
      Packet.isHaltedOf_eq_false (hws w hw)
    have hack w (hw : w ∈ ws) : w.packet.isHaltAckOf net = false :=
      Packet.isHaltAckOf_eq_false (hws w hw)
    rw [Wire.taken_eq_zero hhalted, Wire.taken_eq_zero hack, Wire.accepted_eq_zero hhalted,
      Wire.acceptedFor_eq_zero hack, hpending, hcount]
    rfl
  items o := by
    rw [hcount o]
    exact Nat.le_add_right ..
  sent target packet hmem o hmessage := by
    have hquiet := hws _ hmem
    simp [Wire.packet, Packet.isHaltTalk, hmessage] at hquiet

theorem pending_insert {registry : Registry} {index : Nat} {owner : WorkerId}
    {parent : Option NetId} {isGlobal : Bool}
    (h : s.registry.insert m index owner parent isGlobal = .ok registry)
    (hregistry : t.registry = registry) (net : NetId) : t.pending net = s.pending net := by
  obtain ⟨hnone, hupdate⟩ := Registry.insert_eq_ok h
  subst hregistry
  exact pending_of_update hupdate (pending_of_none hnone).symm net

theorem pending_beginHalt {registry : Registry} {owner : WorkerId} {isGlobal : Bool}
    (h : s.registry.beginHalt m = .ok (.started owner isGlobal, registry))
    (hregistry : t.registry = registry) (net : NetId) : t.pending net = s.pending net := by
  obtain ⟨slot, hslot, -, -, -, hupdate⟩ := Registry.beginHalt_eq_started h
  subst hregistry
  exact pending_of_update hupdate (pending_of_slot hslot).symm net

variable [NetBehaviour σ] {events : List TokenEvent}

/-- What a net asks for does not touch acknowledgments. -/
theorem Asks.ackFlow {naming : Prop} (h : Asks naming s ws events t) (hs : s.Sound) :
    AckFlow i net s ws t := by
  cases h with
  | sendLocal h =>
    have howner := hs.live_owner h
    exact .quiet rfl (fun _ => by simp [count_post howner, WorkItem.isHaltFor]) (by simp)
  | sendRemote => exact .quiet rfl (fun _ => rfl) (by simp [Wire.packet, Packet.isHaltTalk])
  | sendRefused => exact .quiet rfl (fun _ => rfl) (by simp [Wire.packet, Packet.isHaltTalk])
  | draw => exact .quiet rfl (fun _ => rfl) (by simp)
  | spawn howner hinsert _ hws =>
    refine .quiet (pending_insert hinsert rfl net) (fun _ => ?_) ?_
    · simp [count_post, howner, WorkItem.isHaltFor]
    · split at hws
      · intro w hw
        simp [hws.packet_eq w hw, Packet.isHaltTalk]
      · simp [hws]
  | halt h =>
    obtain ⟨slot, hslot, rfl, -⟩ := Registry.beginHalt_eq_started h
    have howner := hs.owner_valid _ slot hslot
    refine .quiet (pending_beginHalt h rfl net) (fun _ => ?_) (by simp)
    simp [count_post, howner, WorkItem.isHaltFor]

theorem pending_countAck (ha : s.Accounted m) (hpos : 0 < s.pending m) (net : NetId) :
    (s.countAck m).pending net + (if m = net then 1 else 0) = s.pending net := by
  rcases countAck_cases s m with ⟨e, herror, -⟩ | ⟨slot, registry, hslot, -, hacks, hregistry, heq⟩
  · cases hslot : s.registry.slot? m with
    | none => simp [pending_of_none hslot] at hpos
    | some slot =>
      rw [pending_of_slot hslot] at hpos
      have hstate : slot.state = .halting := by
        cases (ha.resides slot hslot).stage with
        | stopped hstate => exact hstate
        | _ => omega
      have := Registry.acknowledge_eq_error herror hslot hstate
      omega
  · have hpending : (s.countAck m).pending net = (s.setRegistry registry).pending net := by
      rw [heq]
      split <;> rfl
    rw [hpending]
    by_cases hm : m = net
    · subst hm
      have hnew : (s.setRegistry registry).registry.slot? m =
          some { slot with pendingAcks := slot.pendingAcks - 1 } := by
        rw [setRegistry_registry, hregistry, Function.update_self]
      rw [pending_of_slot hnew, pending_of_slot hslot, if_pos rfl]
      simp only
      omega
    · rw [pending, setRegistry_registry, hregistry, Function.update_of_ne (Ne.symm hm), if_neg hm]
      rfl

variable {mail mail' : Fin n → List Packet}

theorem eq_sent_of_single {packet : Packet} {k : Fin n} (h : Wire.Single (.at k) packet ws)
    (hrefused : ∀ target packet, Wire.refused target packet ∈ ws → ∀ q, target = .at q → q = i)
    (hk : k ≠ i) : ws = [.sent (.at k) packet] := by
  rcases h with h | h
  · exact h
  · exact absurd (hrefused (.at k) packet (by simp [h]) k rfl) hk

/-- What one acknowledgment that goes out adds to those on their way. -/
theorem acceptedFor_haltAck (hn : n < IdSource.wordSize) (m net : NetId) (id : ProcessId) (j k : Fin n) :
    Wire.accepted (Packet.isHaltedOf net (.at j))
        [.sent (.at k) ((ControlMessage.haltAck m id).toPacket id)] = 0 ∧
      Wire.acceptedFor (.at j) (Packet.isHaltAckOf net)
        [.sent (.at k) ((ControlMessage.haltAck m id).toPacket id)] =
          if m = net ∧ k = j then 1 else 0 := by
  simp [Wire.accepted, Wire.isAccepted, Wire.acceptedFor, Wire.isAcceptedFor, Packet.isHaltAckOf,
    Packet.isHaltedOf, ProcessId.at_eq_iff hn, and_comm]

omit [NetBehaviour σ] in
/-- A packet that is not about halts leaves the acknowledgments alone. -/
theorem AckFlow.aside {packet : Packet} (hpacket : packet.isHaltTalk = false)
    (hpending : t.pending net = s.pending net)
    (hcount : ∀ o, t.count (WorkItem.isHaltFor net o) = s.count (WorkItem.isHaltFor net o)) :
    AckFlow i net s [.took packet] t :=
  .quiet hpending hcount (by simpa [Wire.packet] using hpacket)

omit [NetBehaviour σ] in
/-- A peer tells that a net has halted there: its owner here is to stop it, for that peer. -/
theorem AckFlow.halted {packet : Packet} {o : ProcessId} {owner : WorkerId} {isGlobal : Bool}
    {registry : Registry} (hs : s.Sound) (hmessage : packet.message? = some (.halted m o))
    (hbegin : s.registry.beginHalt m = .ok (.started owner isGlobal, registry)) :
    AckFlow i net s [.took packet] ((s.setRegistry registry).post owner (.halt m (some o))) := by
  obtain ⟨slot, hslot, rfl, -⟩ := Registry.beginHalt_eq_started hbegin
  have howner := hs.owner_valid _ slot hslot
  have hack : packet.isHaltAckOf net = false := by simp [Packet.isHaltAckOf, hmessage]
  have htaken (q : ProcessId) : Wire.taken (Packet.isHaltedOf net q) [.took packet] =
      if m = net ∧ o = q then 1 else 0 := by
    simp [Wire.taken_took, Packet.isHaltedOf, hmessage]
  have hcount (q : ProcessId) : ((s.setRegistry registry).post slot.owner (.halt m (some o))).count
      (WorkItem.isHaltFor net q) =
        s.count (WorkItem.isHaltFor net q) + if m = net ∧ o = q then 1 else 0 := by
    simp [count_post, howner, WorkItem.isHaltFor]
  refine ⟨fun j => ?_, fun q => by rw [hcount, htaken], by simp⟩
  rw [pending_beginHalt hbegin rfl, hcount, htaken]
  simp only [Wire.taken_took, Wire.accepted_took, Wire.acceptedFor_took, hack]
  simp [Wire.accepted, Wire.acceptedFor]
  omega

omit [NetBehaviour σ] in
/-- A peer tells of the halt of a net that is not live here: it gets its acknowledgment at once. -/
theorem AckFlow.haltedBefore {packet : Packet} {k : Fin n} (hn : n < IdSource.wordSize)
    (hmessage : packet.message? = some (.halted m (.at k))) :
    AckFlow i net s [.took packet, .sent (.at k) ((ControlMessage.haltAck m s.id).toPacket s.id)] s := by
  have hack : packet.isHaltAckOf net = false := by simp [Packet.isHaltAckOf, hmessage]
  refine ⟨fun j => ?_, fun q => Nat.le_add_right .., by simp⟩
  have hhalted : packet.isHaltedOf net (.at j) = decide (m = net ∧ k = j) := by
    simp only [Packet.isHaltedOf, hmessage, Option.some.injEq, ControlMessage.halted.injEq,
      ProcessId.at_eq_iff hn]
  obtain ⟨haccepted, hfor⟩ := acceptedFor_haltAck hn m net s.id j k
  simp only [Wire.taken_took, Wire.accepted_took, Wire.acceptedFor_took, hack, hhalted, haccepted, hfor]
  simp

/-- An acknowledgment that is waited for comes in. -/
theorem AckFlow.haltAck {packet : Packet} {sender : ProcessId} (hs : s.Orderly i)
    (hmessage : packet.message? = some (.haltAck m sender)) (hpos : 0 < s.pending m) :
    AckFlow i net s [.took packet] (s.countAck m) := by
  have hpending := pending_countAck (hs.accounted m) hpos net
  have hcount (q : ProcessId) : (s.countAck m).count (WorkItem.isHaltFor net q) =
      s.count (WorkItem.isHaltFor net q) := count_excuse hs.sound m 1 rfl
  have hack : packet.isHaltAckOf net = decide (m = net) := by simp [Packet.isHaltAckOf, hmessage]
  have hhalted (q : ProcessId) : packet.isHaltedOf net q = false := by
    simp [Packet.isHaltedOf, hmessage]
  refine ⟨fun j => ?_, fun q => by rw [hcount]; exact Nat.le_add_right .., by simp⟩
  simp only [Wire.taken_took, Wire.accepted_took, Wire.acceptedFor_took, hack, hhalted, hcount,
    decide_eq_true_eq]
  simp only [Wire.taken, Wire.accepted, Wire.acceptedFor, List.countP_nil]
  split
  · simp
    omega
  · simp

/-- Taking a packet in loses no acknowledgment, if news of halts comes from peers and acknowledgments
come only to those who wait for them. -/
theorem Takes.ackFlow {packet : Packet} (h : Takes s packet ws events t) (hn : n < IdSource.wordSize)
    (hs : s.Orderly i) (hex : Exchange i mail (.took packet :: ws) mail')
    (horigin : ∀ m o, packet.message? = some (.halted m o) → IsPeer i o)
    (hexpected : ∀ m sender, packet.message? = some (.haltAck m sender) → 0 < s.pending m) :
    AckFlow i net s (.took packet :: ws) t := by
  cases h with
  | tokens hparcel howner =>
    have howner := hs.sound.live_owner howner
    have hmessage := Packet.message?_of_tokens (Packet.tag_of_parcel hparcel)
    refine .aside (by simp [Packet.isHaltTalk, hmessage]) rfl fun _ => ?_
    simp [count_post, howner, WorkItem.isHaltFor]
  | lateTokens hparcel =>
    have hmessage := Packet.message?_of_tokens (Packet.tag_of_parcel hparcel)
    exact .aside (by simp [Packet.isHaltTalk, hmessage]) rfl fun _ => rfl
  | badTokens htag =>
    have hmessage := Packet.message?_of_tokens htag
    exact .aside (by simp [Packet.isHaltTalk, hmessage]) rfl fun _ => rfl
  | spawned hdecode howner hinsert =>
    have hmessage := Packet.message?_eq_some.mpr hdecode
    refine .aside (by simp [Packet.isHaltTalk, hmessage]) (pending_insert hinsert rfl net) fun _ => ?_
    simp [count_post, howner, WorkItem.isHaltFor]
  | spawnRefused hdecode | quit hdecode | reply hdecode =>
    have hmessage := Packet.message?_eq_some.mpr hdecode
    exact .aside (by simp [Packet.isHaltTalk, hmessage]) rfl fun _ => rfl
  | halted hdecode hbegin => exact .halted hs.sound (Packet.message?_eq_some.mpr hdecode) hbegin
  | @haltedBefore m o _ hdecode hsingle =>
    have hmessage := Packet.message?_eq_some.mpr hdecode
    obtain ⟨k, rfl, hk⟩ := horigin m o hmessage
    obtain rfl := eq_sent_of_single hsingle
      (fun target p hmem => hex.refused target p (List.mem_cons_of_mem _ hmem)) hk
    exact .haltedBefore hn hmessage
  | @haltAck m sender hdecode =>
    have hmessage := Packet.message?_eq_some.mpr hdecode
    exact .haltAck hs hmessage (hexpected m sender hmessage)
  | ignored htag hmessages =>
    refine .aside ?_ rfl fun _ => rfl
    unfold Packet.isHaltTalk
    split
    · rename_i m o hmessage
      simpa [isTalk] using hmessages _ (Packet.message?_eq_some.mp hmessage)
    · rename_i m o hmessage
      simpa [isTalk] using hmessages _ (Packet.message?_eq_some.mp hmessage)
    · rfl
  | probe hdecode _ hsingle =>
    have hmessage := Packet.message?_eq_some.mpr hdecode
    refine .quiet rfl (fun _ => rfl) ?_
    rcases hsingle with rfl | rfl <;> simp [Wire.packet, Packet.isHaltTalk, hmessage]

variable {item : WorkItem σ} {rest : List (WorkItem σ)}

omit [NetBehaviour σ] in
theorem AckFlow.stopCopy (hn : n < IdSource.wordSize) (hworker : s.HasWorker s.worker) {k : Fin n}
    (hhand : s.hand = .halt m (some (.at k)) :: rest) (state : σ) :
    AckFlow i net s [.sent (.at k) ((ControlMessage.haltAck m s.id).toPacket s.id)]
      (((s.stop s.worker m state).post s.worker (.reclaim m)).finish (.halt m (some (.at k))) rest) := by
  have hcount (o : ProcessId) :
      (((s.stop s.worker m state).post s.worker (.reclaim m)).finish
        (.halt m (some (.at k))) rest).count (WorkItem.isHaltFor net o) +
          (if m = net ∧ ProcessId.at k = o then 1 else 0) = s.count (WorkItem.isHaltFor net o) := by
    have hfinish := count_finish (hand_stop_post m state (.reclaim m) hhand) (WorkItem.isHaltFor net o)
    simpa [count_post, hworker, WorkItem.isHaltFor] using hfinish
  refine ⟨fun j => ?_, fun o => ?_, by simp⟩
  · obtain ⟨haccepted, hfor⟩ := acceptedFor_haltAck hn m net s.id j k
    have hpending : (((s.stop s.worker m state).post s.worker (.reclaim m)).finish
      (.halt m (some (.at k))) rest).pending net = s.pending net := by simp [pending]
    rw [← hcount, haccepted, hfor, hpending]
    simp only [Wire.taken_sent, Wire.taken_nil, Nat.add_zero, ProcessId.at_eq_iff hn]
    omega
  · have := hcount o
    omega

theorem AckFlow.stopGlobal (hn : n < IdSource.wordSize) (hs : s.Orderly i)
    (hex : Exchange i mail ws mail') {state : σ} {registry : Registry}
    (hhand : s.hand = .halt m none :: rest) (hactive : s.active s.worker m = some state)
    (hexpect : s.registry.expectAcks m (s.processCount - 1) = .ok registry)
    (hcast : Wire.Broadcast ((ControlMessage.halted m s.id).toPacket s.id) s.peers ws) :
    AckFlow i net s ws (((s.setRegistry registry).stop s.worker m state).finish (.halt m none) rest) := by
  rw [Scene.peers, hs.id, hs.processCount] at hcast
  obtain ⟨slot, -, -, hupdate⟩ := Registry.expectAcks_eq_ok hexpect
  obtain ⟨found, hfound, -, -, -, -, -, -, -, hacks⟩ := (hs.accounted m).stopping hhand hactive
  have hbefore : s.pending m = 0 := by rw [pending_of_slot hfound, hacks]
  have hafter : (((s.setRegistry registry).stop s.worker m state).finish (.halt m none) rest).pending net =
      if net = m then s.processCount - 1 else s.pending net :=
    pending_update (t := s.setRegistry registry) hupdate net
  have hcount (o : ProcessId) : (((s.setRegistry registry).stop s.worker m state).finish
      (.halt m none) rest).count (WorkItem.isHaltFor net o) = s.count (WorkItem.isHaltFor net o) :=
    count_finish_of_not (s := (s.setRegistry registry).stop s.worker m state) hhand rfl
  refine ⟨fun j => ?_, fun o => by rw [hcount]; exact Nat.le_add_right .., ?_⟩
  · have haccepted : Wire.accepted (Packet.isHaltedOf net (.at j)) ws =
        if m = net ∧ i = j then n - 1 else 0 := by
      split
      · rename_i heq
        have hall := hcast.accepted_eq (f := Packet.isHaltedOf net (.at j))
          (by simp [Packet.isHaltedOf, heq])
        rwa [ProcessId.length_peers hn, hex.none_refused hcast] at hall
      · rename_i hne
        refine Wire.accepted_eq_zero fun w hw => ?_
        rw [hcast.packet_eq w hw]
        simpa [Packet.isHaltedOf, ProcessId.at_eq_iff hn] using hne
    have hack : Wire.acceptedFor (.at j) (Packet.isHaltAckOf net) ws = 0 := by
      refine Wire.acceptedFor_eq_zero (fun w hw => ?_) _
      simp [hcast.packet_eq w hw, Packet.isHaltAckOf]
    rw [hafter, hcast.taken_eq, hcast.taken_eq, haccepted, hack, hcount, hs.processCount]
    by_cases hj : j = i
    · by_cases hm : net = m
      · simp [hj, hm, hbefore]
      · simp [hj, hm, Ne.symm hm]
    · simp [hj, Ne.symm hj]
  · intro target packet hmem o hmessage
    obtain rfl : packet = _ := hcast.packet_eq _ hmem
    simp only [Packet.message?_toPacket, Option.some.injEq, ControlMessage.halted.injEq] at hmessage
    exact hmessage.2.symm

/-- Only a halt that was asked for by a peer sends an acknowledgment, and only the halt of a global
net makes a process wait for some. -/
theorem Deals.ackFlow (h : Deals s item ws events t) (hhand : s.hand = item :: rest)
    (hn : n < IdSource.wordSize) (hs : s.Orderly i) (hex : Exchange i mail ws mail')
    (horigin : ∀ m o, 0 < s.count (WorkItem.isHaltFor m o) → IsPeer i o) :
    AckFlow i net s ws (t.finish item rest) := by
  have hworker : s.HasWorker s.worker := hs.sound.hand_valid (by simp [hhand])
  cases h with
  | @adopt _ _ registry hactivate =>
    obtain ⟨slot, hslot, -, hupdate⟩ := Registry.activate_eq_ok hactivate
    have hpending := pending_of_update (t := s.setRegistry registry) hupdate
      (pending_of_slot hslot).symm net
    exact .quiet hpending (fun _ => count_finish_of_not hhand rfl) (by simp)
  | hand | fired | drop => exact .quiet rfl (fun _ => count_finish_of_not hhand rfl) (by simp)
  | reroute _ _ _ _ _ howner =>
    obtain ⟨slot, hslot, rfl⟩ := Registry.owner?_eq_some.mp howner
    have howner := hs.sound.owner_valid _ slot hslot
    refine .quiet rfl (fun o => ?_) (by simp)
    have hcount := count_finish (s := s.post slot.owner item) hhand (WorkItem.isHaltFor net o)
    rw [count_post howner] at hcount
    omega
  | dropHalt _ hgone =>
    obtain ⟨hnone, hslot⟩ := (hs.accounted _).not_stopped hhand
    exact absurd hgone (by simp [hnone, hslot])
  | stopForgotten hactive hnone =>
    obtain ⟨slot, hslot, -⟩ := (hs.accounted _).slot_of_active hactive
    simp [hnone] at hslot
  | @stopCopy m o state _ hactive hsingle =>
    have hpos := countAt_pos_of_hand (f := WorkItem.isHaltFor m o) hhand (by simp [WorkItem.isHaltFor])
    have hle := countAt_le_count (s := s) s.worker (WorkItem.isHaltFor m o)
    obtain ⟨k, rfl, hk⟩ := horigin m o (by omega)
    obtain rfl := eq_sent_of_single hsingle hex.refused hk
    exact .stopCopy hn hworker hhand state
  | @stopLocal m state hactive =>
    refine .quiet (by simp [pending]) (fun o => ?_) (by simp)
    rw [count_finish_of_not (hand_stop_post m state (.reclaim m) hhand) rfl]
    simp [count_post, hworker, WorkItem.isHaltFor]
  | stopGlobal hactive _ hexpect hcast =>
    have hnone : ws.countP Wire.isRefused = 0 := by
      rw [Scene.peers, hs.id, hs.processCount] at hcast
      exact hex.none_refused hcast
    rw [hnone]
    exact .stopGlobal hn hs hex hhand hactive hexpect hcast
  | @reclaim m slot registry hretire =>
    obtain ⟨slot, hslot, -, hupdate⟩ := Registry.retire_eq_ok hretire
    have hacks : s.pending m = 0 := by
      have hpos := countAt_pos_of_hand (f := WorkItem.isReclaimOf m) hhand
        (by simp [WorkItem.isReclaimOf])
      have hle := countAt_le_count (s := s) s.worker (WorkItem.isReclaimOf m)
      rw [pending_of_slot hslot]
      cases ((hs.accounted m).resides slot hslot).stage <;> omega
    exact .quiet (pending_of_update (t := s.setRegistry registry) hupdate hacks.symm net)
      (fun _ => count_finish_of_not hhand rfl) (by simp)
  | reclaimRefused hretire => exact absurd hretire ((hs.accounted _).retires hhand _)
  | log hweight =>
    refine .quiet rfl (fun _ => count_finish_of_not hhand ?_) (by simp)
    cases item <;> first | rfl | simp [WorkItem.weight, WorkItem.isObligation] at hweight

/-- No step loses, repeats or anticipates an acknowledgment, if packets and items tell of halts at peers
and only those acknowledgments arrive that are waited for. -/
theorem Step.ackFlow {naming open_ : Prop} (h : Step naming open_ s ws events t)
    (hn : n < IdSource.wordSize) (hs : s.Orderly i) (hex : Exchange i mail ws mail')
    (hmail : ∀ packet ∈ mail i, ∀ m o, packet.message? = some (.halted m o) → IsPeer i o)
    (hitems : ∀ m o, 0 < s.count (WorkItem.isHaltFor m o) → IsPeer i o)
    (hacks : ∀ packet ∈ mail i, ∀ m o, packet.message? = some (.haltAck m o) → 0 < s.pending m) :
    AckFlow i net s ws t := by
  cases h with
  | rest | turn | store | migrateLost => exact .quiet rfl (fun _ => rfl) (by simp)
  | ask _ h => exact h.ackFlow hs.sound
  | quit hfarewell =>
    refine .quiet rfl (fun _ => rfl) fun w hw => ?_
    simp [hfarewell.packet_eq w hw, Packet.isHaltTalk]
  | take h =>
    have hmem := hex.took_mem hn (List.mem_cons_self ..)
    exact h.ackFlow hn hs hex (hmail _ hmem) (hacks _ hmem)
  | drain hhand => exact .quiet rfl (fun _ => count_drain hhand _) (by simp)
  | deal hhand h => exact h.ackFlow hhand hn hs hex hitems
  | probe _ _ hcast =>
    refine .quiet rfl (fun _ => rfl) fun w hw => ?_
    simp [hcast.packet_eq w hw, Packet.isHaltTalk]
  | requestFiring _ howner =>
    have howner := hs.sound.live_owner howner
    exact .quiet rfl (fun _ => by simp [count_post howner, WorkItem.isHaltFor]) (by simp)
  | @migrate _ _ _ _ registry _ _ htarget howner =>
    obtain ⟨slot, hslot, hupdate⟩ := Registry.setOwner_eq_ok howner
    have hpending := pending_of_update (t := s.setRegistry registry) hupdate
      (pending_of_slot hslot).symm net
    exact .quiet hpending (fun _ => by simp [count_post, htarget, WorkItem.isHaltFor]) (by simp)

end Scene

namespace World

variable {n : Nat} {σ : Type} [NetBehaviour σ] {w w' : World n σ} {i : Fin n} {events : List TokenEvent}

/-- Every process waits for as many acknowledgments as are on their way to it. -/
structure Acknowledged (w : World n σ) : Prop where
  size : n < IdSource.wordSize
  orderly : w.Orderly
  mail : ∀ q, ∀ packet ∈ w.mail q, ∀ m o, packet.message? = some (.halted m o) → Scene.IsPeer q o
  items : ∀ q m o, 0 < (w.scene q).count (WorkItem.isHaltFor m o) → Scene.IsPeer q o
  pending : ∀ i net, (w.scene i).pending net =
    ∑ q, (w.mail q).countP (Packet.isHaltedOf net (.at i)) +
      ∑ q, (w.scene q).count (WorkItem.isHaltFor net (.at i)) +
      (w.mail i).countP (Packet.isHaltAckOf net)

theorem Fresh.acknowledged (h : w.Fresh) : w.Acknowledged where
  size := h.size
  orderly := h.orderly
  mail q packet hmem := by simp [h.mail q] at hmem
  items q m o hpos := by simp [(h.scene q).count] at hpos
  pending i net := by
    have hslot : (w.scene i).registry.slot? net = none := (h.scene i).slots net
    simp [Scene.pending_of_none hslot, h.mail, (h.scene _).count]

theorem Moves.acknowledged [LawfulNet σ] {naming open_ : Prop}
    (h : w.Moves (Scene.Step naming open_) i events w')
    (hw : w.Acknowledged) : w'.Acknowledged := by
  have horderly := h.orderly hw.orderly
  obtain @⟨ws, _, t, mail, hstep, hex⟩ := h
  have hacks packet (hmem : packet ∈ w.mail i) m o (hmessage : packet.message? = some (.haltAck m o)) :
      0 < (w.scene i).pending m := by
    have hpos : 0 < (w.mail i).countP (Packet.isHaltAckOf m) :=
      List.countP_pos_iff.mpr ⟨packet, hmem, by simp [Packet.isHaltAckOf, hmessage]⟩
    rw [hw.pending]
    omega
  have hflow net : Scene.AckFlow i net (w.scene i) ws t :=
    hstep.ackFlow hw.size (hw.orderly i) hex (hw.mail i) (hw.items i) hacks
  refine ⟨hw.size, horderly, fun q packet hmem m o hmessage => ?_, ?_, fun j net => ?_⟩
  · rcases hex.mem hmem with hold | hsent
    · exact hw.mail q packet hold m o hmessage
    · obtain ⟨k, hk, hne⟩ := hex.sent _ _ hsent
      obtain rfl := ProcessId.at_inj hw.size hk
      exact ⟨i, (hflow m).sent _ _ hsent o hmessage, Ne.symm hne⟩
  · refine (Function.forall_update_iff w.scene
      fun q s => ∀ m o, 0 < s.count (WorkItem.isHaltFor m o) → Scene.IsPeer q o).mpr
      ⟨fun m o hpos => ?_, fun q _ => hw.items q⟩
    have hitems := (hflow m).items o
    by_cases hold : 0 < (w.scene i).count (WorkItem.isHaltFor m o)
    · exact hw.items i m o hold
    · have htaken : 0 < Wire.taken (Packet.isHaltedOf m o) ws := by omega
      obtain ⟨wire, hwire, htook⟩ := List.countP_pos_iff.mp htaken
      cases wire with
      | took packet =>
        exact hw.mail i packet (hex.took_mem hw.size hwire) m o (of_decide_eq_true htook)
      | sent | refused => simp [Wire.isTaken] at htook
  · have hbalance := (hflow net).balance j
    have hhalted := hex.total hw.size (Packet.isHaltedOf net (.at j))
    have hack := hex.count j (Packet.isHaltAckOf net)
    have hcount := sum_update w.scene i t (·.count (WorkItem.isHaltFor net (.at j)))
    have hold := hw.pending j net
    by_cases hj : j = i
    · subst hj
      simp only [if_true, Function.update_self] at *
      omega
    · simp only [hj, if_false, Function.update_of_ne hj] at *
      omega

end World

end PetriCluster
