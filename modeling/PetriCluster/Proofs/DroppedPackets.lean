import PetriCluster.Proofs.Detection
import PetriCluster.Proofs.Errands
import Mathlib

/-!
# Packets that a process has no use for

Packets come late, come twice or are broken. A process that has no use for a packet drops it: it
counts the packet, and apart from that the packet leaves no trace, neither in the process nor in the
transport (`Node.dispatch_of_useless`).
-/

namespace PetriCluster

/-- The packet tells of a new net. -/
def Packet.tellsOfNet (packet : Packet) : Bool :=
  packet.message?.any ControlMessage.isSpawn

namespace Process

variable {σ : Type}

/-- The packet is of no use for the process. -/
inductive Useless (p : Process σ) (packet : Packet) : Prop
  | undecodable {e : DecodeError} : packet.tag = .service →
      ControlMessage.decode packet.body = .error e → Useless p packet
  | short : packet.tag = .tokens → packet.body.length < 12 → Useless p packet
  | late {parcel : Parcel} : packet.parcel = .ok parcel →
      (∀ slot, p.registry.slot? parcel.net = some slot → slot.state.isLive = false) →
      Useless p packet
  | foreign {net : NetId} {template : UInt32} {parent : Option NetId} {origin : ProcessId} :
      ControlMessage.ofPacket packet = .ok (.spawned net template parent origin) →
      p.templates.length ≤ template.toNat → Useless p packet
  | duplicate {net : NetId} {template : UInt32} {parent : Option NetId} {origin : ProcessId} :
      ControlMessage.ofPacket packet = .ok (.spawned net template parent origin) →
      p.registry.slot? net ≠ none ∨ p.registry.isRetired net = true → Useless p packet
  | unasked {net : NetId} {sender : ProcessId} :
      ControlMessage.ofPacket packet = .ok (.haltAck net sender) →
      (∀ slot, p.registry.slot? net = some slot → slot.state = .halting → slot.pendingAcks = 0) →
      Useless p packet
  | misled {wave : UInt64} {sender : ProcessId} {answer : ProbeSnapshot} :
      ControlMessage.ofPacket packet = .ok (.probeReply wave sender answer) →
      p.id ≠ ⟨0⟩ → Useless p packet

/-- The process after it has dropped packets: all of them are counted, work packets also as received, and
news of nets have moved on whose turn it is to own a copy. -/
def discarded (p : Process σ) (packets : List Packet) : Process σ :=
  { p with
    stats := { p.stats with protocolErrors := p.stats.protocolErrors + packets.length }
    termination := { p.termination with
      received := p.termination.received + packets.countP Packet.isWork }
    copies := p.copies + packets.countP Packet.tellsOfNet }

theorem discarded_cons (p : Process σ) (packet : Packet) (packets : List Packet) :
    p.discarded (packet :: packets) = (p.discarded [packet]).discarded packets := by
  have hlength (k : Nat) : k + (packets.length + 1) = k + 1 + packets.length := by omega
  have hcount (f : Packet → Bool) (k : Nat) :
      k + (packet :: packets).countP f = k + [packet].countP f + packets.countP f := by
    rw [List.countP_cons, List.countP_singleton]
    omega
  simp only [discarded, List.length_cons, hlength, hcount, List.length_nil, Nat.zero_add]

theorem Useless.discarded {p : Process σ} {packet : Packet} (h : p.Useless packet)
    (packets : List Packet) : (p.discarded packets).Useless packet := by
  cases h with
  | undecodable htag hdecode => exact .undecodable htag hdecode
  | short htag hshort => exact .short htag hshort
  | late hparcel hdead => exact .late hparcel hdead
  | foreign hmessage htemplate => exact .foreign hmessage htemplate
  | duplicate hmessage hknown => exact .duplicate hmessage hknown
  | unasked hmessage hnone => exact .unasked hmessage hnone
  | misled hmessage hother => exact .misled hmessage hother

theorem discarded_single {packet : Packet} {isWork tellsOfNet : Bool} (p : Process σ)
    (hwork : packet.isWork = isWork) (hnews : packet.tellsOfNet = tellsOfNet) :
    p.discarded [packet] = { p with
      stats := { p.stats with protocolErrors := p.stats.protocolErrors + 1 }
      termination := { p.termination with received := p.termination.received + isWork.toNat }
      copies := p.copies + tellsOfNet.toNat } := by
  subst hwork hnews
  simp only [discarded, List.countP_singleton, List.length_singleton]
  cases packet.isWork <;> cases packet.tellsOfNet <;> rfl

end Process

namespace Registry

variable {r : Registry} {net : NetId}

theorem insert_of_known {template : Nat} {owner : WorkerId} {parent : Option NetId} {isGlobal : Bool}
    (h : r.slot? net ≠ none ∨ r.isRetired net = true) :
    r.insert net template owner parent isGlobal = .error (.duplicateNet net) := by
  unfold insert
  rw [if_pos]
  rw [Bool.or_eq_true, Option.isSome_iff_ne_none]
  exact h.symm

theorem acknowledge_of_none
    (h : ∀ slot, r.slot? net = some slot → slot.state = .halting → slot.pendingAcks = 0) :
    ∃ e, r.acknowledge net = .error e := by
  unfold acknowledge
  cases hslot : r.slot? net with
  | none => exact ⟨_, rfl⟩
  | some slot =>
    have hguard : slot.state ≠ .halting ∨ slot.pendingAcks = 0 := by
      by_cases hstate : slot.state = .halting
      · exact .inr (h slot hslot hstate)
      · exact .inl hstate
    exact ⟨_, if_pos hguard⟩

theorem liveOwner?_of_dead (h : ∀ slot, r.slot? net = some slot → slot.state.isLive = false) :
    r.liveOwner? net = none := by
  cases hslot : r.slot? net with
  | none => exact liveOwner?_of_none hslot
  | some slot => simp [liveOwner?, hslot, h slot hslot]

end Registry

namespace Packet

variable {packet : Packet}

theorem tellsOfNet_of_tokens (h : packet.tag = .tokens) : packet.tellsOfNet = false := by
  rw [tellsOfNet, message?_of_tokens h]
  rfl

theorem tellsOfNet_of_message {m : ControlMessage} (h : ControlMessage.ofPacket packet = .ok m) :
    packet.tellsOfNet = m.isSpawn := by
  rw [tellsOfNet, message?_eq_some.mpr h]
  rfl

theorem ofPacket_of_undecodable {e : DecodeError} (htag : packet.tag = .service)
    (h : ControlMessage.decode packet.body = .error e) :
    ControlMessage.ofPacket packet = .error (.encoding e) := by
  simp [ControlMessage.ofPacket, htag, h]

end Packet

namespace Node

variable {σ τ : Type} [NetBehaviour σ] [Transport τ] {n : Node σ τ} {packet : Packet}

/-- A process acts on a message as it would on the packet that brings it. -/
theorem dispatch_message {message : ControlMessage} (h : ControlMessage.ofPacket packet = .ok message)
    (n : Node σ τ) : dispatch packet n = handleControl message n := by
  unfold dispatch
  rw [Packet.tag_of_message h, h]

theorem handleControl_refusedCopy {net : NetId} {template : UInt32} {parent : Option NetId}
    {origin : ProcessId} (h : n.process.templates.length ≤ template.toNat ∨
      n.process.registry.slot? net ≠ none ∨ n.process.registry.isRetired net = true) :
    handleControl (.spawned net template parent origin) n = .ok () { n with
      process := { n.process with
        stats := { n.process.stats with protocolErrors := n.process.stats.protocolErrors + 1 }
        termination := n.process.termination.recordReceived
        copies := n.process.copies + 1 } } := by
  simp only [handleControl, bind_apply, recordReceived, modifyProcess_apply, attempt_apply, spawnCopy,
    nextOwner, getProcess_apply, pure_apply, getTemplate_apply]
  cases htemplate : n.process.templates[template.toNat]? with
  | none => rfl
  | some found =>
    have hknown := h.resolve_left (Nat.not_le.mpr (List.getElem?_eq_some_iff.mp htemplate).1)
    simp only [createInstance_apply, Registry.insert_of_known hknown]
    rfl

theorem dispatch_of_useless (hself : n.process.termination.process = n.process.id)
    (h : n.process.Useless packet) :
    dispatch packet n = .ok () { n with process := n.process.discarded [packet] } := by
  cases h with
  | undecodable htag hdecode =>
    have hnone := Packet.ofPacket_of_undecodable htag hdecode
    have hmessage : packet.message? = none := by rw [Packet.message?, hnone]; rfl
    have hwork : packet.isWork = false := by simp [Packet.isWork, htag, hmessage]
    have hnews : packet.tellsOfNet = false := by simp [Packet.tellsOfNet, hmessage]
    rw [n.process.discarded_single hwork hnews]
    unfold dispatch
    rw [htag, hnone]
    rfl
  | short htag hshort =>
    have hparcel : packet.parcel = .error (.shortTokens packet.body.length) := by
      simp [Packet.parcel, htag, Packet.parcelHeaderLength, hshort]
    rw [n.process.discarded_single (Packet.isWork_of_tokens htag) (Packet.tellsOfNet_of_tokens htag)]
    unfold dispatch
    rw [htag, hparcel]
    rfl
  | late hparcel hdead =>
    have htag := Packet.tag_of_parcel hparcel
    rw [n.process.discarded_single (Packet.isWork_of_tokens htag) (Packet.tellsOfNet_of_tokens htag)]
    unfold dispatch
    simp only [htag, hparcel, deliver, bind_apply, recordReceived, modifyProcess_apply,
      getProcess_apply, Registry.liveOwner?_of_dead hdead]
    rfl
  | foreign hmessage htemplate =>
    rw [n.process.discarded_single (Packet.isWork_of_message hmessage)
      (Packet.tellsOfNet_of_message hmessage), dispatch_message hmessage,
      handleControl_refusedCopy (.inl htemplate)]
    rfl
  | duplicate hmessage hknown =>
    rw [n.process.discarded_single (Packet.isWork_of_message hmessage)
      (Packet.tellsOfNet_of_message hmessage), dispatch_message hmessage,
      handleControl_refusedCopy (.inr hknown)]
    rfl
  | unasked hmessage hnone =>
    obtain ⟨e, hack⟩ := Registry.acknowledge_of_none hnone
    rw [n.process.discarded_single (Packet.isWork_of_message hmessage)
      (Packet.tellsOfNet_of_message hmessage), dispatch_message hmessage]
    simp only [handleControl, bind_apply, attempt_apply, countAck, withRegistry_apply, hack]
    rfl
  | misled hmessage hother =>
    have hpeer : n.process.termination.isCoordinator = false := by
      rw [Termination.isCoordinator, hself, beq_eq_false_iff_ne]
      intro hzero
      exact hother (by rw [← hzero])
    rw [n.process.discarded_single (Packet.isWork_of_message hmessage)
      (Packet.tellsOfNet_of_message hmessage), dispatch_message hmessage]
    simp only [handleControl, collectReply, bind_apply, getProcess_apply, hpeer]
    rfl

/-- Useless packets leave nothing but counts, however many there are. -/
theorem forM_dispatch_of_useless {packets : List Packet}
    (hself : n.process.termination.process = n.process.id)
    (h : ∀ packet ∈ packets, n.process.Useless packet) :
    (forM packets dispatch : NodeM σ τ Unit) n = .ok () { n with process := n.process.discarded packets } := by
  induction packets generalizing n with
  | nil => rfl
  | cons packet rest ih =>
    have hfirst := dispatch_of_useless hself (h packet (List.mem_cons_self ..))
    have hrest : ∀ other ∈ rest, (n.process.discarded [packet]).Useless other := fun other hother =>
      (h other (List.mem_cons_of_mem _ hother)).discarded [packet]
    rw [List.forM_cons, bind_apply, hfirst, n.process.discarded_cons packet rest]
    exact ih hself hrest

end Node

theorem Process.create_placed {σ : Type} {settings : Settings} {templates : List (Template σ)}
    {id : ProcessId} {count : Nat} {p : Process σ}
    (h : Process.create settings templates id count = .ok p) :
    ∃ i : Fin count, p.front.Placed settings i := by
  obtain ⟨-, -, hplace, hcount, -⟩ := create_eq_ok h
  have hat : ProcessId.at ⟨id.index, hplace⟩ = id :=
    ProcessId.index_inj (ProcessId.index_at hcount ⟨id.index, hplace⟩)
  rw [front_create h]
  exact ⟨⟨id.index, hplace⟩, hat.symm, rfl, rfl, hat.symm, rfl⟩

theorem Process.foldl_after_placed {σ τ : Type} [NetBehaviour σ] [Transport τ] {settings : Settings}
    {count : Nat} {i : Fin count} {p : Process σ} (hp : p.front.Placed settings i)
    (errands : List (Errand σ τ)) : (errands.foldl after p).front.Placed settings i :=
  foldl_after (I := fun p => p.front.Placed settings i)
    (fun errand _ hp => front_after (fun hf hshift => hf.shift hshift) (fun hf hacts => hf.acts hacts)
      hp errand) hp

open Node

/-- Whatever was done to a process before, also if it crashed: a packet that is of no use is dropped.
That adds one to the counter of such packets, one to the work received if it brings tokens or the news
of a net, and in the latter case moves on whose turn it is to own a copy; nothing else changes, in the
process, in the transport or in the files. The same goes for any number of such packets in any order. -/
theorem useless_packets_are_dropped {σ τ : Type} [NetBehaviour σ] [Transport τ] {settings : Settings}
    {templates : List (Template σ)} {id : ProcessId} {count : Nat} {start : Process σ}
    (hcreate : Process.create settings templates id count = .ok start) (errands : List (Errand σ τ))
    (link : τ) (storage : Storage) (now : Nat) :
    let p := errands.foldl Process.after start
    (∀ packet, p.Useless packet → dispatch packet ⟨p, link, storage, now⟩ = .ok () ⟨{ p with
      stats := { p.stats with protocolErrors := p.stats.protocolErrors + 1 }
      termination := { p.termination with received := p.termination.received + packet.isWork.toNat }
      copies := p.copies + packet.tellsOfNet.toNat }, link, storage, now⟩) ∧
    ∀ packets, (∀ packet ∈ packets, p.Useless packet) →
      (forM packets dispatch : NodeM σ τ Unit) ⟨p, link, storage, now⟩ =
        .ok () ⟨p.discarded packets, link, storage, now⟩ := by
  intro p
  obtain ⟨i, hstart⟩ := Process.create_placed hcreate
  have hplaced : p.front.Placed settings i := Process.foldl_after_placed hstart errands
  have hself : p.termination.process = p.id := hplaced.process.trans hplaced.id.symm
  refine ⟨fun packet huseless => ?_, fun packets huseless => forM_dispatch_of_useless hself huseless⟩
  rw [← p.discarded_single rfl rfl]
  exact dispatch_of_useless hself huseless

/-- Process 1 has a net of its own and gets, one after the other: a message without a body, tokens that
are cut off, tokens for a net it never had, news of a net of the same name, an acknowledgment that
nobody waits for, and the answer to a probe. -/
theorem useless_packets_are_dropped_by_a_peer :
    let link : Mailbox.Link := ⟨{ process := ⟨1⟩ }, ⟨[{}, {}]⟩⟩
    let errands : List (Errand Bare Mailbox.Link) :=
      [⟨.act (.operation (.spawn ⟨0⟩ 0 none none false)), link, .create [], 0⟩]
    let packets : List Packet := [⟨.service, ⟨0⟩, []⟩, ⟨.tokens, ⟨0⟩, [1, 2]⟩,
      .ofTokens ⟨0⟩ ⟨0, ⟨5⟩, ⟨1, []⟩⟩, (ControlMessage.spawned ⟨1⟩ 0 none ⟨0⟩).toPacket ⟨0⟩,
      (ControlMessage.haltAck ⟨1⟩ ⟨0⟩).toPacket ⟨0⟩,
      (ControlMessage.probeReply 0 ⟨0⟩ ⟨true, 0, 0⟩).toPacket ⟨0⟩]
    ∃ start p q : Process Bare, Process.create ⟨1, false, 0, 0, none⟩ [Bare.template] ⟨1⟩ 2 = .ok start ∧
      errands.foldl Process.after start = p ∧
      (forM packets dispatch : NodeM Bare Mailbox.Link Unit) ⟨p, link, .create [], 0⟩ =
        .ok () ⟨q, link, .create [], 0⟩ ∧
      q.stats.protocolErrors = p.stats.protocolErrors + 6 ∧
      q.termination.received = p.termination.received + 3 ∧ q.copies = p.copies + 1 ∧
      q.registry = p.registry ∧ q.inboxes = p.inboxes := by
  intro link errands packets
  obtain ⟨start, hcreate, hid, hslot, hnone⟩ : ∃ start : Process Bare,
      Process.create ⟨1, false, 0, 0, none⟩ [Bare.template] ⟨1⟩ 2 = .ok start ∧
      (errands.foldl Process.after start).id = ⟨1⟩ ∧
      (errands.foldl Process.after start).registry.slot? ⟨1⟩ =
        some ⟨0, ⟨0⟩, none, false, .spawned, 0⟩ ∧
      (errands.foldl Process.after start).registry.slot? ⟨5⟩ = none := by
    refine ⟨_, rfl, ?_, ?_, ?_⟩ <;> cbv
  have hmessage (m : ControlMessage) : ControlMessage.ofPacket (m.toPacket ⟨0⟩) = .ok m :=
    Packet.message?_eq_some.mp (Packet.message?_toPacket m ⟨0⟩)
  have huseless : ∀ packet ∈ packets, (errands.foldl Process.after start).Useless packet := by
    simp only [packets, List.forall_mem_cons, List.not_mem_nil, false_implies, implies_true, and_true]
    refine ⟨.undecodable (e := .endOfInput) rfl rfl, .short rfl (by decide),
      .late (Packet.parcel?_eq_some.mp (Packet.parcel?_ofTokens ..)) ?_,
      .duplicate (hmessage (.spawned ⟨1⟩ 0 none ⟨0⟩)) ?_, .unasked (hmessage (.haltAck ⟨1⟩ ⟨0⟩)) ?_,
      .misled (hmessage (.probeReply 0 ⟨0⟩ ⟨true, 0, 0⟩)) ?_⟩
    · simp [hnone]
    · simp [hslot]
    · simp [hslot]
    · simp [hid]
  obtain ⟨-, hall⟩ := useless_packets_are_dropped hcreate errands link (.create []) 0
  exact ⟨start, _, _, hcreate, rfl, hall packets huseless, rfl, rfl, rfl, rfl, rfl⟩

end PetriCluster
