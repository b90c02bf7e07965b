import PetriCluster.Config.Basic
import PetriCluster.Proofs.Contents
import PetriCluster.Proofs.Framing
import PetriCluster.Proofs.Writers
import Mathlib.Tactic.ByContra
import Mathlib.Tactic.SplitIfs

/-!
# What fits into a frame

Four bounds meet on the wire: the least frame size a layout may set, the length of an encoded control
message, the check before a packet is sent and the check when a frame is read. Control messages pass
all of them under every layout that is accepted.
-/

namespace PetriCluster

/-! ## The length of control messages -/

namespace Control

@[simp] theorem length_putWord32 (n : UInt32) : (putWord32 n).length = 4 := by
  simp [putWord32]

@[simp] theorem length_putWord64 (n : UInt64) : (putWord64 n).length = 8 := by
  simp [putWord64]

@[simp] theorem length_putBool (b : Bool) : (putBool b).length = 1 := by
  simp [putBool]

@[simp] theorem length_putPhase (phase : BarrierPhase) : (putPhase phase).length = 4 := by
  cases phase <;> simp [putPhase]

theorem length_putNet?_le (net : Option NetId) : (putNet? net).length ≤ 5 := by
  cases net <;> simp [putNet?]

end Control

namespace ControlMessage

open Control

theorem length_fields_le (m : ControlMessage) : m.fields.length ≤ 29 := by
  cases m with
  | spawned net template parent origin =>
    have hparent := length_putNet?_le parent
    simp only [fields, List.length_append, length_putWord32]
    omega
  | halted net origin => simp [fields]
  | haltAck net sender => simp [fields]
  | quit origin => simp [fields]
  | barrier phase sender => simp [fields]
  | probe wave => simp [fields]
  | probeReply wave sender snapshot => simp [fields]

theorem wireLength_toPacket_le (m : ControlMessage) (source : ProcessId) :
    (m.toPacket source).wireLength ≤ 38 := by
  have hfields := length_fields_le m
  have hencode : m.encode.length = 4 + m.fields.length := by simp [encode]
  show Packet.prefixLength + m.encode.length ≤ 38
  unfold Packet.prefixLength
  omega

theorem ofPacket_toPacket (m : ControlMessage) (source : ProcessId) :
    ofPacket (m.toPacket source) = .ok m :=
  Packet.message?_eq_some.mp (Packet.message?_toPacket m source)

end ControlMessage

/-! ## The checks -/

theorem ClusterConfig.minFrameSize_le {c : ClusterConfig} {o : TcpOptions}
    (hbackend : c.backend = .tcp o) (hvalid : c.validate = .ok ()) :
    TcpOptions.minFrameSize ≤ o.maxFrameSize := by
  have hoptions : o.validate c.processCount = .ok () := by
    unfold ClusterConfig.validate at hvalid
    rw [hbackend] at hvalid
    split_ifs at hvalid
    exact hvalid
  unfold TcpOptions.validate at hoptions
  split_ifs at hoptions with _ _ hsmall
  omega

/-- Under every layout for a network that is accepted, a control message is never too long to be sent,
and the frame of its packet is read back by a peer with the same layout: the peer gets the sender and
the message, and goes on reading behind the frame. -/
theorem control_traffic_fits_the_wire {c : ClusterConfig} {o : TcpOptions}
    (hbackend : c.backend = .tcp o) (hvalid : c.validate = .ok ()) (m : ControlMessage)
    (source : ProcessId) :
    (m.toPacket source).wireLength ≤ o.maxFrameSize ∧
      (∀ (channel : Tcp.Channel) (target : ProcessId), channel.settings = c.tcpSettings o →
        (channel.checkSend target (m.toPacket source) = .ok () ↔
          channel.closed = false ∧
            Transport.checkTarget channel.settings.process channel.settings.peers.length target =
              .ok () ∧
            channel.isPeerHealthy target = true)) ∧
      ∀ rest, ∃ p, Frame.next o.maxFrameSize ((m.toPacket source).toFrame ++ rest) = .packet p rest ∧
        p.source = source ∧ ControlMessage.ofPacket p = .ok m := by
  have hlength := ControlMessage.wireLength_toPacket_le m source
  have hroom : 64 ≤ o.maxFrameSize := ClusterConfig.minFrameSize_le hbackend hvalid
  have hfits : (m.toPacket source).wireLength ≤ o.maxFrameSize := by omega
  refine ⟨hfits, ?_, ?_⟩
  · intro channel target hsettings
    have hlimit : channel.settings.maxFrameSize = o.maxFrameSize := by rw [hsettings]; rfl
    rw [Tcp.Channel.checkSend_eq_ok, hlimit]
    constructor
    · rintro ⟨hopen, htarget, hhealthy, -⟩
      exact ⟨hopen, htarget, hhealthy⟩
    · rintro ⟨hopen, htarget, hhealthy⟩
      exact ⟨hopen, htarget, hhealthy, hfits⟩
  · intro rest
    have hword : (m.toPacket source).wireLength < 2 ^ 32 := by omega
    exact ⟨m.toPacket source, Frame.next_toFrame hfits hword rest, rfl,
      ControlMessage.ofPacket_toPacket m source⟩

/-- The smallest frames that may be set, and the longest message: a new channel of two processes
accepts it, and the other process reads it. -/
theorem control_traffic_fits_the_wire_tightly :
    let o : TcpOptions := { peers := [.loopback 0, .loopback 0], maxFrameSize := 64 }
    let c : ClusterConfig := { processCount := 2, backend := .tcp o }
    let m : ControlMessage := .probeReply 18446744073709551615 ⟨1⟩ ⟨true, 18446744073709551615, 7⟩
    c.validate = .ok () ∧ (m.toPacket ⟨1⟩).wireLength = 38 ∧
      ∃ p, Frame.next 64 ((m.toPacket ⟨1⟩).toFrame ++ [0, 0]) = .packet p [0, 0] ∧ p.source = ⟨1⟩ ∧
        ControlMessage.ofPacket p = .ok m := by
  intro o c m
  have hvalid : c.validate = .ok () := by rfl
  obtain ⟨-, -, hread⟩ := control_traffic_fits_the_wire (c := c) (o := o) rfl hvalid m ⟨1⟩
  exact ⟨hvalid, by rfl, hread [0, 0]⟩

/-! ## The length prefix -/

namespace Frame

/-- The length that stands at the front of a stream. -/
def announced (stream : Bytes) : Nat := Bytes.ofBigEndian (stream.take 4)

variable {limit : Nat} {p : Packet}

theorem announced_toFrame (p : Packet) (rest : Bytes) :
    announced (p.toFrame ++ rest) = p.wireLength % 2 ^ 32 := by
  have hannounced : (p.toFrame ++ rest).take 4 = Bytes.bigEndian 4 p.wireLength := by
    rw [Packet.toFrame, List.append_assoc]
    exact List.take_left' (Bytes.length_bigEndian 4 _)
  unfold announced
  rw [hannounced, Bytes.ofBigEndian_bigEndian]
  rfl

theorem wireLength_of_next {stream rest : Bytes} (h : next limit stream = .packet p rest) :
    p.wireLength = announced stream := by
  obtain ⟨hstream, -⟩ := eq_of_next h
  have hannounced := announced_toFrame p rest
  rcases short_or_length stream with hshort | ⟨length, hlength, tail, hfront⟩
  · rw [next_of_short hshort] at h
    cases h
  · rw [hfront, next_bigEndian hlength] at h
    split_ifs at h with hlimit hcut
    split at h
    · rename_i found hframe
      cases h
      have hbody := congrArg List.length (Packet.eq_of_ofFrame hframe)
      rw [Packet.length_frameBody, List.length_take] at hbody
      rw [← hstream] at hannounced
      have hfit : p.wireLength = length := by omega
      omega
    · cases h

theorem next_toFrame_iff (hlimit : p.wireLength ≤ limit) :
    (∀ rest, next limit (p.toFrame ++ rest) = .packet p rest) ↔ p.wireLength < 2 ^ 32 := by
  constructor
  · intro h
    have hread := wireLength_of_next (h [])
    rw [announced_toFrame] at hread
    omega
  · intro hword rest
    exact next_toFrame hlimit hword rest

end Frame

/-- A packet with an empty message of the given length. -/
def Packet.blank (length : Nat) : Packet := ⟨.service, ⟨0⟩, List.replicate length 0⟩

theorem Packet.wireLength_blank (length : Nat) : (blank length).wireLength = 5 + length := by
  simp [blank, wireLength, prefixLength]

/-- The length prefix of a frame is the length of its packet reduced to 32 bits. A layout that is
accepted, by its own check and by that of the channel, has an exact prefix for every packet that passes
the check of a send, and peers that stay in step, if and only if its largest frame is below 2^32 bytes;
and both checks accept any larger frame as well. -/
theorem length_prefix_is_exact_below_word_size {c : ClusterConfig} {o : TcpOptions}
    (hbackend : c.backend = .tcp o) (hvalid : c.validate = .ok ())
    (hchannel : (c.tcpSettings o).validate = .ok ()) :
    (∀ p : Packet, Frame.announced p.toFrame = p.wireLength % 2 ^ 32) ∧
      (∀ p : Packet, p.wireLength ≤ o.maxFrameSize →
        (Frame.announced p.toFrame = p.wireLength ↔ p.wireLength < 2 ^ 32) ∧
        ((∀ rest, Frame.next o.maxFrameSize (p.toFrame ++ rest) = .packet p rest) ↔
          p.wireLength < 2 ^ 32)) ∧
      ((∀ p : Packet, p.wireLength ≤ o.maxFrameSize → Frame.announced p.toFrame = p.wireLength) ↔
        o.maxFrameSize < 2 ^ 32) ∧
      ∀ size, o.maxFrameSize ≤ size →
        { c with backend := .tcp { o with maxFrameSize := size } }.validate = .ok () ∧
          (c.tcpSettings { o with maxFrameSize := size }).validate = .ok () := by
  have hannounced (p : Packet) : Frame.announced p.toFrame = p.wireLength % 2 ^ 32 := by
    have h := Frame.announced_toFrame p []
    rwa [List.append_nil] at h
  have hexact (p : Packet) : Frame.announced p.toFrame = p.wireLength ↔ p.wireLength < 2 ^ 32 := by
    rw [hannounced]
    constructor
    · intro h
      omega
    · intro h
      exact Nat.mod_eq_of_lt h
  refine ⟨hannounced, ?_, ?_, ?_⟩
  · intro p hfits
    exact ⟨hexact p, Frame.next_toFrame_iff hfits⟩
  · constructor
    · intro h
      by_contra hlarge
      have hlength := Packet.wireLength_blank 4294967291
      have hword := (hexact _).mp (h (Packet.blank 4294967291) (by omega))
      omega
    · intro hsmall p hfits
      exact (hexact p).mpr (by omega)
  · intro size hsize
    have hroom := ClusterConfig.minFrameSize_le hbackend hvalid
    constructor
    · unfold ClusterConfig.validate at hvalid ⊢
      rw [hbackend] at hvalid
      split_ifs at hvalid with h₁ h₂ h₃ h₄
      have hoptions : o.validate c.processCount = .ok () := hvalid
      unfold TcpOptions.validate at hoptions
      split_ifs at hoptions with h₅ h₆ h₇
      have hsmall : ¬ size < TcpOptions.minFrameSize := by omega
      simp only [h₁, h₂, h₃, h₄, if_false, BackendOptions.validate, TcpOptions.validate, h₅, h₆, hsmall]
    · exact hchannel

/-- With the usual frames, the longest packet that may be sent is announced exactly. -/
theorem length_prefix_is_exact_by_default :
    let o : TcpOptions := { peers := [.loopback 0, .loopback 0] }
    let c : ClusterConfig := { processCount := 2, backend := .tcp o }
    c.validate = .ok () ∧ (c.tcpSettings o).validate = .ok () ∧
      (Packet.blank 16777211).wireLength = o.maxFrameSize ∧
      Frame.announced (Packet.blank 16777211).toFrame = 16777216 := by
  intro o c
  have hvalid : c.validate = .ok () := by rfl
  have hchannel : (c.tcpSettings o).validate = .ok () := by rfl
  have hlength : (Packet.blank 16777211).wireLength = 16777216 := Packet.wireLength_blank 16777211
  obtain ⟨-, -, hexact, -⟩ :=
    length_prefix_is_exact_below_word_size (c := c) (o := o) rfl hvalid hchannel
  have hannounced := hexact.mpr (by decide) (Packet.blank 16777211) (Nat.le_of_eq hlength)
  exact ⟨hvalid, hchannel, hlength, hannounced.trans hlength⟩

/-- Frames of 2^32 bytes may be set. A packet of that length then passes all checks of a new channel, its
prefix is zero, and the peer takes the frame for an empty one and gives the connection up. -/
theorem length_prefix_is_cut_at_word_size :
    let o : TcpOptions := { peers := [.loopback 0, .loopback 0], maxFrameSize := 4294967296 }
    let c : ClusterConfig := { processCount := 2, backend := .tcp o }
    let p := Packet.blank 4294967291
    c.validate = .ok () ∧ (c.tcpSettings o).validate = .ok () ∧
      (∃ channel, Tcp.Channel.create .isolated (c.tcpSettings o) = .ok channel ∧
        channel.checkSend ⟨1⟩ p = .ok ()) ∧
      p.wireLength = 4294967296 ∧ Frame.announced p.toFrame = 0 ∧
      Frame.next o.maxFrameSize p.toFrame = .ended (.malformed (.shortFrame 0)) := by
  intro o c p
  have hlength : p.wireLength = 4294967296 := Packet.wireLength_blank 4294967291
  have hannounced := Frame.announced_toFrame p []
  rw [List.append_nil, hlength] at hannounced
  refine ⟨by rfl, by rfl, ⟨_, rfl, ?_⟩, hlength, hannounced, ?_⟩
  · rw [Tcp.Channel.checkSend_eq_ok, hlength]
    exact ⟨rfl, rfl, rfl, Nat.le_refl _⟩
  · have hzero : Bytes.bigEndian 4 4294967296 = Bytes.bigEndian 4 0 := by decide
    rw [Packet.toFrame, hlength, hzero, Frame.next_bigEndian (by decide)]
    simp [Packet.ofFrame]

end PetriCluster
