import PetriCluster.Control.Codec
import PetriCluster.Proofs.Digits

/-!
# What packets say

A packet says what it was made of: the packet of a control message decodes to the message, the packet
of a batch of tokens to the batch, and no packet does both. `Packet.message?` and `Packet.parcel?` are
the two readings.
-/

namespace PetriCluster

namespace Control

variable (rest : Bytes)

theorem takeNat_littleEndian (width n : Nat) :
    takeNat width (Bytes.littleEndian width n ++ rest) = .ok (n % 256 ^ width, rest) := by
  simp [takeNat, Bytes.ofLittleEndian_littleEndian]

@[simp] theorem takeNat_putWord32 (n : UInt32) : takeNat 4 (putWord32 n ++ rest) = .ok (n.toNat, rest) := by
  rw [putWord32, takeNat_littleEndian, Bytes.mod_word32]

@[simp] theorem takeWord32_putWord32 (n : UInt32) : takeWord32 (putWord32 n ++ rest) = .ok (n, rest) := by
  simp [takeWord32, bind, Except.bind, pure, Except.pure]

@[simp] theorem takeWord64_putWord64 (n : UInt64) : takeWord64 (putWord64 n ++ rest) = .ok (n, rest) := by
  rw [takeWord64, putWord64, takeNat_littleEndian, Bytes.mod_word64]
  simp [bind, Except.bind, pure, Except.pure]

@[simp] theorem takeNet_putWord32 (net : NetId) : takeNet (putWord32 net.raw ++ rest) = .ok (net, rest) := by
  simp [takeNet, bind, Except.bind, pure, Except.pure]

@[simp] theorem takeProcess_putWord32 (p : ProcessId) :
    takeProcess (putWord32 p.raw ++ rest) = .ok (p, rest) := by
  simp [takeProcess, bind, Except.bind, pure, Except.pure]

@[simp] theorem takeBool_putBool (b : Bool) : takeBool (putBool b ++ rest) = .ok (b, rest) := by
  cases b <;> simp [takeBool, putBool, takeNat, Bytes.ofLittleEndian, bind, Except.bind, pure, Except.pure]

@[simp] theorem takeNet?_putNet? (net : Option NetId) :
    takeNet? (putNet? net ++ rest) = .ok (net, rest) := by
  cases net <;>
    simp [takeNet?, putNet?, takeNat, Bytes.ofLittleEndian, bind, Except.bind, pure, Except.pure]

@[simp] theorem takePhase_putPhase (phase : BarrierPhase) :
    takePhase (putPhase phase ++ rest) = .ok (phase, rest) := by
  cases phase <;> simp [takePhase, putPhase, bind, Except.bind, pure, Except.pure]

end Control

namespace ControlMessage

open Control

theorem take_encode (m : ControlMessage) (rest : Bytes) : take (m.encode ++ rest) = .ok (m, rest) := by
  cases m <;>
    simp [take, encode, variant, fields, bind, Except.bind, pure, Except.pure]

theorem decode_encode (m : ControlMessage) : decode m.encode = .ok m := by
  have h := take_encode m []
  rw [List.append_nil] at h
  rw [decode, h]
  rfl

end ControlMessage

namespace Packet

/-- The control message a packet carries, if it carries one. -/
def message? (p : Packet) : Option ControlMessage := (ControlMessage.ofPacket p).toOption

/-- The batch of tokens a packet carries, if it carries one. -/
def parcel? (p : Packet) : Option Parcel := p.parcel.toOption

variable {p : Packet}

theorem message?_eq_some {m : ControlMessage} :
    p.message? = some m ↔ ControlMessage.ofPacket p = .ok m := by
  unfold message?
  cases ControlMessage.ofPacket p <;> simp [Except.toOption]

theorem parcel?_eq_some {parcel : Parcel} : p.parcel? = some parcel ↔ p.parcel = .ok parcel := by
  unfold parcel?
  cases p.parcel <;> simp [Except.toOption]

theorem message?_of_tokens (h : p.tag = .tokens) : p.message? = none := by
  simp [message?, ControlMessage.ofPacket, h, Except.toOption]

theorem parcel?_of_service (h : p.tag = .service) : p.parcel? = none := by
  simp [parcel?, parcel, h, Except.toOption]

theorem tag_of_parcel {b : Parcel} (h : p.parcel = .ok b) : p.tag = .tokens := by
  cases htag : p.tag with
  | tokens => rfl
  | service => simp [parcel, htag] at h

theorem tag_of_message {m : ControlMessage} (h : ControlMessage.ofPacket p = .ok m) :
    p.tag = .service := by
  cases htag : p.tag with
  | tokens => simp [ControlMessage.ofPacket, htag] at h
  | service => rfl

@[simp] theorem message?_toPacket (m : ControlMessage) (source : ProcessId) :
    (m.toPacket source).message? = some m := by
  rw [message?_eq_some, ControlMessage.ofPacket, if_neg (by simp [ControlMessage.toPacket, ofService])]
  simp [ControlMessage.toPacket, ofService, ControlMessage.decode_encode]

@[simp] theorem parcel?_toPacket (m : ControlMessage) (source : ProcessId) :
    (m.toPacket source).parcel? = none :=
  parcel?_of_service rfl

@[simp] theorem message?_ofTokens (b : Parcel) (source : ProcessId) :
    (ofTokens source b).message? = none :=
  message?_of_tokens rfl

@[simp] theorem parcel?_ofTokens (b : Parcel) (source : ProcessId) :
    (ofTokens source b).parcel? = some b := by
  have hword (n : UInt32) : UInt32.ofNat (Bytes.ofLittleEndian (Bytes.littleEndian 4 n.toNat)) = n := by
    rw [Bytes.ofLittleEndian_littleEndian, Bytes.mod_word32]
    simp
  have hdrop (n : Nat) {k : Nat} (h : 4 ≤ k) : (Bytes.littleEndian 4 n).drop k = [] :=
    List.drop_eq_nil_of_le (by simpa using h)
  have hlong : ¬ (ofTokens source b).body.length < parcelHeaderLength := by
    simp [ofTokens, parcelBody, parcelHeaderLength]
    omega
  rw [parcel?_eq_some, parcel, if_neg (by simp [ofTokens]), if_neg hlong]
  simp [ofTokens, parcelBody, parcelHeaderLength, List.drop_append, NetId.index, hdrop, hword]

end Packet

end PetriCluster
