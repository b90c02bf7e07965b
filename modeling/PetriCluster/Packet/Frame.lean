import PetriCluster.Packet.Basic

/-!
# Frames

On a connection a packet travels as a frame: its length as a 32-bit word, the tag byte, the source as
a 32-bit word (both words most significant byte first) and the body.
-/

namespace PetriCluster

namespace Packet

/-- The bytes of a packet behind its length prefix. -/
def frameBody (p : Packet) : Bytes :=
  p.tag.toByte :: (Bytes.bigEndian 4 p.source.index ++ p.body)

/-- A packet as it travels on a connection (`encode_frame`). -/
def toFrame (p : Packet) : Bytes :=
  Bytes.bigEndian 4 p.wireLength ++ frameBody p

/-- The packet in a frame without its length prefix (`decode_frame`). -/
def ofFrame (frame : Bytes) : Except Malformation Packet :=
  match frame with
  | tag :: b₀ :: b₁ :: b₂ :: b₃ :: body =>
    (PacketTag.ofByte tag).map fun tag =>
      ⟨tag, ⟨UInt32.ofNat (Bytes.ofBigEndian [b₀, b₁, b₂, b₃])⟩, body⟩
  | short => .error (.shortFrame short.length)

end Packet

namespace Frame

/-- How the reading of a stream ended. -/
inductive Ending where
  /-- The stream ended where a frame could start, or inside a length prefix. -/
  | closed
  | truncated
  | oversized (length : Nat)
  | malformed (cause : Malformation)
  deriving DecidableEq, Repr

/-- What reading one frame from the front of a stream gives. -/
inductive Next where
  | packet (p : Packet) (rest : Bytes)
  | ended (e : Ending)

/-- Read one frame of at most `limit` bytes (`receive_packet`). -/
def next (limit : Nat) (stream : Bytes) : Next :=
  match stream with
  | b₀ :: b₁ :: b₂ :: b₃ :: rest =>
    let length := Bytes.ofBigEndian [b₀, b₁, b₂, b₃]
    if limit < length then .ended (.oversized length)
    else if rest.length < length then .ended .truncated
    else
      match Packet.ofFrame (rest.take length) with
      | .ok p => .packet p (rest.drop length)
      | .error cause => .ended (.malformed cause)
  | _ => .ended .closed

/-- A frame takes bytes off the stream. -/
theorem length_lt_of_next {limit : Nat} {stream rest : Bytes} {p : Packet}
    (h : next limit stream = .packet p rest) : rest.length < stream.length := by
  unfold next at h
  split at h
  · rename_i b₀ b₁ b₂ b₃ tail
    simp only at h
    split at h
    · simp at h
    · split at h
      · simp at h
      · split at h
        · simp only [Next.packet.injEq] at h
          obtain ⟨-, rfl⟩ := h
          simp only [List.length_drop, List.length_cons]
          omega
        · simp at h
  · simp at h

/-- Read frames of at most `limit` bytes until the stream ends. -/
def readAll (limit : Nat) (stream : Bytes) : List Packet × Ending :=
  match h : next limit stream with
  | .packet p rest =>
    have := length_lt_of_next h
    let (packets, ending) := readAll limit rest
    (p :: packets, ending)
  | .ended e => ([], e)
termination_by stream.length

end Frame

end PetriCluster
