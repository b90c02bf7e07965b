import PetriCluster.Packet.Frame
import PetriCluster.Proofs.Digits

/-!
# Frames are read exactly

Reading a stream of frames undoes writing it, and writing what was read gives the stream back up to
the point where the reading stopped. What lies there is no frame that may be read: the stream is at
its end, or is cut off inside a frame, or goes on with a frame that is too long or holds no packet
(`Frame.Stops`).
-/

namespace PetriCluster

theorem PacketTag.ofByte_toByte (tag : PacketTag) : ofByte tag.toByte = .ok tag := by
  cases tag <;> rfl

theorem PacketTag.eq_of_ofByte {byte : UInt8} {tag : PacketTag} (h : ofByte byte = .ok tag) :
    byte = tag.toByte := by
  unfold ofByte at h
  split at h
  · cases h
    assumption
  · split at h
    · cases h
      assumption
    · cases h

theorem PacketTag.ofByte_eq_error {byte : UInt8} {cause : Malformation}
    (h : ofByte byte = .error cause) : byte ≠ 0 ∧ byte ≠ 1 ∧ cause = .unknownTag byte := by
  unfold ofByte at h
  split at h
  · cases h
  · split at h
    · cases h
    · cases h
      exact ⟨‹_›, ‹_›, rfl⟩

namespace Packet

@[simp] theorem length_frameBody (p : Packet) : p.frameBody.length = p.wireLength := by
  simp [frameBody, wireLength, prefixLength]
  omega

theorem ofFrame_frameBody (p : Packet) : ofFrame p.frameBody = .ok p := by
  obtain ⟨b₀, b₁, b₂, b₃, hsource⟩ := Bytes.exists_of_bigEndian p.source.index
  have hback : UInt32.ofNat (Bytes.ofBigEndian [b₀, b₁, b₂, b₃]) = p.source.raw := by
    rw [← hsource, Bytes.ofBigEndian_bigEndian, ProcessId.index, Bytes.mod_word32]
    exact UInt32.ofNat_toNat
  simp only [frameBody, hsource, List.cons_append, List.nil_append, ofFrame, PacketTag.ofByte_toByte,
    Except.map, hback]

theorem eq_of_ofFrame {frame : Bytes} {p : Packet} (h : ofFrame frame = .ok p) :
    frame = p.frameBody := by
  unfold ofFrame at h
  split at h
  · rename_i tag b₀ b₁ b₂ b₃ body
    rcases htag : PacketTag.ofByte tag with cause | found <;> rw [htag] at h <;> cases h
    have hlt : Bytes.ofBigEndian [b₀, b₁, b₂, b₃] < 2 ^ 32 :=
      Bytes.ofBigEndian_lt_word rfl
    have hback : Bytes.bigEndian 4 (Bytes.ofBigEndian [b₀, b₁, b₂, b₃]) = [b₀, b₁, b₂, b₃] :=
      Bytes.bigEndian_ofBigEndian [b₀, b₁, b₂, b₃]
    simp only [frameBody, ProcessId.index, UInt32.toNat_ofNat', Nat.mod_eq_of_lt hlt, hback,
      ← PacketTag.eq_of_ofByte htag]
    rfl
  · cases h

theorem ofFrame_eq_error {frame : Bytes} {cause : Malformation} (h : ofFrame frame = .error cause) :
    frame.length < prefixLength ∧ cause = .shortFrame frame.length ∨
      ∃ tag body, frame = tag :: body ∧ prefixLength ≤ frame.length ∧ tag ≠ 0 ∧ tag ≠ 1 ∧
        cause = .unknownTag tag := by
  unfold ofFrame at h
  split at h
  · rename_i tag b₀ b₁ b₂ b₃ body
    rcases htag : PacketTag.ofByte tag with e | found <;> rw [htag] at h <;> cases h
    obtain ⟨hzero, hone, hcause⟩ := PacketTag.ofByte_eq_error htag
    exact .inr ⟨tag, _, rfl, by simp [prefixLength], hzero, hone, hcause⟩
  · rename_i hshort
    cases h
    refine .inl ⟨?_, rfl⟩
    rcases frame with _ | ⟨tag, _ | ⟨b₀, _ | ⟨b₁, _ | ⟨b₂, _ | ⟨b₃, body⟩⟩⟩⟩⟩
    · simp [prefixLength]
    · simp [prefixLength]
    · simp [prefixLength]
    · simp [prefixLength]
    · simp [prefixLength]
    · exact (hshort tag b₀ b₁ b₂ b₃ body rfl).elim

end Packet

namespace Frame

variable {limit : Nat} {stream rest : Bytes} {p : Packet}

/-- What is left of a stream where no frame of at most `limit` bytes can be read, and how reading it
ends. -/
inductive Stops (limit : Nat) : Bytes → Ending → Prop
  | clean : Stops limit [] .closed
  | cutLength {rest : Bytes} : rest ≠ [] → rest.length < 4 → Stops limit rest .closed
  | cutBody {length : Nat} {body : Bytes} : length < 2 ^ 32 → length ≤ limit → body.length < length →
      Stops limit (Bytes.bigEndian 4 length ++ body) .truncated
  | oversized {length : Nat} {rest : Bytes} : length < 2 ^ 32 → limit < length →
      Stops limit (Bytes.bigEndian 4 length ++ rest) (.oversized length)
  | short {length : Nat} {rest : Bytes} : length ≤ limit → length ≤ rest.length → length < 5 →
      Stops limit (Bytes.bigEndian 4 length ++ rest) (.malformed (.shortFrame length))
  | badTag {length : Nat} {tag : UInt8} {rest : Bytes} : length < 2 ^ 32 → length ≤ limit →
      length ≤ (tag :: rest).length → 5 ≤ length → tag ≠ 0 → tag ≠ 1 →
      Stops limit (Bytes.bigEndian 4 length ++ tag :: rest) (.malformed (.unknownTag tag))

theorem next_bigEndian {length : Nat} (hlength : length < 2 ^ 32) (rest : Bytes) :
    next limit (Bytes.bigEndian 4 length ++ rest) =
      if limit < length then .ended (.oversized length)
      else if rest.length < length then .ended .truncated
      else match Packet.ofFrame (rest.take length) with
        | .ok p => .packet p (rest.drop length)
        | .error cause => .ended (.malformed cause) := by
  obtain ⟨b₀, b₁, b₂, b₃, hbytes⟩ := Bytes.exists_of_bigEndian length
  have hback : Bytes.ofBigEndian [b₀, b₁, b₂, b₃] = length := by
    rw [← hbytes, Bytes.ofBigEndian_bigEndian]
    exact Nat.mod_eq_of_lt hlength
  subst hback
  rw [hbytes]
  rfl

theorem short_or_length (stream : Bytes) :
    stream.length < 4 ∨ ∃ length < 2 ^ 32, ∃ rest, stream = Bytes.bigEndian 4 length ++ rest := by
  by_cases h : stream.length < 4
  · exact .inl h
  · obtain ⟨length, hlt, htake⟩ := Bytes.exists_bigEndian (b := stream.take 4) (by simp; omega)
    exact .inr ⟨length, hlt, stream.drop 4, by rw [← htake, List.take_append_drop]⟩

theorem next_of_short (h : stream.length < 4) : next limit stream = .ended .closed := by
  unfold next
  split
  · simp at h
    omega
  · rfl

theorem next_toFrame (hlimit : p.wireLength ≤ limit) (hword : p.wireLength < 2 ^ 32) (rest : Bytes) :
    next limit (p.toFrame ++ rest) = .packet p rest := by
  have hlong : ¬ (p.frameBody ++ rest).length < p.wireLength := by
    rw [List.length_append, Packet.length_frameBody]
    omega
  rw [Packet.toFrame, List.append_assoc, next_bigEndian hword, if_neg (by omega), if_neg hlong,
    ← Packet.length_frameBody p, List.take_left, List.drop_left, Packet.ofFrame_frameBody]

theorem eq_of_next (h : next limit stream = .packet p rest) :
    stream = p.toFrame ++ rest ∧ p.wireLength ≤ limit := by
  rcases short_or_length stream with hshort | ⟨length, hlength, tail, rfl⟩
  · rw [next_of_short hshort] at h
    cases h
  · rw [next_bigEndian hlength] at h
    split at h
    · cases h
    · rename_i hlimit
      split at h
      · cases h
      · rename_i hlong
        split at h
        · rename_i found hframe
          cases h
          have hbody := Packet.eq_of_ofFrame hframe
          have hwire : p.wireLength = length := by
            rw [← Packet.length_frameBody, ← hbody, List.length_take]
            omega
          refine ⟨?_, by omega⟩
          rw [Packet.toFrame, hwire, ← hbody, List.append_assoc, List.take_append_drop]
        · cases h

theorem stops_of_next {ending : Ending} (h : next limit stream = .ended ending) :
    Stops limit stream ending := by
  rcases short_or_length stream with hshort | ⟨length, hlength, tail, rfl⟩
  · rw [next_of_short hshort] at h
    cases h
    by_cases hnil : stream = []
    · exact hnil ▸ .clean
    · exact .cutLength hnil hshort
  · rw [next_bigEndian hlength] at h
    split at h
    · rename_i hlimit
      cases h
      exact .oversized hlength hlimit
    · rename_i hlimit
      split at h
      · rename_i hcut
        cases h
        exact .cutBody hlength (by omega) hcut
      · rename_i hlong
        have htake : (tail.take length).length = length := by
          rw [List.length_take]
          omega
        split at h
        · cases h
        · rename_i cause hframe
          cases h
          rcases Packet.ofFrame_eq_error hframe with ⟨hshort, rfl⟩ | ⟨tag, body, heq, hfive, h0, h1, rfl⟩
          · rw [htake] at hshort ⊢
            exact .short (by omega) (by omega) hshort
          · have htail : tail = tag :: (body ++ tail.drop length) := by
              rw [← List.cons_append, ← heq, List.take_append_drop]
            rw [htake] at hfive
            rw [htail] at hlong ⊢
            exact .badTag hlength (by omega) (by omega) hfive h0 h1

theorem readAll_of_packet (h : next limit stream = .packet p rest) :
    readAll limit stream = (p :: (readAll limit rest).1, (readAll limit rest).2) := by
  rw [readAll]
  split <;> simp_all

theorem readAll_of_ended {ending : Ending} (h : next limit stream = .ended ending) :
    readAll limit stream = ([], ending) := by
  rw [readAll]
  split <;> simp_all

/-- Frames that are not too long are read back one after the other. -/
theorem readAll_flatMap_toFrame {packets : List Packet}
    (h : ∀ p ∈ packets, p.wireLength ≤ limit ∧ p.wireLength < 2 ^ 32) :
    readAll limit (packets.flatMap Packet.toFrame) = (packets, .closed) := by
  induction packets with
  | nil => exact readAll_of_ended rfl
  | cons p packets ih =>
    obtain ⟨hlimit, hword⟩ := h p (List.mem_cons_self ..)
    rw [List.flatMap_cons, readAll_of_packet (next_toFrame hlimit hword _),
      ih fun q hq => h q (List.mem_cons_of_mem _ hq)]

theorem exists_stops (limit : Nat) (stream : Bytes) :
    ∃ rest, stream = (readAll limit stream).1.flatMap Packet.toFrame ++ rest ∧
      Stops limit rest (readAll limit stream).2 := by
  -- On the length: a frame that was read is not empty.
  induction hlength : stream.length using Nat.strongRecOn generalizing stream with
  | ind length ih =>
    rcases hnext : next limit stream with ⟨p, tail⟩ | ending
    · have hshorter := length_lt_of_next hnext
      obtain ⟨rest, hrest, hstops⟩ := ih tail.length (hlength ▸ hshorter) tail rfl
      rw [readAll_of_packet hnext]
      refine ⟨rest, ?_, hstops⟩
      rw [(eq_of_next hnext).1, List.flatMap_cons, List.append_assoc, ← hrest]
    · rw [readAll_of_ended hnext]
      exact ⟨stream, rfl, stops_of_next hnext⟩

end Frame

/-- Reading frames undoes writing them, for packets that are not too long. Of any stream, what was read
is written as its front; the rest is empty, is cut off inside a frame, or starts with a frame that is too
long, too short or of no known tag. -/
theorem framing_is_exact (limit : Nat) :
    (∀ packets : List Packet, (∀ p ∈ packets, p.wireLength ≤ limit ∧ p.wireLength < 2 ^ 32) →
      Frame.readAll limit (packets.flatMap Packet.toFrame) = (packets, .closed)) ∧
    ∀ stream, ∃ rest,
      stream = (Frame.readAll limit stream).1.flatMap Packet.toFrame ++ rest ∧
      Frame.Stops limit rest (Frame.readAll limit stream).2 :=
  ⟨fun _ => Frame.readAll_flatMap_toFrame, Frame.exists_stops limit⟩

/-- Two packets, the second as long as is allowed, are read back. -/
theorem framing_is_exact_two_packets :
    Frame.readAll 8 ([⟨.service, ⟨1⟩, []⟩, ⟨.tokens, ⟨258⟩, [7, 8, 9]⟩].flatMap Packet.toFrame) =
      ([⟨.service, ⟨1⟩, []⟩, ⟨.tokens, ⟨258⟩, [7, 8, 9]⟩], .closed) :=
  (framing_is_exact 8).1 _ (by decide)

end PetriCluster
