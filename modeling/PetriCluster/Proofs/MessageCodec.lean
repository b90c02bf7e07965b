import PetriCluster.Proofs.Contents

/-!
# Control messages are read exactly

`Proofs.Contents` shows that a message is read back from the front of its bytes. Here is the other
direction: every reader takes off the bytes that its writer makes of the value it gives, and nothing
else.
-/

namespace PetriCluster

namespace Control

variable {bytes rest : Bytes}

theorem bind_eq_ok {ε α β : Type} {x : Except ε α} {f : α → Except ε β} {b : β}
    (h : (x >>= f) = .ok b) : ∃ a, x = .ok a ∧ f a = .ok b := by
  cases x with
  | error e => cases h
  | ok a => exact ⟨a, rfl, h⟩

theorem eq_of_takeNat {width n : Nat} (h : takeNat width bytes = .ok (n, rest)) :
    n < 256 ^ width ∧ bytes = Bytes.littleEndian width n ++ rest := by
  unfold takeNat at h
  split at h
  · cases h
  · rename_i hlong
    cases h
    have hlength : (bytes.take width).length = width := by
      rw [List.length_take]
      omega
    have hlt := Bytes.ofLittleEndian_lt (bytes.take width)
    have hback := Bytes.littleEndian_ofLittleEndian (bytes.take width)
    rw [hlength] at hlt hback
    exact ⟨hlt, by rw [hback, List.take_append_drop]⟩

theorem eq_of_takeWord32 {n : UInt32} (h : takeWord32 bytes = .ok (n, rest)) :
    bytes = putWord32 n ++ rest := by
  obtain ⟨⟨m, tail⟩, htake, hpure⟩ := bind_eq_ok h
  obtain ⟨hlt, rfl⟩ := eq_of_takeNat htake
  cases hpure
  have hword : m % 2 ^ 32 = m := Nat.mod_eq_of_lt hlt
  rw [putWord32, UInt32.toNat_ofNat', hword]

theorem eq_of_takeWord64 {n : UInt64} (h : takeWord64 bytes = .ok (n, rest)) :
    bytes = putWord64 n ++ rest := by
  obtain ⟨⟨m, tail⟩, htake, hpure⟩ := bind_eq_ok h
  obtain ⟨hlt, rfl⟩ := eq_of_takeNat htake
  cases hpure
  have hword : m % 2 ^ 64 = m := Nat.mod_eq_of_lt hlt
  rw [putWord64, UInt64.toNat_ofNat', hword]

theorem eq_of_takeNet {net : NetId} (h : takeNet bytes = .ok (net, rest)) :
    bytes = putWord32 net.raw ++ rest := by
  obtain ⟨⟨n, tail⟩, htake, hpure⟩ := bind_eq_ok h
  cases hpure
  exact eq_of_takeWord32 htake

theorem eq_of_takeProcess {p : ProcessId} (h : takeProcess bytes = .ok (p, rest)) :
    bytes = putWord32 p.raw ++ rest := by
  obtain ⟨⟨n, tail⟩, htake, hpure⟩ := bind_eq_ok h
  cases hpure
  exact eq_of_takeWord32 htake

/-- What is read after a flag depends on it, and there are two of them. -/
theorem flag_cases {α : Type} {width : Nat} {f : Nat × Bytes → Except DecodeError α} {a : α}
    (h : (takeNat width bytes >>= f) = .ok a)
    (hbad : ∀ n tail, n ≠ 0 → n ≠ 1 → f (n, tail) ≠ .ok a) :
    ∃ n tail, bytes = Bytes.littleEndian width n ++ tail ∧ f (n, tail) = .ok a ∧ (n = 0 ∨ n = 1) := by
  obtain ⟨⟨n, tail⟩, htake, hvalue⟩ := bind_eq_ok h
  refine ⟨n, tail, (eq_of_takeNat htake).2, hvalue, ?_⟩
  rcases Nat.lt_or_ge n 2 with hlt | hge
  · omega
  · exact absurd hvalue (hbad n tail (by omega) (by omega))

theorem eq_of_takeBool {b : Bool} (h : takeBool bytes = .ok (b, rest)) :
    bytes = putBool b ++ rest := by
  obtain ⟨n, tail, rfl, hvalue, rfl | rfl⟩ := flag_cases h fun n tail h₀ h₁ => by simp [h₀, h₁, throw]
  all_goals
    cases hvalue
    rfl

theorem eq_of_takeNet? {net : Option NetId} (h : takeNet? bytes = .ok (net, rest)) :
    bytes = putNet? net ++ rest := by
  obtain ⟨n, tail, rfl, hvalue, rfl | rfl⟩ := flag_cases h fun n tail h₀ h₁ => by simp [h₀, h₁, throw]
  · cases hvalue
    rfl
  · obtain ⟨⟨m, after⟩, hnet, hpure⟩ := bind_eq_ok hvalue
    cases hpure
    rw [eq_of_takeNet hnet]
    rfl

theorem eq_of_takePhase {phase : BarrierPhase} (h : takePhase bytes = .ok (phase, rest)) :
    bytes = putPhase phase ++ rest := by
  obtain ⟨n, tail, rfl, hvalue, rfl | rfl⟩ := flag_cases h fun n tail h₀ h₁ => by simp [h₀, h₁, throw]
  all_goals
    cases hvalue
    rfl

end Control

namespace ControlMessage

open Control

variable {bytes rest : Bytes} {m : ControlMessage}

theorem eq_of_take (h : take bytes = .ok (m, rest)) : bytes = m.encode ++ rest := by
  obtain ⟨⟨n, tail⟩, htake, hfields⟩ := bind_eq_ok h
  obtain ⟨-, rfl⟩ := eq_of_takeNat htake
  simp only at hfields
  -- one case for each number of an alternative; any other number is refused
  split at hfields
  · obtain ⟨⟨net, r₁⟩, hnet, hfields⟩ := bind_eq_ok hfields
    obtain ⟨⟨template, r₂⟩, htemplate, hfields⟩ := bind_eq_ok hfields
    obtain ⟨⟨parent, r₃⟩, hparent, hfields⟩ := bind_eq_ok hfields
    obtain ⟨⟨origin, r₄⟩, horigin, hpure⟩ := bind_eq_ok hfields
    cases hpure
    obtain rfl : tail = _ := eq_of_takeNet hnet
    obtain rfl : r₁ = _ := eq_of_takeWord32 htemplate
    obtain rfl : r₂ = _ := eq_of_takeNet? hparent
    obtain rfl : r₃ = _ := eq_of_takeProcess horigin
    simp only [encode, variant, fields, List.append_assoc]
    rfl
  · obtain ⟨⟨net, r₁⟩, hnet, hfields⟩ := bind_eq_ok hfields
    obtain ⟨⟨origin, r₂⟩, horigin, hpure⟩ := bind_eq_ok hfields
    cases hpure
    obtain rfl : tail = _ := eq_of_takeNet hnet
    obtain rfl : r₁ = _ := eq_of_takeProcess horigin
    simp only [encode, variant, fields, List.append_assoc]
    rfl
  · obtain ⟨⟨net, r₁⟩, hnet, hfields⟩ := bind_eq_ok hfields
    obtain ⟨⟨sender, r₂⟩, hsender, hpure⟩ := bind_eq_ok hfields
    cases hpure
    obtain rfl : tail = _ := eq_of_takeNet hnet
    obtain rfl : r₁ = _ := eq_of_takeProcess hsender
    simp only [encode, variant, fields, List.append_assoc]
    rfl
  · obtain ⟨⟨origin, r₁⟩, horigin, hpure⟩ := bind_eq_ok hfields
    cases hpure
    obtain rfl : tail = _ := eq_of_takeProcess horigin
    simp only [encode, variant, fields, List.append_assoc]
    rfl
  · obtain ⟨⟨phase, r₁⟩, hphase, hfields⟩ := bind_eq_ok hfields
    obtain ⟨⟨sender, r₂⟩, hsender, hpure⟩ := bind_eq_ok hfields
    cases hpure
    obtain rfl : tail = _ := eq_of_takePhase hphase
    obtain rfl : r₁ = _ := eq_of_takeProcess hsender
    simp only [encode, variant, fields, List.append_assoc]
    rfl
  · obtain ⟨⟨wave, r₁⟩, hwave, hpure⟩ := bind_eq_ok hfields
    cases hpure
    obtain rfl : tail = _ := eq_of_takeWord64 hwave
    simp only [encode, variant, fields, List.append_assoc]
    rfl
  · obtain ⟨⟨wave, r₁⟩, hwave, hfields⟩ := bind_eq_ok hfields
    obtain ⟨⟨sender, r₂⟩, hsender, hfields⟩ := bind_eq_ok hfields
    obtain ⟨⟨idle, r₃⟩, hidle, hfields⟩ := bind_eq_ok hfields
    obtain ⟨⟨sent, r₄⟩, hsent, hfields⟩ := bind_eq_ok hfields
    obtain ⟨⟨received, r₅⟩, hreceived, hpure⟩ := bind_eq_ok hfields
    cases hpure
    obtain rfl : tail = _ := eq_of_takeWord64 hwave
    obtain rfl : r₁ = _ := eq_of_takeProcess hsender
    obtain rfl : r₂ = _ := eq_of_takeBool hidle
    obtain rfl : r₃ = _ := eq_of_takeWord64 hsent
    obtain rfl : r₄ = _ := eq_of_takeWord64 hreceived
    simp only [encode, variant, fields, List.append_assoc]
    rfl
  · cases hfields

theorem decode_eq_ok : decode bytes = .ok m ↔ ∃ rest, bytes = m.encode ++ rest := by
  constructor
  · intro h
    unfold decode at h
    rcases htake : take bytes with e | ⟨found, rest⟩ <;> rw [htake] at h <;> cases h
    exact ⟨rest, eq_of_take htake⟩
  · rintro ⟨rest, rfl⟩
    rw [decode, take_encode]
    rfl

theorem eq_of_encode_prefix {m' : ControlMessage} (h : m.encode <+: m'.encode) : m = m' := by
  obtain ⟨rest, hrest⟩ := h
  have hdecode : decode m'.encode = .ok m := decode_eq_ok.mpr ⟨rest, hrest.symm⟩
  rw [decode_encode] at hdecode
  cases hdecode
  rfl

theorem decode_of_cut {part : Bytes} (hpart : part <+: m.encode) (hcut : part ≠ m.encode) :
    ∃ e, decode part = .error e := by
  rcases hdecode : decode part with e | found
  · exact ⟨e, rfl⟩
  · obtain ⟨rest, rfl⟩ := decode_eq_ok.mp hdecode
    obtain rfl := eq_of_encode_prefix ((List.prefix_append ..).trans hpart)
    have hlength := hpart.length_le
    rw [List.length_append] at hlength
    have hnil : rest = [] := List.eq_nil_of_length_eq_zero (by omega)
    simp [hnil] at hcut

end ControlMessage

open ControlMessage in
/-- Bytes decode to a control message exactly if they are its encoding followed by anything. So every
message is read back, two messages never have the same encoding, no encoding is the beginning of another
one, and what is cut off before its end is refused. -/
theorem control_messages_are_read_exactly :
    (∀ bytes m, decode bytes = .ok m ↔ ∃ rest, bytes = m.encode ++ rest) ∧
    (∀ m, decode m.encode = .ok m) ∧ Function.Injective encode ∧
    (∀ m m' : ControlMessage, m.encode <+: m'.encode → m = m') ∧
    ∀ (m : ControlMessage) part, part <+: m.encode → part ≠ m.encode →
      ∃ e, decode part = .error e := by
  refine ⟨fun _ _ => decode_eq_ok, decode_encode, fun m m' heq => ?_,
    fun _ _ => eq_of_encode_prefix, fun _ _ => decode_of_cut⟩
  exact eq_of_encode_prefix (heq ▸ List.prefix_refl _)

/-- The answer to a probe with its last byte missing does not decode. -/
theorem control_messages_are_read_exactly_cut_reply :
    (ControlMessage.probeReply 7 ⟨2⟩ ⟨true, 300, 299⟩).encode.dropLast ≠
        (ControlMessage.probeReply 7 ⟨2⟩ ⟨true, 300, 299⟩).encode ∧
      ∃ e, ControlMessage.decode
        (ControlMessage.probeReply 7 ⟨2⟩ ⟨true, 300, 299⟩).encode.dropLast = .error e := by
  have hcut : (ControlMessage.probeReply 7 ⟨2⟩ ⟨true, 300, 299⟩).encode.dropLast ≠
      (ControlMessage.probeReply 7 ⟨2⟩ ⟨true, 300, 299⟩).encode := by decide
  exact ⟨hcut, control_messages_are_read_exactly.2.2.2.2 _ _ (List.dropLast_prefix _) hcut⟩

end PetriCluster
