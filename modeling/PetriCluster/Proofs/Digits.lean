import PetriCluster.Bytes
import Mathlib.Algebra.Group.Nat.Defs

/-!
# Words and their bytes

A fixed number of bytes holds the numbers below a power of 256: a number is read back from its bytes
reduced to their width, and every byte string of a width is the form of exactly one number of that
width.
-/

namespace PetriCluster.Bytes

/-- Digits read back give the number again, reduced to their width. -/
theorem ofLittleEndian_littleEndian (width n : Nat) :
    ofLittleEndian (littleEndian width n) = n % 256 ^ width := by
  induction width generalizing n with
  | zero => simp [littleEndian, ofLittleEndian, Nat.mod_one]
  | succ width ih =>
    have byte : (UInt8.ofNat n).toNat = n % 256 := by simp
    rw [littleEndian, ofLittleEndian, ih, byte, Nat.pow_succ, Nat.mul_comm (256 ^ width) 256,
      Nat.mod_mul]

theorem ofBigEndian_bigEndian (width n : Nat) :
    ofBigEndian (bigEndian width n) = n % 256 ^ width := by
  simp [ofBigEndian, bigEndian, ofLittleEndian_littleEndian]

theorem ofLittleEndian_lt (b : Bytes) : ofLittleEndian b < 256 ^ b.length := by
  induction b with
  | nil => simp [ofLittleEndian]
  | cons x rest ih =>
    have hx : x.toNat < 256 := x.toNat_lt
    simp only [ofLittleEndian, List.length_cons, Nat.pow_succ]
    omega

theorem mod_word32 (n : UInt32) : n.toNat % 256 ^ 4 = n.toNat :=
  Nat.mod_eq_of_lt n.toNat_lt

theorem mod_word64 (n : UInt64) : n.toNat % 256 ^ 8 = n.toNat :=
  Nat.mod_eq_of_lt n.toNat_lt

theorem bigEndian_ofBigEndian (b : Bytes) : bigEndian b.length (ofBigEndian b) = b := by
  have h := littleEndian_ofLittleEndian b.reverse
  rw [List.length_reverse] at h
  rw [bigEndian, ofBigEndian, h, List.reverse_reverse]

theorem ofBigEndian_lt (b : Bytes) : ofBigEndian b < 256 ^ b.length := by
  simpa [ofBigEndian] using ofLittleEndian_lt b.reverse

theorem ofBigEndian_lt_word {b : Bytes} (h : b.length = 4) : ofBigEndian b < 2 ^ 32 := by
  have hlt := ofBigEndian_lt b
  rwa [h] at hlt

theorem exists_bigEndian {b : Bytes} (h : b.length = 4) : ∃ n < 2 ^ 32, b = bigEndian 4 n :=
  ⟨ofBigEndian b, ofBigEndian_lt_word h, by rw [← h, bigEndian_ofBigEndian]⟩

theorem exists_of_bigEndian (n : Nat) : ∃ b₀ b₁ b₂ b₃, bigEndian 4 n = [b₀, b₁, b₂, b₃] :=
  ⟨_, _, _, _, rfl⟩

end PetriCluster.Bytes
