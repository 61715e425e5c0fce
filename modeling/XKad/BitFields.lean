import Mathlib

/-!
# Fields of a word

A mask and a shift to the right take a field out of a word. A field is as good as the
masked word when the shift drops no bit of the mask, and fields under several masks are
as good as the word under their union.
-/
namespace XKad

variable {w : ℕ}

/-- The field of `x` under `mask`, moved down by `shift` places. -/
def bitField (mask : BitVec w) (shift : ℕ) (x : BitVec w) : BitVec w := (x &&& mask) >>> shift

variable {x y mask mask' : BitVec w}

theorem bitField_shiftLeft {shift : ℕ} (h : mask &&& BitVec.allOnes w <<< shift = mask) :
    bitField mask shift x <<< shift = x &&& mask := by
  rw [bitField, BitVec.shiftLeft_ushiftRight, BitVec.and_assoc, h]

theorem and_mask_of_bitField {shift : ℕ} (h : mask &&& BitVec.allOnes w <<< shift = mask)
    (hxy : bitField mask shift x = bitField mask shift y) : x &&& mask = y &&& mask := by
  rw [← bitField_shiftLeft h, ← bitField_shiftLeft h, hxy]

/-- Words that agree under two masks agree under the union. -/
theorem and_mask_or (h : x &&& mask = y &&& mask) (h' : x &&& mask' = y &&& mask') :
    x &&& (mask ||| mask') = y &&& (mask ||| mask') := by
  rw [BitVec.and_or_distrib_left, BitVec.and_or_distrib_left, h, h']

theorem toNat_and_low (x : BitVec w) {n : ℕ} (hn : n ≤ w) :
    (x &&& BitVec.ofNat w (2 ^ n - 1)).toNat = x.toNat % 2 ^ n := by
  have hlow : 2 ^ n - 1 < 2 ^ w :=
    Nat.lt_of_lt_of_le (Nat.sub_lt (Nat.two_pow_pos n) Nat.one_pos) (Nat.pow_le_pow_right (by decide) hn)
  rw [BitVec.toNat_and, BitVec.toNat_ofNat, Nat.mod_eq_of_lt hlow, Nat.and_two_pow_sub_one_eq_mod]

end XKad
