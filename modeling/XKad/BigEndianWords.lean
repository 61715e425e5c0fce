import Mathlib

/-!
# Byte words read as big-endian numbers

A word of bytes is compared, combined by exclusive or and measured in bits
through the number it spells with its most significant byte first.
-/
namespace XKad

abbrev Bytes := List UInt8

/-- The number spelled by a word, most significant byte first. -/
def bigEndian : Bytes → ℕ
  | [] => 0
  | b :: bs => b.toNat * 256 ^ bs.length + bigEndian bs

@[simp] theorem bigEndian_nil : bigEndian [] = 0 := rfl

theorem bigEndian_cons (b : UInt8) (bs : Bytes) :
    bigEndian (b :: bs) = b.toNat * 256 ^ bs.length + bigEndian bs := rfl

theorem bigEndian_lt (bs : Bytes) : bigEndian bs < 256 ^ bs.length := by
  induction bs with
  | nil => simp
  | cons b bs ih =>
    have hb : b.toNat < 256 := b.toNat_lt
    have hm : (b.toNat + 1) * 256 ^ bs.length ≤ 256 * 256 ^ bs.length :=
      Nat.mul_le_mul_right _ hb
    rw [bigEndian_cons, List.length_cons, pow_succ']
    rw [add_mul, one_mul] at hm
    omega

/-- Words of one length compare as their first different bytes do. -/
theorem bigEndian_cons_lt_iff (a b : UInt8) {as bs : Bytes} (h : as.length = bs.length) :
    bigEndian (a :: as) < bigEndian (b :: bs) ↔ a < b ∨ a = b ∧ bigEndian as < bigEndian bs := by
  have ha := bigEndian_lt as
  have hb := bigEndian_lt bs
  rw [bigEndian_cons, bigEndian_cons, ← h, UInt8.lt_iff_toNat_lt, ← UInt8.toNat_inj]
  rw [← h] at hb
  rcases lt_trichotomy a.toNat b.toNat with hab | hab | hab
  · have hm := Nat.mul_le_mul_right (256 ^ as.length) (Nat.succ_le_of_lt hab)
    rw [Nat.succ_mul] at hm
    constructor
    · intro _
      exact Or.inl hab
    · intro _
      omega
  · simp [hab]
  · have hm := Nat.mul_le_mul_right (256 ^ as.length) (Nat.succ_le_of_lt hab)
    rw [Nat.succ_mul] at hm
    constructor
    · intro _
      omega
    · rintro (hlt | ⟨heq, _⟩) <;> omega

theorem bigEndian_inj {as bs : Bytes} (hl : as.length = bs.length)
    (h : bigEndian as = bigEndian bs) : as = bs := by
  induction as generalizing bs with
  | nil => exact (List.length_eq_zero_iff.mp hl.symm).symm
  | cons a as ih =>
    cases bs with
    | nil => simp at hl
    | cons b bs =>
      simp only [List.length_cons, Nat.add_right_cancel_iff] at hl
      have hab : ¬ bigEndian (a :: as) < bigEndian (b :: bs) := by omega
      have hba : ¬ bigEndian (b :: bs) < bigEndian (a :: as) := by omega
      rw [bigEndian_cons_lt_iff a b hl] at hab
      rw [bigEndian_cons_lt_iff b a hl.symm] at hba
      simp only [UInt8.lt_iff_toNat_lt, ← UInt8.toNat_inj, not_or, not_and] at hab hba
      have hn : a.toNat = b.toNat := by omega
      have ht := ih hl (by have := hab.2 hn; have := hba.2 hn.symm; omega)
      rw [UInt8.toNat_inj.mp hn, ht]

private theorem xor_digits (k x y r s : ℕ) (hr : r < 2 ^ k) (hs : s < 2 ^ k) :
    (x * 2 ^ k + r) ^^^ (y * 2 ^ k + s) = (x ^^^ y) * 2 ^ k + (r ^^^ s) := by
  refine Nat.eq_of_testBit_eq (fun j => ?_)
  rw [mul_comm x, mul_comm y, mul_comm (x ^^^ y), Nat.testBit_xor,
    Nat.testBit_two_pow_mul_add _ hr, Nat.testBit_two_pow_mul_add _ hs,
    Nat.testBit_two_pow_mul_add _ (Nat.xor_lt_two_pow hr hs)]
  split <;> rw [Nat.testBit_xor]

/-- Bytewise exclusive or is exclusive or of the numbers. -/
theorem bigEndian_xor {as bs : Bytes} (h : as.length = bs.length) :
    bigEndian (List.zipWith (· ^^^ ·) as bs) = bigEndian as ^^^ bigEndian bs := by
  induction as generalizing bs with
  | nil => simp [List.length_eq_zero_iff.mp h.symm]
  | cons a as ih =>
    cases bs with
    | nil => simp at h
    | cons b bs =>
      simp only [List.length_cons, Nat.add_right_cancel_iff] at h
      have ha := bigEndian_lt as
      have hb := bigEndian_lt bs
      have hp : (256 : ℕ) ^ as.length = 2 ^ (8 * as.length) := by rw [pow_mul]; norm_num
      rw [← h] at hb
      rw [hp] at ha hb
      rw [List.zipWith_cons_cons, bigEndian_cons, bigEndian_cons, bigEndian_cons, ih h,
        List.length_zipWith, ← h, min_self, hp, UInt8.toNat_xor]
      exact (xor_digits _ _ _ _ _ ha hb).symm

theorem bigEndian_zero_cons (bs : Bytes) : bigEndian (0 :: bs) = bigEndian bs := by
  simp [bigEndian_cons]

/-- The bit length is decided by the first byte that is not zero. -/
theorem size_bigEndian_cons {b : UInt8} (hb : b ≠ 0) (bs : Bytes) :
    (bigEndian (b :: bs)).size = 8 * bs.length + b.toNat.size := by
  have hlt := bigEndian_lt bs
  have hp : (256 : ℕ) ^ bs.length = 2 ^ (8 * bs.length) := by rw [pow_mul]; norm_num
  rw [hp] at hlt
  have hb0 : 0 < b.toNat := Nat.pos_of_ne_zero (fun h => hb (UInt8.toNat_inj.mp (by simpa using h)))
  have hs : 0 < b.toNat.size := Nat.size_pos.mpr hb0
  refine le_antisymm ?_ ?_
  · rw [Nat.size_le, bigEndian_cons, hp, pow_add]
    have hm := Nat.mul_le_mul_right (2 ^ (8 * bs.length)) (Nat.succ_le_of_lt (Nat.lt_size_self b.toNat))
    rw [Nat.succ_mul, mul_comm (2 ^ b.toNat.size)] at hm
    omega
  · obtain ⟨m, hm⟩ : ∃ m, b.toNat.size = m + 1 := ⟨b.toNat.size - 1, by omega⟩
    have hle : 2 ^ m ≤ b.toNat := Nat.lt_size.mp (by omega)
    have hmul := Nat.mul_le_mul_right (2 ^ (8 * bs.length)) hle
    rw [hm, ← add_assoc, Nat.succ_le_iff, Nat.lt_size, bigEndian_cons, hp, pow_add,
      mul_comm (2 ^ (8 * bs.length))]
    omega

end XKad
