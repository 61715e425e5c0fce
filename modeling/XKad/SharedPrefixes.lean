import Mathlib.Data.Nat.Bitwise
import Mathlib.Data.Nat.Size

/-!
# Numbers with a common prefix

Two numbers agree from bit `i` on exactly if their exclusive or has at most `i` bits.
The numbers whose exclusive or with `u` has one and the same length form a bucket of
`u`; two numbers of a bucket agree with each other on more bits than with `u`.
-/
namespace XKad

variable {a b c i u v n t : ℕ}

theorem size_xor_le_iff : (a ^^^ b).size ≤ i ↔ a >>> i = b >>> i := by
  have hzero : a ^^^ b < 2 ^ i ↔ (a ^^^ b) >>> i = 0 := by
    rw [Nat.shiftRight_eq_div_pow, Nat.div_eq_zero_iff_lt (Nat.two_pow_pos i)]
  rw [Nat.size_le, hzero, Nat.shiftRight_xor_distrib, Nat.xor_eq_zero_iff]

/-- What lies between numbers with a common prefix has that prefix. -/
theorem shiftRight_of_between (hab : a ≤ b) (hbc : b ≤ c) (h : a >>> i = c >>> i) : b >>> i = c >>> i := by
  rw [Nat.shiftRight_eq_div_pow, Nat.shiftRight_eq_div_pow] at h ⊢
  apply Nat.le_antisymm
  · exact Nat.div_le_div_right hbc
  · rw [← h]
    exact Nat.div_le_div_right hab

theorem shiftRight_size_sub_one (h : 0 < a) : a >>> (a.size - 1) = 1 := by
  have hpos := Nat.size_pos.mpr h
  have hlow : 2 ^ (a.size - 1) ≤ a := Nat.lt_size.mp (by omega)
  have hhigh : a < 2 * 2 ^ (a.size - 1) := by
    rw [← Nat.pow_succ', Nat.succ_eq_add_one, Nat.sub_add_cancel hpos]
    exact Nat.lt_size_self a
  rw [Nat.shiftRight_eq_div_pow, Nat.div_eq_iff (Nat.two_pow_pos _)]
  omega

theorem size_xor_lt_of_size_eq (h : 0 < a) (hsize : a.size = b.size) : (a ^^^ b).size < a.size := by
  have hpos := Nat.size_pos.mpr h
  have hb : 0 < b := Nat.size_pos.mp (hsize ▸ hpos)
  have hlead : a >>> (a.size - 1) = b >>> (a.size - 1) := by
    rw [shiftRight_size_sub_one h, hsize, shiftRight_size_sub_one hb]
  have hle := size_xor_le_iff.mpr hlead
  omega

/-- Two numbers of a bucket of `u` agree above the bit that sets them apart from `u`. -/
theorem shiftRight_of_bucket (hne : u ≠ c) (hbucket : (u ^^^ v).size = (u ^^^ c).size) :
    v >>> ((u ^^^ c).size - 1) = c >>> ((u ^^^ c).size - 1) := by
  have hpos : 0 < u ^^^ c := Nat.pos_of_ne_zero (fun h => hne (Nat.xor_eq_zero_iff.mp h))
  have hlt := size_xor_lt_of_size_eq hpos hbucket.symm
  have hvc : (u ^^^ c) ^^^ (u ^^^ v) = v ^^^ c := by
    rw [Nat.xor_comm u c, Nat.xor_assoc, Nat.xor_xor_cancel_left, Nat.xor_comm]
  rw [hvc] at hlt
  apply size_xor_le_iff.mp
  omega

/-- Between the nearest number `c` and a number of its bucket lies nothing as far from
`c` as `u` is. -/
theorem size_xor_lt_of_between (hne : u ≠ c) (hbucket : (u ^^^ v).size = (u ^^^ c).size)
    (hlow : c ^^^ t ≤ n ^^^ t) (hhigh : n ^^^ t ≤ v ^^^ t) : (n ^^^ c).size < (u ^^^ c).size := by
  have hpos : 0 < (u ^^^ c).size :=
    Nat.size_pos.mpr (Nat.pos_of_ne_zero (fun h => hne (Nat.xor_eq_zero_iff.mp h)))
  have hvc := shiftRight_of_bucket hne hbucket
  have hends : (c ^^^ t) >>> ((u ^^^ c).size - 1) = (v ^^^ t) >>> ((u ^^^ c).size - 1) := by
    rw [Nat.shiftRight_xor_distrib, Nat.shiftRight_xor_distrib, hvc]
  have hmid := shiftRight_of_between hlow hhigh hends
  rw [Nat.shiftRight_xor_distrib, Nat.shiftRight_xor_distrib] at hmid
  have hle := size_xor_le_iff.mpr ((Nat.xor_left_injective hmid).trans hvc)
  omega

theorem xor_lt_of_bucket (hlt : c ^^^ t < u ^^^ t) (hbucket : (u ^^^ v).size = (u ^^^ c).size) :
    v ^^^ t < u ^^^ t := by
  have hne : u ≠ c := by
    rintro rfl
    exact absurd hlt (Nat.lt_irrefl _)
  have hvc := shiftRight_of_bucket hne hbucket
  by_contra hge
  have hpos : 0 < (u ^^^ c).size :=
    Nat.size_pos.mpr (Nat.pos_of_ne_zero (fun h => hne (Nat.xor_eq_zero_iff.mp h)))
  have hends : (c ^^^ t) >>> ((u ^^^ c).size - 1) = (v ^^^ t) >>> ((u ^^^ c).size - 1) := by
    rw [Nat.shiftRight_xor_distrib, Nat.shiftRight_xor_distrib, hvc]
  have hmid := shiftRight_of_between hlt.le (not_lt.mp hge) hends
  rw [Nat.shiftRight_xor_distrib, Nat.shiftRight_xor_distrib] at hmid
  have hle := size_xor_le_iff.mpr ((Nat.xor_left_injective hmid).trans hvc)
  omega

end XKad
