import Mathlib.Data.List.Basic
import Mathlib.Order.Basic

/-!
# Walks through an ordered map

The items of an ordered map are a list in increasing order of their keys, an
iterator is a position in it. `lowerBound` and `upperBound` are the positions of
the first item not less than, and of the first item greater than, a key. A walk
goes from one position to another; between the two bounds of an interval it
meets the items of the interval, and between crossed bounds it may meet others.
-/
namespace XKad

section Walks

variable {α : Type}

/-- The items met from position `it` on, up to position `last` or the end. -/
def walkUntil (last : ℕ) : ℕ → List α → List α
  | _, [] => []
  | it, a :: rest => if it = last then [] else a :: walkUntil last (it + 1) rest

/-- The items met from position `it` on up to position `last`, nothing if the end comes first. -/
def walkTo (last : ℕ) : ℕ → List α → Option (List α)
  | it, [] => if it = last then some [] else none
  | it, a :: rest => if it = last then some [] else (walkTo last (it + 1) rest).map (a :: ·)

theorem walkUntil_eq (last it : ℕ) (l : List α) :
    walkUntil last it l = if it ≤ last then l.take (last - it) else l := by
  induction l generalizing it with
  | nil => simp [walkUntil]
  | cons a l ih =>
    rw [walkUntil, ih]
    rcases Nat.lt_trichotomy it last with hlt | rfl | hgt
    · rw [if_neg (by omega), if_pos (by omega), if_pos (by omega),
        show last - it = last - (it + 1) + 1 by omega, List.take_succ_cons]
    · simp
    · rw [if_neg (by omega), if_neg (by omega), if_neg (by omega)]

theorem walkTo_eq (last it : ℕ) (l : List α) :
    walkTo last it l = if it ≤ last ∧ last ≤ it + l.length then some (l.take (last - it)) else none := by
  induction l generalizing it with
  | nil =>
    rw [walkTo, List.length_nil, List.take_nil]
    exact if_congr (by omega) rfl rfl
  | cons a l ih =>
    rw [walkTo, ih, List.length_cons]
    rcases Nat.lt_trichotomy it last with hlt | rfl | hgt
    · rw [if_neg (by omega)]
      by_cases hin : last ≤ it + 1 + l.length
      · rw [if_pos (by omega), if_pos (by omega), show last - it = last - (it + 1) + 1 by omega]
        rfl
      · rw [if_neg (by omega), if_neg (by omega)]
        rfl
    · simp
    · rw [if_neg (by omega), if_neg (by omega), if_neg (by omega)]
      rfl

theorem take_drop_findIdx {r : α → α → Prop} {p : α → Bool} (hp : ∀ a b, r a b → p a = true → p b = true)
    {l : List α} (hl : l.Pairwise r) :
    l.take (l.findIdx p) = l.filter (fun a => !p a) ∧ l.drop (l.findIdx p) = l.filter p := by
  induction l with
  | nil => exact ⟨rfl, rfl⟩
  | cons a l ih =>
    obtain ⟨ha, hl⟩ := List.pairwise_cons.mp hl
    rw [List.findIdx_cons]
    cases hpa : p a with
    | true =>
      have hall : ∀ b ∈ l, p b = true := fun b hb => hp a b (ha b hb) hpa
      have hnone : l.filter (fun a => !p a) = [] := List.filter_eq_nil_iff.mpr (by simpa using hall)
      simp [hpa, hnone, List.filter_eq_self.mpr hall]
    | false => simpa [hpa] using ih hl

end Walks

section Bounds

variable {κ α : Type} [LE κ] [LT κ] [DecidableLE κ] [DecidableLT κ]

/-- The position of the first item whose key is not less than `k`. -/
def lowerBound (k : κ) (l : List (κ × α)) : ℕ := l.findIdx (fun e => k ≤ e.1)

/-- The position of the first item whose key is greater than `k`. -/
def upperBound (k : κ) (l : List (κ × α)) : ℕ := l.findIdx (fun e => k < e.1)

variable [Std.IsLinearOrder κ] [Std.LawfulOrderLT κ] {l : List (κ × α)} {lo hi : κ}

theorem lowerBound_cut (hl : l.Pairwise (fun a b => a.1 < b.1)) (k : κ) :
    l.take (lowerBound k l) = l.filter (fun e => e.1 < k) ∧
      l.drop (lowerBound k l) = l.filter (fun e => k ≤ e.1) := by
  have hcut := take_drop_findIdx (p := fun e : κ × α => decide (k ≤ e.1)) (fun a b hab ha => by
    simpa using Std.le_trans (of_decide_eq_true ha) (Std.le_of_lt hab)) hl
  simpa [lowerBound, ← decide_not, Std.not_le] using hcut

theorem upperBound_cut (hl : l.Pairwise (fun a b => a.1 < b.1)) (k : κ) :
    l.take (upperBound k l) = l.filter (fun e => e.1 ≤ k) ∧
      l.drop (upperBound k l) = l.filter (fun e => k < e.1) := by
  have hcut := take_drop_findIdx (p := fun e : κ × α => decide (k < e.1)) (fun a b hab ha => by
    simpa using Std.lt_trans (of_decide_eq_true ha) hab) hl
  simpa [upperBound, ← decide_not, Std.not_lt] using hcut

theorem lowerBound_eq_countP (hl : l.Pairwise (fun a b => a.1 < b.1)) (k : κ) :
    lowerBound k l = l.countP (fun e => e.1 < k) := by
  have hle : lowerBound k l ≤ l.length := List.findIdx_le_length
  have hlen := congrArg List.length (lowerBound_cut hl k).1
  rw [List.length_take, Nat.min_eq_left hle] at hlen
  rw [hlen, List.countP_eq_length_filter]

theorem upperBound_eq_countP (hl : l.Pairwise (fun a b => a.1 < b.1)) (k : κ) :
    upperBound k l = l.countP (fun e => e.1 ≤ k) := by
  have hle : upperBound k l ≤ l.length := List.findIdx_le_length
  have hlen := congrArg List.length (upperBound_cut hl k).1
  rw [List.length_take, Nat.min_eq_left hle] at hlen
  rw [hlen, List.countP_eq_length_filter]

/-- Between the bounds of an interval a walk meets the items of the interval. -/
theorem walkUntil_bounds (hl : l.Pairwise (fun a b => a.1 < b.1)) (h : lo ≤ hi) :
    walkUntil (upperBound hi l) (lowerBound lo l) (l.drop (lowerBound lo l)) =
      l.filter (fun e => lo ≤ e.1 ∧ e.1 ≤ hi) := by
  have hle : lowerBound lo l ≤ upperBound hi l := by
    rw [lowerBound_eq_countP hl, upperBound_eq_countP hl]
    apply List.countP_mono_left
    intro e _ he
    simpa using Std.le_trans (Std.le_of_lt (of_decide_eq_true he)) h
  -- below `hi` the items less than `lo` come at the same positions
  have hsub := hl.sublist (List.filter_sublist (p := fun e => decide (e.1 ≤ hi)))
  have hpos : lowerBound lo (l.filter (fun e => e.1 ≤ hi)) = lowerBound lo l := by
    rw [lowerBound_eq_countP hsub, lowerBound_eq_countP hl, List.countP_filter]
    apply List.countP_congr
    intro e _
    simpa using fun hlt => Std.le_trans (Std.le_of_lt hlt) h
  rw [walkUntil_eq, if_pos hle, ← List.drop_take, (upperBound_cut hl hi).1, ← hpos, (lowerBound_cut hsub lo).2,
    List.filter_filter]
  simp

/-- Crossed bounds: the walk goes on to the end, unless both are one position. -/
theorem walkUntil_crossed (hl : l.Pairwise (fun a b => a.1 < b.1)) (h : hi < lo) :
    walkUntil (upperBound hi l) (lowerBound lo l) (l.drop (lowerBound lo l)) =
      if ∃ e ∈ l, hi < e.1 ∧ e.1 < lo then l.filter (fun e => lo ≤ e.1) else [] := by
  have hsplit : lowerBound lo l = upperBound hi l + l.countP (fun e => decide (hi < e.1) && decide (e.1 < lo)) := by
    rw [lowerBound_eq_countP hl, upperBound_eq_countP hl, List.countP_eq_length_filter,
      List.length_eq_length_filter_add (fun e => decide (e.1 ≤ hi)), List.filter_filter, List.filter_filter,
      ← List.countP_eq_length_filter, ← List.countP_eq_length_filter]
    congr 1
    · apply List.countP_congr
      intro e _
      simpa using fun hle => Std.lt_of_le_of_lt hle h
    · apply List.countP_congr
      intro e _
      simp [← decide_not, Std.not_le]
  rw [walkUntil_eq, (lowerBound_cut hl lo).2]
  by_cases hbetween : ∃ e ∈ l, hi < e.1 ∧ e.1 < lo
  · have hpos : 0 < l.countP (fun e => decide (hi < e.1) && decide (e.1 < lo)) := by
      simpa [List.countP_pos_iff] using hbetween
    rw [if_neg (by omega), if_pos hbetween]
  · have hzero : l.countP (fun e => decide (hi < e.1) && decide (e.1 < lo)) = 0 := by
      rw [List.countP_eq_zero]
      intro e he hin
      exact hbetween ⟨e, he, by simpa using hin⟩
    rw [if_pos (by omega), if_neg hbetween, hsplit, hzero]
    simp

end Bounds
end XKad
