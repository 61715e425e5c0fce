import Mathlib.Algebra.BigOperators.Group.Multiset.Basic
import Mathlib.Tactic.Linarith

/-!
# Descents

A walk whose rank falls at every step before the goal reaches it in as many steps as
its rank. A collection in which an item is replaced by items of smaller total weight
can undergo no more replacements than the weight it starts with. A relation that takes
in its own square in every round spans all distances after logarithmically many.
-/
namespace XKad

section Walks
variable {σ : Type}

/-- The state after `k` steps, each step with its time; `none` once a step is missing. -/
def walk (step : ℕ → σ → Option σ) (s : σ) : ℕ → Option σ
  | 0 => some s
  | k + 1 => (walk step s k).bind (step k)

theorem walk_reaches {step : ℕ → σ → Option σ} {I goal : σ → Prop} {rank : σ → ℕ}
    (hstep : ∀ k s, I s → ¬ goal s → ∃ s', step k s = some s' ∧ I s' ∧ rank s' < rank s)
    {s : σ} (hs : I s) : ∃ k ≤ rank s, ∃ s', walk step s k = some s' ∧ I s' ∧ goal s' := by
  have hrun (k : ℕ) : (∃ j < k, ∃ s', walk step s j = some s' ∧ I s' ∧ goal s') ∨
      ∃ s', walk step s k = some s' ∧ I s' ∧ rank s' + k ≤ rank s := by
    induction k with
    | zero => exact Or.inr ⟨s, rfl, hs, Nat.le_refl _⟩
    | succ k ih =>
      obtain ⟨j, hj, hreached⟩ | ⟨s', hwalk, hi, hrank⟩ := ih
      · exact Or.inl ⟨j, by omega, hreached⟩
      · by_cases hgoal : goal s'
        · exact Or.inl ⟨k, by omega, s', hwalk, hi, hgoal⟩
        · obtain ⟨s'', hnext, hi', hlt⟩ := hstep k s' hi hgoal
          refine Or.inr ⟨s'', ?_, hi', by omega⟩
          rw [walk, hwalk]
          exact hnext
  obtain ⟨j, hj, hreached⟩ | ⟨_, _, _, hrank⟩ := hrun (rank s + 1)
  · exact ⟨j, by omega, hreached⟩
  · omega

end Walks

section Cascades
variable {σ μ : Type}

/-- The runs of a system with items in flight: a step of its own puts items in flight,
and an item in flight is used up, which puts others in flight. Counted are the items
used up; `begun` lists those no item led to. -/
inductive Cascade (begins : σ → List μ → σ → Prop) (uses : σ → μ → List μ → σ → Prop) (s : σ) :
    ℕ → List μ → σ → Multiset μ → Prop where
  | start : Cascade begins uses s 0 [] s 0
  | begin {n : ℕ} {begun out : List μ} {t t' : σ} {flight : Multiset μ}
      (h : Cascade begins uses s n begun t flight) (ht : begins t out t') :
      Cascade begins uses s n (begun ++ out) t' (flight + ↑out)
  | use {n : ℕ} {begun out : List μ} {t t' : σ} {m : μ} {rest : Multiset μ}
      (h : Cascade begins uses s n begun t (m ::ₘ rest)) (ht : uses t m out t') :
      Cascade begins uses s (n + 1) begun t' (rest + ↑out)

namespace Cascade

variable {begins : σ → List μ → σ → Prop} {uses : σ → μ → List μ → σ → Prop} {I : σ → Prop} {weight : μ → ℕ}
  (hbegins : ∀ t out t', I t → begins t out t' → I t')
  (huses : ∀ t m out t', I t → uses t m out t' → I t' ∧ (out.map weight).sum < weight m)

include hbegins huses

/-- An item that is used up outweighs what it leads to, so the items used up and the
weight in flight are no more than the weight that was begun. -/
theorem invariant {s t : σ} {n : ℕ} {begun : List μ} {flight : Multiset μ} (hs : I s)
    (h : Cascade begins uses s n begun t flight) :
    I t ∧ n + (flight.map weight).sum ≤ (begun.map weight).sum := by
  induction h with
  | start => exact ⟨hs, by simp⟩
  | begin h ht ih =>
    refine ⟨hbegins _ _ _ ih.1 ht, ?_⟩
    rw [Multiset.map_add, Multiset.sum_add, Multiset.map_coe, Multiset.sum_coe, List.map_append, List.sum_append]
    have hle := ih.2
    omega
  | use h ht ih =>
    obtain ⟨hinv, hlt⟩ := huses _ _ _ _ ih.1 ht
    refine ⟨hinv, ?_⟩
    have hle := ih.2
    rw [Multiset.map_cons, Multiset.sum_cons] at hle
    rw [Multiset.map_add, Multiset.sum_add, Multiset.map_coe, Multiset.sum_coe]
    omega

omit hbegins huses in
/-- What holds of everything put in flight by steps of the system's own. -/
theorem begun_all {Q : μ → Prop} (hQ : ∀ t out t', begins t out t' → ∀ m ∈ out, Q m) {s t : σ} {n : ℕ}
    {begun : List μ} {flight : Multiset μ} (h : Cascade begins uses s n begun t flight) : ∀ m ∈ begun, Q m := by
  induction h with
  | start => exact fun m hm => by cases hm
  | begin h ht ih =>
    intro m hm
    rcases List.mem_append.mp hm with hm | hm
    · exact ih m hm
    · exact hQ _ _ _ ht m hm
  | use h ht ih => exact ih

end Cascade
end Cascades

section Doublings
variable {ι : Type}

def Steps (R : ι → ι → Prop) : ℕ → ι → ι → Prop
  | 0, i, k => i = k
  | n + 1, i, k => ∃ j, R i j ∧ Steps R n j k

theorem Steps.split {R : ι → ι → Prop} {m n : ℕ} {i k : ι} (h : Steps R (m + n) i k) :
    ∃ j, Steps R m i j ∧ Steps R n j k := by
  induction m generalizing i with
  | zero => exact ⟨i, rfl, by rwa [Nat.zero_add] at h⟩
  | succ m ih =>
    rw [Nat.succ_add] at h
    obtain ⟨j, hij, hjk⟩ := h
    obtain ⟨l, hjl, hlk⟩ := ih hjk
    exact ⟨l, ⟨j, hij, hjl⟩, hlk⟩

/-- Relations each of which contains the square of the one before it. -/
theorem doubling_spans {R : ℕ → ι → ι → Prop} {r : ℕ}
    (hstep : ∀ q < r, ∀ i j k, R q i j → R q j k → R (q + 1) i k) {i k : ι} (h : Steps (R 0) (2 ^ r) i k) :
    R r i k := by
  induction r generalizing i k with
  | zero =>
    obtain ⟨j, hij, rfl⟩ := h
    exact hij
  | succ r ih =>
    rw [Nat.pow_succ, Nat.mul_two] at h
    obtain ⟨j, hij, hjk⟩ := h.split
    have hbefore : ∀ q < r, ∀ i j k, R q i j → R q j k → R (q + 1) i k := fun q hq => hstep q (by omega)
    exact hstep r (Nat.lt_succ_self r) i j k (ih hbefore hij) (ih hbefore hjk)

end Doublings
end XKad
