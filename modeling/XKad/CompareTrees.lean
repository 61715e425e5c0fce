import Mathlib

/-!
# Comparison programs and partial sorts

A library routine that orders a range through a comparator sees the comparator
only by its answers. Such a routine is a finite tree of comparisons, and the
comparisons it makes on a given comparator are the path through that tree.
`PartialSort` is the contract of a partial sort: the first `k` places hold the
`k` least elements in order, the rest is left in any order.
-/
namespace XKad

/-- A program that may compare elements of `α` and finally returns a `β`. -/
inductive CompareTree (α β : Type) where
  | ret (b : β)
  | ask (x y : α) (next : Bool → CompareTree α β)

/-- A strict weak order given by its Boolean test. -/
structure StrictWeak {α : Type} (lt : α → α → Bool) : Prop where
  irrefl : ∀ a, lt a a = false
  trans : ∀ a b c, lt a b = true → lt b c = true → lt a c = true
  incomp : ∀ a b c, lt a b = false → lt b c = false → lt a c = false

/-- What a sort demands of its comparator: a strict weak order of the elements of the range. -/
def OrdersRange {α : Type} (lt : α → α → Bool) (l : List α) : Prop :=
  StrictWeak (fun a b : {x // x ∈ l} => lt a.1 b.1)

theorem StrictWeak.of_rank {α : Type} {lt : α → α → Bool} (rank : α → ℕ)
    (h : ∀ a b, lt a b = decide (rank a < rank b)) : StrictWeak lt := by
  refine ⟨?_, ?_, ?_⟩
  · intro a
    simp [h]
  · intro a b c
    simp only [h, decide_eq_true_eq]
    omega
  · intro a b c
    simp only [h, decide_eq_false_iff_not]
    omega

namespace CompareTree

variable {α β γ : Type}

/-- The value returned when every comparison is answered by `lt`. -/
def eval (lt : α → α → Bool) : CompareTree α β → β
  | ret b => b
  | ask x y next => (next (lt x y)).eval lt

/-- The comparisons made on the way to that value, in order. -/
def calls (lt : α → α → Bool) : CompareTree α β → List (α × α)
  | ret _ => []
  | ask x y next => (x, y) :: (next (lt x y)).calls lt

def bind : CompareTree α β → (β → CompareTree α γ) → CompareTree α γ
  | ret b, f => f b
  | ask x y next, f => ask x y (fun r => (next r).bind f)

@[simp] theorem eval_ret (lt : α → α → Bool) (b : β) : (ret b).eval lt = b := rfl

@[simp] theorem calls_ret (lt : α → α → Bool) (b : β) : (ret b : CompareTree α β).calls lt = [] := rfl

@[simp] theorem eval_ask (lt : α → α → Bool) (x y : α) (next : Bool → CompareTree α β) :
    (ask x y next).eval lt = (next (lt x y)).eval lt := rfl

@[simp] theorem calls_ask (lt : α → α → Bool) (x y : α) (next : Bool → CompareTree α β) :
    (ask x y next).calls lt = (x, y) :: (next (lt x y)).calls lt := rfl

@[simp] theorem eval_bind (lt : α → α → Bool) (t : CompareTree α β) (f : β → CompareTree α γ) :
    (t.bind f).eval lt = (f (t.eval lt)).eval lt := by
  induction t with
  | ret b => rfl
  | ask x y next ih => exact ih (lt x y)

@[simp] theorem calls_bind (lt : α → α → Bool) (t : CompareTree α β) (f : β → CompareTree α γ) :
    (t.bind f).calls lt = t.calls lt ++ (f (t.eval lt)).calls lt := by
  induction t with
  | ret b => rfl
  | ask x y next ih => simp only [bind, calls_ask, eval_ask, ih (lt x y), List.cons_append]

def insert (a : α) : List α → CompareTree α (List α)
  | [] => ret [a]
  | b :: l => ask b a (fun r => if r then (insert a l).bind (fun m => ret (b :: m)) else ret (a :: b :: l))

def insertionSort : List α → CompareTree α (List α)
  | [] => ret []
  | a :: l => (insertionSort l).bind (insert a)

/-- Insertion, answered by `lt`, is ordered insertion for "not greater". -/
theorem eval_insert (lt : α → α → Bool) (a : α) (l : List α) :
    (insert a l).eval lt = l.orderedInsert (fun x y => lt y x = false) a := by
  induction l with
  | nil => rfl
  | cons b l ih => cases h : lt b a <;> simp [insert, h, ih]

theorem eval_insertionSort (lt : α → α → Bool) (l : List α) :
    (insertionSort l).eval lt = l.insertionSort (fun x y => lt y x = false) := by
  induction l with
  | nil => rfl
  | cons a l ih => simp [insertionSort, eval_insert, ih]

theorem insertionSort_perm (lt : α → α → Bool) (l : List α) :
    ((insertionSort l).eval lt).Perm l := by
  rw [eval_insertionSort]
  exact List.perm_insertionSort _ l

theorem insertionSort_sorted {lt : α → α → Bool} (hlt : StrictWeak lt) (l : List α) :
    ((insertionSort l).eval lt).Pairwise (fun x y => lt y x = false) := by
  have htotal : Std.Total (fun x y : α => lt y x = false) := by
    refine ⟨fun x y => ?_⟩
    by_contra h
    simp only [not_or, Bool.not_eq_false] at h
    have hxx := hlt.trans x y x h.2 h.1
    simp [hlt.irrefl] at hxx
  have htrans : IsTrans α (fun x y : α => lt y x = false) :=
    ⟨fun x y z hxy hyz => hlt.incomp z y x hyz hxy⟩
  rw [eval_insertionSort]
  exact List.pairwise_insertionSort _ l

theorem insert_calls (lt : α → α → Bool) (a : α) (l : List α) (p : α × α)
    (hp : p ∈ (insert a l).calls lt) : p.1 ∈ l ∧ p.2 = a := by
  induction l with
  | nil => simp [insert] at hp
  | cons b l ih =>
    simp only [insert, calls_ask, List.mem_cons] at hp
    rcases hp with rfl | hp
    · simp
    · cases h : lt b a with
      | false => simp [h] at hp
      | true =>
        simp only [h, if_true, calls_bind, calls_ret, List.append_nil] at hp
        exact ⟨List.mem_cons_of_mem b (ih hp).1, (ih hp).2⟩

/-- Insertion sort compares elements at two different positions only. -/
theorem insertionSort_calls (lt : α → α → Bool) (l : List α) (p : α × α)
    (hp : p ∈ (insertionSort l).calls lt) : List.Subperm [p.1, p.2] l := by
  induction l with
  | nil => simp [insertionSort] at hp
  | cons a l ih =>
    rw [insertionSort, calls_bind, List.mem_append] at hp
    rcases hp with hp | hp
    · exact (ih hp).trans (List.sublist_cons_self a l).subperm
    · obtain ⟨hm, ha⟩ := insert_calls lt a _ p hp
      have hs : List.Subperm [p.1] l :=
        List.singleton_subperm_iff.mpr ((insertionSort_perm lt l).mem_iff.mp hm)
      rw [ha]
      exact (List.Perm.swap a p.1 []).subperm.trans (List.subperm_cons a |>.mpr hs)

/-- Ask every pair of `xs × ys` first, ignore the answers, and go on with `t`. -/
def askAll (t : CompareTree α β) (ps : List (α × α)) : CompareTree α β :=
  ps.foldr (fun p t => ask p.1 p.2 (fun _ => t)) t

@[simp] theorem eval_askAll (lt : α → α → Bool) (t : CompareTree α β) (ps : List (α × α)) :
    (t.askAll ps).eval lt = t.eval lt := by
  induction ps with
  | nil => rfl
  | cons p ps ih => exact ih

@[simp] theorem calls_askAll (lt : α → α → Bool) (t : CompareTree α β) (ps : List (α × α)) :
    (t.askAll ps).calls lt = ps ++ t.calls lt := by
  induction ps with
  | nil => rfl
  | cons p ps ih => simpa [askAll] using ih

end CompareTree

/-- The contract of a partial sort over a strict weak order: it permutes the range and
leaves the least `k` elements in order in front. That it compares only elements at two
different positions is no documented guarantee of `std::partial_sort`. -/
structure PartialSort (α : Type) where
  program : ℕ → List α → CompareTree α (List α)
  perm : ∀ {lt : α → α → Bool}, StrictWeak lt → ∀ k l, ((program k l).eval lt).Perm l
  calls_subperm : ∀ {lt : α → α → Bool}, StrictWeak lt → ∀ k l, ∀ p ∈ (program k l).calls lt,
    List.Subperm [p.1, p.2] l
  sorted : ∀ {lt : α → α → Bool}, StrictWeak lt → ∀ k l, k ≤ l.length →
    (((program k l).eval lt).take k).Pairwise (fun x y => lt y x = false)
  least : ∀ {lt : α → α → Bool}, StrictWeak lt → ∀ k l, k ≤ l.length →
    ∀ x ∈ ((program k l).eval lt).take k, ∀ y ∈ ((program k l).eval lt).drop k, lt y x = false

namespace PartialSort

variable {α : Type}

/-- Sorting the whole range is a partial sort for every `k`; `extra` comparisons
may be made first, as long as they are between two positions of the range. -/
def ofInsertion (extra : List α → List (α × α))
    (hextra : ∀ l, ∀ p ∈ extra l, List.Subperm [p.1, p.2] l) : PartialSort α where
  program _ l := (CompareTree.insertionSort l).askAll (extra l)
  perm := by
    intro lt _ k l
    rw [CompareTree.eval_askAll]
    exact CompareTree.insertionSort_perm lt l
  calls_subperm := by
    intro lt _ k l p hp
    rw [CompareTree.calls_askAll, List.mem_append] at hp
    rcases hp with hp | hp
    · exact hextra l p hp
    · exact CompareTree.insertionSort_calls lt l p hp
  sorted := by
    intro lt hlt k l _
    rw [CompareTree.eval_askAll]
    exact (CompareTree.insertionSort_sorted hlt l).sublist (List.take_sublist k _)
  least := by
    intro lt hlt k l _ x hx y hy
    rw [CompareTree.eval_askAll] at hx hy
    have hs := CompareTree.insertionSort_sorted hlt l
    rw [← List.take_append_drop k (CompareTree.eval lt _)] at hs
    exact (List.pairwise_append.mp hs).2.2 x hx y hy

theorem mem_calls_ofInsertion {extra : List α → List (α × α)}
    (hextra : ∀ l, ∀ p ∈ extra l, List.Subperm [p.1, p.2] l) (lt : α → α → Bool) (k : ℕ) {l : List α}
    {p : α × α} (hp : p ∈ extra l) : p ∈ ((ofInsertion extra hextra).program k l).calls lt := by
  rw [ofInsertion, CompareTree.calls_askAll]
  exact List.mem_append_left _ hp

def insertion : PartialSort α := ofInsertion (fun _ => []) (by simp)

def rankLt (rank : α → ℕ) (a b : α) : Bool := decide (rank a < rank b)

theorem rankLt_strictWeak (rank : α → ℕ) : StrictWeak (rankLt rank) :=
  StrictWeak.of_rank rank (fun _ _ => rfl)

variable (S : PartialSort α) (rank : α → ℕ)

/-- The range after a partial sort by `rank`. -/
def sortBy (k : ℕ) (l : List α) : List α := (S.program k l).eval (rankLt rank)

theorem sortBy_perm (k : ℕ) (l : List α) : (S.sortBy rank k l).Perm l :=
  S.perm (rankLt_strictWeak rank) k l

theorem sortBy_length (k : ℕ) (l : List α) : (S.sortBy rank k l).length = l.length :=
  (S.sortBy_perm rank k l).length_eq

theorem mem_sortBy (k : ℕ) (l : List α) (a : α) : a ∈ S.sortBy rank k l ↔ a ∈ l :=
  (S.sortBy_perm rank k l).mem_iff

variable {rank}

private theorem sortBy_rank_ne {l : List α} (hl : l.Pairwise (fun x y => rank x ≠ rank y)) (k : ℕ) :
    (S.sortBy rank k l).Pairwise (fun x y => rank x ≠ rank y) :=
  (S.sortBy_perm rank k l).symm.pairwise hl (fun h => h.symm)

/-- With pairwise different ranks the sorted part is strictly increasing. -/
theorem sortBy_take_lt {l : List α} (hl : l.Pairwise (fun x y => rank x ≠ rank y)) {k : ℕ}
    (hk : k ≤ l.length) : ((S.sortBy rank k l).take k).Pairwise (fun x y => rank x < rank y) := by
  have hs := S.sorted (rankLt_strictWeak rank) k l hk
  have hn := (S.sortBy_rank_ne hl k).sublist (List.take_sublist k _)
  refine (hs.and hn).imp ?_
  intro x y h
  have h₁ := h.1
  have h₂ := h.2
  simp only [rankLt, decide_eq_false_iff_not] at h₁
  omega

/-- What is not in the sorted part ranks after all of it. -/
theorem sortBy_lt_of_notMem {l : List α} (hl : l.Pairwise (fun x y => rank x ≠ rank y)) {k : ℕ}
    (hk : k ≤ l.length) {x y : α} (hx : x ∈ (S.sortBy rank k l).take k) (hy : y ∈ l)
    (hny : y ∉ (S.sortBy rank k l).take k) : rank x < rank y := by
  have hmem := (S.mem_sortBy rank k l y).mpr hy
  have hn := S.sortBy_rank_ne hl k
  rw [← List.take_append_drop k (S.sortBy rank k l)] at hmem hn
  have hyd := (List.mem_append.mp hmem).resolve_left hny
  have hne := (List.pairwise_append.mp hn).2.2 x hx y hyd
  have hle := S.least (rankLt_strictWeak rank) k l hk x hx y hyd
  simp only [rankLt, decide_eq_false_iff_not] at hle
  omega

theorem sortBy_take_length {l : List α} {k : ℕ} (hk : k ≤ l.length) :
    ((S.sortBy rank k l).take k).length = k := by
  rw [List.length_take, S.sortBy_length]
  omega

/-- An element left out of the sorted part has at least `k` elements before it. -/
theorem sortBy_count_of_notMem {l : List α} (hl : l.Pairwise (fun x y => rank x ≠ rank y)) {k : ℕ}
    (hk : k ≤ l.length) {y : α} (hy : y ∈ l) (hny : y ∉ (S.sortBy rank k l).take k) :
    k ≤ (l.filter (fun x => rank x < rank y)).length := by
  have hall : ((S.sortBy rank k l).take k).filter (fun x => rank x < rank y) =
      (S.sortBy rank k l).take k := by
    refine List.filter_eq_self.mpr (fun x hx => ?_)
    simpa using S.sortBy_lt_of_notMem hl hk hx hy hny
  have hsub := ((List.take_sublist k (S.sortBy rank k l)).filter (fun x => rank x < rank y)).length_le
  have hperm := ((S.sortBy_perm rank k l).filter (fun x => rank x < rank y)).length_eq
  rw [hall, S.sortBy_take_length hk, hperm] at hsub
  exact hsub

theorem sortBy_take_all {l : List α} {k : ℕ} (hk : k = l.length) :
    (S.sortBy rank k l).take k = S.sortBy rank k l :=
  List.take_of_length_le (by rw [S.sortBy_length]; omega)

/-- Two increasing lists of the same length that both precede everything they leave out of `l` are equal. -/
theorem eq_of_least {l A B : List α} (hA : A.Pairwise (fun x y => rank x < rank y))
    (hB : B.Pairwise (fun x y => rank x < rank y)) (hlen : A.length = B.length) (hAl : A ⊆ l) (hBl : B ⊆ l)
    (houtA : ∀ y ∈ l, y ∉ A → ∀ x ∈ A, rank x < rank y)
    (houtB : ∀ y ∈ l, y ∉ B → ∀ x ∈ B, rank x < rank y) : A = B := by
  have hnodup {L : List α} (hL : L.Pairwise (fun x y => rank x < rank y)) : L.Nodup :=
    hL.imp (fun hxy he => Nat.ne_of_lt hxy (congrArg rank he))
  have hsub : A ⊆ B := by
    intro y hy
    by_contra hny
    -- everything in `B` is smaller than `y`, so it is in `A` too
    have hrev : B ⊆ A := by
      intro x hx
      by_contra hnx
      have hxy := houtB y (hAl hy) hny x hx
      have hyx := houtA x (hBl hx) hnx y hy
      omega
    have hperm := ((hnodup hB).subperm hrev).perm_of_length_le hlen.le
    exact hny (hperm.mem_iff.mpr hy)
  have hperm := ((hnodup hA).subperm hsub).perm_of_length_le hlen.ge
  refine List.Perm.eq_of_pairwise ?_ hA hB hperm
  intro x y _ _ hxy hyx
  omega

/-- With pairwise different ranks the sorted part does not depend on the order of the range. -/
theorem sortBy_take_eq_of_perm {l l' : List α} (hl : l.Pairwise (fun x y => rank x ≠ rank y))
    (hp : l'.Perm l) {k : ℕ} (hk : k ≤ l.length) :
    (S.sortBy rank k l').take k = (S.sortBy rank k l).take k := by
  have hl' : l'.Pairwise (fun x y => rank x ≠ rank y) := hp.symm.pairwise hl (fun h => h.symm)
  have hk' : k ≤ l'.length := hp.length_eq ▸ hk
  apply eq_of_least (l := l) (S.sortBy_take_lt hl' hk') (S.sortBy_take_lt hl hk)
  · rw [S.sortBy_take_length hk', S.sortBy_take_length hk]
  · exact fun y hy => hp.mem_iff.mp ((S.mem_sortBy rank k l' y).mp (List.mem_of_mem_take hy))
  · exact fun y hy => (S.mem_sortBy rank k l y).mp (List.mem_of_mem_take hy)
  · exact fun y hy hny x hx => S.sortBy_lt_of_notMem hl' hk' hx (hp.mem_iff.mpr hy) hny
  · exact fun y hy hny x hx => S.sortBy_lt_of_notMem hl hk hx hy hny

/-- Sorting more places leaves the first ones as they are. -/
theorem sortBy_take_take {l : List α} (hl : l.Pairwise (fun x y => rank x ≠ rank y)) {k k' : ℕ}
    (hkk : k ≤ k') (hk' : k' ≤ l.length) :
    ((S.sortBy rank k' l).take k').take k = (S.sortBy rank k l).take k := by
  have hk : k ≤ l.length := hkk.trans hk'
  have hlt := S.sortBy_take_lt hl hk'
  apply eq_of_least (l := l) (hlt.sublist (List.take_sublist k _)) (S.sortBy_take_lt hl hk)
  · rw [List.length_take, S.sortBy_take_length hk', S.sortBy_take_length hk]
    omega
  · exact fun y hy => (S.mem_sortBy rank k' l y).mp (List.mem_of_mem_take (List.mem_of_mem_take hy))
  · exact fun y hy => (S.mem_sortBy rank k l y).mp (List.mem_of_mem_take hy)
  · intro y hy hny x hx
    by_cases hin : y ∈ (S.sortBy rank k' l).take k'
    · rw [← List.take_append_drop k ((S.sortBy rank k' l).take k')] at hin hlt
      exact (List.pairwise_append.mp hlt).2.2 x hx y ((List.mem_append.mp hin).resolve_left hny)
    · exact S.sortBy_lt_of_notMem hl hk' (List.mem_of_mem_take hx) hy hin
  · exact fun y hy hny x hx => S.sortBy_lt_of_notMem hl hk hx hy hny

/-- An element of the sorted part has fewer than `k` elements before it. -/
theorem sortBy_count_of_mem {l : List α} {k : ℕ} (hk : k ≤ l.length) {y : α}
    (hy : y ∈ (S.sortBy rank k l).take k) :
    (l.filter (fun x => rank x < rank y)).length < k := by
  have hnone : ((S.sortBy rank k l).drop k).filter (fun x => rank x < rank y) = [] := by
    refine List.filter_eq_nil_iff.mpr (fun x hx hlt => ?_)
    have hle := S.least (rankLt_strictWeak rank) k l hk y hy x hx
    simp only [rankLt, decide_eq_false_iff_not] at hle
    exact hle (of_decide_eq_true hlt)
  have hperm := ((S.sortBy_perm rank k l).filter (fun x => rank x < rank y)).length_eq
  rw [← List.take_append_drop k (S.sortBy rank k l), List.filter_append, hnone, List.append_nil] at hperm
  have hlt := List.length_filter_lt_length_iff_exists (p := fun x => decide (rank x < rank y)).mpr ⟨y, hy, by simp⟩
  rw [hperm, S.sortBy_take_length hk] at hlt
  exact hlt

end PartialSort
end XKad
