import XKad.ComparisonReads

/-!
# CloserToTarget as an order

On words of at least `kNodeIdSize` bytes `CloserToTarget` orders by the exclusive
or of the leading bytes. The sorts hand it to the library as their comparator, which
has to be a strict weak order of the nodes sorted.
-/
namespace XKad

/-- The first `kNodeIdSize` bytes of `a` XOR `t`, as a number. -/
def leadingXor (a t : Bytes) : ℕ := bigEndian ((List.zipWith (· ^^^ ·) a t).take kNodeIdSize)

/-- The comparator of the sorts, on the words `word` takes from the nodes. -/
def byTarget (word : NodeInfo → Bytes) (target : Bytes) (lhs rhs : NodeInfo) : Bool :=
  closerToTarget (word lhs) (word rhs) target

/-- Words that `CloserToTarget` can read to the end of its loop. -/
abbrev LongWord := {s : Bytes // kNodeIdSize ≤ s.length}

section Leading

variable {a b t : Bytes}

theorem window_of_length (ha : kNodeIdSize ≤ a.length) : window a 0 kNodeIdSize = a.take kNodeIdSize := by
  rw [window_eq a 0 _ (by omega), List.drop_zero]

theorem idValue_of_length (ha : kNodeIdSize ≤ a.length) : idValue a = bigEndian (a.take kNodeIdSize) := by
  rw [idValue, window_of_length ha]

theorem leadingXor_eq (ha : kNodeIdSize ≤ a.length) (ht : kNodeIdSize ≤ t.length) :
    leadingXor a t = xorDistance a t := by
  have hlen : (a.take kNodeIdSize).length = (t.take kNodeIdSize).length := by
    rw [List.length_take_of_le ha, List.length_take_of_le ht]
  rw [leadingXor, List.take_zipWith, bigEndian_xor hlen, xorDistance, idValue_of_length ha,
    idValue_of_length ht]

theorem xorDistance_eq_iff (ha : kNodeIdSize ≤ a.length) (hb : kNodeIdSize ≤ b.length) :
    xorDistance a t = xorDistance b t ↔ a.take kNodeIdSize = b.take kNodeIdSize := by
  rw [xorDistance, xorDistance, Nat.xor_left_inj, idValue_of_length ha, idValue_of_length hb]
  constructor
  · intro h
    exact bigEndian_inj (by rw [List.length_take_of_le ha, List.length_take_of_le hb]) h
  · exact congrArg bigEndian

theorem incomparable_iff (ha : kNodeIdSize ≤ a.length) (hb : kNodeIdSize ≤ b.length) :
    closerToTarget a b t = false ∧ closerToTarget b a t = false ↔ a.take kNodeIdSize = b.take kNodeIdSize := by
  rw [← xorDistance_eq_iff (t := t) ha hb, closerToTarget_eq, closerToTarget_eq, decide_eq_false_iff_not,
    decide_eq_false_iff_not, not_lt, not_lt]
  exact ⟨fun h => Nat.le_antisymm h.2 h.1, fun h => ⟨h.ge, h.le⟩⟩

theorem closerReads_lt (ha : kNodeIdSize ≤ a.length) (hb : kNodeIdSize ≤ b.length) (ht : kNodeIdSize ≤ t.length)
    {i : ℕ} (hi : i ∈ closerReads a b t) : i < a.length ∧ i < b.length ∧ i < t.length := by
  have hlt := ((mem_closerReads t i).mp hi).1
  omega

end Leading

theorem ordersRange_byTarget (word : NodeInfo → Bytes) (target : Bytes) (nodes : List NodeInfo) :
    OrdersRange (byTarget word target) nodes := by
  apply StrictWeak.of_rank (fun n => xorDistance (word n.1) target)
  intro lhs rhs
  exact closerToTarget_eq (word lhs.1) (word rhs.1) target

/-- `CloserToTarget` compares the leading bytes of two XORs as numbers. For a fixed
target it is a strict weak order in which words with the same leading bytes are
incomparable, and the comparator of the sorts is one on the nodes they sort. -/
theorem closerToTarget_strictWeak {t : Bytes} (ht : kNodeIdSize ≤ t.length) :
    (∀ a b : LongWord,
      (closerToTarget a.1 b.1 t = true ↔ leadingXor a.1 t < leadingXor b.1 t) ∧
        (closerToTarget a.1 b.1 t = false ∧ closerToTarget b.1 a.1 t = false ↔
          a.1.take kNodeIdSize = b.1.take kNodeIdSize) ∧
        ∀ i ∈ closerReads a.1 b.1 t, i < a.1.length ∧ i < b.1.length ∧ i < t.length) ∧
      StrictWeak (fun a b : LongWord => closerToTarget a.1 b.1 t) ∧
      ∀ (P : Platform) (word : NodeInfo → Bytes) (nodes : List NodeInfo),
        (∀ n ∈ nodes, kNodeIdSize ≤ (word n).length) →
          OrdersRange (byTarget word t) nodes ∧
            ∀ k, ∀ p ∈ (P.partialSort.program k nodes).calls (byTarget word t),
              ∀ i ∈ closerReads (word p.1) (word p.2) t,
                i < (word p.1).length ∧ i < (word p.2).length ∧ i < t.length := by
  refine ⟨fun a b => ⟨?_, incomparable_iff a.2 b.2, fun i => closerReads_lt a.2 b.2 ht⟩, ?_, ?_⟩
  · rw [closerToTarget_iff, leadingXor_eq a.2 ht, leadingXor_eq b.2 ht]
  · apply StrictWeak.of_rank (fun a => xorDistance a.1 t)
    exact fun a b => closerToTarget_eq a.1 b.1 t
  · intro P word nodes hlong
    refine ⟨ordersRange_byTarget word t nodes, fun k p hp i hi => ?_⟩
    have hweak : StrictWeak (byTarget word t) :=
      StrictWeak.of_rank (fun n => xorDistance (word n) t) (fun lhs rhs => closerToTarget_eq _ _ t)
    have hsub := (P.partialSort.calls_subperm hweak k nodes p hp).subset
    exact closerReads_lt (hlong p.1 (hsub (by simp))) (hlong p.2 (hsub (by simp))) ht hi

/-- Two words of 37 bytes that differ in the last one only. -/
theorem closerToTarget_strictWeak_long :
    closerToTarget (List.replicate 36 7 ++ [1]) (List.replicate 36 7 ++ [2]) (List.replicate 36 0) = false ∧
      closerToTarget (List.replicate 36 7 ++ [2]) (List.replicate 36 7 ++ [1]) (List.replicate 36 0) = false :=
  ((closerToTarget_strictWeak (t := List.replicate 36 0) (by decide)).1
    ⟨List.replicate 36 7 ++ [1], by decide⟩ ⟨List.replicate 36 7 ++ [2], by decide⟩).2.1.mpr (by decide)

end XKad
