import Mathlib.Data.Finset.Dedup
import Mathlib.Data.Finset.Card
import Mathlib.Data.List.Sort
import Mathlib.Data.Set.Function

/-!
# Rings of keys

The members of a finite set, in the order of their keys. Different keys leave one such
order, so whoever knows the set finds each member at the same position.
-/
namespace XKad

variable {ι κ : Type} [LinearOrder κ] {f : ι → κ} {S : Finset ι} {i j : ι}

/-- The members in the order of their keys. -/
noncomputable def ring (f : ι → κ) (S : Finset ι) : List ι := S.toList.insertionSort (fun i j => f i ≤ f j)

theorem mem_ring : i ∈ ring f S ↔ i ∈ S := by
  rw [ring, List.mem_insertionSort, Finset.mem_toList]

theorem length_ring : (ring f S).length = S.card := by
  rw [ring, List.length_insertionSort, Finset.length_toList]

theorem nodup_ring : (ring f S).Nodup :=
  (List.perm_insertionSort _ _).nodup_iff.mpr S.nodup_toList

theorem ring_increasing (hf : Set.InjOn f S) : (ring f S).Pairwise (fun i j => f i < f j) := by
  have htotal : Std.Total (fun i j => f i ≤ f j) := ⟨fun i j => le_total (f i) (f j)⟩
  have htrans : IsTrans ι (fun i j => f i ≤ f j) := ⟨fun _ _ _ => le_trans⟩
  have hsorted : (ring f S).Pairwise (fun i j => f i ≤ f j) := List.pairwise_insertionSort _ _
  apply (hsorted.and nodup_ring).imp_of_mem
  intro i j hi hj hij
  apply lt_of_le_of_ne hij.1
  exact fun he => hij.2 (hf (mem_ring.mp hi) (mem_ring.mp hj) he)

/-- The keys of the members, in increasing order, are those of the ring. -/
theorem eq_map_ring (hf : Set.InjOn f S) {l : List κ} (hl : l.Pairwise (· < ·))
    (hmem : ∀ k, k ∈ l ↔ ∃ i ∈ S, f i = k) : l = (ring f S).map f := by
  apply hl.eq_of_mem_iff (List.pairwise_map.mpr (ring_increasing hf))
  intro k
  rw [hmem, List.mem_map]
  simp only [mem_ring]

section Positions
variable [DecidableEq ι]

/-- A member stands where its image does, in the image of the ring under any injection. -/
theorem idxOf_map_ring {γ : Type} [DecidableEq γ] {g : ι → γ} (hg : Set.InjOn g S) (hi : i ∈ S) :
    ((ring f S).map g).idxOf (g i) = (ring f S).idxOf i := by
  have hlt := List.idxOf_lt_length_of_mem (mem_ring (f := f).mpr hi)
  have hnodup : ((ring f S).map g).Nodup :=
    nodup_ring.map_on (fun i hi j hj => hg (mem_ring.mp hi) (mem_ring.mp hj))
  have hlt' : (ring f S).idxOf i < ((ring f S).map g).length := by simpa using hlt
  have hat : ((ring f S).map g)[(ring f S).idxOf i] = g i := by
    rw [List.getElem_map, List.getElem_idxOf hlt]
  rw [← hat]
  exact hnodup.idxOf_getElem _ _

theorem ring_bijOn : Set.BijOn (fun i => (ring f S).idxOf i) S (Set.Iio S.card) := by
  refine ⟨fun i hi => ?_, fun i hi j hj he => ?_, fun p hp => ?_⟩
  · rw [Set.mem_Iio, ← length_ring (f := f)]
    exact List.idxOf_lt_length_of_mem (mem_ring.mpr hi)
  · exact (List.idxOf_inj (mem_ring.mpr hi)).mp he
  · rw [Set.mem_Iio, ← length_ring (f := f)] at hp
    exact ⟨(ring f S)[p], mem_ring.mp (List.getElem_mem hp), nodup_ring.idxOf_getElem _ _⟩

theorem idxOf_ring_lt_iff (hf : Set.InjOn f S) (hi : i ∈ S) (hj : j ∈ S) :
    (ring f S).idxOf i < (ring f S).idxOf j ↔ f i < f j := by
  have himp {i j : ι} (hi : i ∈ S) (hj : j ∈ S) (hlt : (ring f S).idxOf i < (ring f S).idxOf j) : f i < f j := by
    have hi' := List.idxOf_lt_length_of_mem (mem_ring (f := f).mpr hi)
    have hj' := List.idxOf_lt_length_of_mem (mem_ring (f := f).mpr hj)
    have hkeys := List.pairwise_iff_getElem.mp (ring_increasing hf) _ _ hi' hj' hlt
    rwa [List.getElem_idxOf hi', List.getElem_idxOf hj'] at hkeys
  refine ⟨himp hi hj, fun hkeys => ?_⟩
  rcases Nat.lt_trichotomy ((ring f S).idxOf i) ((ring f S).idxOf j) with hlt | heq | hgt
  · exact hlt
  · rw [(List.idxOf_inj (mem_ring.mpr hi)).mp heq] at hkeys
    exact absurd hkeys (lt_irrefl _)
  · exact absurd (himp hj hi hgt) (lt_asymm hkeys)

/-- A slice of the ring holds the members at its positions. -/
theorem mem_slice_ring {a n : ℕ} : i ∈ ((ring f S).drop a).take n ↔
    i ∈ S ∧ a ≤ (ring f S).idxOf i ∧ (ring f S).idxOf i < a + n := by
  constructor
  · intro hi
    obtain ⟨p, hp, rfl⟩ := List.mem_iff_getElem.mp hi
    rw [List.length_take, List.length_drop] at hp
    rw [List.getElem_take, List.getElem_drop]
    refine ⟨mem_ring.mp (List.getElem_mem _), ?_⟩
    rw [nodup_ring.idxOf_getElem]
    omega
  · rintro ⟨hi, hle, hlt⟩
    have hlen := List.idxOf_lt_length_of_mem (mem_ring (f := f).mpr hi)
    refine List.mem_iff_getElem.mpr ⟨(ring f S).idxOf i - a, ?_, ?_⟩
    · rw [List.length_take, List.length_drop]
      omega
    · rw [List.getElem_take, List.getElem_drop]
      simp only [Nat.add_sub_cancel' hle]
      exact List.getElem_idxOf hlen

end Positions
end XKad
