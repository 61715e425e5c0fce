import XKad.TableInvariants

/-!
# Ranges of the hash index

`GetRangeNodes` cuts a range out of `node_hash_map_`, by hash or by position in
hash order. Both forms answer the full range from `nodes_` instead, which lacks
the local node, and the walk by hash does not look whether its bounds are crossed.
-/
namespace XKad
open Std

namespace RoutingTable

/-- `node_hash_map_` still holds the entry of the local node. -/
def HoldsLocal (t : RoutingTable) : Prop :=
  ∃ self, t.nodeHashMap[t.localNode.hash64]? = some self ∧ self.nodeId = t.localId

/-- `vec` is what the hash map holds from `min` to `max`, each node once, in increasing order. -/
structure HoldsRange (t : RoutingTable) (min max : UInt64) (vec : List NodeInfo) : Prop where
  members : ∀ n, n ∈ vec ↔ ∃ h : UInt64, t.nodeHashMap[h]? = some n ∧ min ≤ h ∧ h ≤ max
  increasing : vec.Pairwise (fun a b => a.hash64 < b.hash64)

/-- Records of increasing hashes are determined by which they are. -/
theorem HoldsRange.eq {t : RoutingTable} {min max : UInt64} {vec vec' : List NodeInfo}
    (h : HoldsRange t min max vec) (h' : HoldsRange t min max vec') : vec = vec' := by
  have hirrefl : Std.Irrefl (fun a b : NodeInfo => a.hash64 < b.hash64) := ⟨fun _ => Std.lt_irrefl⟩
  have hantisymm : Std.Antisymm (fun a b : NodeInfo => a.hash64 < b.hash64) :=
    ⟨fun _ _ hab hba => absurd (Std.lt_trans hab hba) Std.lt_irrefl⟩
  exact h.increasing.eq_of_mem_iff h'.increasing (fun n => (h.members n).trans (h'.members n).symm)

theorem ordered_items (t : RoutingTable) : t.nodeHashMap.toList.Pairwise (fun a b => a.1 < b.1) :=
  ExtTreeMap.ordered_keys_toList.imp (fun hab => Std.compare_eq_lt.mp hab)

theorem exists_items_iff (t : RoutingTable) (q : UInt64 → Prop) :
    (∃ e ∈ t.nodeHashMap.toList, q e.1) ↔ ∃ k ∈ t.nodeHashMap, q k := by
  constructor
  · rintro ⟨⟨k, n⟩, he, hq⟩
    refine ⟨k, ?_, hq⟩
    rw [ExtTreeMap.mem_iff_isSome_getElem?, ExtTreeMap.mem_toList_iff_getElem?_eq_some.mp he]
    rfl
  · rintro ⟨k, hk, hq⟩
    exact ⟨(k, t.nodeHashMap[k]), ExtTreeMap.mem_toList_iff_getElem?_eq_some.mpr (by simp), hq⟩

section ByHash

variable {t : RoutingTable}

theorem HashKeyed.holdsRange (h : t.HashKeyed) {min max : UInt64} {p : UInt64 → Bool}
    (hp : ∀ k, p k = true ↔ min ≤ k ∧ k ≤ max) :
    HoldsRange t min max ((t.nodeHashMap.toList.filter (fun e => p e.1)).map Prod.snd) := by
  constructor
  · intro n
    simp only [List.mem_map, List.mem_filter, hp]
    constructor
    · rintro ⟨⟨k, n⟩, ⟨hmem, hin⟩, rfl⟩
      exact ⟨k, ExtTreeMap.mem_toList_iff_getElem?_eq_some.mp hmem, hin⟩
    · rintro ⟨k, hk, hin⟩
      exact ⟨(k, n), ⟨ExtTreeMap.mem_toList_iff_getElem?_eq_some.mpr hk, hin⟩, rfl⟩
  · refine List.pairwise_map.mpr (((ordered_items t).sublist List.filter_sublist).imp_of_mem ?_)
    intro a b ha hb hab
    have hkey {e : UInt64 × NodeInfo} (he : e ∈ t.nodeHashMap.toList.filter (fun e => p e.1)) :
        e.2.hash64 = e.1 :=
      h _ _ (ExtTreeMap.mem_toList_iff_getElem?_eq_some.mp (List.mem_of_mem_filter he))
    rw [hkey ha, hkey hb]
    exact hab

/-- Two ranges that meet in no hash and leave none out between them, as one. -/
theorem HashKeyed.holdsRange_append (h : t.HashKeyed) {min mid next max : UInt64} {left right : List NodeInfo}
    (hnext : ∀ k, next ≤ k ↔ ¬ k ≤ mid) (hmin : min ≤ next) (hmax : mid ≤ max)
    (hleft : HoldsRange t min mid left) (hright : HoldsRange t next max right) :
    HoldsRange t min max (left ++ right) := by
  constructor
  · intro n
    rw [List.mem_append, hleft.members, hright.members]
    constructor
    · rintro (⟨k, hk, hlow, hhigh⟩ | ⟨k, hk, hlow, hhigh⟩)
      · exact ⟨k, hk, hlow, UInt64.le_trans hhigh hmax⟩
      · exact ⟨k, hk, UInt64.le_trans hmin hlow, hhigh⟩
    · rintro ⟨k, hk, hlow, hhigh⟩
      by_cases hmid : k ≤ mid
      · exact Or.inl ⟨k, hk, hlow, hmid⟩
      · exact Or.inr ⟨k, hk, (hnext k).mpr hmid, hhigh⟩
  · refine List.pairwise_append.mpr ⟨hleft.increasing, hright.increasing, ?_⟩
    intro x hx y hy
    obtain ⟨k, hk, _, hmid⟩ := (hleft.members x).mp hx
    obtain ⟨k', hk', hmid', _⟩ := (hright.members y).mp hy
    rw [h k x hk, h k' y hk']
    exact Std.lt_of_le_of_lt hmid (Std.not_le.mp ((hnext k').mp hmid'))

theorem HashKeyed.getRangeNodes_of_le (h : t.HashKeyed) {min max : UInt64} (hle : min ≤ max)
    (hfull : ¬ (min = 0 ∧ max = UInt64.ofNat (2 ^ 64 - 1))) : HoldsRange t min max (t.getRangeNodes min max []) := by
  rw [getRangeNodes, if_neg hfull, List.nil_append, walkUntil_bounds (ordered_items t) hle]
  exact h.holdsRange (p := fun k => decide (min ≤ k ∧ k ≤ max)) (fun k => decide_eq_true_iff)

/-- A walk between crossed bounds is right exactly if it meets nothing. -/
theorem getRangeNodes_of_lt {min max : UInt64} (hlt : max < min) :
    HoldsRange t min max (t.getRangeNodes min max []) ↔
      ¬ ((∃ k ∈ t.nodeHashMap, max < k ∧ k < min) ∧ ∃ k ∈ t.nodeHashMap, min ≤ k) := by
  have hfull : ¬ (min = 0 ∧ max = UInt64.ofNat (2 ^ 64 - 1)) := by
    rintro ⟨rfl, _⟩
    exact absurd hlt (UInt64.not_lt_zero)
  have hempty : HoldsRange t min max [] := by
    refine ⟨fun n => iff_of_false (by simp) ?_, List.Pairwise.nil⟩
    rintro ⟨k, _, hlow, hhigh⟩
    exact absurd (Std.lt_of_le_of_lt hhigh hlt) (Std.not_lt.mpr hlow)
  rw [getRangeNodes, if_neg hfull, List.nil_append, walkUntil_crossed (ordered_items t) hlt,
    ← exists_items_iff t (fun k => max < k ∧ k < min), ← exists_items_iff t (fun k => min ≤ k)]
  split_ifs with hbetween
  · constructor
    · rintro ⟨hmembers, _⟩ ⟨_, e, he, hlow⟩
      have hlisted : e.2 ∈ (t.nodeHashMap.toList.filter (fun e => min ≤ e.1)).map Prod.snd :=
        List.mem_map_of_mem (List.mem_filter.mpr ⟨he, by simpa using hlow⟩)
      obtain ⟨k, _, hk, hk'⟩ := (hmembers e.2).mp hlisted
      exact absurd (Std.lt_of_le_of_lt hk' hlt) (Std.not_lt.mpr hk)
    · intro hnone
      have hnil : t.nodeHashMap.toList.filter (fun e => min ≤ e.1) = [] := by
        refine List.filter_eq_nil_iff.mpr (fun e he hlow => ?_)
        exact hnone ⟨hbetween, e, he, by simpa using hlow⟩
      rw [hnil]
      exact hempty
  · exact iff_of_true hempty (fun hc => hbetween hc.1)

theorem Consistent.not_holdsRange_nodes (h : t.Consistent) (hself : t.HoldsLocal) {min max : UInt64}
    (hmin : min ≤ t.localNode.hash64) (hmax : t.localNode.hash64 ≤ max) {vec : List NodeInfo}
    (hvec : HoldsRange t min max vec) : ¬ ∀ n, n ∈ vec ↔ n ∈ t.nodes := by
  obtain ⟨self, hget, hid⟩ := hself
  intro hsame
  have hin := (hsame self).mp ((hvec.members self).mpr ⟨_, hget, hmin, hmax⟩)
  exact h.notLocal self hin hid

end ByHash

theorem le_fullRange (k : UInt64) : k ≤ UInt64.ofNat (2 ^ 64 - 1) := by
  rw [UInt64.le_iff_toNat_le]
  have hk := k.toNat_lt
  simp
  omega

theorem HashKeyed.getRangeNodes_split {t : RoutingTable} (h : t.HashKeyed) {a : UInt64}
    (ha : a < UInt64.ofNat (2 ^ 64 - 1)) :
    HoldsRange t 0 (UInt64.ofNat (2 ^ 64 - 1))
      (t.getRangeNodes 0 a [] ++ t.getRangeNodes (a + 1) (UInt64.ofNat (2 ^ 64 - 1)) []) := by
  have hlast : (UInt64.ofNat (2 ^ 64 - 1)).toNat = 2 ^ 64 - 1 := rfl
  have hsucc : (a + 1).toNat = a.toNat + 1 := by
    rw [UInt64.lt_iff_toNat_lt, hlast] at ha
    rw [UInt64.toNat_add]
    simp
    omega
  have hnext (k : UInt64) : a + 1 ≤ k ↔ ¬ k ≤ a := by
    rw [UInt64.le_iff_toNat_le, UInt64.le_iff_toNat_le, hsucc]
    omega
  have hpos : a + 1 ≠ 0 := fun h0 => by
    have hn := congrArg UInt64.toNat h0
    rw [hsucc] at hn
    cases hn
  have hleft := h.getRangeNodes_of_le (UInt64.zero_le (a := a)) (fun hc => by simp [hc.2] at ha)
  have hright := h.getRangeNodes_of_le (le_fullRange (a + 1)) (fun hc => hpos hc.1)
  exact h.holdsRange_append hnext UInt64.zero_le (le_fullRange a) hleft hright

/-- `GetRangeNodes` by hash fills an empty vector with the stored nodes of the range
exactly when the range is not the full one and, if its bounds are crossed, the map
does not have both a hash strictly between them and one from `min` on. Wherever the
full range is split, the two parts hold all the nodes, and the full range itself does not. -/
theorem getRangeNodes_iff {P : Platform} {t : RoutingTable} (h : Reachable P t) (hself : t.HoldsLocal) :
    (∀ min max : UInt64, HoldsRange t min max (t.getRangeNodes min max []) ↔
      ¬ (min = 0 ∧ max = UInt64.ofNat (2 ^ 64 - 1)) ∧ (max < min →
        ¬ ((∃ k ∈ t.nodeHashMap, max < k ∧ k < min) ∧ ∃ k ∈ t.nodeHashMap, min ≤ k))) ∧
      ∀ a : UInt64, a < UInt64.ofNat (2 ^ 64 - 1) →
        HoldsRange t 0 (UInt64.ofNat (2 ^ 64 - 1))
            (t.getRangeNodes 0 a [] ++ t.getRangeNodes (a + 1) (UInt64.ofNat (2 ^ 64 - 1)) []) ∧
          ¬ ∀ n, n ∈ t.getRangeNodes 0 a [] ++ t.getRangeNodes (a + 1) (UInt64.ofNat (2 ^ 64 - 1)) [] ↔
            n ∈ t.getRangeNodes 0 (UInt64.ofNat (2 ^ 64 - 1)) [] := by
  have hkeyed := h.hashKeyed
  have hlack {vec : List NodeInfo} (hvec : HoldsRange t 0 (UInt64.ofNat (2 ^ 64 - 1)) vec) :=
    h.consistent.not_holdsRange_nodes hself UInt64.zero_le (le_fullRange _) hvec
  have hnodes : t.getRangeNodes 0 (UInt64.ofNat (2 ^ 64 - 1)) [] = t.nodes := if_pos ⟨rfl, rfl⟩
  constructor
  · intro min max
    by_cases hfull : min = 0 ∧ max = UInt64.ofNat (2 ^ 64 - 1)
    · obtain ⟨rfl, rfl⟩ := hfull
      refine iff_of_false (fun hvec => ?_) (fun hc => hc.1 ⟨rfl, rfl⟩)
      rw [hnodes] at hvec
      exact hlack hvec (fun n => Iff.rfl)
    · rcases UInt64.le_or_lt min max with hle | hlt
      · refine iff_of_true (hkeyed.getRangeNodes_of_le hle hfull) ⟨hfull, fun hlt => ?_⟩
        exact absurd hlt (Std.not_lt.mpr hle)
      · rw [getRangeNodes_of_lt hlt]
        exact ⟨fun hc => ⟨hfull, fun _ => hc⟩, fun hc => hc.2 hlt⟩
  · intro a ha
    have hvec := hkeyed.getRangeNodes_split ha
    refine ⟨hvec, ?_⟩
    rw [hnodes]
    exact hlack hvec

/-- A table with the local hash 0 and two nodes of hashes 5 and 9. -/
def indexedPair : RoutingTable :=
  (TableOp.addNode (nodeEndingIn 9)).run .simple
    ((TableOp.addNode (nodeEndingIn 5)).run .simple (init (localEndingIn 0) 9))

theorem reachable_indexedPair : Reachable .simple indexedPair := ((Reachable.init _ _).call _).call _

theorem holdsLocal_indexedPair : indexedPair.HoldsLocal := by
  have hget : (indexedPair.nodeHashMap[indexedPair.localNode.hash64]?).map NodeInfo.nodeId =
      some indexedPair.localId := by decide +kernel
  obtain ⟨self, hself, hid⟩ := Option.map_eq_some_iff.mp hget
  exact ⟨self, hself, hid⟩

theorem getRangeNodes_iff_indexedPair :
    (indexedPair.getRangeNodes 1 9 []).map NodeInfo.hash64 = [5, 9] ∧
      HoldsRange indexedPair 1 9 (indexedPair.getRangeNodes 1 9 []) :=
  ⟨by decide +kernel, ((getRangeNodes_iff reachable_indexedPair holdsLocal_indexedPair).1 1 9).mpr
    ⟨by decide, fun hlt => absurd hlt (by decide)⟩⟩

/-- The full range leaves the local node out, and the crossed range from 7 to 3 holds the node of hash 9. -/
theorem not_holdsRange_indexedPair : ∃ t, Reachable .simple t ∧ t.HoldsLocal ∧
    ¬ HoldsRange t 0 (UInt64.ofNat (2 ^ 64 - 1)) (t.getRangeNodes 0 (UInt64.ofNat (2 ^ 64 - 1)) []) ∧
    (t.getRangeNodes 7 3 []).map NodeInfo.hash64 = [9] ∧ ¬ HoldsRange t 7 3 (t.getRangeNodes 7 3 []) := by
  refine ⟨indexedPair, reachable_indexedPair, holdsLocal_indexedPair, ?_, by decide +kernel, ?_⟩
  · intro hvec
    exact reachable_indexedPair.consistent.not_holdsRange_nodes holdsLocal_indexedPair UInt64.zero_le
      (le_fullRange _) hvec (fun n => Iff.rfl)
  · rw [getRangeNodes_of_lt (by decide)]
    exact not_not.mpr ⟨⟨5, by decide +kernel⟩, 9, by decide +kernel⟩

section ByIndex

variable {t : RoutingTable}

/-- The stored nodes in hash order. -/
def hashOrder (t : RoutingTable) : List NodeInfo := t.nodeHashMap.toList.map Prod.snd

/-- The nodes at the positions from `i` to `j` of the hash order. -/
def atPositions (t : RoutingTable) (i j : ℕ) : List NodeInfo :=
  (t.hashOrder.drop i).take (j + 1 - i)

theorem length_hashOrder (t : RoutingTable) : t.hashOrder.length = t.nodeHashMap.size := by
  rw [hashOrder, List.length_map, ExtTreeMap.length_toList]

theorem atPositions_clamp (t : RoutingTable) (i j : ℕ) :
    t.atPositions i (min j (t.nodeHashMap.size - 1)) = t.atPositions i j := by
  rw [atPositions, atPositions, List.take_eq_take_iff, List.length_drop, length_hashOrder]
  omega

theorem length_atPositions {i j : ℕ} (hj : j < t.nodeHashMap.size) :
    (t.atPositions i j).length = j + 1 - i := by
  rw [atPositions, List.length_take, List.length_drop, length_hashOrder]
  omega

theorem atPositions_append {a b c : ℕ} (hab : a ≤ b) (hbc : b < c) :
    t.atPositions a b ++ t.atPositions (b + 1) c = t.atPositions a c := by
  rw [atPositions, atPositions, atPositions, show c + 1 - a = (b + 1 - a) + (c + 1 - (b + 1)) by omega,
    List.take_add, List.drop_drop, show a + (b + 1 - a) = b + 1 by omega]

theorem getRangeNodesByIndex_eq {i j : UInt32} (hle : i ≤ j) (hi : i.toNat < t.nodeHashMap.size) :
    t.getRangeNodesByIndex i j [] =
      if i = 0 ∧ t.nodeHashMap.size ≤ j.toNat + 1 then some t.nodes
      else if min j.toNat (t.nodeHashMap.size - 1) + 1 < 2 ^ 32 then some (t.atPositions i.toNat j.toNat)
      else if i = 0 then some [] else none := by
  have hj := j.toNat_lt
  rw [UInt32.le_iff_toNat_le] at hle
  set last := if t.nodeHashMap.size ≤ j.toNat then UInt32.ofNat (t.nodeHashMap.size - 1) else j with hlast
  have hclamp : last.toNat = min j.toNat (t.nodeHashMap.size - 1) := by
    rw [hlast]
    split_ifs with hsize
    · rw [UInt32.toNat_ofNat_of_lt' (by rw [UInt32.size]; omega)]
      omega
    · omega
  have hfull : i = 0 ∧ last.toNat = t.nodeHashMap.size - 1 ↔ i = 0 ∧ t.nodeHashMap.size ≤ j.toNat + 1 := by
    rw [hclamp]
    exact and_congr_right (fun _ => by omega)
  have hnext : (last + 1).toNat = if last.toNat + 1 < 2 ^ 32 then last.toNat + 1 else 0 := by
    have hbound := last.toNat_lt
    rw [UInt32.toNat_add, UInt32.toNat_one]
    split_ifs <;> omega
  have hlen : (t.nodeHashMap.toList.drop i.toNat).length = t.nodeHashMap.size - i.toNat := by
    rw [List.length_drop, ExtTreeMap.length_toList]
  rw [getRangeNodesByIndex]
  dsimp only
  rw [if_neg (by rw [UInt32.lt_iff_toNat_lt]; omega), if_neg (by omega), ← hlast]
  refine if_congr hfull rfl ?_
  rw [hnext, ← hclamp]
  split_ifs with hroom hzero
  · rw [walkTo_eq, if_pos (by rw [hlen]; omega), ← atPositions_clamp, ← hclamp, atPositions, hashOrder]
    simp [List.map_take, List.map_drop]
  · simp [hzero, walkTo_eq]
  · have hpos : i.toNat ≠ 0 := fun h0 => hzero (UInt32.toNat_inj.mp h0)
    rw [walkTo_eq, if_neg (by omega)]
    rfl

theorem atPositions_all {j : ℕ} (hj : t.nodeHashMap.size ≤ j + 1) : t.atPositions 0 j = t.hashOrder := by
  rw [atPositions, List.drop_zero]
  exact List.take_of_length_le (by rw [length_hashOrder]; omega)

/-- `node_hash_map_` has lost the entry of the local node, and `nodes_` lists what is left
in hash order. -/
structure ListedByHash (t : RoutingTable) : Prop where
  lost : ¬ t.HoldsLocal
  range : HoldsRange t 0 (UInt64.ofNat (2 ^ 64 - 1)) t.nodes

theorem HashKeyed.holdsRange_hashOrder (h : t.HashKeyed) :
    HoldsRange t 0 (UInt64.ofNat (2 ^ 64 - 1)) t.hashOrder := by
  have hall := h.holdsRange (p := fun _ => true) (fun k => iff_of_true rfl ⟨UInt64.zero_le, le_fullRange k⟩)
  rwa [List.filter_true] at hall

theorem Reachable.nodes_eq_hashOrder {P : Platform} (h : Reachable P t) :
    t.nodes = t.hashOrder ↔ t.ListedByHash := by
  have horder := h.hashKeyed.holdsRange_hashOrder
  constructor
  · intro heq
    rw [← heq] at horder
    refine ⟨fun hself => ?_, horder⟩
    exact h.consistent.not_holdsRange_nodes hself UInt64.zero_le (le_fullRange _) horder (fun _ => Iff.rfl)
  · exact fun hlisted => hlisted.range.eq horder

theorem atPositions_self {i : ℕ} {self : NodeInfo} (hi : (i : ℤ) = t.getSelfIndex)
    (hget : t.nodeHashMap[t.localNode.hash64]? = some self) :
    i < t.nodeHashMap.size ∧ t.atPositions i i = [self] := by
  have hmem : t.localNode.hash64 ∈ t.nodeHashMap := by
    rw [ExtTreeMap.mem_iff_isSome_getElem?, hget]
    rfl
  rw [getSelfIndex, if_pos (ExtTreeMap.contains_iff_mem.mpr hmem)] at hi
  have hidx : i = t.nodeHashMap.keys.idxOf t.localNode.hash64 := by exact_mod_cast hi
  have hlt : i < t.nodeHashMap.keys.length := by
    rw [hidx]
    exact List.idxOf_lt_length_of_mem (ExtTreeMap.mem_keys.mpr hmem)
  have hkey : t.nodeHashMap.keys[i] = t.localNode.hash64 := by
    subst hidx
    exact List.getElem_idxOf hlt
  rw [ExtTreeMap.length_keys] at hlt
  refine ⟨hlt, ?_⟩
  have hitems : i < t.nodeHashMap.toList.length := by rwa [ExtTreeMap.length_toList]
  have hitem : t.nodeHashMap[t.nodeHashMap.toList[i].1]? = some t.nodeHashMap.toList[i].2 :=
    ExtTreeMap.mem_toList_iff_getElem?_eq_some.mp (List.getElem_mem hitems)
  have hfst : t.nodeHashMap.toList[i].1 = t.localNode.hash64 := by
    rw [← hkey]
    simp [← ExtTreeMap.map_fst_toList_eq_keys]
  rw [hfst, hget] at hitem
  rw [atPositions, hashOrder, List.drop_eq_getElem_cons (by simpa using hlt), show i + 1 - i = 1 by omega]
  simp [Option.some.inj hitem]

/-- The call is answered right: the whole map is copied from `nodes_`, and the walk over
any other range needs a last position with a successor in 32 bits. -/
def ReadsPositions (t : RoutingTable) (i j : UInt32) : Prop :=
  if i = 0 ∧ t.nodeHashMap.size ≤ j.toNat + 1 then t.ListedByHash
  else min j.toNat (t.nodeHashMap.size - 1) + 1 < 2 ^ 32

theorem Reachable.getRangeNodesByIndex_exact {P : Platform} (h : Reachable P t) (i j : UInt32) :
    t.getRangeNodesByIndex i j [] = some (t.atPositions i.toNat j.toNat) ↔
      j < i ∨ t.nodeHashMap.size ≤ i.toNat ∨ t.ReadsPositions i j := by
  by_cases hlt : j < i
  · have hnil : t.atPositions i.toNat j.toNat = [] := by
      rw [UInt32.lt_iff_toNat_lt] at hlt
      rw [atPositions, show j.toNat + 1 - i.toNat = 0 by omega, List.take_zero]
    exact iff_of_true (by rw [getRangeNodesByIndex, if_pos hlt, hnil]) (Or.inl hlt)
  by_cases hout : t.nodeHashMap.size ≤ i.toNat
  · have hnil : t.atPositions i.toNat j.toNat = [] := by
      rw [atPositions, List.drop_of_length_le (by rwa [length_hashOrder]), List.take_nil]
    exact iff_of_true (by rw [getRangeNodesByIndex, if_neg hlt, if_pos hout, hnil]) (Or.inr (Or.inl hout))
  rw [getRangeNodesByIndex_eq (UInt32.not_lt.mp hlt) (Nat.lt_of_not_le hout), or_iff_right hlt,
    or_iff_right hout, ReadsPositions]
  split_ifs with hfull hroom hzero
  · rw [hfull.1, UInt32.toNat_zero, atPositions_all hfull.2, Option.some_inj, h.nodes_eq_hashOrder]
  · exact iff_of_true rfl hroom
  · refine iff_of_false (fun hc => ?_) hroom
    have hlen := congrArg List.length (Option.some.inj hc)
    rw [← atPositions_clamp, length_atPositions (by omega), hzero] at hlen
    simp at hlen
  · exact iff_of_false (by simp) hroom

theorem Reachable.getRangeNodesByIndex_adjacent {P : Platform} (h : Reachable P t) {a b c : UInt32}
    (hab : a ≤ b) (hbc : b < c) (hc : c.toNat < t.nodeHashMap.size) :
    (∃ xs ys, t.getRangeNodesByIndex a b [] = some xs ∧ t.getRangeNodesByIndex (b + 1) c [] = some ys ∧
        t.getRangeNodesByIndex a c [] = some (xs ++ ys)) ↔ t.ReadsPositions a c ∧ c.toNat + 1 < 2 ^ 32 := by
  have hbound := c.toNat_lt
  have hab' := UInt32.le_iff_toNat_le.mp hab
  have hbc' := UInt32.lt_iff_toNat_lt.mp hbc
  have hnext : (b + 1).toNat = b.toNat + 1 := by
    rw [UInt32.toNat_add, UInt32.toNat_one]
    omega
  have hnz : b + 1 ≠ 0 := fun h0 => by
    have hn := congrArg UInt32.toNat h0
    rw [hnext] at hn
    cases hn
  have hle : b + 1 ≤ c := by
    rw [UInt32.le_iff_toNat_le, hnext]
    exact hbc'
  have hexact := h.getRangeNodesByIndex_exact a c
  rw [or_iff_right (by rw [UInt32.lt_iff_toNat_lt]; omega), or_iff_right (by omega)] at hexact
  rw [getRangeNodesByIndex_eq hab (by omega), if_neg (by omega), if_pos (by omega),
    getRangeNodesByIndex_eq hle (by omega), if_neg (fun hc => hnz hc.1), hnext, ← hexact,
    ← atPositions_append hab' hbc']
  have hlast : min c.toNat (t.nodeHashMap.size - 1) + 1 < 2 ^ 32 ↔ c.toNat + 1 < 2 ^ 32 := by omega
  simp only [hlast, if_neg hnz]
  by_cases hroom : c.toNat + 1 < 2 ^ 32
  · simp only [if_pos hroom]
    constructor
    · rintro ⟨xs, ys, hxs, hys, heq⟩
      cases hxs
      cases hys
      exact ⟨heq, hroom⟩
    · exact fun heq => ⟨_, _, rfl, rfl, heq.1⟩
  · refine iff_of_false ?_ (fun hc => hroom hc.2)
    rintro ⟨xs, ys, _, hys, _⟩
    rw [if_neg hroom] at hys
    cases hys

theorem toNat_ofInt_natCast (k : ℕ) : (UInt32.ofInt (k : ℤ)).toNat = k % 2 ^ 32 := by
  rw [UInt32.ofInt, UInt32.toNat_ofNat']
  omega

theorem mem_getRangeNodesByIndex {i j : UInt32} {vec : List NodeInfo} {n : NodeInfo}
    (hvec : t.getRangeNodesByIndex i j [] = some vec) (hn : n ∈ vec) : n ∈ t.nodes ∨ n ∈ t.hashOrder := by
  by_cases hlt : j < i
  · rw [getRangeNodesByIndex, if_pos hlt] at hvec
    cases hvec
    cases hn
  by_cases hout : t.nodeHashMap.size ≤ i.toNat
  · rw [getRangeNodesByIndex, if_neg hlt, if_pos hout] at hvec
    cases hvec
    cases hn
  rw [getRangeNodesByIndex_eq (UInt32.not_lt.mp hlt) (Nat.lt_of_not_le hout)] at hvec
  split_ifs at hvec
  · cases hvec
    exact Or.inl hn
  · cases hvec
    exact Or.inr (List.mem_of_mem_drop (List.mem_of_mem_take hn))
  · cases hvec
    cases hn

/-- The call returns the local node and nothing else. -/
def ReturnsSelf (t : RoutingTable) (i : UInt32) : Prop :=
  ∃ self, t.getRangeNodesByIndex i i [] = some [self] ∧ self.nodeId = t.localId ∧ self.hash64 = t.localNode.hash64

theorem Reachable.stored_of_returned {P : Platform} (h : Reachable P t) {i : UInt32} {self : NodeInfo}
    (hvec : t.getRangeNodesByIndex i i [] = some [self]) (hid : self.nodeId = t.localId)
    (hhash : self.hash64 = t.localNode.hash64) : t.nodeHashMap[t.localNode.hash64]? = some self := by
  rcases mem_getRangeNodesByIndex hvec (List.mem_singleton_self self) with hin | hin
  · exact absurd hid (h.consistent.notLocal self hin)
  · obtain ⟨e, he, rfl⟩ := List.mem_map.mp hin
    have hget := ExtTreeMap.mem_toList_iff_getElem?_eq_some.mp he
    rwa [← h.hashKeyed e.1 e.2 hget, hhash] at hget

theorem HashKeyed.position_inj (h : t.HashKeyed) {i j : ℕ} (hi : i < t.nodeHashMap.size) (hj : j < t.nodeHashMap.size)
    (heq : t.atPositions i i = t.atPositions j j) : i = j := by
  have hnodup : t.hashOrder.Nodup :=
    h.holdsRange_hashOrder.increasing.imp (fun hlt heq => absurd (heq ▸ hlt) Std.lt_irrefl)
  rw [← length_hashOrder] at hi hj
  rw [atPositions, atPositions, List.drop_eq_getElem_cons hi, List.drop_eq_getElem_cons hj,
    show i + 1 - i = 1 by omega, show j + 1 - j = 1 by omega] at heq
  exact (List.Nodup.getElem_inj_iff hnodup).mp (List.cons.inj heq).1

theorem getRangeNodesByIndex_single {i : UInt32} (hi : i.toNat < t.nodeHashMap.size) :
    t.getRangeNodesByIndex i i [] =
      if t.nodeHashMap.size = 1 then some t.nodes
      else if i.toNat + 1 < 2 ^ 32 then some (t.atPositions i.toNat i.toNat)
      else if i = 0 then some [] else none := by
  have hclamp : min i.toNat (t.nodeHashMap.size - 1) = i.toNat := by omega
  have hone : i = 0 ∧ t.nodeHashMap.size ≤ i.toNat + 1 ↔ t.nodeHashMap.size = 1 := by
    rw [← UInt32.toNat_inj, UInt32.toNat_zero]
    omega
  rw [getRangeNodesByIndex_eq (UInt32.le_refl i) hi, hclamp]
  simp only [hone]

/-- The position that `GetSelfIndex` returns, an `int32_t`, is read as a `uint32_t`. -/
theorem Reachable.getRangeNodesByIndex_self {P : Platform} (h : Reachable P t) :
    t.ReturnsSelf (UInt32.ofInt t.getSelfIndex) ↔
      t.HoldsLocal ∧ t.nodeHashMap.size ≠ 1 ∧ t.nodeHashMap.keys.idxOf t.localNode.hash64 + 1 < 2 ^ 32 := by
  have hlocal : t.ReturnsSelf (UInt32.ofInt t.getSelfIndex) → t.HoldsLocal :=
    fun ⟨self, hvec, hid, hhash⟩ => ⟨self, h.stored_of_returned hvec hid hhash, hid⟩
  by_cases hself : t.HoldsLocal
  swap
  · exact iff_of_false (fun hret => hself (hlocal hret)) (fun hc => hself hc.1)
  obtain ⟨self, hget, hid⟩ := hself
  have hmem : t.localNode.hash64 ∈ t.nodeHashMap := by
    rw [ExtTreeMap.mem_iff_isSome_getElem?, hget]
    rfl
  have hk : (t.nodeHashMap.keys.idxOf t.localNode.hash64 : ℤ) = t.getSelfIndex := by
    rw [getSelfIndex, if_pos (ExtTreeMap.contains_iff_mem.mpr hmem)]
  obtain ⟨hlt, hat⟩ := atPositions_self hk hget
  rw [← hk]
  generalize t.nodeHashMap.keys.idxOf t.localNode.hash64 = k at hlt hat ⊢
  have hwrap := toNat_ofInt_natCast k
  generalize UInt32.ofInt (k : ℤ) = i at hwrap
  have hvec := getRangeNodesByIndex_single (t := t) (i := i) (by omega)
  constructor
  · rintro ⟨self', hret, hid', hhash⟩
    obtain rfl := Option.some.inj (hget.symm.trans (h.stored_of_returned hret hid' hhash))
    rw [hvec] at hret
    split_ifs at hret with hsize hnext hzero
    · exact absurd hid (h.consistent.notLocal self (Option.some.inj hret ▸ List.mem_singleton_self self))
    · -- the position read is the one found, which so fits in 32 bits
      have hsame := h.hashKeyed.position_inj (by omega) hlt ((Option.some.inj hret).trans hat.symm)
      exact ⟨⟨self, hget, hid⟩, hsize, by omega⟩
    · cases hret
  · rintro ⟨_, hsize, hnext⟩
    have hsame : i.toNat = k := by omega
    rw [if_neg hsize, if_pos (by omega), hsame, hat] at hvec
    exact ⟨self, hvec, hid, h.hashKeyed _ self hget⟩

/-- `GetRangeNodes` by position fills an empty vector with the entries at the positions
asked for exactly when there are none, or the range is not the full one and its last
position has a successor in 32 bits, or it is the full one of a map that lost the local
node and the nodes are listed in hash order. Two adjacent ranges together are the range
over both in the same cases, if the last position has a successor; and the position of
`GetSelfIndex` alone gives the local node exactly when the map has it, and another node
too, and that position has a successor. -/
theorem getRangeNodesByIndex_iff {P : Platform} (h : Reachable P t) :
    (∀ i j : UInt32, t.getRangeNodesByIndex i j [] = some (t.atPositions i.toNat j.toNat) ↔
      j < i ∨ t.nodeHashMap.size ≤ i.toNat ∨ t.ReadsPositions i j) ∧
      (∀ a b c : UInt32, a ≤ b → b < c → c.toNat < t.nodeHashMap.size →
        ((∃ xs ys, t.getRangeNodesByIndex a b [] = some xs ∧ t.getRangeNodesByIndex (b + 1) c [] = some ys ∧
            t.getRangeNodesByIndex a c [] = some (xs ++ ys)) ↔
          t.ReadsPositions a c ∧ c.toNat + 1 < 2 ^ 32)) ∧
      (t.ReturnsSelf (UInt32.ofInt t.getSelfIndex) ↔
        t.HoldsLocal ∧ t.nodeHashMap.size ≠ 1 ∧ t.nodeHashMap.keys.idxOf t.localNode.hash64 + 1 < 2 ^ 32) :=
  ⟨h.getRangeNodesByIndex_exact, fun _ _ _ => h.getRangeNodesByIndex_adjacent, h.getRangeNodesByIndex_self⟩

/-- The table has got a quit message of an unknown node that claims the local xid. -/
def quitPair : RoutingTable :=
  (TableOp.handleNodeQuit { srcNodeId := (localEndingIn 7).id, xid := [0], desNodeId := (localEndingIn 0).id }).run
    .simple indexedPair

theorem reachable_quitPair : Reachable .simple quitPair := reachable_indexedPair.call _

theorem listedByHash_quitPair : quitPair.ListedByHash :=
  reachable_quitPair.nodes_eq_hashOrder.mp (by decide +kernel)

theorem getRangeNodesByIndex_iff_pair :
    indexedPair.getRangeNodesByIndex 1 7 [] = some (indexedPair.atPositions 1 7) ∧
      indexedPair.ReturnsSelf (UInt32.ofInt indexedPair.getSelfIndex) ∧
      (quitPair.getRangeNodesByIndex 0 7 []).map (List.map NodeInfo.hash64) = some [5, 9] ∧
      quitPair.getRangeNodesByIndex 0 7 [] = some (quitPair.atPositions 0 7) ∧
      ¬ quitPair.ReturnsSelf (UInt32.ofInt quitPair.getSelfIndex) := by
  obtain ⟨hpositions, _, hself⟩ := getRangeNodesByIndex_iff reachable_indexedPair
  obtain ⟨hpositions', _, hself'⟩ := getRangeNodesByIndex_iff reachable_quitPair
  have hfull : quitPair.ReadsPositions 0 7 := by
    rw [ReadsPositions, if_pos (by decide +kernel)]
    exact listedByHash_quitPair
  have hpart : indexedPair.ReadsPositions 1 7 := by
    rw [ReadsPositions, if_neg (by decide +kernel)]
    decide +kernel
  refine ⟨(hpositions 1 7).mpr (Or.inr (Or.inr hpart)), hself.mpr ⟨holdsLocal_indexedPair, by decide +kernel⟩,
    by decide +kernel, (hpositions' 0 7).mpr (Or.inr (Or.inr hfull)), fun hret => ?_⟩
  exact listedByHash_quitPair.lost (hself'.mp hret).1

/-- On the table `Init` leaves, the position of the local node holds nothing. -/
theorem not_atPositions_init : ∃ t, Reachable .simple t ∧ t.HoldsLocal ∧ t.getSelfIndex = 0 ∧
    t.getRangeNodesByIndex 0 0 [] = some [] ∧ (t.atPositions 0 0).map NodeInfo.nodeId = [t.localId] := by
  have hget : ((init (localEndingIn 0) 9).nodeHashMap[(init (localEndingIn 0) 9).localNode.hash64]?).map
      NodeInfo.nodeId = some (init (localEndingIn 0) 9).localId := by decide +kernel
  obtain ⟨self, hself, hid⟩ := Option.map_eq_some_iff.mp hget
  exact ⟨init (localEndingIn 0) 9, .init _ _, ⟨self, hself, hid⟩, by decide +kernel⟩

end ByIndex

end RoutingTable
end XKad
