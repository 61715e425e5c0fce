import XKad.GenuineRecords
import XKad.HandledTables
import XKad.HashRanges
import XKad.KeyRings

/-!
# Hash rings

`GetSelfIndex` and the ranges by position are read off the hash map of one table. Where
the nodes of a group know each other and nobody else, all of them read the same ring.
-/
namespace XKad
open Std RoutingTable

variable {ι : Type}

/-- The table of node `i` holds the other nodes of `S` and no node from outside. -/
structure RoutingTable.Meets (D : Deployment ι) (S : Finset ι) (i : ι) (t : RoutingTable) : Prop where
  known : ∀ j ∈ S, j ≠ i → ∃ n ∈ t.nodes, n.nodeId = (D.localNode j).id
  within : ∀ n ∈ t.nodes, ∃ j ∈ S, n.nodeId = (D.localNode j).id

/-- The nodes of `S` in the order of their hashes. -/
noncomputable def Deployment.ring (D : Deployment ι) (S : Finset ι) : List ι :=
  XKad.ring (fun i => (D.localNode i).hash64.toNat) S

theorem Deployment.Hashed.injective_hash64 {P : Platform} {D : Deployment ι} (hD : D.Hashed P) :
    Function.Injective (fun i => (D.localNode i).hash64) := by
  intro i j he
  dsimp only at he
  rw [hD.hash, hD.hash] at he
  exact hD.xid (hD.injective (Set.mem_range_self i) (Set.mem_range_self j) he)

theorem Deployment.Hashed.injective_key {P : Platform} {D : Deployment ι} (hD : D.Hashed P) :
    Function.Injective (fun i => (D.localNode i).hash64.toNat) :=
  fun _ _ he => hD.injective_hash64 (UInt64.toNat_inj.mp he)

section Tables

variable {P : Platform} {D : Deployment ι} {S : Finset ι} {i j : ι} {t : RoutingTable}

namespace HashedTable

theorem localHash (h : HashedTable P D i t) (hD : D.Hashed P) : t.localNode.hash64 = (D.localNode i).hash64 := by
  rw [h.indexed.localHash, h.xid, hD.hash]

/-- An entry of the hash map belongs to a node of the group. -/
theorem entry (h : HashedTable P D i t) (hD : D.Hashed P) (hi : i ∈ S) (hS : t.Meets D S i) {k : UInt64}
    {n : NodeInfo} (hn : t.nodeHashMap[k]? = some n) :
    ∃ j ∈ S, (D.localNode j).hash64 = k ∧ n.nodeId = (D.localNode j).id := by
  obtain ⟨self, hself, hentries⟩ := h.indexed.entries
  rcases (hentries k n).mp hn with ⟨rfl, rfl⟩ | ⟨hm, rfl⟩
  · exact ⟨i, hi, (h.localHash hD).symm, hself.trans h.localId⟩
  · obtain ⟨j, hj, hid⟩ := hS.within n hm
    obtain ⟨j', hid', hxid, _⟩ := h.nodes n hm
    obtain rfl : j' = j := D.distinct (hid'.trans hid)
    exact ⟨j', hj, by rw [h.indexed.hash n hm, hD.hash, hxid], hid⟩

theorem mem_keys (h : HashedTable P D i t) (hD : D.Hashed P) (hi : i ∈ S) (hS : t.Meets D S i) (k : UInt64) :
    k ∈ t.nodeHashMap.keys ↔ ∃ j ∈ S, (D.localNode j).hash64 = k := by
  rw [ExtTreeMap.mem_keys]
  constructor
  · intro hk
    obtain ⟨j, hj, he, _⟩ := h.entry hD hi hS (ExtTreeMap.getElem?_eq_some_getElem hk)
    exact ⟨j, hj, he⟩
  · rintro ⟨j, hj, rfl⟩
    rw [h.indexed.mem_nodeHashMap, List.mem_cons, List.mem_map, h.localHash hD]
    by_cases hji : j = i
    · exact Or.inl (by rw [hji])
    · obtain ⟨n, hn, hid⟩ := hS.known j hj hji
      obtain ⟨j', hid', hxid, _⟩ := h.nodes n hn
      obtain rfl : j' = j := D.distinct (hid'.trans hid)
      exact Or.inr ⟨n, hn, by rw [h.indexed.hash n hn, hD.hash, hxid]⟩

theorem keys_eq (h : HashedTable P D i t) (hD : D.Hashed P) (hi : i ∈ S) (hS : t.Meets D S i) :
    t.nodeHashMap.keys = (D.ring S).map (fun j => (D.localNode j).hash64) := by
  have hinj : Function.Injective (List.map UInt64.toNat) :=
    List.map_injective_iff.mpr (fun _ _ => UInt64.toNat_inj.mp)
  apply hinj
  rw [List.map_map]
  apply eq_map_ring hD.injective_key.injOn
  · refine List.pairwise_map.mpr (ExtTreeMap.ordered_keys.imp (fun hab => ?_))
    exact UInt64.lt_iff_toNat_lt.mp (Std.compare_eq_lt.mp hab)
  · intro k
    rw [List.mem_map]
    constructor
    · rintro ⟨k, hk, rfl⟩
      obtain ⟨j, hj, rfl⟩ := (h.mem_keys hD hi hS k).mp hk
      exact ⟨j, hj, rfl⟩
    · rintro ⟨j, hj, rfl⟩
      exact ⟨_, (h.mem_keys hD hi hS _).mpr ⟨j, hj, rfl⟩, rfl⟩

theorem size_eq (h : HashedTable P D i t) (hD : D.Hashed P) (hi : i ∈ S) (hS : t.Meets D S i) :
    t.nodeHashMap.size = S.card := by
  rw [← ExtTreeMap.length_keys, h.keys_eq hD hi hS, List.length_map]
  exact length_ring

theorem card_le (h : HashedTable P D i t) (hD : D.Hashed P) (hi : i ∈ S) (hS : t.Meets D S i)
    (hr : Reachable P t) : S.card ≤ kRoutingMaxNodesSize + 1 := by
  rw [← h.size_eq hD hi hS, h.indexed.size_nodeHashMap]
  exact Nat.succ_le_succ hr.length_le

theorem hashOrder_eq (h : HashedTable P D i t) (hD : D.Hashed P) (hi : i ∈ S) (hS : t.Meets D S i) :
    t.hashOrder.map NodeInfo.nodeId = (D.ring S).map (fun j => (D.localNode j).id) := by
  have hkeys : t.nodeHashMap.toList.map Prod.fst = (D.ring S).map (fun j => (D.localNode j).hash64) := by
    rw [ExtTreeMap.map_fst_toList_eq_keys, h.keys_eq hD hi hS]
  rw [hashOrder, List.map_map]
  apply List.ext_getElem
  · simpa using congrArg List.length hkeys
  · intro p hp hp'
    rw [List.length_map] at hp hp'
    have hat : t.nodeHashMap.toList[p].1 = (D.localNode (D.ring S)[p]).hash64 := by
      have hget := List.getElem_of_eq hkeys (i := p) (by rwa [List.length_map])
      rwa [List.getElem_map, List.getElem_map] at hget
    obtain ⟨j, _, he, hid⟩ := h.entry hD hi hS (ExtTreeMap.mem_toList_iff_getElem?_eq_some.mp
      (List.getElem_mem hp : t.nodeHashMap.toList[p] ∈ t.nodeHashMap.toList))
    obtain rfl : j = (D.ring S)[p] := hD.injective_hash64 (he.trans hat)
    simpa using hid

theorem selfIndex_eq [DecidableEq ι] (h : HashedTable P D i t) (hD : D.Hashed P) (hi : i ∈ S) (hS : t.Meets D S i) :
    t.getSelfIndex = (D.ring S).idxOf i := by
  have hmem : (D.localNode i).hash64 ∈ t.nodeHashMap.keys := (h.mem_keys hD hi hS _).mpr ⟨i, hi, rfl⟩
  rw [getSelfIndex, h.localHash hD, if_pos (ExtTreeMap.contains_iff_mem.mpr (ExtTreeMap.mem_keys.mp hmem)),
    h.keys_eq hD hi hS, Deployment.ring, idxOf_map_ring hD.injective_hash64.injOn hi]

/-- A range by position that is not the full one holds a slice of the ring. -/
theorem range_eq (h : HashedTable P D i t) (hD : D.Hashed P) (hi : i ∈ S) (hS : t.Meets D S i) {a b : UInt32}
    (hab : a ≤ b) (hb : b.toNat < S.card) (hfull : ¬ (a = 0 ∧ b.toNat + 1 = S.card)) (hsmall : S.card < 2 ^ 32) :
    ∃ vec, t.getRangeNodesByIndex a b [] = some vec ∧
      vec.map NodeInfo.nodeId =
        (((D.ring S).drop a.toNat).take (b.toNat + 1 - a.toNat)).map (fun j => (D.localNode j).id) := by
  have hle := UInt32.le_iff_toNat_le.mp hab
  have hsize := h.size_eq hD hi hS
  refine ⟨t.atPositions a.toNat b.toNat, ?_, ?_⟩
  · rw [getRangeNodesByIndex_eq hab (by omega), if_neg (fun hc => hfull ⟨hc.1, by omega⟩), if_pos (by omega)]
  · rw [atPositions, List.map_take, List.map_drop, h.hashOrder_eq hD hi hS, List.map_take, List.map_drop]

end HashedTable
end Tables

variable [DecidableEq ι] {P : Platform} {D : Deployment ι} {N : Network ι}

section Positions
variable {S : Finset ι} (hD : D.Hashed P) (hall : ∀ i, HashedTable P D i (N.table i))
variable (hS : ∀ i ∈ S, (N.table i).Meets D S i)

include hD hall hS

theorem bijOn_getSelfIndex : Set.BijOn (fun i => (N.table i).getSelfIndex) S (Set.Ico 0 (S.card : ℤ)) := by
  have hindex (i : ι) (hi : i ∈ S) : (N.table i).getSelfIndex = (D.ring S).idxOf i :=
    (hall i).selfIndex_eq hD hi (hS i hi)
  have hring := ring_bijOn (f := fun i => (D.localNode i).hash64.toNat) (S := S)
  refine ⟨fun i hi => ?_, fun i hi j hj he => ?_, fun p hp => ?_⟩
  · have hlt : (D.ring S).idxOf i < S.card := hring.mapsTo hi
    dsimp only
    rw [hindex i hi, Set.mem_Ico]
    omega
  · dsimp only at he
    rw [hindex i hi, hindex j hj] at he
    exact hring.injOn hi hj (by exact_mod_cast he)
  · obtain ⟨hpos, hlt⟩ := hp
    obtain ⟨i, hi, he⟩ := hring.surjOn (show p.toNat ∈ Set.Iio S.card by rw [Set.mem_Iio]; omega)
    refine ⟨i, hi, ?_⟩
    dsimp only at he ⊢
    rw [hindex i hi, Deployment.ring, he]
    omega

theorem getSelfIndex_lt_iff {i j : ι} (hi : i ∈ S) (hj : j ∈ S) :
    (N.table i).getSelfIndex < (N.table j).getSelfIndex ↔ (D.localNode i).hash64 < (D.localNode j).hash64 := by
  rw [(hall i).selfIndex_eq hD hi (hS i hi), (hall j).selfIndex_eq hD hj (hS j hj), Nat.cast_lt, Deployment.ring,
    idxOf_ring_lt_iff hD.injective_key.injOn hi hj]
  exact UInt64.lt_iff_toNat_lt.symm

/-- A slice of the ring is the nodes whose own position is in it. -/
theorem mem_slice_iff {a b : ℕ} {i : ι} : i ∈ ((D.ring S).drop a).take (b + 1 - a) ↔
    i ∈ S ∧ (a : ℤ) ≤ (N.table i).getSelfIndex ∧ (N.table i).getSelfIndex ≤ b := by
  rw [Deployment.ring, mem_slice_ring]
  refine and_congr_right (fun hi => ?_)
  rw [(hall i).selfIndex_eq hD hi (hS i hi), Deployment.ring]
  omega

end Positions

/-- Nodes that know each other and nobody else agree on the ring of their hashes. Their
own positions are all the positions there are, in the order of the hashes, and a range
of positions, unless it is the full one, holds the same nodes in the same order for all
of them, namely those whose own position lies in the range. -/
theorem networkRun_hashRing (hD : D.Hashed P) (h : NetworkRun P D HandlerCall.EndpointsApart N) {S : Finset ι}
    (hS : ∀ i ∈ S, (N.table i).Meets D S i) :
    Set.BijOn (fun i => (N.table i).getSelfIndex) S (Set.Ico 0 (S.card : ℤ)) ∧
      (∀ i ∈ S, ∀ j ∈ S, (N.table i).getSelfIndex < (N.table j).getSelfIndex ↔
        (D.localNode i).hash64 < (D.localNode j).hash64) ∧
      ∀ a b : UInt32, a ≤ b → b.toNat < S.card → ¬ (a = 0 ∧ b.toNat + 1 = S.card) →
        ∃ members : List ι, members.Pairwise (fun i j => (D.localNode i).hash64 < (D.localNode j).hash64) ∧
          (∀ i, i ∈ members ↔ i ∈ S ∧ (a.toNat : ℤ) ≤ (N.table i).getSelfIndex ∧
            (N.table i).getSelfIndex ≤ b.toNat) ∧
          ∀ i ∈ S, ∃ vec, (N.table i).getRangeNodesByIndex a b [] = some vec ∧
            vec.map NodeInfo.nodeId = members.map (fun j => (D.localNode j).id) := by
  have hall := HashedTable.run hD h
  refine ⟨bijOn_getSelfIndex hD hall hS, fun i hi j hj => getSelfIndex_lt_iff hD hall hS hi hj,
    fun a b hab hb hfull => ?_⟩
  have hle := UInt32.le_iff_toNat_le.mp hab
  have hsmall (i : ι) (hi : i ∈ S) : S.card < 2 ^ 32 :=
    Nat.lt_of_le_of_lt ((hall i).card_le hD hi (hS i hi) (networkRun_reachable h i)) (by decide)
  have hincreasing : (D.ring S).Pairwise (fun i j => (D.localNode i).hash64 < (D.localNode j).hash64) :=
    (ring_increasing hD.injective_key.injOn).imp (fun hlt => UInt64.lt_iff_toNat_lt.mpr hlt)
  refine ⟨((D.ring S).drop a.toNat).take (b.toNat + 1 - a.toNat), ?_, fun i => ?_, fun i hi => ?_⟩
  · exact hincreasing.sublist ((List.take_sublist _ _).trans (List.drop_sublist _ _))
  · exact mem_slice_iff hD hall hS
  · exact (hall i).range_eq hD hi (hS i hi) hab hb hfull (hsmall i hi)

section Samples

def joinAnswer : List Outgoing :=
  ((joinDelivery ((Network.start (nodesAndClient kNatTypeUnknown)).table .first)).run .simple
    (((Network.start (nodesAndClient kNatTypeUnknown)).joining .first).table .second)).1

def answerDelivery : HandlerCall where
  handler := .handleBootstrapJoinResponse
  message := (joinAnswer.map Outgoing.message).headD {}
  packet := ⟨[49], 9000⟩

/-- The network in which the two nodes of the sample know each other. -/
def met : Network Host :=
  ((Network.start (nodesAndClient kNatTypeUnknown)).joinedAt .first .second).after .first
    (answerDelivery.run .simple
      (((Network.start (nodesAndClient kNatTypeUnknown)).joinedAt .first .second).table .first))

theorem networkRun_met : NetworkRun .simple (nodesAndClient kNatTypeUnknown) HandlerCall.EndpointsApart met := by
  have hone : joinAnswer.length = 1 := by decide +kernel
  cases hsent : joinAnswer with
  | nil =>
    rw [hsent] at hone
    cases hone
  | cons o rest =>
    have hmessage : answerDelivery.message = o.message := by simp [answerDelivery, hsent]
    refine .deliver
      (.joinedAt .start Host.first Host.second (HandlerCall.endpointsApart_iff.mp (List.forall_mem_nil _)))
      Host.first answerDelivery (o := o) ?_ hmessage ?_ (HandlerCall.endpointsApart_iff.mp (by decide +kernel))
    · apply List.mem_append_right
      exact (show o ∈ joinAnswer from hsent ▸ List.mem_cons_self)
    · rw [← hmessage]
      decide +kernel

theorem networkRun_hashRing_met : (∀ i ∈ ({.first, .second} : Finset Host), (met.table i).nodes.length = 1) ∧
    Set.BijOn (fun i => (met.table i).getSelfIndex) ({.first, .second} : Finset Host) (Set.Ico 0 2) ∧
    ∃ members : List Host, ∀ i ∈ ({.first, .second} : Finset Host), ∃ vec,
      (met.table i).getRangeNodesByIndex 1 1 [] = some vec ∧
        vec.map NodeInfo.nodeId = members.map (fun j => ((nodesAndClient kNatTypeUnknown).localNode j).id) := by
  have hmeets : ∀ i ∈ ({.first, .second} : Finset Host),
      (met.table i).Meets (nodesAndClient kNatTypeUnknown) {.first, .second} i :=
    fun i hi => ⟨by revert i; decide +kernel, by revert i; decide +kernel⟩
  obtain ⟨hindex, _, hrange⟩ := networkRun_hashRing (hashed_nodesAndClient _) networkRun_met hmeets
  obtain ⟨members, _, _, hmembers⟩ := hrange 1 1 (by decide) (by decide) (by decide)
  exact ⟨by decide +kernel, hindex, members, hmembers⟩

end Samples
end XKad
