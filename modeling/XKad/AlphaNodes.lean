import XKad.ClosestNodes
import XKad.TreeMaps

/-!
# The nodes that are asked

`GetClosestAlphaNodes` selects the nearest nodes of a table and draws an index behind
them until enough ids are selected. Since the ids of a table are different, a
selection that is too small leaves an index out, so that the loop can go on.
-/
namespace XKad
open Std

namespace RoutingTable

/-- One turn of the loop of `GetClosestAlphaNodes`. -/
def drawOne (nodes : List NodeInfo) (query : ExtTreeSet Bytes) (draw : UInt32) : ExtTreeSet Bytes :=
  if query.size < kKadParamAlpha + kKadParamAlphaRandom then
    match nodes[draw.toNat % (nodes.length - kKadParamAlpha) + kKadParamAlpha]? with
    | none => query
    | some node => if query.contains node.nodeId then query else query.insert node.nodeId
  else query

/-- `query_nodes` after the loop of `GetClosestAlphaNodes` has used up `draws`. -/
def queryNodes (P : Platform) (draws : List UInt32) (t : RoutingTable) : ExtTreeSet Bytes :=
  let (count, t) := t.sortNodesByTargetXid P t.localId kKadParamAlpha
  draws.foldl (drawOne t.nodes) ((t.nodes.take count.toNat).foldl (fun q n => q.insert n.nodeId) ∅)

/-- `query` holds as many ids of the table as it should, with those of the nearest nodes. -/
structure AlphaSelection (t : RoutingTable) (query : ExtTreeSet Bytes) : Prop where
  size : query.size = kKadParamAlpha + kKadParamAlphaRandom
  known : ∀ id ∈ query, ∃ n ∈ t.nodes, n.nodeId = id
  nearest : ∀ n ∈ t.nodes,
    (t.nodes.filter (fun m => xorDistance m.nodeId t.localId < xorDistance n.nodeId t.localId)).length <
      kKadParamAlpha → n.nodeId ∈ query

/-- What the loop keeps: the ids of the first nodes, ids of the vector only, not too many. -/
structure Selecting (nodes : List NodeInfo) (query : ExtTreeSet Bytes) : Prop where
  first : ∀ n ∈ nodes.take kKadParamAlpha, n.nodeId ∈ query
  known : ∀ id ∈ query, ∃ n ∈ nodes, n.nodeId = id
  size_le : query.size ≤ kKadParamAlpha + kKadParamAlphaRandom

section Loop

variable {nodes : List NodeInfo} {query : ExtTreeSet Bytes}

theorem drawIndex_lt (h : kKadParamAlpha < nodes.length) (draw : UInt32) :
    draw.toNat % (nodes.length - kKadParamAlpha) + kKadParamAlpha < nodes.length := by
  have hmod := Nat.mod_lt draw.toNat (show 0 < nodes.length - kKadParamAlpha by omega)
  omega

theorem drawOne_cases (h : kKadParamAlpha < nodes.length) (query : ExtTreeSet Bytes) (draw : UInt32) :
    drawOne nodes query draw = query ∨ ∃ node ∈ nodes, node.nodeId ∉ query ∧
      query.size < kKadParamAlpha + kKadParamAlphaRandom ∧ drawOne nodes query draw = query.insert node.nodeId := by
  rw [drawOne, List.getElem?_eq_getElem (drawIndex_lt h draw)]
  dsimp only
  split_ifs with hsize hin
  · exact Or.inl rfl
  · have hnew := mt ExtTreeSet.contains_iff_mem.mpr hin
    exact Or.inr ⟨_, List.getElem_mem _, hnew, hsize, rfl⟩
  · exact Or.inl rfl

theorem size_insert_new {id : Bytes} (h : id ∉ query) : (query.insert id).size = query.size + 1 := by
  rw [ExtTreeSet.size_insert, if_neg (fun hin => h (ExtTreeSet.contains_iff_mem.mp hin))]

theorem foldl_drawOne_full (h : ¬ query.size < kKadParamAlpha + kKadParamAlphaRandom) (draws : List UInt32) :
    draws.foldl (drawOne nodes) query = query := by
  induction draws with
  | nil => rfl
  | cons draw draws ih => rwa [List.foldl_cons, drawOne, if_neg h]

theorem foldl_drawOne_grows (h : kKadParamAlpha < nodes.length) (draws : List UInt32) (query : ExtTreeSet Bytes) :
    draws.foldl (drawOne nodes) query = query ∨ query.size < (draws.foldl (drawOne nodes) query).size := by
  induction draws generalizing query with
  | nil => exact Or.inl rfl
  | cons draw draws ih =>
    rw [List.foldl_cons]
    rcases drawOne_cases h query draw with heq | ⟨node, _, hnew, _, heq⟩
    · rw [heq]
      exact ih query
    · have hsize := size_insert_new hnew
      rw [heq]
      rcases ih (query.insert node.nodeId) with hsame | hmore
      · exact Or.inr (by rw [hsame]; omega)
      · exact Or.inr (by omega)

theorem drawAlphaNodes_cons (h : kKadParamAlpha < nodes.length)
    (hsize : query.size < kKadParamAlpha + kKadParamAlphaRandom) (draw : UInt32) (draws : List UInt32) :
    drawAlphaNodes nodes query (draw :: draws) = drawAlphaNodes nodes (drawOne nodes query draw) draws := by
  rw [drawAlphaNodes, if_pos hsize, drawOne, if_pos hsize]
  dsimp only
  rw [List.getElem?_eq_getElem (drawIndex_lt h draw)]
  dsimp only
  split <;> rfl

/-- The loop in one equation: it has stopped if the draws made the selection large enough. -/
theorem drawAlphaNodes_eq (h : kKadParamAlpha < nodes.length) (draws : List UInt32) (query : ExtTreeSet Bytes) :
    drawAlphaNodes nodes query draws =
      if (draws.foldl (drawOne nodes) query).size < kKadParamAlpha + kKadParamAlphaRandom then none
      else some (draws.foldl (drawOne nodes) query) := by
  induction draws generalizing query with
  | nil => rfl
  | cons draw draws ih =>
    by_cases hsize : query.size < kKadParamAlpha + kKadParamAlphaRandom
    · rw [drawAlphaNodes_cons h hsize, ih]
      rfl
    · rw [drawAlphaNodes, if_neg hsize, foldl_drawOne_full hsize, if_neg hsize]

theorem Selecting.drawOne (h : Selecting nodes query) (hlen : kKadParamAlpha < nodes.length) (draw : UInt32) :
    Selecting nodes (drawOne nodes query draw) := by
  rcases drawOne_cases hlen query draw with heq | ⟨node, hnode, hnew, hsize, heq⟩
  · rw [heq]
    exact h
  · rw [heq]
    refine ⟨fun n hn => ?_, fun id hid => ?_, ?_⟩
    · exact ExtTreeSet.mem_insert.mpr (Or.inr (h.first n hn))
    · rcases ExtTreeSet.mem_insert.mp hid with hid | hid
      · exact ⟨node, hnode, LawfulEqCmp.eq_of_compare hid⟩
      · exact h.known id hid
    · rw [size_insert_new hnew]
      omega

theorem Selecting.draws (h : Selecting nodes query) (hlen : kKadParamAlpha < nodes.length) (draws : List UInt32) :
    Selecting nodes (draws.foldl (RoutingTable.drawOne nodes) query) := by
  induction draws generalizing query with
  | nil => exact h
  | cons draw draws ih => exact ih (h.drawOne hlen draw)

/-- While the selection is too small there is a residue whose draws enlarge it. -/
theorem Selecting.progress (h : Selecting nodes query) (hids : (nodes.map NodeInfo.nodeId).Nodup)
    (hlen : kKadParamAlpha + kKadParamAlphaRandom < nodes.length)
    (hsize : query.size < kKadParamAlpha + kKadParamAlphaRandom) :
    ∃ r < nodes.length - kKadParamAlpha, ∀ draw : UInt32,
      draw.toNat % (nodes.length - kKadParamAlpha) = r →
        (RoutingTable.drawOne nodes query draw).size = query.size + 1 := by
  by_contra hstuck
  -- otherwise every id is selected, and there are too many
  have hall : ∀ id ∈ nodes.map NodeInfo.nodeId, id ∈ query := by
    intro id hid
    obtain ⟨n, hn, rfl⟩ := List.mem_map.mp hid
    obtain ⟨i, hi, rfl⟩ := List.mem_iff_getElem.mp hn
    by_cases hfirst : i < kKadParamAlpha
    · exact h.first _ (List.mem_take_iff_getElem.mpr ⟨i, by omega, rfl⟩)
    · by_contra hout
      refine hstuck ⟨i - kKadParamAlpha, by omega, fun draw hdraw => ?_⟩
      rw [RoutingTable.drawOne, if_pos hsize, hdraw, Nat.sub_add_cancel (Nat.le_of_not_lt hfirst),
        List.getElem?_eq_getElem hi]
      dsimp only
      rw [if_neg (fun hin => hout (ExtTreeSet.contains_iff_mem.mp hin)), size_insert_new hout]
  have hroom := length_le_size hids hall
  rw [List.length_map] at hroom
  omega

end Loop

section Selection

variable {P : Platform} {t : RoutingTable}

/-- The order of the nodes while `GetClosestAlphaNodes` draws, the nearest ones in front. -/
def alphaOrder (P : Platform) (t : RoutingTable) : List NodeInfo :=
  partialSortNodes P NodeInfo.nodeId t.localId kKadParamAlpha t.nodes

def nearestIds (P : Platform) (t : RoutingTable) : ExtTreeSet Bytes :=
  ((t.alphaOrder P).take kKadParamAlpha).foldl (fun q n => q.insert n.nodeId) ∅

theorem alphaOrder_perm (P : Platform) (t : RoutingTable) : (t.alphaOrder P).Perm t.nodes :=
  partialSortNodes_perm P NodeInfo.nodeId t.localId kKadParamAlpha t.nodes

theorem sortAlpha_eq (h : kKadParamAlpha < t.nodes.length) :
    t.sortNodesByTargetXid P t.localId kKadParamAlpha =
      ((kKadParamAlpha : ℤ), t.withNodes (t.alphaOrder P)) := by
  rw [sortNodesByTargetXid, sortNodesBy_pos P NodeInfo.nodeId t.localId (by decide), min_eq_left h.le]
  rfl

theorem queryNodes_eq (h : kKadParamAlpha < t.nodes.length) (draws : List UInt32) :
    t.queryNodes P draws = draws.foldl (drawOne (t.alphaOrder P)) (t.nearestIds P) := by
  rw [queryNodes, sortAlpha_eq h]
  rfl

theorem getClosestAlphaNodes_eq (h : kKadParamAlpha + kKadParamAlphaRandom < t.nodes.length)
    (draws : List UInt32) : t.getClosestAlphaNodes P draws =
      (if (t.queryNodes P draws).size < kKadParamAlpha + kKadParamAlphaRandom then none
        else some (t.queryNodes P draws), t.withNodes (t.alphaOrder P)) := by
  have hfew : kKadParamAlpha < t.nodes.length := by omega
  have horder : kKadParamAlpha < (t.alphaOrder P).length := by rwa [(t.alphaOrder_perm P).length_eq]
  rw [getClosestAlphaNodes, if_neg (by omega), sortAlpha_eq hfew, queryNodes_eq hfew]
  exact Prod.ext (drawAlphaNodes_eq horder draws _) rfl

theorem Consistent.alphaOrder_ids (h : t.Consistent) (P : Platform) :
    ((t.alphaOrder P).map NodeInfo.nodeId).Nodup :=
  ((t.alphaOrder_perm P).map NodeInfo.nodeId).nodup_iff.mpr h.ids_nodup

theorem Consistent.size_nearestIds (h : t.Consistent) (hlen : kKadParamAlpha < t.nodes.length) :
    (t.nearestIds P).size = kKadParamAlpha := by
  have hids := (h.alphaOrder_ids P).sublist ((List.take_sublist kKadParamAlpha _).map NodeInfo.nodeId)
  rw [nearestIds, size_foldl_insert hids (fun _ _ => ExtTreeSet.not_mem_empty), List.length_take,
    (t.alphaOrder_perm P).length_eq, min_eq_left hlen.le, ExtTreeSet.size_empty, Nat.zero_add]

theorem Consistent.selecting_nearestIds (h : t.Consistent) (hlen : kKadParamAlpha < t.nodes.length) :
    Selecting (t.alphaOrder P) (t.nearestIds P) where
  first n hn := (mem_foldl_insert _ _ _ _).mpr (Or.inr ⟨n, hn, rfl⟩)
  known id hid := by
    rcases (mem_foldl_insert _ _ _ _).mp hid with hid | ⟨n, hn, heq⟩
    · exact absurd hid ExtTreeSet.not_mem_empty
    · exact ⟨n, List.mem_of_mem_take hn, heq⟩
  size_le := by
    rw [h.size_nearestIds hlen]
    exact Nat.le_add_right _ _

theorem Consistent.selecting_queryNodes (h : t.Consistent) (hlen : kKadParamAlpha < t.nodes.length)
    (draws : List UInt32) : Selecting (t.alphaOrder P) (t.queryNodes P draws) := by
  rw [queryNodes_eq hlen]
  refine (h.selecting_nearestIds hlen).draws ?_ draws
  rwa [(t.alphaOrder_perm P).length_eq]

theorem Consistent.alphaSelection (h : t.Consistent) (hlen : kKadParamAlpha < t.nodes.length)
    {draws : List UInt32} (hsize : ¬ (t.queryNodes P draws).size < kKadParamAlpha + kKadParamAlphaRandom) :
    AlphaSelection t (t.queryNodes P draws) := by
  have hsel := h.selecting_queryNodes (P := P) hlen draws
  refine ⟨Nat.le_antisymm hsel.size_le (Nat.le_of_not_lt hsize), fun id hid => ?_, fun n hn hnear => ?_⟩
  · obtain ⟨n, hn, heq⟩ := hsel.known id hid
    exact ⟨n, (t.alphaOrder_perm P).mem_iff.mp hn, heq⟩
  · refine hsel.first n ?_
    by_contra hout
    rw [alphaOrder, partialSortNodes_eq] at hout
    have hcount := P.partialSort.sortBy_count_of_notMem (h.distance_ne t.localId) hlen.le hn hout
    omega

/-- Every selection too small is enlarged by some draw. -/
theorem Reachable.queryNodes_progress (h : Reachable P t)
    (hlen : kKadParamAlpha + kKadParamAlphaRandom < t.nodes.length) {draws : List UInt32}
    (hsize : (t.queryNodes P draws).size < kKadParamAlpha + kKadParamAlphaRandom) :
    ∃ r < t.nodes.length - kKadParamAlpha, ∀ draw : UInt32,
      draw.toNat % (t.nodes.length - kKadParamAlpha) = r →
        (t.queryNodes P (draws ++ [draw])).size = (t.queryNodes P draws).size + 1 := by
  have hfew : kKadParamAlpha < t.nodes.length := by omega
  have hlength := (t.alphaOrder_perm P).length_eq
  obtain ⟨r, hr, hdraw⟩ := (h.consistent.selecting_queryNodes (P := P) hfew draws).progress
    (h.consistent.alphaOrder_ids P) (by rwa [hlength]) hsize
  rw [hlength] at hr hdraw
  refine ⟨r, hr, fun draw hd => ?_⟩
  rw [← hdraw draw hd, queryNodes_eq hfew, queryNodes_eq hfew, List.foldl_concat]

theorem Reachable.exists_draw (h : Reachable P t) {r : ℕ} (hr : r < t.nodes.length - kKadParamAlpha) :
    ∃ draw : UInt32, draw.toNat % (t.nodes.length - kKadParamAlpha) = r := by
  have hbound := h.length_le
  have hmax : kRoutingMaxNodesSize < UInt32.size := by decide
  refine ⟨UInt32.ofNat r, ?_⟩
  rw [UInt32.toNat_ofNat_of_lt' (by omega)]
  exact Nat.mod_eq_of_lt hr

/-- Since one id is left to draw, a stream that hits every residue stops the loop. -/
theorem Reachable.queryNodes_stops (h : Reachable P t)
    (hlen : kKadParamAlpha + kKadParamAlphaRandom < t.nodes.length) {stream : ℕ → UInt32}
    (hstream : ∀ r < t.nodes.length - kKadParamAlpha, ∃ i,
      (stream i).toNat % (t.nodes.length - kKadParamAlpha) = r) :
    ∃ k, ¬ (t.queryNodes P ((List.range k).map stream)).size < kKadParamAlpha + kKadParamAlphaRandom := by
  have hfew : kKadParamAlpha < t.nodes.length := by omega
  have hone : kKadParamAlphaRandom = 1 := rfl
  have hnil : t.queryNodes P [] = t.nearestIds P := queryNodes_eq hfew []
  have hsize := h.consistent.size_nearestIds (P := P) hfew
  have hsmall : (t.queryNodes P []).size < kKadParamAlpha + kKadParamAlphaRandom := by
    rw [hnil, hsize, hone]
    omega
  obtain ⟨r, hr, hdraw⟩ := h.queryNodes_progress hlen hsmall
  obtain ⟨i, hi⟩ := hstream r hr
  have horder : kKadParamAlpha < (t.alphaOrder P).length := by rwa [(t.alphaOrder_perm P).length_eq]
  rcases foldl_drawOne_grows horder ((List.range i).map stream) (t.nearestIds P) with hsame | hmore
  · refine ⟨i + 1, ?_⟩
    have hlast := hdraw (stream i) hi
    rw [queryNodes_eq hfew, List.range_succ, List.map_append, List.foldl_append, hsame]
    rw [List.nil_append, queryNodes_eq hfew, hnil, hsize] at hlast
    rw [List.map_singleton, hlast, hone]
    omega
  · refine ⟨i, ?_⟩
    rw [queryNodes_eq hfew, hone]
    omega

theorem getClosestAlphaNodes_small (h : t.nodes.length ≤ kKadParamAlpha + kKadParamAlphaRandom)
    (draws : List UInt32) : t.getClosestAlphaNodes P draws =
      (some (t.nodes.foldl (fun q n => q.insert n.nodeId) ∅), t) := by
  rw [getClosestAlphaNodes, if_pos h]

/-- Whatever is selected is in the table, also in the one the selection leaves. -/
theorem Consistent.getClosestAlphaNodes_known (h : t.Consistent) {draws : List UInt32} {query : ExtTreeSet Bytes}
    (hq : (t.getClosestAlphaNodes P draws).1 = some query) {id : Bytes} (hid : id ∈ query) :
    ∃ n ∈ t.nodes, n.nodeId = id ∧ (t.getClosestAlphaNodes P draws).2.getNode id = some n := by
  have hnode : ∃ n ∈ t.nodes, n.nodeId = id := by
    by_cases hlen : t.nodes.length ≤ kKadParamAlpha + kKadParamAlphaRandom
    · rw [getClosestAlphaNodes_small hlen] at hq
      cases hq
      exact ((mem_foldl_insert _ _ _ _).mp hid).resolve_left ExtTreeSet.not_mem_empty
    · rw [getClosestAlphaNodes_eq (Nat.lt_of_not_le hlen)] at hq
      dsimp only at hq
      split_ifs at hq with hsize
      cases hq
      exact (h.alphaSelection (by omega) hsize).known id hid
  obtain ⟨n, hn, heq⟩ := hnode
  refine ⟨n, hn, heq, ?_⟩
  obtain ⟨l, _, hl⟩ := getClosestAlphaNodes_reorders P draws t
  rw [hl]
  exact (h.index id n).mpr ⟨hn, heq⟩

/-- `FindClosestNodes` sends a request to every selected id. -/
def AsksSelected (P : Platform) (t : RoutingTable) : Prop :=
  ∀ (mid : Bytes → UInt32) (draws : List UInt32) (attempts : ℤ) (count : UInt32) (nodes : List NodeInfo)
    (query : ExtTreeSet Bytes), attempts ≠ 0 → (t.getClosestAlphaNodes P draws).1 = some query →
    ∃ sent, (t.findClosestNodes P mid draws attempts count nodes).1 = some sent ∧
      sent.map (fun o => o.message.desNodeId) = query.toList

/-- What `GetClosestAlphaNodes` selects: a small table as a whole, from a large one as many
ids as it should with those of the nearest nodes; while it has not stopped some random
number takes it further, and it stops on every stream that hits each residue. Each
selected id is found in the table. -/
structure SelectsAlpha (P : Platform) (t : RoutingTable) : Prop where
  small : t.nodes.length ≤ kKadParamAlpha + kKadParamAlphaRandom → ∀ draws, ∃ query,
    (t.getClosestAlphaNodes P draws).1 = some query ∧ ∀ id, id ∈ query ↔ ∃ n ∈ t.nodes, n.nodeId = id
  large : kKadParamAlpha + kKadParamAlphaRandom < t.nodes.length →
    ∀ draws query, (t.getClosestAlphaNodes P draws).1 = some query → AlphaSelection t query
  progress : kKadParamAlpha + kKadParamAlphaRandom < t.nodes.length →
    ∀ draws, (t.getClosestAlphaNodes P draws).1 = none → ∃ draw : UInt32,
      (t.queryNodes P draws).size < (t.queryNodes P (draws ++ [draw])).size
  stops : kKadParamAlpha + kKadParamAlphaRandom < t.nodes.length →
    ∀ stream : ℕ → UInt32, (∀ r < t.nodes.length - kKadParamAlpha, ∃ i,
        (stream i).toNat % (t.nodes.length - kKadParamAlpha) = r) →
      ∃ k query, (t.getClosestAlphaNodes P ((List.range k).map stream)).1 = some query
  resolves : ∀ draws query, (t.getClosestAlphaNodes P draws).1 = some query → ∀ id ∈ query,
    ∃ n ∈ t.nodes, n.nodeId = id ∧ (t.getClosestAlphaNodes P draws).2.getNode id = some n

theorem Reachable.selectsAlpha (h : Reachable P t) : SelectsAlpha P t where
  small hsmall draws := by
    refine ⟨_, congrArg Prod.fst (getClosestAlphaNodes_small hsmall draws), fun id => ?_⟩
    rw [mem_foldl_insert, or_iff_right ExtTreeSet.not_mem_empty]
  large hlarge draws query hq := by
    rw [getClosestAlphaNodes_eq hlarge] at hq
    dsimp only at hq
    split_ifs at hq with hsize
    cases hq
    exact h.consistent.alphaSelection (by omega) hsize
  progress hlarge draws hnone := by
    rw [getClosestAlphaNodes_eq hlarge] at hnone
    dsimp only at hnone
    split_ifs at hnone with hsize
    obtain ⟨r, hr, hdraw⟩ := h.queryNodes_progress hlarge hsize
    obtain ⟨draw, hvalue⟩ := h.exists_draw hr
    refine ⟨draw, ?_⟩
    rw [hdraw draw hvalue]
    exact Nat.lt_succ_self _
  stops hlarge stream hstream := by
    obtain ⟨k, hk⟩ := h.queryNodes_stops hlarge hstream
    refine ⟨k, t.queryNodes P ((List.range k).map stream), ?_⟩
    rw [getClosestAlphaNodes_eq hlarge, if_neg hk]
  resolves draws query hq id hid := h.consistent.getClosestAlphaNodes_known hq hid

theorem Reachable.exists_query (h : Reachable P t) :
    ∃ draws query, (t.getClosestAlphaNodes P draws).1 = some query := by
  by_cases hlen : t.nodes.length ≤ kKadParamAlpha + kKadParamAlphaRandom
  · exact ⟨[], _, congrArg Prod.fst (getClosestAlphaNodes_small hlen [])⟩
  · have hlarge : kKadParamAlpha + kKadParamAlphaRandom < t.nodes.length := Nat.lt_of_not_le hlen
    obtain ⟨k, query, hq⟩ := (h.selectsAlpha (P := P)).stops hlarge UInt32.ofNat (fun r hr => by
      obtain ⟨draw, hdraw⟩ := h.exists_draw hr
      exact ⟨draw.toNat, by rwa [UInt32.ofNat_toNat]⟩)
    exact ⟨_, query, hq⟩

theorem SelectsAlpha.toList_eq_nil_iff (h : SelectsAlpha P t) {draws : List UInt32} {query : ExtTreeSet Bytes}
    (hq : (t.getClosestAlphaNodes P draws).1 = some query) : query.toList = [] ↔ t.nodes = [] := by
  constructor
  · intro hnil
    have hnone (id : Bytes) : id ∉ query := fun hid => by
      have hin := ExtTreeSet.mem_toList.mpr hid
      rw [hnil] at hin
      cases hin
    by_cases hlen : t.nodes.length ≤ kKadParamAlpha + kKadParamAlphaRandom
    · obtain ⟨query', hq', hall⟩ := h.small hlen draws
      obtain rfl : query' = query := Option.some.inj (hq'.symm.trans hq)
      exact List.eq_nil_iff_forall_not_mem.mpr (fun n hn => hnone n.nodeId ((hall n.nodeId).mpr ⟨n, hn, rfl⟩))
    · have hsize := (h.large (Nat.lt_of_not_le hlen) draws query hq).size
      rw [← ExtTreeSet.length_toList, hnil] at hsize
      cases hsize
  · intro hnil
    refine List.eq_nil_iff_forall_not_mem.mpr (fun id hid => ?_)
    obtain ⟨n, hn, _⟩ := h.resolves draws query hq id (ExtTreeSet.mem_toList.mp hid)
    rw [hnil] at hn
    cases hn

theorem findClosestNodes_loop (hne : t.nodes ≠ []) {mid : Bytes → UInt32} {draws : List UInt32} {attempts : ℤ}
    (hattempts : attempts ≠ 0) {count : UInt32} {nodes : List NodeInfo} {query : ExtTreeSet Bytes}
    (hq : (t.getClosestAlphaNodes P draws).1 = some query) :
    (t.findClosestNodes P mid draws attempts count nodes).1 =
      (t.getClosestAlphaNodes P draws).2.askNodes P mid count nodes query.toList := by
  have hsome : ¬ t.nodes.length ≤ 0 := fun hle => hne (List.length_eq_zero_iff.mp (Nat.le_zero.mp hle))
  rw [findClosestNodes, if_neg (by simp [hsome]), if_neg hattempts]
  generalize t.getClosestAlphaNodes P draws = answer at hq ⊢
  obtain ⟨selected, t'⟩ := answer
  obtain rfl : selected = some query := hq
  rfl

/-- A node with a xip sends a request to every selected id. -/
theorem Consistent.askNodes_requests (h : t.Consistent) (hxip : t.localNode.clientMode = false) {draws : List UInt32}
    {query : ExtTreeSet Bytes} (hq : (t.getClosestAlphaNodes P draws).1 = some query) (mid : Bytes → UInt32)
    (count : UInt32) (nodes : List NodeInfo) :
    ∃ sent, (t.getClosestAlphaNodes P draws).2.askNodes P mid count nodes query.toList = some sent ∧
      sent.map (fun o => o.message.desNodeId) = query.toList := by
  obtain ⟨l, _, hl⟩ := getClosestAlphaNodes_reorders P draws t
  have hxip' : (t.getClosestAlphaNodes P draws).2.localNode.clientMode = false := by
    rw [hl]
    exact hxip
  rw [askNodes_eq, if_neg (by simp [hxip'])]
  refine ⟨_, rfl, ?_⟩
  rw [List.map_flatMap]
  conv_rhs => rw [← List.flatMap_singleton' query.toList]
  apply List.flatMap_congr
  intro id hid
  obtain ⟨n, _, _, hget⟩ := h.getClosestAlphaNodes_known hq (ExtTreeSet.mem_toList.mp hid)
  rw [sendFindClosestNodes, LocalNodeInfo.xipString_of_not_client hxip', hget]
  simp only [Option.map_some, Option.getD_some, List.map_singleton, sendDataToNode_message, setVersion_desNodeId]
  rfl

/-- The selection is as it should be, and each selected id is found in the table; but only
a node that is no client, or has nobody to ask, sends the requests. -/
theorem getClosestAlphaNodes_selects (h : Reachable P t) :
    SelectsAlpha P t ∧ (AsksSelected P t ↔ t.localNode.clientMode = false ∨ t.nodes = []) := by
  have hselects : SelectsAlpha P t := h.selectsAlpha
  refine ⟨hselects, ?_, ?_⟩
  · intro hall
    by_contra hcond
    obtain ⟨hclient, hne⟩ := not_or.mp hcond
    obtain ⟨draws, query, hq⟩ := h.exists_query
    obtain ⟨sent, hsent, _⟩ := hall (fun _ => 0) draws 1 0 [] query (by decide) hq
    obtain ⟨l, _, hl⟩ := getClosestAlphaNodes_reorders P draws t
    have hclient' : (t.getClosestAlphaNodes P draws).2.localNode.clientMode = true := by
      rw [hl]
      exact Bool.eq_true_of_not_eq_false hclient
    rw [findClosestNodes_loop hne (by decide) hq, askNodes_eq,
      if_pos ⟨hclient', fun hnil => hne ((hselects.toList_eq_nil_iff hq).mp hnil)⟩] at hsent
    cases hsent
  · intro hcond mid draws attempts count nodes query hattempts hq
    by_cases hnil : t.nodes = []
    · have hempty := (hselects.toList_eq_nil_iff hq).mpr hnil
      refine ⟨[], ?_, by rw [hempty]; rfl⟩
      rw [findClosestNodes]
      generalize t.getClosestAlphaNodes P draws = answer at hq ⊢
      obtain ⟨selected, t'⟩ := answer
      obtain rfl : selected = some query := hq
      rw [if_neg hattempts]
      dsimp only
      rw [hempty]
      split_ifs <;> rfl
    · rw [findClosestNodes_loop hnil hattempts hq]
      exact h.consistent.askNodes_requests (hcond.resolve_right hnil) hq mid count nodes

def knowingFour : RoutingTable :=
  (TableOp.addNode (nodeEndingIn 8)).run .simple ((TableOp.addNode (nodeEndingIn 4)).run .simple
    ((TableOp.addNode (nodeEndingIn 2)).run .simple
      ((TableOp.addNode (nodeEndingIn 1)).run .simple (init (localEndingIn 0) 9))))

theorem reachable_knowingFour : Reachable .simple knowingFour :=
  ((((Reachable.init _ _).call _).call _).call _).call _

theorem getClosestAlphaNodes_selects_four :
    (knowingFour.getClosestAlphaNodes .simple [3]).1.map ExtTreeSet.toList =
        some [(nodeEndingIn 1).nodeId, (nodeEndingIn 2).nodeId, (nodeEndingIn 8).nodeId] ∧
      SelectsAlpha .simple knowingFour ∧ AsksSelected .simple knowingFour :=
  ⟨by decide +kernel, (getClosestAlphaNodes_selects reachable_knowingFour).1,
    (getClosestAlphaNodes_selects reachable_knowingFour).2.mpr (Or.inl (by decide +kernel))⟩

def clientKnowingTwo : RoutingTable :=
  (TableOp.addNode (nodeEndingIn 2)).run .simple (init { localEndingIn 1 with clientMode := true } 9)

/-- The client selects its neighbour and cannot ask it. -/
theorem not_asksSelected :
    ¬ ∀ (P : Platform) (t : RoutingTable), Reachable P t → SelectsAlpha P t ∧ AsksSelected P t := by
  intro h
  have hreach : Reachable .simple clientKnowingTwo := (Reachable.init _ _).call _
  have hq : (clientKnowingTwo.getClosestAlphaNodes .simple []).1 = some _ :=
    congrArg Prod.fst (getClosestAlphaNodes_small (by decide +kernel) [])
  obtain ⟨sent, hsent, _⟩ := (h .simple clientKnowingTwo hreach).2 (fun _ => 0) [] 1 20 [] _ (by decide) hq
  have hnone : (clientKnowingTwo.findClosestNodes .simple (fun _ => 0) [] 1 20 []).1 = none := by decide +kernel
  rw [hnone] at hsent
  cases hsent

end Selection

end RoutingTable
end XKad
