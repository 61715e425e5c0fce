import XKad.FindNodesReplies

/-!
# Replies to larger counts

A find-nodes request names how many nodes it wants. `count + 1` is taken in 32
bits and received as an `int`, so a count from `2^31 - 1` on asks for zero or a
negative number of nodes and gets the local entry alone.
-/
namespace XKad
open Std

namespace RoutingTable

/-- The nodes listed in the replies among sent messages. -/
def listedNodes (sent : List Outgoing) : List PbNodeInfo :=
  sent.flatMap (fun o => match o.message.data with
    | .findNodesResponse r => r.nodes
    | _ => [])

def askingFor (m : RoutingMessage) (r : FindClosestNodesRequest) (count : UInt32) : RoutingMessage :=
  { m with data := .findNodesRequest { r with count := count } }

/-- The ids of the table once the requester is admitted, if it is public and accepted. -/
def admittedIds (t : RoutingTable) (node : NodeInfo) : List Bytes :=
  t.nodes.map NodeInfo.nodeId ++ if node.natType = kNatTypePublic ∧ t.Accepts node then [node.nodeId] else []

def nearestNodes (P : Platform) (target : Bytes) (k : ℕ) (t : RoutingTable) : List NodeInfo :=
  (partialSortNodes P NodeInfo.nodeId target (min k t.nodes.length) t.nodes).take (min k t.nodes.length)

variable {P : Platform} {t : RoutingTable}

theorem admitRequester_ids (P : Platform) (node : NodeInfo) (t : RoutingTable) :
    ((t.admitRequester P node).nodes.map NodeInfo.nodeId).Perm (t.admittedIds node) := by
  rw [admitRequester, admittedIds]
  by_cases hpublic : node.natType = kNatTypePublic
  · obtain ⟨l, hl, hs⟩ := canAddNode_reorders P node t
    have hiff := canAddNode_iff P node t
    rw [if_pos hpublic, show t.canAddNode P node = ((t.canAddNode P node).1, t.withNodes l) by rw [← hs]]
    cases hcan : (t.canAddNode P node).1 with
    | false =>
      rw [if_neg (fun hc => by rw [hiff.mpr hc.2] at hcan; cases hcan), List.append_nil]
      exact hl.map _
    | true =>
      rw [if_pos ⟨hpublic, hiff.mp hcan⟩]
      obtain ⟨l', hl', ⟨hr, _⟩ | ⟨_, he⟩⟩ := addNode_cases P node (t.withNodes l)
      · exact absurd ((accepts_withNodes hl node).mpr (hiff.mp hcan)) hr
      · dsimp only
        rw [he]
        simpa [placed] using ((hl'.trans hl).map NodeInfo.nodeId).append_right [node.nodeId]
  · rw [if_neg hpublic, if_neg (fun hc => hpublic hc.1), List.append_nil]

theorem listedNodes_handleFindNodesRequest (P : Platform) {m : RoutingMessage} (hdes : m.desNodeId = t.localId)
    (r : FindClosestNodesRequest) (count : UInt32) (mid : UInt32) (packet : XPacket) :
    listedNodes (t.handleFindNodesRequest P mid (askingFor m r count) packet).1 =
      ((t.admitRequester P (nodeOfPb P r.srcNodeinfo)).replyNodes P { r with count := count }).1.getD [] := by
  rw [handleFindNodesRequest_sent P (m := askingFor m r count) hdes rfl mid packet]
  dsimp only
  generalize (t.admitRequester P (nodeOfPb P r.srcNodeinfo)).replyNodes P { r with count := count } = answer
  obtain ⟨_ | _ | ⟨e, es⟩, t'⟩ := answer
  · rfl
  · rfl
  · simp [listedNodes, sentNodes, sendData]

section Counts
variable {r : FindClosestNodesRequest} {own : List PbNodeInfo}

/-- A count whose successor is an `int` gets the local entry and the nearest nodes that pass the tests. -/
theorem replyNodes_of_lt (hown : ownEntry (P.bloomContain (requestFilter P r)) t = some own) {count : UInt32}
    (hcount : count.toNat + 1 < 2 ^ 31) : (t.replyNodes P { r with count := count }).1 =
      some (own ++ ((kept r.targetId (P.bloomContain (requestFilter P r))
        (nearestNodes P r.targetId (count.toNat + 1) t)).take (16 - own.length)).map pbOfNode) := by
  have hlength := length_ownEntry_le hown
  rw [replyNodes_eq P { r with count := count } t hcount]
  change (ownEntry (P.bloomContain (requestFilter P r)) t).map _ = _
  rw [hown, Option.map_some]
  exact congrArg some (listNodes_eq _ _ _ _ (hlength.trans (by decide)))

theorem getClosestNodes_of_nonpos (P : Platform) (target : Bytes) (t : RoutingTable) {number : UInt32}
    (h : intOfUInt32 number ≤ 0) : t.getClosestNodes P target number false = ([], t) := by
  have hsort : t.sortNodesBy P NodeInfo.nodeId target (intOfUInt32 number) = (0, t) := by
    dsimp only [sortNodesBy]
    rw [if_pos (by omega)]
  rw [getClosestNodes]
  split_ifs with hzero hbase
  · rfl
  · cases hbase
  · rw [sortNodesByTargetXid, hsort]
    rfl

theorem intOfUInt32_succ_nonpos {count : UInt32} (h : 2 ^ 31 ≤ count.toNat + 1) :
    intOfUInt32 (count + 1) ≤ 0 := by
  have hbound := count.toNat_lt
  rw [intOfUInt32, Int32.toInt]
  have hnat : (count + 1).toInt32.toBitVec.toNat = (count.toNat + 1) % 2 ^ 32 := by
    simp
  rw [BitVec.toInt_eq_toNat_cond, hnat]
  split_ifs <;> omega

/-- A larger one gets the local entry alone. -/
theorem replyNodes_of_le (P : Platform) (t : RoutingTable) (r : FindClosestNodesRequest) {count : UInt32}
    (hcount : 2 ^ 31 ≤ count.toNat + 1) : (t.replyNodes P { r with count := count }).1 =
      ownEntry (P.bloomContain (requestFilter P r)) t := by
  rw [replyNodes]
  dsimp only
  rw [getClosestNodes_of_nonpos P r.targetId t (intOfUInt32_succ_nonpos hcount)]
  exact Option.map_id'

theorem replyNodes_of_stops (h : StopsAtXip (P.bloomContain (requestFilter P r)) t) (count : UInt32) :
    (t.replyNodes P { r with count := count }).1 = none := by
  have hown := ownEntry_eq_none.mpr h
  rw [ownEntry] at hown
  rw [replyNodes, Option.map_eq_none_iff]
  obtain ⟨l, _, hl⟩ := getClosestNodes_reorders P r.targetId (count + 1) false t
  dsimp only
  rw [hl]
  exact hown

end Counts

theorem handleFindNodesRequest_foreign (P : Platform) {m : RoutingMessage} (hdes : m.desNodeId ≠ t.localId)
    (r : FindClosestNodesRequest) (count : UInt32) (mid : UInt32) (packet : XPacket) :
    listedNodes (t.handleFindNodesRequest P mid (askingFor m r count) packet).1 = [] := by
  rw [handleFindNodesRequest, if_pos (show (askingFor m r count).desNodeId ≠ t.localId from hdes)]
  rfl

/-- Every id that passes the tests has `k` ids nearer to the target. -/
def OutOfReach (target : Bytes) (contain : Bytes → Bool) (k : ℕ) (ids : List Bytes) : Prop :=
  ∀ id ∈ ids, id ≠ target → contain id = false →
    k ≤ (ids.filter (fun x => xorDistance x target < xorDistance id target)).length

theorem OutOfReach.perm {target : Bytes} {contain : Bytes → Bool} {k : ℕ} {ids ids' : List Bytes}
    (hp : ids.Perm ids') : OutOfReach target contain k ids ↔ OutOfReach target contain k ids' := by
  rw [OutOfReach, OutOfReach]
  refine forall_congr' (fun id => ?_)
  rw [hp.mem_iff, (hp.filter (fun x => decide (xorDistance x target < xorDistance id target))).length_eq]

theorem Consistent.kept_nearestNodes_eq_nil (h : t.Consistent) (P : Platform) (target : Bytes)
    (contain : Bytes → Bool) (k : ℕ) : kept target contain (nearestNodes P target k t) = [] ↔
      OutOfReach target contain k (t.nodes.map NodeInfo.nodeId) := by
  have hcount (n : NodeInfo) : ((t.nodes.map NodeInfo.nodeId).filter
      (fun x => decide (xorDistance x target < xorDistance n.nodeId target))).length =
        (t.nodes.filter (fun m => xorDistance m.nodeId target < xorDistance n.nodeId target)).length := by
    rw [List.filter_map, List.length_map]
    rfl
  have hmem (n : NodeInfo) (hn : n ∈ nearestNodes P target k t) : n ∈ t.nodes ∧
      (t.nodes.filter (fun m => xorDistance m.nodeId target < xorDistance n.nodeId target)).length < k := by
    have hperm := partialSortNodes_perm P NodeInfo.nodeId target (min k t.nodes.length) t.nodes
    refine ⟨hperm.mem_iff.mp (List.mem_of_mem_take hn), ?_⟩
    rw [nearestNodes, partialSortNodes_eq] at hn
    exact (P.partialSort.sortBy_count_of_mem (Nat.min_le_right k _) hn).trans_le (Nat.min_le_left k _)
  constructor
  · intro hnil id hid htarget hcontain
    obtain ⟨n, hn, rfl⟩ := List.mem_map.mp hid
    rw [hcount]
    apply h.count_of_notMem P hn
    intro hnear
    have hkept : n ∈ kept target contain (nearestNodes P target k t) := mem_kept.mpr ⟨hnear, htarget, hcontain⟩
    rw [hnil] at hkept
    cases hkept
  · intro hout
    refine List.eq_nil_iff_forall_not_mem.mpr (fun n hn => ?_)
    obtain ⟨hnear, htarget, hcontain⟩ := mem_kept.mp hn
    obtain ⟨hin, hlt⟩ := hmem n hnear
    have hle := hout n.nodeId (List.mem_map_of_mem hin) htarget hcontain
    rw [hcount] at hle
    omega

theorem Consistent.nearestNodes_prefix (h : t.Consistent) (P : Platform) (target : Bytes) {k k' : ℕ}
    (hkk : k ≤ k') : nearestNodes P target k t <+: nearestNodes P target k' t := by
  rw [nearestNodes, nearestNodes, partialSortNodes_eq, partialSortNodes_eq, List.prefix_iff_eq_take]
  have hmin : min k t.nodes.length ≤ min k' t.nodes.length := by omega
  have htake := P.partialSort.sortBy_take_take (h.distance_ne target) hmin (Nat.min_le_right k' _)
  rw [P.partialSort.sortBy_take_length (Nat.min_le_right k _)]
  exact htake.symm

theorem Consistent.notMem_ownEntry (h : t.Consistent) {contain : Bytes → Bool} {own : List PbNodeInfo}
    (hown : ownEntry contain t = some own) {n : NodeInfo} (hn : n ∈ t.nodes) : pbOfNode n ∉ own := by
  intro hin
  by_cases hl : Listable t.localNode ∧ contain t.localId = false
  · have hid := List.mem_map_of_mem (f := PbNodeInfo.id) hin
    rw [ownEntry_listed hown hl.1 hl.2] at hid
    exact h.notLocal n hn (List.mem_singleton.mp hid)
  · rw [ownEntry_leftOut hown hl] at hin
    cases hin

section TwoCounts

variable {r : FindClosestNodesRequest} {own : List PbNodeInfo} {c₁ c₂ : UInt32}

/-- The counts that are still an `int` after the increment are answered in order. -/
theorem Consistent.replyNodes_mono (h : t.Consistent)
    (hown : ownEntry (P.bloomContain (requestFilter P r)) t = some own) (hle : c₁ ≤ c₂)
    (hc₂ : c₂.toNat + 1 < 2 ^ 31) : (t.replyNodes P { r with count := c₁ }).1.getD [] ⊆
      (t.replyNodes P { r with count := c₂ }).1.getD [] := by
  have hnat : c₁.toNat ≤ c₂.toNat := UInt32.le_iff_toNat_le.mp hle
  rw [replyNodes_of_lt hown (by omega), replyNodes_of_lt hown hc₂]
  have hkept := (h.nearestNodes_prefix P r.targetId (Nat.succ_le_succ hnat)).filter
    (fun n => decide (n.nodeId ≠ r.targetId) && !P.bloomContain (requestFilter P r) n.nodeId)
  have htake := (hkept.take (16 - own.length)).map pbOfNode
  intro e he
  rcases List.mem_append.mp he with hin | hother
  · exact List.mem_append_left _ hin
  · exact List.mem_append_right _ (htake.subset hother)

/-- Past them, a smaller count still lists all only if it lists no table node. -/
theorem Consistent.replyNodes_subset_iff (h : t.Consistent)
    (hown : ownEntry (P.bloomContain (requestFilter P r)) t = some own) (hc₁ : c₁.toNat + 1 < 2 ^ 31)
    (hc₂ : 2 ^ 31 ≤ c₂.toNat + 1) :
    (t.replyNodes P { r with count := c₁ }).1.getD [] ⊆ (t.replyNodes P { r with count := c₂ }).1.getD [] ↔
      OutOfReach r.targetId (P.bloomContain (requestFilter P r)) (c₁.toNat + 1) (t.nodes.map NodeInfo.nodeId) := by
  rw [replyNodes_of_lt hown hc₁, replyNodes_of_le P t r hc₂, hown, ← h.kept_nearestNodes_eq_nil P]
  have hlength := length_ownEntry_le hown
  dsimp only [Option.getD_some]
  constructor
  · intro hsub
    refine List.eq_nil_iff_forall_not_mem.mpr (fun n hn => ?_)
    -- the first of the nodes is listed whatever the room, and it is not the local node
    cases hk : kept r.targetId (P.bloomContain (requestFilter P r)) (nearestNodes P r.targetId (c₁.toNat + 1) t) with
    | nil =>
      rw [hk] at hn
      cases hn
    | cons first rest =>
      have hfirst : first ∈ kept r.targetId (P.bloomContain (requestFilter P r))
          (nearestNodes P r.targetId (c₁.toNat + 1) t) := by
        rw [hk]
        exact List.mem_cons_self
      have hperm := partialSortNodes_perm P NodeInfo.nodeId r.targetId (min (c₁.toNat + 1) t.nodes.length) t.nodes
      have hin : first ∈ t.nodes := hperm.mem_iff.mp (List.mem_of_mem_take (mem_kept.mp hfirst).1)
      apply h.notMem_ownEntry hown hin
      apply hsub
      rw [hk, show 16 - own.length = 15 - own.length + 1 by omega, List.take_succ_cons]
      exact List.mem_append_right _ List.mem_cons_self
  · intro hnil
    rw [hnil, List.take_nil, List.map_nil, List.append_nil]
    exact List.Subset.refl _

/-- A larger count lists all that a smaller one lists, unless the larger one is
no longer a positive `int` and the smaller one reaches a table node. -/
theorem listedNodes_subset_iff {P : Platform} (h : Reachable P t) (m : RoutingMessage)
    (r : FindClosestNodesRequest) {c₁ c₂ : UInt32} (hle : c₁ ≤ c₂) (mid : UInt32) (packet : XPacket) :
    listedNodes (t.handleFindNodesRequest P mid (askingFor m r c₁) packet).1 ⊆
        listedNodes (t.handleFindNodesRequest P mid (askingFor m r c₂) packet).1 ↔
      m.desNodeId ≠ t.localId ∨ StopsAtXip (P.bloomContain (requestFilter P r)) t ∨
        c₂.toNat + 1 < 2 ^ 31 ∨ 2 ^ 31 ≤ c₁.toNat + 1 ∨
        OutOfReach r.targetId (P.bloomContain (requestFilter P r)) (c₁.toNat + 1)
          (t.admittedIds (nodeOfPb P r.srcNodeinfo)) := by
  by_cases hdes : m.desNodeId = t.localId
  · have hc := (h.admitRequester (nodeOfPb P r.srcNodeinfo)).consistent
    rw [or_iff_right (not_not.mpr hdes), listedNodes_handleFindNodesRequest P hdes,
      listedNodes_handleFindNodesRequest P hdes, ← stopsAtXip_admitRequester P _ (nodeOfPb P r.srcNodeinfo)]
    cases hown : ownEntry (P.bloomContain (requestFilter P r))
        (t.admitRequester P (nodeOfPb P r.srcNodeinfo)) with
    | none =>
      have hstops := ownEntry_eq_none.mp hown
      rw [replyNodes_of_stops hstops, replyNodes_of_stops hstops]
      exact iff_of_true (List.Subset.refl _) (Or.inl hstops)
    | some own =>
      rw [or_iff_right (fun hstops => by rw [ownEntry_eq_none.mpr hstops] at hown; cases hown)]
      by_cases hc₂ : c₂.toNat + 1 < 2 ^ 31
      · exact iff_of_true (hc.replyNodes_mono hown hle hc₂) (Or.inl hc₂)
      by_cases hc₁ : 2 ^ 31 ≤ c₁.toNat + 1
      · rw [replyNodes_of_le P _ r hc₁, replyNodes_of_le P _ r (by omega)]
        exact iff_of_true (List.Subset.refl _) (Or.inr (Or.inl hc₁))
      · rw [hc.replyNodes_subset_iff hown (by omega) (by omega), OutOfReach.perm (admitRequester_ids P _ t),
          or_iff_right hc₂, or_iff_right hc₁]
  · rw [handleFindNodesRequest_foreign P hdes, handleFindNodesRequest_foreign P hdes]
    exact iff_of_true (List.Subset.refl _) (Or.inl hdes)

def neighbourRequest : RoutingMessage where
  desNodeId := (localEndingIn 1).id

/-- A request for four nodes and one for the largest count, to a node that knows one other node. -/
theorem listedNodes_subset_iff_knowing :
    (3 : UInt32) ≤ 4294967295 ∧ (listedNodes ((knowing 1 2).handleFindNodesRequest .simple 0
        (askingFor neighbourRequest { targetId := (localEndingIn 7).id } 3) ⟨[49], 9000⟩).1 ⊆
      listedNodes ((knowing 1 2).handleFindNodesRequest .simple 0
        (askingFor neighbourRequest { targetId := (localEndingIn 7).id } 4294967295) ⟨[49], 9000⟩).1 ↔
      neighbourRequest.desNodeId ≠ (knowing 1 2).localId ∨
        StopsAtXip (Platform.simple.bloomContain (requestFilter .simple { targetId := (localEndingIn 7).id }))
          (knowing 1 2) ∨
        (4294967295 : UInt32).toNat + 1 < 2 ^ 31 ∨
        2 ^ 31 ≤ (3 : UInt32).toNat + 1 ∨
        OutOfReach (localEndingIn 7).id
          (Platform.simple.bloomContain (requestFilter .simple { targetId := (localEndingIn 7).id }))
          ((3 : UInt32).toNat + 1) ((knowing 1 2).admittedIds (nodeOfPb .simple {}))) :=
  ⟨by decide, listedNodes_subset_iff (reachable_knowing 1 2) neighbourRequest
    { targetId := (localEndingIn 7).id } (by decide) 0 ⟨[49], 9000⟩⟩

/-- The largest count asks for zero nodes and does not get the neighbour that a count of three gets. -/
theorem not_listedNodes_subset_knowing :
    ¬ ∀ (P : Platform) (t : RoutingTable), Reachable P t → ∀ (m : RoutingMessage) (r : FindClosestNodesRequest)
      (c₁ c₂ : UInt32), c₁ ≤ c₂ → ∀ (mid : UInt32) (packet : XPacket),
        listedNodes (t.handleFindNodesRequest P mid (askingFor m r c₁) packet).1 ⊆
          listedNodes (t.handleFindNodesRequest P mid (askingFor m r c₂) packet).1 := by
  intro hall
  have hsub := hall .simple (knowing 1 2) (reachable_knowing 1 2) neighbourRequest
    { targetId := (localEndingIn 7).id } 3 4294967295 (by decide) 0 ⟨[49], 9000⟩
  have hin : pbOfNode (placed (localEndingIn 1).id (nodeEndingIn 2)) ∈
      listedNodes ((knowing 1 2).handleFindNodesRequest .simple 0
        (askingFor neighbourRequest { targetId := (localEndingIn 7).id } 3) ⟨[49], 9000⟩).1 := by
    decide +kernel
  have hout : listedNodes ((knowing 1 2).handleFindNodesRequest .simple 0
      (askingFor neighbourRequest { targetId := (localEndingIn 7).id } 4294967295) ⟨[49], 9000⟩).1 = [] := by
    decide +kernel
  have hnone := hsub hin
  rw [hout] at hnone
  cases hnone

end TwoCounts

end RoutingTable
end XKad
