import XKad.FindNodesReplies

/-!
# The positions read by CloserToTarget

The calls of `CloserToTarget` a query or a handler makes, and when they stay
within their strings. Which pairs a partial sort compares is up to the library,
so a processing is safe if it is safe with every conforming partial sort, where a
sort that compares an element with itself does not conform.
-/
namespace XKad

/-- One call of `CloserToTarget`. -/
structure Comparison where
  id1 : Bytes
  id2 : Bytes
  targetId : Bytes
  deriving DecidableEq

/-- No position beyond `size()` is read in any of the three strings. -/
def Comparison.InRange (c : Comparison) : Prop :=
  ∀ i ∈ closerReads c.id1 c.id2 c.targetId,
    i ≤ c.id1.length ∧ i ≤ c.id2.length ∧ i ≤ c.targetId.length

instance (c : Comparison) : Decidable c.InRange :=
  inferInstanceAs (Decidable (∀ i ∈ closerReads c.id1 c.id2 c.targetId,
    i ≤ c.id1.length ∧ i ≤ c.id2.length ∧ i ≤ c.targetId.length))

section Reads

variable {a b : Bytes} (t : Bytes)

theorem xorChar_eq_iff (x y c : UInt8) : xorChar x c = xorChar y c ↔ x = y := by
  rw [xorChar_eq, xorChar_eq]
  exact UInt8.xor_left_inj c

private theorem mem_closerReadsFrom (i n j : ℕ) : j ∈ closerReadsFrom a b t i n ↔
    i ≤ j ∧ j < i + n ∧ ∀ k, i ≤ k → k < j → charAt a k = charAt b k := by
  induction n generalizing i with
  | zero =>
    simp only [closerReadsFrom, List.not_mem_nil, false_iff]
    omega
  | succ n ih =>
    simp only [closerReadsFrom, ne_eq, xorChar_eq_iff]
    by_cases hne : charAt a i = charAt b i
    · rw [if_neg (not_not.mpr hne), List.mem_cons, ih]
      constructor
      · rintro (rfl | ⟨hij, hjn, hall⟩)
        · exact ⟨Nat.le_refl _, by omega, fun k hk hkj => by omega⟩
        · refine ⟨by omega, by omega, fun k hk hkj => ?_⟩
          by_cases hki : k = i
          · rw [hki, hne]
          · exact hall k (by omega) hkj
      · rintro ⟨hij, hjn, hall⟩
        by_cases hji : j = i
        · exact Or.inl hji
        · exact Or.inr ⟨by omega, by omega, fun k hk hkj => hall k (by omega) hkj⟩
    · rw [if_pos hne, List.mem_singleton]
      constructor
      · rintro rfl
        exact ⟨Nat.le_refl _, by omega, fun k hk hkj => by omega⟩
      · rintro ⟨hij, _, hall⟩
        by_contra hji
        exact hne (hall i (Nat.le_refl i) (by omega))

/-- A comparison goes on exactly as long as the two ids agree. -/
theorem mem_closerReads (j : ℕ) : j ∈ closerReads a b t ↔
    j < kNodeIdSize ∧ ∀ k < j, charAt a k = charAt b k := by
  rw [closerReads, mem_closerReadsFrom]
  simp

theorem take_eq_take_iff (h : a.length = b.length) (n : ℕ) :
    a.take n = b.take n ↔ ∀ k < n, charAt a k = charAt b k := by
  have hget (s : Bytes) (k : ℕ) : charAt s k = (s[k]?).getD 0 := by
    rw [charAt, List.getD_eq_getElem?_getD]
  constructor
  · intro heq k hk
    have hk' := congrArg (fun s => s[k]?) heq
    simp only [List.getElem?_take, hk, if_true] at hk'
    rw [hget, hget, hk']
  · intro hall
    refine List.ext_getElem (by simp [h]) (fun k hka hkb => ?_)
    rw [List.length_take] at hka hkb
    have hk := hall k (by omega)
    rw [hget, hget, List.getElem?_eq_getElem (by omega), List.getElem?_eq_getElem (by omega)] at hk
    simpa using hk

/-- Words of one length are compared in range exactly if the loop is over, or they
differ, before it leaves the shorter of word and target. -/
theorem inRange_iff (h : a.length = b.length) : (Comparison.mk a b t).InRange ↔
    kNodeIdSize ≤ min a.length t.length + 1 ∨
      a.take (min a.length t.length + 1) ≠ b.take (min a.length t.length + 1) := by
  rw [Comparison.InRange]
  simp only [mem_closerReads, ne_eq, take_eq_take_iff h]
  constructor
  · intro hall
    by_contra hcon
    simp only [not_or, not_le, not_not] at hcon
    have hread := hall (min a.length t.length + 1) hcon
    omega
  · rintro hor i ⟨hi, hagree⟩
    have hle : i ≤ min a.length t.length := by
      by_contra hlt
      rcases hor with hover | hdiff
      · omega
      · exact hdiff (fun k hk => hagree k (by omega))
    omega

end Reads

theorem inRange_ids {a b : Bytes} (t : Bytes) (ha : a.length = kNodeIdSize) (hb : b.length = kNodeIdSize)
    (hab : a ≠ b) : (Comparison.mk a b t).InRange ↔ a.take (t.length + 1) ≠ b.take (t.length + 1) := by
  rw [inRange_iff t (ha.trans hb.symm), ha]
  by_cases hlong : kNodeIdSize ≤ t.length + 1
  · refine iff_of_true (Or.inl (by omega)) ?_
    rw [List.take_of_length_le (by omega), List.take_of_length_le (by omega)]
    exact hab
  · rw [min_eq_right (by omega)]
    simp [hlong]

theorem inRange_xips {a b t : Bytes} (ha : a.length = 16) (hb : b.length = 16) (ht : t.length = 16) :
    (Comparison.mk a b t).InRange ↔ a ≠ b := by
  rw [inRange_iff t (ha.trans hb.symm), ha, ht, List.take_of_length_le (by omega),
    List.take_of_length_le (by omega)]
  simp [kNodeIdSize]

theorem Comparison.inRange_symm {a b t : Bytes} (h : (Comparison.mk a b t).InRange) :
    (Comparison.mk b a t).InRange := by
  intro i hi
  obtain ⟨hlt, hagree⟩ := (mem_closerReads t i).mp hi
  have hread := h i ((mem_closerReads t i).mpr ⟨hlt, fun k hk => (hagree k hk).symm⟩)
  exact ⟨hread.2.1, hread.1, hread.2.2⟩

def Platform.withSort (P : Platform) (S : PartialSort NodeInfo) : Platform := { P with partialSort := S }

namespace RoutingTable

def sortCalls (P : Platform) (word : NodeInfo → Bytes) (target : Bytes) (number : ℤ) (t : RoutingTable) :
    List Comparison :=
  let count := min number t.nodes.length
  if count ≤ 0 then []
  else ((P.partialSort.program count.toNat t.nodes).calls
    (fun lhs rhs => closerToTarget (word lhs) (word rhs) target)).map
      (fun p => ⟨word p.1, word p.2, target⟩)

def getClosestNodesCalls (P : Platform) (target : Bytes) (numberToGet : UInt32) (baseXip : Bool)
    (t : RoutingTable) : List Comparison :=
  if numberToGet = 0 then []
  else if baseXip then t.sortCalls P NodeInfo.xip target (intOfUInt32 numberToGet)
  else t.sortCalls P NodeInfo.nodeId target (intOfUInt32 numberToGet)

/-- The calls made by `AddNode` and by `CanAddNode`: one sort, after the same tests. -/
def addNodeCalls (P : Platform) (node : NodeInfo) (t : RoutingTable) : List Comparison :=
  if node.natType = kNatTypeUnknown then []
  else if node.nodeId = t.localId then []
  else if !validNode node then []
  else if t.hasNode node then []
  else if (setNodeBucket t.localId node).1 ≠ .kadSuccess then []
  else t.sortCalls P NodeInfo.nodeId t.localId t.nodes.length

def admitRequesterCalls (P : Platform) (node : NodeInfo) (t : RoutingTable) : List Comparison :=
  if node.natType = kNatTypePublic then
    t.addNodeCalls P node ++
      match t.canAddNode P node with
      | (true, t) => t.addNodeCalls P node
      | (false, _) => []
  else []

def handleFindNodesRequestCalls (P : Platform) (m : RoutingMessage) (t : RoutingTable) : List Comparison :=
  if m.desNodeId ≠ t.localId then []
  else
    match m.data with
    | .findNodesRequest r =>
      t.admitRequesterCalls P (nodeOfPb P r.srcNodeinfo) ++
        (t.admitRequester P (nodeOfPb P r.srcNodeinfo)).getClosestNodesCalls P r.targetId (r.count + 1) false
    | _ => []

def recursiveSendCalls (P : Platform) (m : RoutingMessage) (t : RoutingTable) : List Comparison :=
  match excludeHops ∅ m.hopNodes with
  | none => []
  | some _ => t.getClosestNodesCalls P m.desNodeId routingMaxNodesSize false

def sendToClosestNodeCalls (P : Platform) (m : RoutingMessage) (addHop : Bool) (t : RoutingTable) :
    List Comparison :=
  if m.desNodeId = t.localId then []
  else if !t.localNode.firstNode && !t.joined then []
  else
    t.recursiveSendCalls P (if addHop then { m with hopNodes := m.hopNodes ++ [t.localId] } else m)

/-- The calls made by `HandleConnectRequest`: its own test of the destination
compares ids for equality only. -/
def handleConnectRequestCalls (P : Platform) (m : RoutingMessage) (t : RoutingTable) : List Comparison :=
  match m.data with
  | .connectRequest _ | .empty =>
    if (t.isDestination P m.desNodeId false).1 then [] else t.sendToClosestNodeCalls P m true
  | _ => []

/-- Every call stays in range, whichever pairs the library's partial sort compares. -/
def Safe (P : Platform) (calls : Platform → List Comparison) : Prop :=
  ∀ S : PartialSort NodeInfo, ∀ c ∈ calls (P.withSort S), c.InRange

theorem mem_sortCalls {P : Platform} {word : NodeInfo → Bytes} {target : Bytes} {number : ℤ}
    {t : RoutingTable} {c : Comparison} (hc : c ∈ t.sortCalls P word target number) :
    ∃ x y, List.Subperm [x, y] t.nodes ∧ c = ⟨word x, word y, target⟩ := by
  dsimp only [sortCalls] at hc
  split at hc
  · cases hc
  · obtain ⟨p, hp, rfl⟩ := List.mem_map.mp hc
    have hweak : StrictWeak (fun lhs rhs => closerToTarget (word lhs) (word rhs) target) := by
      simp only [closerToTarget_eq]
      exact PartialSort.rankLt_strictWeak (fun n => xorDistance (word n) target)
    exact ⟨p.1, p.2, P.partialSort.calls_subperm hweak _ _ p hp, rfl⟩

/-- A sort is safe exactly if every two nodes it may compare are compared in range. -/
theorem safe_sortCalls_iff (P : Platform) (word : NodeInfo → Bytes) (target : Bytes) {number : ℤ}
    (hpos : 0 < number) (ts : Platform → RoutingTable) (l : List NodeInfo)
    (hts : ∀ S, (ts (P.withSort S)).nodes.Perm l) :
    Safe P (fun P => (ts P).sortCalls P word target number) ↔
      l.Pairwise (fun x y => (Comparison.mk (word x) (word y) target).InRange) := by
  constructor
  · intro hsafe
    refine List.pairwise_iff_forall_sublist.mpr (fun {x y} hxy => ?_)
    classical
    -- a conforming partial sort may compare these two first
    let first (l' : List NodeInfo) : List (NodeInfo × NodeInfo) :=
      if List.Subperm [x, y] l' then [(x, y)] else []
    have hfirst : ∀ l', ∀ p ∈ first l', List.Subperm [p.1, p.2] l' := by
      intro l' p hp
      simp only [first] at hp
      split at hp
      · rename_i hsub
        rw [List.mem_singleton.mp hp]
        exact hsub
      · cases hp
    let S : PartialSort NodeInfo := PartialSort.ofInsertion first hfirst
    have hsub : List.Subperm [x, y] (ts (P.withSort S)).nodes :=
      hxy.subperm.trans (hts S).symm.subperm
    have hlen := hsub.length_le
    refine hsafe S ⟨word x, word y, target⟩ ?_
    dsimp only [sortCalls]
    rw [if_neg]
    · refine List.mem_map.mpr ⟨(x, y), ?_, rfl⟩
      have hasked : (x, y) ∈ first (ts (P.withSort S)).nodes := by simp [first, hsub]
      exact PartialSort.mem_calls_ofInsertion hfirst _ _ hasked
    · simp only [List.length_cons, List.length_nil] at hlen
      omega
  · intro hall S c hc
    obtain ⟨x, y, hsub, rfl⟩ := mem_sortCalls hc
    obtain ⟨l', hl', hsub'⟩ := hsub.trans (hts S).subperm
    have hpair := hl'.pairwise (hall.sublist hsub') (fun h => Comparison.inRange_symm h)
    exact List.rel_of_pairwise_cons hpair (List.mem_singleton_self _)

def nodesAfterAdmission (node : NodeInfo) (t : RoutingTable) : List NodeInfo :=
  if node.natType = kNatTypePublic ∧ t.Accepts node then t.nodes ++ [placed t.localId node] else t.nodes

theorem admitRequester_nodes (P : Platform) (node : NodeInfo) (t : RoutingTable) :
    (t.admitRequester P node).nodes.Perm (t.nodesAfterAdmission node) := by
  rw [admitRequester, nodesAfterAdmission]
  by_cases hpublic : node.natType = kNatTypePublic
  · obtain ⟨l, hl, hs⟩ := canAddNode_reorders P node t
    have hiff := canAddNode_iff P node t
    rw [if_pos hpublic]
    cases hc : t.canAddNode P node with
    | mk ok t' =>
      rw [hc] at hs hiff
      obtain rfl : t' = t.withNodes l := hs
      cases ok with
      | false =>
        rw [if_neg (fun h => absurd (hiff.mpr h.2) (by simp))]
        exact hl
      | true =>
        have hacc := hiff.mp rfl
        rw [if_pos ⟨hpublic, hacc⟩]
        obtain ⟨l', hl', ⟨hno, _⟩ | ⟨_, he⟩⟩ := addNode_cases P node (t.withNodes l)
        · exact absurd ((accepts_withNodes hl node).mpr hacc) hno
        · dsimp only
          rw [he]
          exact (hl'.trans hl).append_right _
  · rw [if_neg hpublic, if_neg (fun h => hpublic h.1)]

/-- A comparison with a target of that length tells any two of the ids apart in range. -/
def ToldApart (target : Bytes) (ids : List Bytes) : Prop :=
  ids.Pairwise (fun a b => a.take (target.length + 1) ≠ b.take (target.length + 1))

theorem Consistent.inRange_iff {t : RoutingTable} (h : t.Consistent) (target : Bytes) {l : List NodeInfo}
    (hl : l.Perm t.nodes) :
    l.Pairwise (fun x y => (Comparison.mk x.nodeId y.nodeId target).InRange) ↔
      ToldApart target (l.map NodeInfo.nodeId) := by
  have hlen (n : NodeInfo) (hn : n ∈ l) : n.nodeId.length = kNodeIdSize := h.length n (hl.mem_iff.mp hn)
  have hne : l.Pairwise (fun a b => a.nodeId ≠ b.nodeId) :=
    hl.symm.pairwise h.nodup (fun hab => hab.symm)
  rw [ToldApart, List.pairwise_map]
  constructor
  · refine fun hall => (hall.and hne).imp_of_mem (fun {a b} ha hb hab => ?_)
    exact (inRange_ids target (hlen a ha) (hlen b hb) hab.2).mp hab.1
  · refine fun hall => (hall.and hne).imp_of_mem (fun {a b} ha hb hab => ?_)
    exact (inRange_ids target (hlen a ha) (hlen b hb) hab.2).mpr hab.1

/-- The sorts of `AddNode` and `CanAddNode` stay in range: all ids and the target have full length. -/
theorem inRange_addNodeCalls {t : RoutingTable} (hlen : ∀ n ∈ t.nodes, n.nodeId.length = kNodeIdSize)
    (P : Platform) (node : NodeInfo) : ∀ c ∈ t.addNodeCalls P node, c.InRange := by
  intro c hc
  rw [addNodeCalls] at hc
  split_ifs at hc
  · cases hc
  · cases hc
  · cases hc
  · cases hc
  · cases hc
  · obtain ⟨x, y, hsub, rfl⟩ := mem_sortCalls hc
    have hx := hlen x (hsub.subset (by simp))
    have hy := hlen y (hsub.subset (by simp))
    have ht : t.localId.length = kNodeIdSize := t.localNode.id_size
    refine (inRange_iff t.localId (hx.trans hy.symm)).mpr (Or.inl ?_)
    rw [hx, ht, min_self]
    exact Nat.le_succ _

theorem inRange_admitRequesterCalls {t : RoutingTable}
    (hlen : ∀ n ∈ t.nodes, n.nodeId.length = kNodeIdSize) (P : Platform) (node : NodeInfo) :
    ∀ c ∈ t.admitRequesterCalls P node, c.InRange := by
  intro c hc
  obtain ⟨l, hl, hs⟩ := canAddNode_reorders P node t
  rw [admitRequesterCalls] at hc
  split_ifs at hc with hpublic
  · rcases List.mem_append.mp hc with hc | hc
    · exact inRange_addNodeCalls hlen P node c hc
    · split at hc <;> rename_i heq
      · rw [heq] at hs
        obtain rfl : _ = t.withNodes l := hs
        exact inRange_addNodeCalls (fun n hn => hlen n (hl.mem_iff.mp hn)) P node c hc
      · cases hc
  · cases hc

/-- `HandleFindNodesRequest`: the target of a request that leads to a sort tells
the nodes apart. -/
def RequestInRange (P : Platform) (m : RoutingMessage) (t : RoutingTable) : Prop :=
  m.desNodeId = t.localId → ∀ r, m.data = .findNodesRequest r → 0 < intOfUInt32 (r.count + 1) →
    ToldApart r.targetId ((t.nodesAfterAdmission (nodeOfPb P r.srcNodeinfo)).map NodeInfo.nodeId)

/-- `RecursiveSend`: the destination of a message without a repeated hop tells the nodes apart. -/
def RecursiveInRange (m : RoutingMessage) (t : RoutingTable) : Prop :=
  m.hopNodes.Nodup → ToldApart m.desNodeId (t.nodes.map NodeInfo.nodeId)

def SendInRange (m : RoutingMessage) (addHop : Bool) (t : RoutingTable) : Prop :=
  m.desNodeId ≠ t.localId → (t.localNode.firstNode = true ∨ t.joined = true) →
    RecursiveInRange (if addHop then { m with hopNodes := m.hopNodes ++ [t.localId] } else m) t

def ConnectInRange (m : RoutingMessage) (t : RoutingTable) : Prop :=
  ((∃ r, m.data = .connectRequest r) ∨ m.data = .empty) → SendInRange m true t

theorem safe_nil (P : Platform) : Safe P (fun _ => []) := by
  intro S c hc
  cases hc

/-- A query by xid is safe exactly if its target tells the nodes apart. -/
theorem safe_getClosestNodesCalls_iff (P : Platform) (target : Bytes) {number : UInt32}
    (ts : Platform → RoutingTable) {l : List NodeInfo} (hts : ∀ S, (ts (P.withSort S)).nodes.Perm l)
    (hl : l.Pairwise (fun x y => (Comparison.mk x.nodeId y.nodeId target).InRange) ↔
      ToldApart target (l.map NodeInfo.nodeId)) :
    Safe P (fun P => (ts P).getClosestNodesCalls P target number false) ↔
      (0 < intOfUInt32 number → ToldApart target (l.map NodeInfo.nodeId)) := by
  by_cases hpos : 0 < intOfUInt32 number
  · have hne : number ≠ 0 := by
      rintro rfl
      exact absurd hpos (by decide)
    simp only [getClosestNodesCalls, hne, if_false, Bool.false_eq_true, hpos, true_implies]
    rw [safe_sortCalls_iff P NodeInfo.nodeId target hpos ts l hts, hl]
  · refine iff_of_true ?_ (fun h => absurd h hpos)
    intro S c hc
    simp only [getClosestNodesCalls, sortCalls] at hc
    have hcount : min (intOfUInt32 number) (ts (P.withSort S)).nodes.length ≤ 0 := by omega
    simp [hcount] at hc

theorem Reachable.safe_recursiveSend_iff {P : Platform} {t : RoutingTable} (h : Reachable P t)
    (m : RoutingMessage) :
    Safe P (fun P => t.recursiveSendCalls P m) ↔ RecursiveInRange m t := by
  simp only [recursiveSendCalls, RecursiveInRange]
  rw [excludeHops_empty]
  by_cases hnodup : m.hopNodes.Nodup
  · simp only [hnodup, if_true, true_implies]
    rw [safe_getClosestNodesCalls_iff P m.desNodeId (fun _ => t) (fun _ => List.Perm.refl _)
      (h.consistent.inRange_iff m.desNodeId (List.Perm.refl _))]
    exact ⟨fun hall => hall (by decide), fun hall _ => hall⟩
  · simp only [hnodup, if_false, false_implies, iff_true]
    exact safe_nil P

theorem Reachable.safe_sendToClosestNode_iff {P : Platform} {t : RoutingTable} (h : Reachable P t)
    (m : RoutingMessage) (addHop : Bool) :
    Safe P (fun P => t.sendToClosestNodeCalls P m addHop) ↔ SendInRange m addHop t := by
  simp only [sendToClosestNodeCalls, SendInRange]
  by_cases hdes : m.desNodeId = t.localId
  · simp only [hdes, if_true, ne_eq, not_true_eq_false, false_implies, iff_true]
    exact safe_nil P
  · by_cases hjoin : t.localNode.firstNode = true ∨ t.joined = true
    · have hgo : ¬ ((!t.localNode.firstNode && !t.joined) = true) := by
        rcases hjoin with hjoin | hjoin <;> simp [hjoin]
      simp only [hdes, if_false, hgo, ne_eq, not_false_eq_true, hjoin, true_implies]
      exact h.safe_recursiveSend_iff _
    · have hstop : (!t.localNode.firstNode && !t.joined) = true := by
        simpa [not_or] using hjoin
      simp only [hdes, if_false, hstop, if_true, ne_eq, not_false_eq_true, hjoin, false_implies,
        implies_true, iff_true]
      exact safe_nil P

theorem handleConnectRequestCalls_eq (P : Platform) (m : RoutingMessage) (t : RoutingTable) :
    (if (t.isDestination P m.desNodeId false).1 then [] else t.sendToClosestNodeCalls P m true) =
      t.sendToClosestNodeCalls P m true := by
  rw [isDestination_direct]
  by_cases hdes : m.desNodeId = t.localId
  · simp [hdes, sendToClosestNodeCalls]
  · simp [hdes]

theorem Reachable.safe_handleConnectRequest_iff {P : Platform} {t : RoutingTable} (h : Reachable P t)
    (m : RoutingMessage) :
    Safe P (fun P => t.handleConnectRequestCalls P m) ↔ ConnectInRange m t := by
  have hsend := h.safe_sendToClosestNode_iff m true
  simp only [handleConnectRequestCalls, ConnectInRange]
  cases hdata : m.data with
  | connectRequest r => simpa [handleConnectRequestCalls_eq] using hsend
  | empty => simpa [handleConnectRequestCalls_eq] using hsend
  | _ => simpa using safe_nil P

theorem Reachable.safe_handleFindNodesRequest_iff {P : Platform} {t : RoutingTable} (h : Reachable P t)
    (m : RoutingMessage) :
    Safe P (fun P => t.handleFindNodesRequestCalls P m) ↔ RequestInRange P m t := by
  simp only [handleFindNodesRequestCalls, RequestInRange]
  by_cases hdes : m.desNodeId = t.localId
  · cases hdata : m.data with
    | findNodesRequest r =>
      simp only [hdes, ne_eq, not_true_eq_false, if_false, true_implies, MessageData.findNodesRequest.injEq,
        forall_eq']
      have hnode (S : PartialSort NodeInfo) :
          nodeOfPb (P.withSort S) r.srcNodeinfo = nodeOfPb P r.srcNodeinfo := rfl
      have hperm (S : PartialSort NodeInfo) :=
        admitRequester_nodes (P.withSort S) (nodeOfPb P r.srcNodeinfo) t
      have hcons : (t.admitRequester P (nodeOfPb P r.srcNodeinfo)).Consistent :=
        (h.admitRequester _).consistent
      rw [← safe_getClosestNodesCalls_iff P r.targetId
        (fun P' => t.admitRequester P' (nodeOfPb P' r.srcNodeinfo)) hperm
        (hcons.inRange_iff r.targetId (admitRequester_nodes P _ t).symm)]
      constructor
      · exact fun hsafe S c hc => hsafe S c (List.mem_append_right _ hc)
      · intro hsafe S c hc
        rcases List.mem_append.mp hc with hc | hc
        · exact inRange_admitRequesterCalls h.consistent.length _ _ c hc
        · exact hsafe S c hc
    | _ => simpa using safe_nil P
  · simp only [ne_eq, hdes, not_false_eq_true, if_true, false_implies, iff_true]
    exact safe_nil P

/-- A query by xip is safe exactly if no xip comes twice. -/
theorem safe_xipQuery_iff (P : Platform) {t : RoutingTable} {target : Bytes} (ht : target.length = 16)
    (hx : ∀ n ∈ t.nodes, n.xip.length = 16) (number : UInt32) :
    Safe P (fun P => t.getClosestNodesCalls P target number true) ↔
      (0 < intOfUInt32 number → (t.nodes.map NodeInfo.xip).Nodup) := by
  by_cases hpos : 0 < intOfUInt32 number
  · have hne : number ≠ 0 := by
      rintro rfl
      exact absurd hpos (by decide)
    simp only [getClosestNodesCalls, hne, if_false, if_true, hpos, true_implies]
    rw [safe_sortCalls_iff P NodeInfo.xip target hpos (fun _ => t) t.nodes (fun _ => List.Perm.refl _),
      List.Nodup, List.pairwise_map]
    constructor
    · exact fun hall => hall.imp_of_mem
        (fun {a b} ha hb hab => (inRange_xips (hx a ha) (hx b hb) ht).mp hab)
    · exact fun hall => hall.imp_of_mem
        (fun {a b} ha hb hab => (inRange_xips (hx a ha) (hx b hb) ht).mpr hab)
  · refine iff_of_true ?_ (fun h => absurd h hpos)
    intro S c hc
    simp only [getClosestNodesCalls, sortCalls] at hc
    have hcount : min (intOfUInt32 number) t.nodes.length ≤ 0 := by omega
    simp [hcount] at hc

/-- Index safety of every processing of a message and every query by xip. -/
structure IndexSafe (P : Platform) (t : RoutingTable) : Prop where
  findNodes : ∀ m, ∀ c ∈ t.handleFindNodesRequestCalls P m, c.InRange
  connect : ∀ m, ∀ c ∈ t.handleConnectRequestCalls P m, c.InRange
  send : ∀ m addHop, ∀ c ∈ t.sendToClosestNodeCalls P m addHop, c.InRange
  recursive : ∀ m, ∀ c ∈ t.recursiveSendCalls P m, c.InRange
  xip : ∀ target number, target.length = 16 → (∀ n ∈ t.nodes, n.xip.length = 16) →
    ∀ c ∈ t.getClosestNodesCalls P target number true, c.InRange

/-- When each processing stays in range, whatever conforming partial sort is used. -/
theorem indexSafe_iff {P : Platform} {t : RoutingTable} (h : Reachable P t) :
    (∀ m, Safe P (fun P => t.handleFindNodesRequestCalls P m) ↔ RequestInRange P m t) ∧
      (∀ m, Safe P (fun P => t.handleConnectRequestCalls P m) ↔ ConnectInRange m t) ∧
      (∀ m addHop, Safe P (fun P => t.sendToClosestNodeCalls P m addHop) ↔ SendInRange m addHop t) ∧
      (∀ m, Safe P (fun P => t.recursiveSendCalls P m) ↔ RecursiveInRange m t) ∧
      ∀ target number, target.length = 16 → (∀ n ∈ t.nodes, n.xip.length = 16) →
        (Safe P (fun P => t.getClosestNodesCalls P target number true) ↔
          (0 < intOfUInt32 number → (t.nodes.map NodeInfo.xip).Nodup)) :=
  ⟨h.safe_handleFindNodesRequest_iff, h.safe_handleConnectRequest_iff, h.safe_sendToClosestNode_iff,
    h.safe_recursiveSend_iff, fun _ number ht hx => safe_xipQuery_iff P ht hx number⟩

def knowingTwo : RoutingTable :=
  (((init (localEndingIn 0) 9).addNode .simple (nodeEndingIn 1)).2.addNode .simple (nodeEndingIn 2)).2

theorem reachable_knowingTwo : Reachable .simple knowingTwo :=
  ((Reachable.init (localEndingIn 0) 9).call (.addNode (nodeEndingIn 1))).call (.addNode (nodeEndingIn 2))

theorem indexSafe_iff_knowingTwo :
    Safe .simple (fun P => knowingTwo.recursiveSendCalls P { desNodeId := (localEndingIn 7).id }) ∧
      ¬ Safe .simple (fun P => knowingTwo.recursiveSendCalls P {}) := by
  have hiff := (indexSafe_iff reachable_knowingTwo).2.2.2.1
  constructor
  · rw [hiff, RecursiveInRange, ToldApart]
    decide +kernel
  · rw [hiff, RecursiveInRange, ToldApart]
    decide +kernel

/-- A find-nodes request without a target reads past the end of the empty target. -/
theorem not_indexSafe : ¬ ∀ P t, Reachable P t → IndexSafe P t := by
  intro h
  have hread := (h .simple knowingTwo reachable_knowingTwo).findNodes
    { desNodeId := (localEndingIn 0).id, data := .findNodesRequest { count := 3 } }
  revert hread
  decide +kernel

end RoutingTable
end XKad
