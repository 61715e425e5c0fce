import XKad.NodeSearch
import XKad.TreeMaps

/-!
# What every reachable routing table satisfies

Each operation changes the table by a sequence of four kinds of changes: a
reordering, the insertion of an admissible node, the removal of an id, or a
change outside the indices. Invariants are shown for these changes once.
-/
namespace XKad
open Std

namespace RoutingTable

/-- The table with its vector in another order or of other content. -/
def withNodes (t : RoutingTable) (l : List NodeInfo) : RoutingTable := { t with nodes := l }

/-- `node` in the bucket that belongs to its distance from `localId`. -/
def placed (localId : Bytes) (node : NodeInfo) : NodeInfo :=
  { node with bucketIndex := (xorDistance localId node.nodeId).size }

/-- `node` passes the checks of `AddNode` and carries its bucket. -/
structure Admissible (t : RoutingTable) (node : NodeInfo) : Prop where
  length : node.nodeId.length = kNodeIdSize
  notLocal : node.nodeId ≠ t.localId
  ip : node.publicIp ≠ []
  port : node.publicPort ≠ 0
  bucket : node.bucketIndex = (xorDistance t.localId node.nodeId).size

/-- All the tests on the way to the insertion are passed. -/
structure Accepts (t : RoutingTable) (node : NodeInfo) : Prop where
  natType : node.natType ≠ kNatTypeUnknown
  notLocal : node.nodeId ≠ t.localId
  valid : validNode node = true
  new : t.hasNode node = false
  room : t.newNodeReplaceOldNode (placed t.localId node) = true

/-- The table after `AddNode` accepted `node`. -/
def inserted (node : NodeInfo) (t : RoutingTable) : RoutingTable :=
  (((t.withNodes (t.nodes ++ [node])).addIdMapBlock node).addHashMapBlock node).publishNodes

/-- Nothing but fields outside the indices differs. -/
structure SameIndices (t t' : RoutingTable) : Prop where
  localId : t'.localId = t.localId
  nodes : t'.nodes = t.nodes
  nodeIdMap : t'.nodeIdMap = t.nodeIdMap
  nodeHashMap : t'.nodeHashMap = t.nodeHashMap
  noLockForUseNodes : t'.noLockForUseNodes = t.noLockForUseNodes

/-- The changes a table undergoes. -/
inductive Change (t : RoutingTable) : RoutingTable → Prop where
  | reorder {l : List NodeInfo} (h : l.Perm t.nodes) : Change t (t.withNodes l)
  | insert {node : NodeInfo} (h : t.Admissible node) (room : t.newNodeReplaceOldNode node = true)
      (new : t.hasNode node = false) : Change t (t.inserted node)
  | drop (node : NodeInfo) : Change t (t.dropNode node)
  | other {t' : RoutingTable} (h : t.SameIndices t') : Change t t'

abbrev Changes := Relation.ReflTransGen Change

section Init

variable (l : LocalNodeInfo) (port : UInt16)

@[simp] theorem init_nodes : (RoutingTable.init l port).nodes = [] := rfl

@[simp] theorem init_localId : (RoutingTable.init l port).localId = l.id := by
  dsimp only [RoutingTable.init, localId]
  split <;> rfl

@[simp] theorem init_xid : (RoutingTable.init l port).localNode.xid = l.xid := by
  dsimp only [RoutingTable.init]
  split <;> rfl

@[simp] theorem init_hash64 : (RoutingTable.init l port).localNode.hash64 = l.hash64 := by
  dsimp only [RoutingTable.init]
  split <;> rfl

@[simp] theorem init_clientMode : (RoutingTable.init l port).localNode.clientMode = l.clientMode := by
  dsimp only [RoutingTable.init]
  split <;> rfl

end Init

@[simp] theorem withNodes_nodes (t : RoutingTable) (l : List NodeInfo) :
    (t.withNodes l).nodes = l := rfl

@[simp] theorem withNodes_self (t : RoutingTable) : t.withNodes t.nodes = t := rfl

@[simp] theorem withNodes_localId (t : RoutingTable) (l : List NodeInfo) :
    (t.withNodes l).localId = t.localId := rfl

@[simp] theorem withNodes_nodeIdMap (t : RoutingTable) (l : List NodeInfo) :
    (t.withNodes l).nodeIdMap = t.nodeIdMap := rfl

@[simp] theorem withNodes_hasNode (t : RoutingTable) (l : List NodeInfo) (node : NodeInfo) :
    (t.withNodes l).hasNode node = t.hasNode node := rfl

@[simp] theorem inserted_nodes (t : RoutingTable) (node : NodeInfo) :
    (t.inserted node).nodes = t.nodes ++ [node] := rfl

@[simp] theorem inserted_nodeIdMap (t : RoutingTable) (node : NodeInfo) :
    (t.inserted node).nodeIdMap = t.nodeIdMap.insertIfNew node.nodeId node := rfl

@[simp] theorem inserted_localId (t : RoutingTable) (node : NodeInfo) :
    (t.inserted node).localId = t.localId := rfl

@[simp] theorem dropNode_nodes (t : RoutingTable) (node : NodeInfo) :
    (t.dropNode node).nodes = t.nodes.eraseP (fun n => n.nodeId = node.nodeId) := rfl

@[simp] theorem dropNode_nodeIdMap (t : RoutingTable) (node : NodeInfo) :
    (t.dropNode node).nodeIdMap = t.nodeIdMap.erase node.nodeId := rfl

@[simp] theorem dropNode_localId (t : RoutingTable) (node : NodeInfo) :
    (t.dropNode node).localId = t.localId :=
  (LocalNodeInfo.sameIdentity_dropDxip t.localNode node.nodeId).id

@[simp] theorem inserted_localNode (t : RoutingTable) (node : NodeInfo) :
    (t.inserted node).localNode = t.localNode := rfl

theorem newNodeReplaceOldNode_perm {t : RoutingTable} {l : List NodeInfo} (h : l.Perm t.nodes)
    (node : NodeInfo) :
    (t.withNodes l).newNodeReplaceOldNode node = t.newNodeReplaceOldNode node := by
  simp only [newNodeReplaceOldNode, withNodes_nodes, h.countP_eq]

theorem partialSortNodes_eq (P : Platform) (word : NodeInfo → Bytes) (target : Bytes) (count : ℕ)
    (nodes : List NodeInfo) : partialSortNodes P word target count nodes =
      P.partialSort.sortBy (fun n => xorDistance (word n) target) count nodes := by
  simp only [partialSortNodes, PartialSort.sortBy, closerToTarget_eq]
  rfl

theorem partialSortNodes_perm (P : Platform) (word : NodeInfo → Bytes) (target : Bytes) (count : ℕ)
    (nodes : List NodeInfo) : (partialSortNodes P word target count nodes).Perm nodes := by
  rw [partialSortNodes_eq]
  exact P.partialSort.sortBy_perm _ _ _

/-- All that a sort can do to the table. -/
theorem sortNodesBy_reorders (P : Platform) (word : NodeInfo → Bytes) (target : Bytes) (number : ℤ)
    (t : RoutingTable) :
    ∃ l, l.Perm t.nodes ∧ (t.sortNodesBy P word target number).2 = t.withNodes l := by
  dsimp only [sortNodesBy]
  split
  · exact ⟨t.nodes, List.Perm.refl _, rfl⟩
  · exact ⟨_, partialSortNodes_perm P word target _ t.nodes, rfl⟩

theorem sortNodesBy_pos (P : Platform) (word : NodeInfo → Bytes) (target : Bytes) {n : ℕ} (hn : 0 < n)
    (t : RoutingTable) : t.sortNodesBy P word target n = (((min n t.nodes.length : ℕ) : ℤ),
      t.withNodes (partialSortNodes P word target (min n t.nodes.length) t.nodes)) := by
  have hmin : min (n : ℤ) t.nodes.length = (min n t.nodes.length : ℕ) := by omega
  dsimp only [sortNodesBy]
  rw [hmin]
  split
  · rename_i h0
    have hnil : t.nodes = [] := List.length_eq_zero_iff.mp (by omega)
    have hp := partialSortNodes_perm P word target (min n t.nodes.length) t.nodes
    rw [hnil] at hp ⊢
    rw [hp.eq_nil, ← hnil, withNodes_self, hnil]
    simp
  · rw [Int.toNat_natCast]
    rfl

theorem intOfUInt32_eq {x : UInt32} (h : x.toNat < 2 ^ 31) : intOfUInt32 x = x.toNat :=
  BitVec.toInt_eq_toNat_of_lt (by simp; omega)

/-- The words a query compares. -/
def queryWord (baseXip : Bool) : NodeInfo → Bytes :=
  if baseXip then NodeInfo.xip else NodeInfo.nodeId

theorem getClosestNodes_eq (P : Platform) (target : Bytes) (baseXip : Bool) (t : RoutingTable)
    {number : UInt32} (hpos : 0 < number.toNat) (hint : number.toNat < 2 ^ 31) :
    t.getClosestNodes P target number baseXip =
      ((partialSortNodes P (queryWord baseXip) target (min number.toNat t.nodes.length) t.nodes).take
          (min number.toNat t.nodes.length),
        t.withNodes (partialSortNodes P (queryWord baseXip) target (min number.toNat t.nodes.length)
          t.nodes)) := by
  have hne : number ≠ 0 := by
    rintro rfl
    exact absurd hpos (by decide)
  have hcut (k : ℕ) (l : List NodeInfo) :
      (if (k : ℤ) = 0 then ([], t.withNodes l) else (l.take (k : ℤ).toNat, t.withNodes l)) =
        (l.take k, t.withNodes l) := by
    by_cases hk : k = 0
    · simp [hk]
    · simp [hk]
  rw [getClosestNodes, sortNodesByTargetXid, sortNodesByTargetXip]
  rw [if_neg hne, intOfUInt32_eq hint, sortNodesBy_pos P _ target hpos, sortNodesBy_pos P _ target hpos]
  cases baseXip with
  | false => exact hcut _ _
  | true => exact hcut _ _

/-- With the capacity as its number `GetClosestNodes` returns the whole table, sorted. -/
theorem getClosestNodes_all (P : Platform) (target : Bytes) (baseXip : Bool) {t : RoutingTable}
    (h : t.nodes.length ≤ kRoutingMaxNodesSize) :
    t.getClosestNodes P target routingMaxNodesSize baseXip =
      (partialSortNodes P (queryWord baseXip) target t.nodes.length t.nodes,
        t.withNodes (partialSortNodes P (queryWord baseXip) target t.nodes.length t.nodes)) := by
  have h2304 : routingMaxNodesSize.toNat = kRoutingMaxNodesSize := by decide
  rw [getClosestNodes_eq P target baseXip t (by decide) (by decide), h2304, min_eq_right h,
    List.take_of_length_le (partialSortNodes_perm P _ target _ t.nodes).length_eq.le]

theorem validNode_iff (node : NodeInfo) : validNode node = true ↔
    node.nodeId.length = kNodeIdSize ∧ node.publicIp ≠ [] ∧ node.publicPort ≠ 0 := by
  have hp : node.publicPort ≤ 0 ↔ node.publicPort = 0 := by
    rw [UInt16.le_iff_toNat_le, ← UInt16.toNat_inj]
    exact Nat.le_zero
  rw [validNode]
  split
  · rename_i h
    simp [h]
  · rename_i h
    simp only [ne_eq, not_not] at h
    cases node.publicIp <;> simp [h, hp]

theorem setNodeBucket_placed {t : RoutingTable} {node : NodeInfo}
    (hid : node.nodeId ≠ t.localId) (hv : validNode node = true) :
    setNodeBucket t.localId node = (.kadSuccess, placed t.localId node) := by
  have heq := setNodeBucket_eq (l := t.localId) t.localNode.id_size ((validNode_iff node).mp hv).1
  rw [if_neg (fun h => hid h.symm)] at heq
  exact heq

theorem Accepts.admissible {t : RoutingTable} {node : NodeInfo} (h : t.Accepts node) :
    t.Admissible (placed t.localId node) := by
  obtain ⟨hlen, hip, hport⟩ := (validNode_iff node).mp h.valid
  exact ⟨hlen, h.notLocal, hip, hport, rfl⟩

/-- The `nodes_` block: a reordering, then possibly the append. -/
theorem addNodesBlock_cases (P : Platform) (node : NodeInfo) (t : RoutingTable) :
    ∃ l, l.Perm t.nodes ∧
      ((t.newNodeReplaceOldNode node = false ∧
          t.addNodesBlock P node = (some .kadFailed, t.withNodes l)) ∨
        (t.newNodeReplaceOldNode node = true ∧ t.hasNode node = true ∧
          t.addNodesBlock P node = (some .kadNodeHasAdded, t.withNodes l)) ∨
        (t.newNodeReplaceOldNode node = true ∧ t.hasNode node = false ∧
          t.addNodesBlock P node = (none, t.withNodes (l ++ [node])))) := by
  obtain ⟨l, hl, hs⟩ := sortNodesBy_reorders P NodeInfo.nodeId t.localId t.nodes.length t
  refine ⟨l, hl, ?_⟩
  unfold addNodesBlock sortNodesByTargetXid
  rw [hs]
  dsimp only
  rw [newNodeReplaceOldNode_perm hl, withNodes_hasNode]
  cases t.newNodeReplaceOldNode node with
  | false => exact Or.inl ⟨rfl, rfl⟩
  | true =>
    cases t.hasNode node with
    | true => exact Or.inr (Or.inl ⟨rfl, rfl, rfl⟩)
    | false => exact Or.inr (Or.inr ⟨rfl, rfl, rfl⟩)

/-- All that `AddNode` can do. -/
theorem addNode_cases (P : Platform) (node : NodeInfo) (t : RoutingTable) :
    ∃ l, l.Perm t.nodes ∧
      ((¬ t.Accepts node ∧ ∃ code, code ≠ KadCode.kadSuccess ∧
          t.addNode P node = (code, t.withNodes l)) ∨
        (t.Accepts node ∧
          t.addNode P node = (.kadSuccess, (t.withNodes l).inserted (placed t.localId node)))) := by
  rw [addNode]
  split_ifs with hnat hid hv hhas
  · exact ⟨t.nodes, List.Perm.refl _, Or.inl ⟨fun h => h.natType hnat, _, by decide, rfl⟩⟩
  · exact ⟨t.nodes, List.Perm.refl _, Or.inl ⟨fun h => h.notLocal hid, _, by decide, rfl⟩⟩
  · refine ⟨t.nodes, List.Perm.refl _, Or.inl ⟨fun h => ?_, _, by decide, rfl⟩⟩
    simp [h.valid] at hv
  · refine ⟨t.nodes, List.Perm.refl _, Or.inl ⟨fun h => ?_, _, by decide, rfl⟩⟩
    simp [h.new] at hhas
  · simp only [Bool.not_eq_true', Bool.not_eq_false] at hv
    rw [setNodeBucket_placed hid hv]
    obtain ⟨l, hl, ⟨hfull, he⟩ | ⟨_, hold, he⟩ | ⟨hroom, hnew, he⟩⟩ :=
      addNodesBlock_cases P (placed t.localId node) t
    · refine ⟨l, hl, Or.inl ⟨fun h => ?_, .kadFailed, by decide, by simp [he]⟩⟩
      simp [h.room] at hfull
    · exact absurd hold hhas
    · refine ⟨l, hl, Or.inr ⟨⟨hnat, hid, hv, hnew, hroom⟩, ?_⟩⟩
      simp [he]
      rfl

theorem addNode_kadNodeHasAdded {P : Platform} {node : NodeInfo} {t : RoutingTable}
    (h : (t.addNode P node).1 = .kadNodeHasAdded) : t.hasNode node = true := by
  rw [addNode] at h
  split_ifs at h with hnat hid hv hhas
  · exact hhas
  · simp only [Bool.not_eq_true', Bool.not_eq_false] at hv
    rw [setNodeBucket_placed hid hv] at h
    obtain ⟨l, _, ⟨_, he⟩ | ⟨_, hold, he⟩ | ⟨_, _, he⟩⟩ := addNodesBlock_cases P (placed t.localId node) t
    · simp [he] at h
    · exact hold
    · simp [he] at h

theorem canAddNode_reorders (P : Platform) (node : NodeInfo) (t : RoutingTable) :
    ∃ l, l.Perm t.nodes ∧ (t.canAddNode P node).2 = t.withNodes l := by
  rw [canAddNode]
  split_ifs
  · exact ⟨t.nodes, List.Perm.refl _, rfl⟩
  · exact ⟨t.nodes, List.Perm.refl _, rfl⟩
  · exact ⟨t.nodes, List.Perm.refl _, rfl⟩
  · exact ⟨t.nodes, List.Perm.refl _, rfl⟩
  · dsimp only
    split
    · exact ⟨t.nodes, List.Perm.refl _, rfl⟩
    · exact sortNodesBy_reorders P NodeInfo.nodeId t.localId t.nodes.length t

/-- Without the closeness test a node is the destination of its own id only. -/
theorem isDestination_direct (P : Platform) (desNodeId : Bytes) (t : RoutingTable) :
    t.isDestination P desNodeId false = (decide (desNodeId = t.localId), t) := by
  rw [isDestination]
  by_cases h : desNodeId = t.localId <;> simp [h]

/-- `CanAddNode` answers whether `AddNode` would accept. -/
theorem canAddNode_iff (P : Platform) (node : NodeInfo) (t : RoutingTable) :
    (t.canAddNode P node).1 = true ↔ t.Accepts node := by
  rw [canAddNode]
  split_ifs with hnat hid hv hhas
  · exact iff_of_false (by simp) (fun h => h.natType hnat)
  · exact iff_of_false (by simp) (fun h => h.notLocal hid)
  · refine iff_of_false (by simp) (fun h => ?_)
    simp [h.valid] at hv
  · refine iff_of_false (by simp) (fun h => ?_)
    simp [h.new] at hhas
  · simp only [Bool.not_eq_true', Bool.not_eq_false] at hv
    obtain ⟨l, hl, hs⟩ := sortNodesBy_reorders P NodeInfo.nodeId t.localId t.nodes.length t
    rw [setNodeBucket_placed hid hv]
    dsimp only [sortNodesByTargetXid]
    rw [hs, newNodeReplaceOldNode_perm hl, if_neg (not_not.mpr rfl)]
    exact ⟨fun hroom => ⟨hnat, hid, hv, by simpa using hhas, hroom⟩, fun h => h.room⟩

instance (t : RoutingTable) (node : NodeInfo) : Decidable (t.Accepts node) :=
  decidable_of_iff (node.natType ≠ kNatTypeUnknown ∧ node.nodeId ≠ t.localId ∧ validNode node = true ∧
      t.hasNode node = false ∧ t.newNodeReplaceOldNode (placed t.localId node) = true)
    ⟨fun h => ⟨h.1, h.2.1, h.2.2.1, h.2.2.2.1, h.2.2.2.2⟩,
      fun h => ⟨h.natType, h.notLocal, h.valid, h.new, h.room⟩⟩

/-- What a table is asked for is the same: its nodes in any order, both maps, the snapshot. -/
structure SameContents (t t' : RoutingTable) : Prop where
  nodes : t'.nodes.Perm t.nodes
  nodeIdMap : t'.nodeIdMap = t.nodeIdMap
  nodeHashMap : t'.nodeHashMap = t.nodeHashMap
  unLockNodes : t'.getUnLockNodes = t.getUnLockNodes

theorem sameContents_withNodes {t : RoutingTable} {l : List NodeInfo} (hl : l.Perm t.nodes) :
    SameContents t (t.withNodes l) := ⟨hl, rfl, rfl, rfl⟩

theorem getElem?_insertIfNew_of_new {t : RoutingTable} {node : NodeInfo} (h : t.hasNode node = false)
    (id : Bytes) : (t.nodeIdMap.insertIfNew node.nodeId node)[id]? =
      if node.nodeId = id then some node else t.nodeIdMap[id]? := by
  have hno : node.nodeId ∉ t.nodeIdMap := by
    rw [← ExtTreeMap.contains_iff_mem]
    exact ne_true_of_eq_false h
  simp [ExtTreeMap.getElem?_insertIfNew, hno]

/-- `CanAddNode` is a dry run of `AddNode`: it gives the answer and changes nothing.
A refused `AddNode` changes nothing either, a successful one adds exactly the node. -/
theorem addNode_dryRun (P : Platform) (node : NodeInfo) (t : RoutingTable) :
    ((t.canAddNode P node).1 = true ↔ (t.addNode P node).1 = .kadSuccess) ∧
      SameContents t (t.canAddNode P node).2 ∧
      ((t.addNode P node).1 ≠ .kadSuccess → SameContents t (t.addNode P node).2) ∧
      ((t.addNode P node).1 = .kadSuccess →
        (t.addNode P node).2.nodes.Perm (t.nodes ++ [(setNodeBucket t.localId node).2]) ∧
          ∀ id, (t.addNode P node).2.nodeIdMap[id]? =
            if node.nodeId = id then some (setNodeBucket t.localId node).2 else t.nodeIdMap[id]?) := by
  have hcan : SameContents t (t.canAddNode P node).2 := by
    obtain ⟨l, hl, hs⟩ := canAddNode_reorders P node t
    rw [hs]
    exact sameContents_withNodes hl
  rw [canAddNode_iff]
  obtain ⟨l, hl, ⟨hr, code, hcode, he⟩ | ⟨ha, he⟩⟩ := addNode_cases P node t
  · rw [he]
    exact ⟨iff_of_false hr hcode, hcan, fun _ => sameContents_withNodes hl, fun h => absurd h hcode⟩
  · rw [he, setNodeBucket_placed ha.notLocal ha.valid]
    refine ⟨iff_of_true ha rfl, hcan, fun h => absurd rfl h, fun _ => ⟨hl.append_right _, ?_⟩⟩
    exact getElem?_insertIfNew_of_new (t := t) ha.new

theorem accepts_withNodes {t : RoutingTable} {l : List NodeInfo} (hl : l.Perm t.nodes)
    (node : NodeInfo) : (t.withNodes l).Accepts node ↔ t.Accepts node := by
  constructor
  · rintro ⟨hnat, hid, hv, hnew, hroom⟩
    exact ⟨hnat, hid, hv, hnew, (newNodeReplaceOldNode_perm hl _).symm.trans hroom⟩
  · rintro ⟨hnat, hid, hv, hnew, hroom⟩
    exact ⟨hnat, hid, hv, hnew, (newNodeReplaceOldNode_perm hl _).trans hroom⟩

theorem getClosestNodes_reorders (P : Platform) (target : Bytes) (number : UInt32) (baseXip : Bool)
    (t : RoutingTable) :
    ∃ l, l.Perm t.nodes ∧ (t.getClosestNodes P target number baseXip).2 = t.withNodes l := by
  rw [getClosestNodes]
  split_ifs with h0 hx
  · exact ⟨t.nodes, List.Perm.refl _, rfl⟩
  · obtain ⟨l, hl, hs⟩ := sortNodesBy_reorders P NodeInfo.xip target (intOfUInt32 number) t
    refine ⟨l, hl, ?_⟩
    rw [← hs]
    dsimp only [sortNodesByTargetXip]
    split <;> rfl
  · obtain ⟨l, hl, hs⟩ := sortNodesBy_reorders P NodeInfo.nodeId target (intOfUInt32 number) t
    refine ⟨l, hl, ?_⟩
    rw [← hs]
    dsimp only [sortNodesByTargetXid]
    split <;> rfl

theorem getClosestAlphaNodes_reorders (P : Platform) (draws : List UInt32) (t : RoutingTable) :
    ∃ l, l.Perm t.nodes ∧ (t.getClosestAlphaNodes P draws).2 = t.withNodes l := by
  rw [getClosestAlphaNodes]
  split
  · exact ⟨t.nodes, List.Perm.refl _, rfl⟩
  · exact sortNodesBy_reorders P NodeInfo.nodeId t.localId kKadParamAlpha t

theorem findClosestNodes_reorders (P : Platform) (mid : Bytes → UInt32) (draws : List UInt32)
    (attempts : ℤ) (count : UInt32) (nodes : List NodeInfo) (t : RoutingTable) :
    ∃ l, l.Perm t.nodes ∧ (t.findClosestNodes P mid draws attempts count nodes).2 = t.withNodes l := by
  dsimp only [findClosestNodes]
  split_ifs
  · exact ⟨t.nodes, List.Perm.refl _, rfl⟩
  · exact ⟨t.nodes, List.Perm.refl _, rfl⟩
  · obtain ⟨l, hl, hs⟩ := getClosestAlphaNodes_reorders P draws t
    refine ⟨l, hl, ?_⟩
    rw [← hs]
    split <;> rename_i heq <;> rw [heq]

/-- Whatever `FindClosestNodes` sends is a request of `SendFindClosestNodes`. -/
theorem findClosestNodes_sent {P : Platform} {mid : Bytes → UInt32} {draws : List UInt32} {attempts : ℤ}
    {count : UInt32} {nodes : List NodeInfo} {t : RoutingTable} {o : Outgoing}
    (ho : o ∈ (t.findClosestNodes P mid draws attempts count nodes).1.getD []) :
    ∃ mid id xip node, t.localNode.xipString = some xip ∧
      o = sendDataToNode (t.findClosestNodesMessage P mid id count nodes t.localNode.serviceType xip) node := by
  rw [findClosestNodes] at ho
  split_ifs at ho
  · cases ho
  · obtain ⟨xip, node, hxip, he⟩ := sendFindClosestNodes_sent ho
    exact ⟨_, _, xip, node, hxip, he⟩
  · obtain ⟨l, _, hs⟩ := getClosestAlphaNodes_reorders P draws t
    split at ho
    · cases ho
    · rename_i query t' heq
      rw [heq] at hs
      subst hs
      dsimp only at ho
      rw [askNodes_eq] at ho
      split_ifs at ho
      · cases ho
      · obtain ⟨id, _, ho⟩ := List.mem_flatMap.mp ho
        obtain ⟨xip, node, hxip, he⟩ := sendFindClosestNodes_sent ho
        exact ⟨_, id, xip, node, hxip, he⟩

theorem changes_addNode (P : Platform) (node : NodeInfo) (t : RoutingTable) :
    Changes t (t.addNode P node).2 := by
  obtain ⟨l, hl, ⟨_, code, _, he⟩ | ⟨hacc, he⟩⟩ := addNode_cases P node t
  · rw [he]
    exact .single (.reorder hl)
  · obtain ⟨hlen, hid, hip, hport, hbucket⟩ := hacc.admissible
    rw [he]
    refine (Relation.ReflTransGen.single (.reorder hl)).tail
      (.insert ⟨hlen, hid, hip, hport, hbucket⟩ ?_ hacc.new)
    rw [newNodeReplaceOldNode_perm hl]
    exact hacc.room

theorem changes_of_reorders {t t' : RoutingTable}
    (h : ∃ l, l.Perm t.nodes ∧ t' = t.withNodes l) : Changes t t' := by
  obtain ⟨l, hl, rfl⟩ := h
  exact .single (.reorder hl)

theorem changes_dropAll (ns : List NodeInfo) (t : RoutingTable) :
    Changes t (ns.foldl (fun t n => t.dropNode n) t) := by
  induction ns generalizing t with
  | nil => exact .refl
  | cons n ns ih => exact .head (.drop n) (ih (t.dropNode n))

theorem changes_handleNodeQuit (P : Platform) (m : RoutingMessage) (t : RoutingTable) :
    Changes t (t.handleNodeQuit P m) := by
  rw [handleNodeQuit]
  split
  · exact .refl
  · exact .single (.drop _)

theorem changes_findNeighbours (P : Platform) (mid : Bytes → UInt32) (draws : List UInt32)
    (t : RoutingTable) : Changes t (t.findNeighbours P mid draws).2 := by
  rw [findNeighbours]
  split
  · exact .refl
  · obtain ⟨l, hl, hs⟩ := sortNodesBy_reorders P NodeInfo.nodeId t.localId
      (intOfUInt32 routingMaxNodesSize) t
    dsimp only [sortNodesByTargetXid]
    rw [hs]
    exact .head (.reorder hl) (changes_of_reorders (findClosestNodes_reorders P mid draws 1 _ _ _))

/-- The calls whose sequences reach a table. -/
inductive TableOp where
  | addNode (node : NodeInfo)
  | canAddNode (node : NodeInfo)
  | dropNode (node : NodeInfo)
  | onHeartbeatFailed (ip : Bytes) (port : UInt16)
  | handleNodeQuit (message : RoutingMessage)
  | getClosestNodes (target : Bytes) (number : UInt32) (baseXip : Bool)
  | heartbeatProc
  | findNeighbours (mid : Bytes → UInt32) (draws : List UInt32)

/-- The table after a completed call. -/
def TableOp.run (P : Platform) : TableOp → RoutingTable → RoutingTable
  | .addNode node, t => (t.addNode P node).2
  | .canAddNode node, t => (t.canAddNode P node).2
  | .dropNode node, t => t.dropNode node
  | .onHeartbeatFailed ip port, t => t.onHeartbeatFailed ip port
  | .handleNodeQuit message, t => t.handleNodeQuit P message
  | .getClosestNodes target number baseXip, t => (t.getClosestNodes P target number baseXip).2
  | .heartbeatProc, t => t.heartbeatProc P
  | .findNeighbours mid draws, t => (t.findNeighbours P mid draws).2

/-- The tables reached from `Init` by any sequence of calls; between calls the
fields outside the indices may change, as the message handlers change them. -/
inductive Reachable (P : Platform) : RoutingTable → Prop where
  | init (l : LocalNodeInfo) (port : UInt16) : Reachable P (RoutingTable.init l port)
  | call {t : RoutingTable} (op : TableOp) (h : Reachable P t) : Reachable P (op.run P t)
  | other {t t' : RoutingTable} (h : Reachable P t) (hs : t.SameIndices t') : Reachable P t'

theorem Reachable.calls {P : Platform} {t : RoutingTable} (h : Reachable P t) (ops : List TableOp) :
    Reachable P (ops.foldl (fun t op => op.run P t) t) := by
  induction ops generalizing t with
  | nil => exact h
  | cons op ops ih => exact ih (h.call op)

theorem changes_run (P : Platform) (op : TableOp) (t : RoutingTable) : Changes t (op.run P t) := by
  cases op with
  | addNode node => exact changes_addNode P node t
  | canAddNode node => exact changes_of_reorders (canAddNode_reorders P node t)
  | dropNode node => exact .single (.drop node)
  | onHeartbeatFailed ip port => exact changes_dropAll _ t
  | handleNodeQuit message => exact changes_handleNodeQuit P message t
  | getClosestNodes target number baseXip =>
    exact changes_of_reorders (getClosestNodes_reorders P target number baseXip t)
  | heartbeatProc =>
    dsimp only [TableOp.run, heartbeatProc]
    split
    · exact .refl
    · exact changes_of_reorders (sortNodesBy_reorders P _ _ _ t)
  | findNeighbours mid draws => exact changes_findNeighbours P mid draws t

/-- The rule for invariants: what `Init` establishes and every change keeps
holds of every reachable table. -/
theorem Reachable.induct {P : Platform} {I : RoutingTable → Prop}
    (hinit : ∀ l port, I (RoutingTable.init l port)) (hstep : ∀ t t', Change t t' → I t → I t')
    {t : RoutingTable} (h : Reachable P t) : I t := by
  have hrun {t t' : RoutingTable} (hc : Changes t t') (hi : I t) : I t' := by
    induction hc with
    | refl => exact hi
    | tail _ hs ih => exact hstep _ _ hs ih
  induction h with
  | init l port => exact hinit l port
  | call op _ ih => exact hrun (changes_run P op _) ih
  | other _ hs ih => exact hstep _ _ (.other hs) ih

theorem Changes.localId {t t' : RoutingTable} (hc : Changes t t') : t'.localId = t.localId := by
  induction hc with
  | refl => rfl
  | tail _ hs ih =>
    rw [← ih]
    cases hs with
    | reorder _ => rfl
    | insert _ _ _ => rfl
    | drop node => exact dropNode_localId _ node
    | other h => exact h.localId

/-- Membership in the vector and in the id map agree on well-formed nodes. -/
structure Consistent (t : RoutingTable) : Prop where
  nodup : t.nodes.Pairwise (fun a b => a.nodeId ≠ b.nodeId)
  length : ∀ n ∈ t.nodes, n.nodeId.length = kNodeIdSize
  notLocal : ∀ n ∈ t.nodes, n.nodeId ≠ t.localId
  ip : ∀ n ∈ t.nodes, n.publicIp ≠ []
  port : ∀ n ∈ t.nodes, n.publicPort ≠ 0
  index : ∀ id n, t.nodeIdMap[id]? = some n ↔ n ∈ t.nodes ∧ n.nodeId = id

theorem Consistent.mem_iff {t : RoutingTable} (h : t.Consistent) (id : Bytes) :
    id ∈ t.nodeIdMap ↔ ∃ n ∈ t.nodes, n.nodeId = id := by
  rw [ExtTreeMap.mem_iff_isSome_getElem?, Option.isSome_iff_exists]
  exact exists_congr (fun n => h.index id n)

theorem Consistent.hasNode_iff {t : RoutingTable} (h : t.Consistent) (node : NodeInfo) :
    t.hasNode node = true ↔ ∃ n ∈ t.nodes, n.nodeId = node.nodeId := by
  rw [hasNode, ExtTreeMap.contains_iff_mem]
  exact h.mem_iff node.nodeId

theorem Consistent.not_hasNode {t : RoutingTable} (h : t.Consistent) {node : NodeInfo}
    (hn : t.hasNode node = false) : ∀ n ∈ t.nodes, n.nodeId ≠ node.nodeId := by
  intro n hm he
  have ht := (h.hasNode_iff node).mpr ⟨n, hm, he⟩
  rw [hn] at ht
  cases ht

theorem Consistent.eq_of_nodeId {t : RoutingTable} (h : t.Consistent) {a b : NodeInfo} (ha : a ∈ t.nodes)
    (hb : b ∈ t.nodes) (he : a.nodeId = b.nodeId) : a = b := by
  have hga := (h.index b.nodeId a).mpr ⟨ha, he⟩
  have hgb := (h.index b.nodeId b).mpr ⟨hb, rfl⟩
  rw [hgb] at hga
  exact (Option.some.inj hga).symm

/-- In a list without repeated ids, removing the first node of an id removes all of them. -/
theorem eraseP_eq_filter {l : List NodeInfo} (h : l.Pairwise (fun a b => a.nodeId ≠ b.nodeId))
    (id : Bytes) : l.eraseP (fun n => n.nodeId = id) = l.filter (fun n => n.nodeId ≠ id) := by
  induction l with
  | nil => rfl
  | cons a l ih =>
    obtain ⟨ha, hl⟩ := List.pairwise_cons.mp h
    by_cases hid : a.nodeId = id
    · have hall : l.filter (fun n => n.nodeId ≠ id) = l :=
        List.filter_eq_self.mpr (fun n hn => by simpa [hid] using (ha n hn).symm)
      rw [List.eraseP_cons_of_pos (by simpa using hid), List.filter_cons_of_neg (by simpa using hid), hall]
    · rw [List.eraseP_cons_of_neg (by simpa using hid), List.filter_cons_of_pos (by simpa using hid), ih hl]

theorem Consistent.reorder {t : RoutingTable} (h : t.Consistent) {l : List NodeInfo}
    (hl : l.Perm t.nodes) : (t.withNodes l).Consistent where
  nodup := hl.symm.pairwise h.nodup (fun hab => hab.symm)
  length n hn := h.length n (hl.mem_iff.mp hn)
  notLocal n hn := h.notLocal n (hl.mem_iff.mp hn)
  ip n hn := h.ip n (hl.mem_iff.mp hn)
  port n hn := h.port n (hl.mem_iff.mp hn)
  index id n := by
    rw [withNodes_nodes, hl.mem_iff]
    exact h.index id n

theorem forall_mem_inserted {t : RoutingTable} {node : NodeInfo} {p : NodeInfo → Prop} (hold : ∀ n ∈ t.nodes, p n)
    (hnode : p node) : ∀ n ∈ (t.inserted node).nodes, p n := by
  rw [inserted_nodes]
  exact List.forall_mem_append.mpr ⟨hold, List.forall_mem_singleton.mpr hnode⟩

theorem Consistent.insert {t : RoutingTable} (h : t.Consistent) {node : NodeInfo}
    (hadm : t.Admissible node) (hnew : t.hasNode node = false) : (t.inserted node).Consistent := by
  refine ⟨?_, forall_mem_inserted h.length hadm.length, forall_mem_inserted h.notLocal hadm.notLocal,
    forall_mem_inserted h.ip hadm.ip, forall_mem_inserted h.port hadm.port, ?_⟩
  · refine List.pairwise_append.mpr ⟨h.nodup, List.pairwise_singleton _ _, ?_⟩
    intro a ha b hb
    rw [List.mem_singleton.mp hb]
    exact h.not_hasNode hnew a ha
  · intro id n
    have hno : node.nodeId ∉ t.nodeIdMap := by
      rw [← ExtTreeMap.contains_iff_mem]
      exact ne_true_of_eq_false hnew
    rw [inserted_nodeIdMap, getElem?_insertIfNew_iff, h.index, inserted_nodes, List.mem_append,
      List.mem_singleton, or_and_right]
    constructor
    · rintro (⟨rfl, _, rfl⟩ | hold)
      · exact Or.inr ⟨rfl, rfl⟩
      · exact Or.inl hold
    · rintro (hold | ⟨rfl, rfl⟩)
      · exact Or.inr hold
      · exact Or.inl ⟨rfl, hno, rfl⟩

theorem Consistent.drop {t : RoutingTable} (h : t.Consistent) (node : NodeInfo) :
    (t.dropNode node).Consistent := by
  have hnodes : (t.dropNode node).nodes = t.nodes.filter (fun n => n.nodeId ≠ node.nodeId) :=
    eraseP_eq_filter h.nodup node.nodeId
  have hmem {n : NodeInfo} : n ∈ (t.dropNode node).nodes ↔ n ∈ t.nodes ∧ n.nodeId ≠ node.nodeId := by
    rw [hnodes]
    simp
  refine ⟨?_, ?_, ?_, ?_, ?_, ?_⟩
  · rw [hnodes]
    exact h.nodup.sublist List.filter_sublist
  · exact fun n hn => h.length n (hmem.mp hn).1
  · intro n hn
    rw [dropNode_localId]
    exact h.notLocal n (hmem.mp hn).1
  · exact fun n hn => h.ip n (hmem.mp hn).1
  · exact fun n hn => h.port n (hmem.mp hn).1
  · intro id n
    rw [dropNode_nodeIdMap, getElem?_erase_iff, h.index, hmem]
    constructor
    · rintro ⟨hid, hn, rfl⟩
      exact ⟨⟨hn, hid⟩, rfl⟩
    · rintro ⟨⟨hn, hid⟩, rfl⟩
      exact ⟨hid, hn, rfl⟩

theorem Consistent.other {t t' : RoutingTable} (h : t.Consistent) (hs : t.SameIndices t') :
    t'.Consistent where
  nodup := by rw [hs.nodes]; exact h.nodup
  length := by rw [hs.nodes]; exact h.length
  notLocal := by rw [hs.nodes, hs.localId]; exact h.notLocal
  ip := by rw [hs.nodes]; exact h.ip
  port := by rw [hs.nodes]; exact h.port
  index := by rw [hs.nodes, hs.nodeIdMap]; exact h.index

theorem consistent_init (l : LocalNodeInfo) (port : UInt16) :
    (RoutingTable.init l port).Consistent where
  nodup := List.Pairwise.nil
  length := by simp [RoutingTable.init]
  notLocal := by simp [RoutingTable.init]
  ip := by simp [RoutingTable.init]
  port := by simp [RoutingTable.init]
  index := by simp [RoutingTable.init]

theorem consistent_change (t t' : RoutingTable) (hc : Change t t') (h : t.Consistent) :
    t'.Consistent := by
  cases hc with
  | reorder hl => exact h.reorder hl
  | insert hadm _ hnew => exact h.insert hadm hnew
  | drop node => exact h.drop node
  | other hs => exact h.other hs

theorem Changes.consistent {t t' : RoutingTable} (hc : Changes t t') (h : t.Consistent) : t'.Consistent := by
  induction hc with
  | refl => exact h
  | tail _ hs ih => exact consistent_change _ _ hs ih

theorem Reachable.consistent {P : Platform} {t : RoutingTable} (h : Reachable P t) : t.Consistent :=
  h.induct consistent_init consistent_change

theorem Consistent.ids_nodup {t : RoutingTable} (h : t.Consistent) :
    (t.nodes.map NodeInfo.nodeId).Nodup := List.pairwise_map.mpr h.nodup

theorem size_eq_length {α β : Type} {cmp : α → α → Ordering} [TransCmp cmp] [LawfulEqCmp cmp]
    (m : ExtTreeMap α β cmp) {ks : List α} (hks : ks.Nodup) (h : ∀ k, k ∈ m ↔ k ∈ ks) :
    m.size = ks.length := by
  have hkeys : m.keys.Nodup :=
    ExtTreeMap.distinct_keys.imp (fun hab he => hab (by rw [he]; exact ReflCmp.compare_self))
  have hperm : m.keys.Perm ks := by
    refine (List.perm_ext_iff_of_nodup hkeys hks).mpr (fun k => ?_)
    rw [ExtTreeMap.mem_keys, h]
  rw [← ExtTreeMap.length_keys, hperm.length_eq]

theorem Consistent.size_nodeIdMap {t : RoutingTable} (h : t.Consistent) :
    t.nodeIdMap.size = t.nodes.length := by
  rw [size_eq_length t.nodeIdMap h.ids_nodup, List.length_map]
  intro id
  rw [h.mem_iff, List.mem_map]

theorem Consistent.find?_eq {t : RoutingTable} (h : t.Consistent) (id : Bytes) :
    t.nodeIdMap[id]? = t.nodes.find? (fun n => n.nodeId = id) := by
  cases hf : t.nodes.find? (fun n => n.nodeId = id) with
  | none =>
    cases hm : t.nodeIdMap[id]? with
    | none => rfl
    | some n =>
      obtain ⟨hn, hid⟩ := (h.index id n).mp hm
      have hne := List.find?_eq_none.mp hf n hn
      simp [hid] at hne
  | some n =>
    apply (h.index id n).mpr
    exact ⟨List.mem_of_find?_eq_some hf, by simpa using List.find?_some hf⟩

/-- The vector and the id map hold the same members, all of them well formed. -/
structure ExactMembership (t : RoutingTable) : Prop where
  distinct : (t.nodes.map NodeInfo.nodeId).Nodup
  wellFormed : ∀ n ∈ t.nodes, n.nodeId.length = kNodeIdSize ∧ n.nodeId ≠ t.localId ∧
    n.publicIp ≠ [] ∧ n.publicPort ≠ 0
  size : t.nodeIdMap.size = t.nodes.length
  entry : ∀ id n, t.nodeIdMap[id]? = some n ↔ n ∈ t.nodes ∧ n.nodeId = id
  hasNode : ∀ node, t.hasNode node = true ↔ ∃ n ∈ t.nodes, n.nodeId = node.nodeId
  getNode : ∀ id, t.getNode id = t.nodes.find? (fun n => n.nodeId = id)
  findLocalNode : ∀ id, t.findLocalNode id = t.nodes.find? (fun n => n.nodeId = id)

/-- Every reachable table has exact membership. -/
theorem reachable_exactMembership {P : Platform} {t : RoutingTable} (h : Reachable P t) :
    t.ExactMembership := by
  have hc := h.consistent
  exact {
    distinct := hc.ids_nodup
    wellFormed := fun n hn => ⟨hc.length n hn, hc.notLocal n hn, hc.ip n hn, hc.port n hn⟩
    size := hc.size_nodeIdMap
    entry := hc.index
    hasNode := hc.hasNode_iff
    getNode := hc.find?_eq
    findLocalNode := hc.find?_eq }

def localEndingIn (b : UInt8) : LocalNodeInfo where
  id := List.replicate 35 0 ++ [b]
  id_size := rfl
  xid := [b]
  hash64 := b.toUInt64

def nodeEndingIn (b : UInt8) : NodeInfo where
  nodeId := List.replicate 35 0 ++ [b]
  publicIp := [49]
  publicPort := 9000
  natType := kNatTypePublic
  xid := [b]
  hash64 := b.toUInt64

/-- A node that meets three others, one of them twice, and drops one. -/
def meetingThree : RoutingTable :=
  [TableOp.addNode (nodeEndingIn 1), .addNode (nodeEndingIn 2), .addNode (nodeEndingIn 1), .addNode (nodeEndingIn 3),
    .dropNode (nodeEndingIn 2)].foldl (fun t op => op.run .simple t) (init (localEndingIn 0) 9)

theorem reachable_meetingThree : Reachable .simple meetingThree := (Reachable.init _ _).calls _

theorem reachable_exactMembership_three :
    meetingThree.nodes.map NodeInfo.nodeId = [(nodeEndingIn 1).nodeId, (nodeEndingIn 3).nodeId] ∧
      meetingThree.ExactMembership :=
  ⟨by decide +kernel, reachable_exactMembership reachable_meetingThree⟩

/-- Every node is in the bucket of its distance, and no bucket is overfull. -/
structure Bucketed (localId : Bytes) (nodes : List NodeInfo) : Prop where
  length : ∀ n ∈ nodes, n.nodeId.length = kNodeIdSize
  notLocal : ∀ n ∈ nodes, n.nodeId ≠ localId
  bucket : ∀ n ∈ nodes, n.bucketIndex = (xorDistance localId n.nodeId).size
  room : ∀ b, nodes.countP (fun n => n.bucketIndex = b) ≤ kKadParamK

namespace Bucketed

variable {localId : Bytes} {nodes l : List NodeInfo}

theorem nil (localId : Bytes) : Bucketed localId [] := by
  refine ⟨?_, ?_, ?_, ?_⟩ <;> simp

theorem subperm (h : Bucketed localId nodes) (hl : l.Subperm nodes) : Bucketed localId l where
  length n hn := h.length n (hl.subset hn)
  notLocal n hn := h.notLocal n (hl.subset hn)
  bucket n hn := h.bucket n (hl.subset hn)
  room b := (hl.countP_le _).trans (h.room b)

/-- The append that `NewNodeReplaceOldNode` allows. -/
theorem append {t : RoutingTable} (h : Bucketed t.localId t.nodes) {node : NodeInfo}
    (hadm : t.Admissible node) (hroom : t.newNodeReplaceOldNode node = true) :
    Bucketed t.localId (t.nodes ++ [node]) := by
  refine ⟨?_, ?_, ?_, ?_⟩
  · simpa [or_imp, forall_and, hadm.length] using h.length
  · simpa [or_imp, forall_and, hadm.notLocal] using h.notLocal
  · simpa [or_imp, forall_and, hadm.bucket] using h.bucket
  · intro b
    rw [List.countP_append, List.countP_singleton]
    by_cases hb : node.bucketIndex = b
    · have hlt : t.nodes.countP (fun n => n.bucketIndex = node.bucketIndex) < kKadParamK := by
        simpa [newNodeReplaceOldNode] using hroom
      subst hb
      simpa using hlt
    · simpa [hb] using h.room b

theorem bounds (h : Bucketed localId nodes) (hl : localId.length = kNodeIdSize) {n : NodeInfo}
    (hn : n ∈ nodes) : 1 ≤ n.bucketIndex ∧ n.bucketIndex ≤ 8 * kNodeIdSize := by
  obtain ⟨hlow, hhigh⟩ := size_xorDistance_bounds hl (h.length n hn) (h.notLocal n hn).symm
  rw [h.bucket n hn]
  constructor
  · exact_mod_cast hlow
  · exact_mod_cast hhigh

/-- The capacity: buckets times places in a bucket. -/
theorem length_le (h : Bucketed localId nodes) (hl : localId.length = kNodeIdSize) :
    nodes.length ≤ kRoutingMaxNodesSize := by
  have hsum := Multiset.sum_count_eq_card (m := (nodes.map NodeInfo.bucketIndex : Multiset ℤ))
    (s := Finset.Icc 1 (8 * kNodeIdSize : ℤ)) (by
      intro b hb
      obtain ⟨n, hn, rfl⟩ := List.mem_map.mp (Multiset.mem_coe.mp hb)
      exact Finset.mem_Icc.mpr (h.bounds hl hn))
  have hle : ∀ b ∈ Finset.Icc 1 (8 * kNodeIdSize : ℤ),
      (nodes.map NodeInfo.bucketIndex : Multiset ℤ).count b ≤ kKadParamK := by
    intro b _
    rw [Multiset.coe_count, List.count_eq_countP, List.countP_map]
    exact h.room b
  have hbound := Finset.sum_le_card_nsmul _ _ _ hle
  rw [hsum] at hbound
  simpa [kRoutingMaxNodesSize, kNodeIdSize, kKadParamK] using hbound

end Bucketed

theorem bucketed_change (t t' : RoutingTable) (hc : Change t t') (h : Bucketed t.localId t.nodes) :
    Bucketed t'.localId t'.nodes := by
  cases hc with
  | reorder hl => exact h.subperm hl.subperm
  | insert hadm hroom _ => exact h.append hadm hroom
  | drop node =>
    rw [dropNode_localId]
    exact h.subperm List.eraseP_sublist.subperm
  | other hs =>
    rw [hs.localId, hs.nodes]
    exact h

theorem Reachable.bucketed {P : Platform} {t : RoutingTable} (h : Reachable P t) :
    Bucketed t.localId t.nodes :=
  h.induct (fun l port => Bucketed.nil (RoutingTable.init l port).localId) bucketed_change

/-- Every record is stored under its own hash. -/
def HashKeyed (t : RoutingTable) : Prop :=
  ∀ (h : UInt64) (n : NodeInfo), t.nodeHashMap[h]? = some n → n.hash64 = h

theorem hashKeyed_insertIfNew {m : ExtTreeMap UInt64 NodeInfo}
    (hm : ∀ (h : UInt64) (n : NodeInfo), m[h]? = some n → n.hash64 = h) (node : NodeInfo) (h : UInt64) (n : NodeInfo)
    (hn : (m.insertIfNew node.hash64 node)[h]? = some n) : n.hash64 = h := by
  rcases getElem?_insertIfNew_iff.mp hn with ⟨hkey, _, rfl⟩ | hold
  · exact hkey.symm
  · exact hm h n hold

theorem Reachable.hashKeyed {P : Platform} {t : RoutingTable} (h : Reachable P t) : t.HashKeyed := by
  refine h.induct ?_ ?_
  · intro l port
    exact hashKeyed_insertIfNew (by simp) _
  · intro t t' hc ht
    cases hc with
    | reorder _ => exact ht
    | @insert node _ _ _ => exact hashKeyed_insertIfNew ht node
    | drop node =>
      intro k n hn
      have herase : (t.dropNode node).nodeHashMap = t.nodeHashMap.erase node.hash64 := rfl
      rw [herase] at hn
      exact ht k n (getElem?_erase_iff.mp hn).2
    | other hs =>
      rw [HashKeyed, hs.nodeHashMap]
      exact ht

end RoutingTable
end XKad
