import XKad.TableInvariants

/-!
# Nodes that leave the table

`DropNode` erases from `nodes_` and `node_id_map_` by id and from `node_hash_map_`
by the hash of the record it is given. `HandleNodeQuit` makes that record of the
id and the xid a message claims. `OnHeartbeatFailed` collects the nodes of an endpoint
first and then drops one after the other.
-/
namespace XKad
open Std

namespace RoutingTable

/-- All three containers lose the entry of the table node `id`, if there is one, and nothing else. -/
structure LosesExactly (t : RoutingTable) (id : Bytes) (t' : RoutingTable) : Prop where
  nodes : t'.nodes = t.nodes.filter (fun n => n.nodeId ≠ id)
  nodeIdMap : ∀ k : Bytes, t'.nodeIdMap[k]? = if id = k then none else t.nodeIdMap[k]?
  nodeHashMap : ∀ (h : UInt64) (n : NodeInfo), t'.nodeHashMap[h]? = some n ↔
    t.nodeHashMap[h]? = some n ∧ ¬ (n ∈ t.nodes ∧ n.nodeId = id)

/-- The table node `id`, if the hash map has its record. -/
def indexedNode (t : RoutingTable) (id : Bytes) : Option NodeInfo :=
  (t.nodes.find? (fun n => n.nodeId = id)).filter (fun n => t.nodeHashMap[n.hash64]? = some n)

variable {P : Platform} {t : RoutingTable}

theorem Consistent.indexedNode_eq_some (h : t.Consistent) {id : Bytes} {n : NodeInfo} :
    t.indexedNode id = some n ↔ n ∈ t.nodes ∧ n.nodeId = id ∧ t.nodeHashMap[n.hash64]? = some n := by
  rw [indexedNode, ← h.find?_eq, Option.filter_eq_some_iff, h.index, and_assoc]
  simp

/-- What `DropNode` erases from the vector and the id map is right for any record. -/
theorem Consistent.losesExactly_dropNode (h : t.Consistent) (node : NodeInfo) :
    LosesExactly t node.nodeId (t.dropNode node) ↔
      ∀ (k : UInt64) (n : NodeInfo), (t.nodeHashMap.erase node.hash64)[k]? = some n ↔
        t.nodeHashMap[k]? = some n ∧ ¬ (n ∈ t.nodes ∧ n.nodeId = node.nodeId) := by
  constructor
  · exact fun hloses => hloses.nodeHashMap
  · intro herase
    refine ⟨eraseP_eq_filter h.nodup node.nodeId, fun k => ?_, herase⟩
    rw [dropNode_nodeIdMap, ExtTreeMap.getElem?_erase]
    simp

/-- Erasing one hash takes the entry of the node `id` alone exactly if the hash is
that of its stored record, or neither the hash nor such a record is in the map. -/
theorem Consistent.erase_iff (h : t.Consistent) (hkeyed : t.HashKeyed) (hash : UInt64) (id : Bytes) :
    (∀ (k : UInt64) (n : NodeInfo), (t.nodeHashMap.erase hash)[k]? = some n ↔
      t.nodeHashMap[k]? = some n ∧ ¬ (n ∈ t.nodes ∧ n.nodeId = id)) ↔
      t.nodeHashMap[hash]? = t.indexedNode id := by
  simp only [getElem?_erase_iff]
  constructor
  · intro hall
    cases hget : t.nodeHashMap[hash]? with
    | some n =>
      have hmine : n ∈ t.nodes ∧ n.nodeId = id := by
        by_contra hother
        exact ((hall hash n).mpr ⟨hget, hother⟩).1 rfl
      refine (h.indexedNode_eq_some.mpr ⟨hmine.1, hmine.2, ?_⟩).symm
      rw [hkeyed hash n hget, hget]
    | none =>
      cases hindexed : t.indexedNode id with
      | none => rfl
      | some n =>
        -- the record of the node would stay
        obtain ⟨hmem, hid, hentry⟩ := h.indexedNode_eq_some.mp hindexed
        have hne : n.hash64 ≠ hash := by
          intro he
          rw [he, hget] at hentry
          cases hentry
        exact absurd ⟨hmem, hid⟩ ((hall n.hash64 n).mp ⟨hne, hentry⟩).2
  · intro hget k n
    constructor
    · rintro ⟨hk, hn⟩
      refine ⟨hn, ?_⟩
      rintro ⟨hmem, hid⟩
      have hkey := hkeyed k n hn
      rw [h.indexedNode_eq_some.mpr ⟨hmem, hid, by rw [hkey, hn]⟩] at hget
      exact hk (hkey.symm.trans (hkeyed hash n hget))
    · rintro ⟨hn, hother⟩
      refine ⟨?_, hn⟩
      rintro rfl
      rw [hn] at hget
      obtain ⟨hmem, hid, _⟩ := h.indexedNode_eq_some.mp hget.symm
      exact hother ⟨hmem, hid⟩

/-- A quit message takes exactly the named node out of the table if and only if the
hash of the xid it claims finds the stored record of that node, or finds nothing and
there is no such record. -/
theorem handleNodeQuit_losesExactly (h : Reachable P t) {m : RoutingMessage} (hdes : m.desNodeId = t.localId) :
    LosesExactly t m.srcNodeId (t.handleNodeQuit P m) ↔
      t.nodeHashMap[P.xhash64 m.xid]? = t.indexedNode m.srcNodeId := by
  have hquit : t.handleNodeQuit P m = t.dropNode
      { nodeId := m.srcNodeId, xid := m.xid, hash64 := P.xhash64 m.xid } := by
    rw [handleNodeQuit, isDestination_direct, decide_eq_true hdes]
    rfl
  rw [hquit]
  set claimed : NodeInfo := { nodeId := m.srcNodeId, xid := m.xid, hash64 := P.xhash64 m.xid }
  exact (h.consistent.losesExactly_dropNode claimed).trans
    (h.consistent.erase_iff h.hashKeyed (P.xhash64 m.xid) m.srcNodeId)

def quitOfFive (xid : Bytes) : RoutingMessage where
  desNodeId := (localEndingIn 0).id
  srcNodeId := (nodeEndingIn 5).nodeId
  xid := xid

def knowingFive : RoutingTable := (TableOp.addNode (nodeEndingIn 5)).run .simple (init (localEndingIn 0) 9)

theorem reachable_knowingFive : Reachable .simple knowingFive := (Reachable.init _ _).call _

theorem handleNodeQuit_losesExactly_five :
    LosesExactly knowingFive (nodeEndingIn 5).nodeId (knowingFive.handleNodeQuit .simple (quitOfFive [5])) :=
  (handleNodeQuit_losesExactly reachable_knowingFive (m := quitOfFive [5]) (by decide +kernel)).mpr
    (by decide +kernel)

/-- With the xid of the local node the message takes the local entry and leaves its own. -/
theorem not_losesExactly_five : ∃ t, Reachable .simple t ∧ ∃ m : RoutingMessage, m.desNodeId = t.localId ∧
    (t.handleNodeQuit .simple m).getSelfIndex = -1 ∧ t.getSelfIndex ≠ -1 ∧
    (t.handleNodeQuit .simple m).nodes = [] ∧
    5 ∈ (t.handleNodeQuit .simple m).nodeHashMap ∧ ¬ LosesExactly t m.srcNodeId (t.handleNodeQuit .simple m) := by
  refine ⟨knowingFive, reachable_knowingFive, quitOfFive [0], by decide +kernel, by decide +kernel,
    by decide +kernel, by decide +kernel, by decide +kernel, fun hloses => ?_⟩
  have hlocal : knowingFive.nodeHashMap[knowingFive.localNode.hash64]? ≠ none := by decide +kernel
  obtain ⟨self, hself⟩ := Option.ne_none_iff_exists'.mp hlocal
  have hforeign : ¬ (self ∈ knowingFive.nodes ∧ self.nodeId = (nodeEndingIn 5).nodeId) := by
    revert self
    decide +kernel
  have hstays := (hloses.nodeHashMap _ self).mpr ⟨hself, hforeign⟩
  have hgone : (knowingFive.handleNodeQuit .simple (quitOfFive [0])).nodeHashMap[knowingFive.localNode.hash64]? =
      none := by decide +kernel
  rw [hgone] at hstays
  cases hstays

def AtEndpoint (ip : Bytes) (port : UInt16) (n : NodeInfo) : Prop := n.publicIp = ip ∧ n.publicPort = port

instance (ip : Bytes) (port : UInt16) : DecidablePred (AtEndpoint ip port) :=
  fun n => inferInstanceAs (Decidable (n.publicIp = ip ∧ n.publicPort = port))

theorem Consistent.dropAll_nodes (h : t.Consistent) (ns : List NodeInfo) :
    (ns.foldl (fun t n => t.dropNode n) t).nodes = t.nodes.filter (fun n => ∀ d ∈ ns, n.nodeId ≠ d.nodeId) := by
  induction ns generalizing t with
  | nil => simp
  | cons d ns ih =>
    rw [List.foldl_cons, ih (h.drop d), dropNode_nodes, eraseP_eq_filter h.nodup, List.filter_filter]
    refine List.filter_congr (fun n _ => ?_)
    rw [← Bool.decide_and, decide_eq_decide, List.forall_mem_cons]
    exact and_comm

theorem dropAll_published {ns : List NodeInfo} (h : ns ≠ [] ∨ t.getUnLockNodes = some t.nodes) :
    (ns.foldl (fun t n => t.dropNode n) t).getUnLockNodes =
      some (ns.foldl (fun t n => t.dropNode n) t).nodes := by
  induction ns generalizing t with
  | nil => exact h.resolve_left (fun hne => hne rfl)
  | cons d ns ih => exact ih (Or.inr rfl)

theorem mem_failedNodes {ip : Bytes} {port : UInt16} {n : NodeInfo} :
    n ∈ t.nodes.filter (fun n => n.publicIp = ip && n.publicPort = port) ↔ n ∈ t.nodes ∧ AtEndpoint ip port n := by
  simp [AtEndpoint]

/-- `OnHeartbeatFailed` keeps the nodes seen elsewhere, in their order. -/
theorem Consistent.onHeartbeatFailed_nodes (h : t.Consistent) (ip : Bytes) (port : UInt16) :
    (t.onHeartbeatFailed ip port).nodes = t.nodes.filter (fun n => ¬ AtEndpoint ip port n) := by
  rw [onHeartbeatFailed, h.dropAll_nodes]
  refine List.filter_congr (fun n hn => decide_eq_decide.mpr ?_)
  constructor
  · intro hall hat
    exact hall n (mem_failedNodes.mpr ⟨hn, hat⟩) rfl
  · intro hnot d hd hid
    obtain ⟨hmem, hat⟩ := mem_failedNodes.mp hd
    rw [h.eq_of_nodeId hn hmem hid] at hnot
    exact hnot hat

theorem onHeartbeatFailed_of_none {ip : Bytes} {port : UInt16} (h : ∀ n ∈ t.nodes, ¬ AtEndpoint ip port n) :
    t.onHeartbeatFailed ip port = t := by
  have hnone : t.nodes.filter (fun n => n.publicIp = ip && n.publicPort = port) = [] := by
    refine List.eq_nil_iff_forall_not_mem.mpr (fun n hn => ?_)
    exact h n (mem_failedNodes.mp hn).1 (mem_failedNodes.mp hn).2
  rw [onHeartbeatFailed, hnone, List.foldl_nil]

/-- A failed heartbeat takes the nodes seen at the endpoint out of the vector and the
id map, leaves all others in both as they were, publishes the remaining nodes if it
dropped any, and has nothing left to do the second time. -/
theorem onHeartbeatFailed_dropsEndpoint (h : Reachable P t) (ip : Bytes) (port : UInt16) :
    (∀ n, n ∈ (t.onHeartbeatFailed ip port).nodes ↔ n ∈ t.nodes ∧ ¬ AtEndpoint ip port n) ∧
      (∀ (id : Bytes) (n : NodeInfo), (t.onHeartbeatFailed ip port).nodeIdMap[id]? = some n ↔
        t.nodeIdMap[id]? = some n ∧ ¬ AtEndpoint ip port n) ∧
      (t.onHeartbeatFailed ip port).nodes.Sublist t.nodes ∧
      ((∃ n ∈ t.nodes, AtEndpoint ip port n) →
        (t.onHeartbeatFailed ip port).getUnLockNodes = some (t.onHeartbeatFailed ip port).nodes) ∧
      (t.onHeartbeatFailed ip port).onHeartbeatFailed ip port = t.onHeartbeatFailed ip port := by
  have hnodes := h.consistent.onHeartbeatFailed_nodes ip port
  have hafter : (t.onHeartbeatFailed ip port).Consistent := (h.call (.onHeartbeatFailed ip port)).consistent
  have hmem (n : NodeInfo) : n ∈ (t.onHeartbeatFailed ip port).nodes ↔ n ∈ t.nodes ∧ ¬ AtEndpoint ip port n := by
    rw [hnodes, List.mem_filter, decide_eq_true_iff]
  refine ⟨hmem, ?_, ?_, ?_, ?_⟩
  · intro id n
    rw [hafter.index id n, h.consistent.index id n, hmem, and_right_comm]
  · rw [hnodes]
    exact List.filter_sublist
  · rintro ⟨n, hn, hat⟩
    exact dropAll_published (Or.inl (List.ne_nil_of_mem (mem_failedNodes.mpr ⟨hn, hat⟩)))
  · exact onHeartbeatFailed_of_none (fun n hn => ((hmem n).mp hn).2)

def sharingEndpoint : RoutingTable :=
  (TableOp.addNode { nodeEndingIn 7 with publicPort := 9001 }).run .simple
    ((TableOp.addNode (nodeEndingIn 6)).run .simple
      ((TableOp.addNode (nodeEndingIn 5)).run .simple (init (localEndingIn 0) 9)))

theorem onHeartbeatFailed_dropsEndpoint_shared :
    (sharingEndpoint.onHeartbeatFailed [49] 9000).nodes.map NodeInfo.nodeId = [(nodeEndingIn 7).nodeId] ∧
      (sharingEndpoint.onHeartbeatFailed [49] 9000).getUnLockNodes =
        some (sharingEndpoint.onHeartbeatFailed [49] 9000).nodes :=
  ⟨by decide +kernel, (onHeartbeatFailed_dropsEndpoint
    ((((Reachable.init _ _).call _).call _).call _ : Reachable .simple sharingEndpoint) [49] 9000).2.2.2.1
      (by decide +kernel)⟩

end RoutingTable
end XKad
