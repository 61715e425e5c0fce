import XKad.BucketStores
import XKad.CoveredTables
import XKad.DroppedNodes
import XKad.LinearizedUpdates

/-!
# Tables as stores

A table is for keeping records under their ids, `kKadParamK` to a bucket. Each call and
each handled message comes down to operations on such a store (`TableEvent.storeOps`):
offers of the records that are well formed, and removals by id or endpoint. The sorts,
the published copies and the two indices add nothing to it.
-/
namespace XKad

namespace RoutingTable

/-- Records under their ids, in the buckets of their distances. -/
abbrev KBuckets := BucketStore NodeInfo.nodeId NodeInfo.bucketIndex kKadParamK

/-- The nodes of the table are the items of the store. -/
def Holds (t : RoutingTable) (s : KBuckets) : Prop := ∀ n, n ∈ t.nodes ↔ n ∈ s.items

variable {P : Platform} {t t' : RoutingTable} {s : KBuckets} {node : NodeInfo}

theorem Consistent.nodes_nodup (h : t.Consistent) : t.nodes.Nodup :=
  h.ids_nodup.of_map _

theorem Consistent.card_bucket (h : t.Consistent) (b : ℤ) :
    (t.nodes.toFinset.filter (fun n => n.bucketIndex = b)).card = t.nodes.countP (fun n => n.bucketIndex = b) := by
  have hfilter := List.toFinset_filter t.nodes (fun n => decide (n.bucketIndex = b))
  simp only [decide_eq_true_eq] at hfilter
  rw [← hfilter, List.toFinset_card_of_nodup (h.nodes_nodup.filter _), List.countP_eq_length_filter]

def Reachable.stored (h : Reachable P t) : KBuckets where
  items := t.nodes.toFinset
  keyed a ha b hb heq := h.consistent.eq_of_nodeId (List.mem_toFinset.mp ha) (List.mem_toFinset.mp hb) heq
  bounded b := by
    rw [h.consistent.card_bucket]
    exact h.bucketed.room b

theorem Reachable.holds_stored (h : Reachable P t) : t.Holds h.stored :=
  fun _ => List.mem_toFinset.symm

instance (t : RoutingTable) (node : NodeInfo) : Decidable (t.Offerable node) :=
  decidable_of_iff (node.natType ≠ kNatTypeUnknown ∧ node.nodeId ≠ t.localId ∧ validNode node = true)
    ⟨fun ⟨hnat, hid, hv⟩ => ⟨hnat, hid, hv⟩, fun h => ⟨h.natType, h.notLocal, h.valid⟩⟩

/-- What `AddNode` does to the store. -/
def offerOps (o : RoutingTable × NodeInfo) : List (StoreOp NodeInfo) :=
  if o.1.Offerable o.2 then [.offer (placed o.1.localId o.2)] else []

theorem Keeps.holds (hk : Keeps t t') (h : t.Holds s) : t'.Holds s :=
  fun n => hk.nodes.mem_iff.trans (h n)

/-- The store has room for a well-formed record exactly if `AddNode` accepts it. -/
theorem Holds.takes_iff (h : t.Holds s) (hc : t.Consistent) (hnode : t.Offerable node) :
    s.Takes (placed t.localId node) ↔ t.Accepts node := by
  have hitems : s.items = t.nodes.toFinset := Finset.ext (fun n => (h n).symm.trans List.mem_toFinset.symm)
  have hnew := hc.hasNode_eq_false node
  rw [BucketStore.Takes, hitems, hc.card_bucket]
  simp only [List.mem_toFinset]
  constructor
  · rintro ⟨hids, hroom⟩
    exact ⟨hnode.natType, hnode.notLocal, hnode.valid, hnew.mpr hids, decide_eq_true hroom⟩
  · intro ha
    exact ⟨hnew.mp ha.new, of_decide_eq_true ha.room⟩

theorem Offered.holds (ho : Offered t node t') (hc : t.Consistent) (h : t.Holds s) :
    t'.Holds (s.run (offerOps (t, node))) := by
  rw [offerOps]
  cases ho with
  | refused hr hk =>
    split
    · rename_i hnode
      rw [BucketStore.run_cons, BucketStore.run_nil, BucketStore.step,
        BucketStore.offer_of_not (fun ht => hr ((h.takes_iff hc hnode).mp ht))]
      exact hk.holds h
    · exact hk.holds h
  | added ha hu hk =>
    have hnode : t.Offerable node := ⟨ha.natType, ha.notLocal, ha.valid⟩
    rw [if_pos hnode]
    apply hk.holds
    intro n
    rw [inserted_nodes, List.mem_append, List.mem_singleton, hu.nodes.mem_iff, h n, BucketStore.run_cons,
      BucketStore.run_nil, BucketStore.step, BucketStore.mem_offer, and_iff_right ((h.takes_iff hc hnode).mpr ha)]

/-- A call that only offers records does to the table what the offers do to the store. -/
theorem Evolves.holds {os : List (RoutingTable × NodeInfo)} (hev : Evolves os t t') (hc : t.Consistent)
    (h : t.Holds s) : t'.Holds (s.run (os.flatMap offerOps)) := by
  induction hev generalizing s with
  | keep hk => exact hk.holds h
  | offer ho =>
    rw [List.flatMap_singleton]
    exact ho.holds hc h
  | append hev hev' ih ih' =>
    rw [List.flatMap_append, BucketStore.run_append]
    exact ih' (hev.changes.consistent hc) (ih hc h)

theorem Holds.removed {p : NodeInfo → Bool} (h : t.Holds s)
    (hnodes : t'.nodes = t.nodes.filter (fun n => p n = false)) : t'.Holds (s.run [.remove p]) := by
  intro n
  rw [hnodes, List.mem_filter, decide_eq_true_iff, h n, BucketStore.run_cons, BucketStore.run_nil, BucketStore.step,
    BucketStore.mem_remove]

end RoutingTable

open RoutingTable

namespace TableEvent

/-- What an event does to the store. -/
def storeOps (P : Platform) : TableEvent → RoutingTable → List (StoreOp NodeInfo)
  | .op (.dropNode node), _ => [.remove (fun n => n.nodeId = node.nodeId)]
  | .op (.onHeartbeatFailed ip port), _ => [.remove (fun n => AtEndpoint ip port n)]
  | .op (.handleNodeQuit m), t =>
    if m.desNodeId = t.localId then [.remove (fun n => n.nodeId = m.srcNodeId)] else []
  | e, t => (e.offers P t).flatMap offerOps

def log (P : Platform) : List TableEvent → RoutingTable → List (StoreOp NodeInfo)
  | [], _ => []
  | e :: es, t => e.storeOps P t ++ log P es (e.run P t)

variable {P : Platform} {t : RoutingTable} {s : KBuckets}

theorem storeOps_of_not_drops {e : TableEvent} (h : e.drops = false) (t : RoutingTable) :
    e.storeOps P t = (e.offers P t).flatMap offerOps := by
  cases e with
  | call c => rfl
  | op o => cases o <;> first | rfl | cases h

theorem holds_run (h : t.Holds s) (hc : t.Consistent) (e : TableEvent) :
    (e.run P t).Holds (s.run (e.storeOps P t)) := by
  have hdrop (id : Bytes) (l : List NodeInfo) (hl : l = t.nodes.eraseP (fun n => n.nodeId = id)) :
      l = t.nodes.filter (fun n => (decide (n.nodeId = id)) = false) := by
    rw [hl, eraseP_eq_filter hc.nodup]
    simp
  cases hd : e.drops with
  | false =>
    rw [storeOps_of_not_drops hd]
    exact (evolves hd t).holds hc h
  | true =>
    cases e with
    | call c => cases hd
    | op o =>
      cases o with
      | dropNode node => exact h.removed (hdrop _ _ (dropNode_nodes t node))
      | onHeartbeatFailed ip port =>
        apply h.removed
        rw [run, TableOp.run, hc.onHeartbeatFailed_nodes]
        simp
      | handleNodeQuit m =>
        rw [run, TableOp.run, handleNodeQuit, isDestination_direct, storeOps]
        by_cases hdes : m.desNodeId = t.localId
        · rw [if_pos hdes, decide_eq_true hdes]
          exact h.removed (hdrop _ _ (dropNode_nodes t _))
        · rw [if_neg hdes, decide_eq_false hdes]
          exact h
      | addNode | canAddNode | getClosestNodes | heartbeatProc | findNeighbours => cases hd

theorem holds_runAll (h : Reachable P t) (hs : t.Holds s) (es : List TableEvent) :
    (runAll P es t).Holds (s.run (log P es t)) := by
  induction es generalizing t s with
  | nil => exact hs
  | cons e es ih =>
    rw [log, BucketStore.run_append]
    exact ih (reachable_run h e) (holds_run hs h.consistent e)

/-- The table answers from the store, and what it has is told by the history: after any
run from any table that was reached, its nodes are those it had before and those the
store took on the way, unless a later drop, failed heartbeat or quit message removed them. -/
theorem runAll_refines (h : Reachable P t) (es : List TableEvent) :
    let s := h.stored.run (log P es t)
    let t' := runAll P es t
    (∀ id n, t'.getNode id = some n ↔ n ∈ s.items ∧ n.nodeId = id) ∧
      (∀ node, (t'.canAddNode P node).1 = true ↔ t'.Offerable node ∧ s.Takes (placed t'.localId node)) ∧
      (∀ target : Bytes, target.length = kNodeIdSize → ((t'.isDestination P target true).1 = true ↔
        ∀ n ∈ s.items, xorDistance t'.localId target < xorDistance n.nodeId target)) ∧
      ∀ n, n ∈ t'.nodes ↔ (n ∈ t.nodes ∧ ∀ op ∈ log P es t, op.removes n = false) ∨
        h.stored.TakenIn (log P es t) n := by
  intro s t'
  have hafter : Reachable P t' := reachable_runAll h es
  have hs : t'.Holds s := holds_runAll h h.holds_stored es
  refine ⟨fun id n => ?_, fun node => ?_, fun target ht => ?_, fun n => ?_⟩
  · rw [getNode, hafter.consistent.index, hs n]
  · rw [canAddNode_iff]
    constructor
    · intro ha
      have hnode : t'.Offerable node := ⟨ha.natType, ha.notLocal, ha.valid⟩
      exact ⟨hnode, (hs.takes_iff hafter.consistent hnode).mpr ha⟩
    · rintro ⟨hnode, htakes⟩
      exact (hs.takes_iff hafter.consistent hnode).mp htakes
  · rw [hafter.isDestination_iff ht]
    exact forall_congr' (fun n => imp_congr_left (hs n))
  · rw [hs n, BucketStore.mem_run_iff, ← h.holds_stored n]

/-- A node is added, lost to a failed heartbeat, and comes back with another. -/
def returning : List TableEvent :=
  [.op (.addNode (nodeAt 5)), .op (.onHeartbeatFailed [5] 9000), .op (.addNode (nodeAt 4)),
    .op (.addNode (nodeAt 5)), .op .heartbeatProc]

theorem runAll_refines_returning : (Reachable.init (P := .simple) (localEndingIn 0) 9).stored.TakenIn
    (log .simple returning (init (localEndingIn 0) 9)) (placed (localEndingIn 0).id (nodeAt 5)) := by
  have hhistory := (runAll_refines (Reachable.init (P := .simple) (localEndingIn 0) 9) returning).2.2.2
  have hthere : placed (localEndingIn 0).id (nodeAt 5) ∈
      (runAll .simple returning (init (localEndingIn 0) 9)).nodes := by decide +kernel
  exact ((hhistory _).mp hthere).resolve_left (fun hbefore => List.not_mem_nil hbefore.1)

end TableEvent
end XKad
