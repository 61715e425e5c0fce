import XKad.HandledTables
import XKad.SharedPrefixes

/-!
# Tables that cover a network

A record offered to `AddNode` is accepted, or it is known, or its bucket is full; in
each case its bucket is occupied from then on, until something is dropped. A table in
which the buckets of all nodes of a network are occupied need not know them all to
tell whether its own node is the nearest to a target.
-/
namespace XKad

namespace RoutingTable

/-- The table has a node in the bucket of `id`. -/
def Occupied (t : RoutingTable) (id : Bytes) : Prop :=
  ∃ n ∈ t.nodes, (xorDistance t.localId n.nodeId).size = (xorDistance t.localId id).size

instance (t : RoutingTable) (id : Bytes) : Decidable (t.Occupied id) :=
  inferInstanceAs (Decidable (∃ n ∈ t.nodes, _))

/-- The bucket of `id` has no room. -/
def Full (t : RoutingTable) (id : Bytes) : Prop :=
  kKadParamK ≤ t.nodes.countP (fun n => n.bucketIndex = ((xorDistance t.localId id).size : ℤ))

/-- The table knows `id` or cannot take it. -/
def Settled (t : RoutingTable) (id : Bytes) : Prop := (∃ n ∈ t.nodes, n.nodeId = id) ∨ t.Full id

/-- `AddNode` finds nothing wrong with the record itself. -/
structure Offerable (t : RoutingTable) (node : NodeInfo) : Prop where
  natType : node.natType ≠ kNatTypeUnknown
  notLocal : node.nodeId ≠ t.localId
  valid : validNode node = true

section Offers
variable {t t' : RoutingTable} {node : NodeInfo} {id : Bytes}

theorem Settled.occupied (h : t.Settled id) (hb : Bucketed t.localId t.nodes) : t.Occupied id := by
  obtain ⟨n, hn, rfl⟩ | hfull := h
  · exact ⟨n, hn, rfl⟩
  · have hcount : 0 < t.nodes.countP (fun n => n.bucketIndex = ((xorDistance t.localId id).size : ℤ)) :=
      Nat.lt_of_lt_of_le (by decide) hfull
    obtain ⟨n, hn, heq⟩ := List.countP_pos_iff.mp hcount
    have hbucket : n.bucketIndex = (xorDistance t.localId id).size := by simpa using heq
    rw [hb.bucket n hn] at hbucket
    exact ⟨n, hn, Int.ofNat_inj.mp hbucket⟩

theorem Keeps.settled (hk : Keeps t t') (h : t.Settled id) : t'.Settled id := by
  obtain ⟨n, hn, hid⟩ | hfull := h
  · exact Or.inl ⟨n, hk.nodes.mem_iff.mpr hn, hid⟩
  · right
    rw [Full, hk.localId, hk.nodes.countP_eq]
    exact hfull

theorem Settled.inserted (h : t.Settled id) (node : NodeInfo) : (t.inserted node).Settled id := by
  obtain ⟨n, hn, hid⟩ | hfull := h
  · exact Or.inl ⟨n, List.mem_append_left _ hn, hid⟩
  · right
    rw [Full, inserted_nodes, inserted_localId, List.countP_append]
    exact hfull.trans (Nat.le_add_right _ _)

/-- Whatever comes of an offer, the record is known or has a full bucket. -/
theorem Offered.settled (hc : t.Consistent) (h : Offered t node t') (hnode : t.Offerable node) :
    t'.Settled node.nodeId := by
  cases h with
  | refused hr hk =>
    apply hk.settled
    by_cases hhas : t.hasNode node = true
    · exact Or.inl ((hc.hasNode_iff node).mp hhas)
    · right
      by_contra hroom
      rw [Full, not_le] at hroom
      exact hr ⟨hnode.natType, hnode.notLocal, hnode.valid, Bool.eq_false_iff.mpr hhas, decide_eq_true hroom⟩
  | added _ _ hk =>
    apply hk.settled
    exact Or.inl ⟨placed t.localId node, List.mem_append_right _ (List.mem_singleton_self _), rfl⟩

theorem Evolves.settled {os : List (RoutingTable × NodeInfo)} (h : Evolves os t t') (ht : t.Settled id) :
    t'.Settled id :=
  h.induct (I := fun s => s.Settled id) (fun _ _ hk hs => hk.settled hs)
    (fun _ _ _ _ _ _ hu => hu.inserted _) ht

theorem Evolves.settled_of_offer {os : List (RoutingTable × NodeInfo)} (h : Evolves os t t')
    (hc : t.Consistent) {o : RoutingTable × NodeInfo} (ho : o ∈ os) (hnode : o.1.Offerable o.2) :
    t'.Settled o.2.nodeId := by
  induction h with
  | keep _ => cases ho
  | offer h =>
    rw [List.mem_singleton.mp ho] at hnode ⊢
    exact h.settled hc hnode
  | append h h' ih ih' =>
    rcases List.mem_append.mp ho with ho | ho
    · exact h'.settled (ih hc ho)
    · exact ih' (h.changes.consistent hc) ho

theorem Evolves.known {os : List (RoutingTable × NodeInfo)} (h : Evolves os t t')
    (ht : ∃ n ∈ t.nodes, n.nodeId = id) : ∃ n ∈ t'.nodes, n.nodeId = id := by
  refine h.induct (I := fun s => ∃ n ∈ s.nodes, n.nodeId = id) ?_ ?_ ht
  · rintro s s' hk ⟨n, hn, hid⟩
    exact ⟨n, hk.nodes.mem_iff.mpr hn, hid⟩
  · rintro s u node _ _ _ ⟨n, hn, hid⟩
    exact ⟨n, List.mem_append_left _ hn, hid⟩

end Offers
end RoutingTable

open RoutingTable

/-- What may happen to a table. -/
inductive TableEvent where
  | op (o : TableOp)
  | call (c : HandlerCall)

namespace TableEvent

def run (P : Platform) : TableEvent → RoutingTable → RoutingTable
  | .op o, t => o.run P t
  | .call c, t => (c.run P t).2

def offers (P : Platform) : TableEvent → RoutingTable → List (RoutingTable × NodeInfo)
  | .op (.addNode node), t => [(t, node)]
  | .op _, _ => []
  | .call c, t => c.offers P t

/-- The calls that remove nodes. -/
def drops : TableEvent → Bool
  | .op (.dropNode _) | .op (.onHeartbeatFailed _ _) | .op (.handleNodeQuit _) => true
  | .op _ | .call _ => false

def runAll (P : Platform) (es : List TableEvent) (t : RoutingTable) : RoutingTable :=
  es.foldl (fun t e => e.run P t) t

variable {P : Platform} {t : RoutingTable}

theorem evolves {e : TableEvent} (h : e.drops = false) (t : RoutingTable) :
    Evolves (e.offers P t) t (e.run P t) := by
  cases e with
  | call c => exact handlerCall_evolves P c t
  | op o =>
    cases o with
    | addNode node => exact .offer (offered_addNode P node t)
    | canAddNode node => exact .keep (.of_reorders (canAddNode_reorders P node t))
    | dropNode node => cases h
    | onHeartbeatFailed ip port => cases h
    | handleNodeQuit m => cases h
    | getClosestNodes target number baseXip =>
      exact .keep (.of_reorders (getClosestNodes_reorders P target number baseXip t))
    | heartbeatProc =>
      dsimp only [run, TableOp.run, heartbeatProc]
      split
      · exact .keep (.refl t)
      · exact .keep (.of_reorders (sortNodesBy_reorders P _ _ _ t))
    | findNeighbours mid draws => exact .keep (keeps_findNeighbours P t mid draws)

theorem reachable_run (h : Reachable P t) (e : TableEvent) : Reachable P (e.run P t) := by
  cases e with
  | op o => exact h.call o
  | call c => exact h.afterHandlerCall c

theorem reachable_runAll (h : Reachable P t) (es : List TableEvent) : Reachable P (runAll P es t) := by
  induction es generalizing t with
  | nil => exact h
  | cons e es ih => exact ih (reachable_run h e)

theorem runAll_append (es es' : List TableEvent) : runAll P (es ++ es') t = runAll P es' (runAll P es t) :=
  List.foldl_append

section NoDrops
variable {es : List TableEvent} (hes : ∀ e ∈ es, e.drops = false) {id : Bytes}

include hes

/-- What every growth of a table keeps, a run without drops keeps. -/
theorem runAll_keeps {I : RoutingTable → Prop} (hI : ∀ os s s', Evolves os s s' → I s → I s') (h : I t) :
    I (runAll P es t) := by
  induction es generalizing t with
  | nil => exact h
  | cons e es ih =>
    apply ih (fun e' he => hes e' (List.mem_cons_of_mem _ he))
    exact hI _ _ _ (evolves (hes e List.mem_cons_self) t) h

theorem settled_runAll (h : t.Settled id) : (runAll P es t).Settled id :=
  runAll_keeps hes (fun _ _ _ hev hs => hev.settled hs) h

theorem known_runAll (h : ∃ n ∈ t.nodes, n.nodeId = id) : ∃ n ∈ (runAll P es t).nodes, n.nodeId = id :=
  runAll_keeps hes (fun _ _ _ hev hs => hev.known hs) h

theorem localId_runAll : (runAll P es t).localId = t.localId :=
  runAll_keeps hes (I := fun s => s.localId = t.localId) (fun _ _ _ hev hs => hev.changes.localId.trans hs) rfl

end NoDrops

theorem settled_of_offer (h : Reachable P t) {e : TableEvent} {after : List TableEvent}
    (hafter : ∀ e' ∈ e :: after, e'.drops = false) {o : RoutingTable × NodeInfo} (ho : o ∈ e.offers P t)
    (hnode : o.1.Offerable o.2) : (runAll P (e :: after) t).Settled o.2.nodeId := by
  apply settled_runAll (fun e' he => hafter e' (List.mem_cons_of_mem _ he))
  exact (evolves (hafter e List.mem_cons_self) t).settled_of_offer h.consistent ho hnode

/-- From any table that was reached, calls and messages that drop nothing keep every
known id; and each well-formed record offered on the way is then known or its bucket
holds `kKadParamK` nodes, so that in any case its bucket is occupied. -/
theorem runAll_settles (h : Reachable P t) (before : List TableEvent) {e : TableEvent}
    {after : List TableEvent} (hafter : ∀ e' ∈ e :: after, e'.drops = false) :
    (∀ n ∈ (runAll P before t).nodes, ∃ n' ∈ (runAll P (before ++ e :: after) t).nodes, n'.nodeId = n.nodeId) ∧
      ∀ o ∈ e.offers P (runAll P before t), o.1.Offerable o.2 →
        (runAll P (before ++ e :: after) t).Settled o.2.nodeId ∧
          (runAll P (before ++ e :: after) t).Occupied o.2.nodeId := by
  have hall := reachable_runAll h (before ++ e :: after)
  rw [runAll_append] at hall ⊢
  refine ⟨fun n hn => known_runAll hafter ⟨n, hn, rfl⟩, fun o ho hnode => ?_⟩
  have hsettled := settled_of_offer (reachable_runAll h before) hafter ho hnode
  exact ⟨hsettled, hsettled.occupied hall.bucketed⟩

end TableEvent

namespace RoutingTable

/-- The buckets of all other nodes of the network are occupied. -/
def Covers (ids : Finset Bytes) (t : RoutingTable) : Prop := ∀ id ∈ ids, id ≠ t.localId → t.Occupied id

instance (ids : Finset Bytes) (t : RoutingTable) : Decidable (t.Covers ids) :=
  inferInstanceAs (Decidable (∀ id ∈ ids, id ≠ t.localId → t.Occupied id))

/-- Nodes of different ids; their tables hold nodes of the network and cover it. -/
structure CoveringNetwork (P : Platform) (net : List RoutingTable) : Prop where
  reachable : ∀ t ∈ net, Reachable P t
  distinct : (net.map localId).Nodup
  members : ∀ t ∈ net, ∀ n ∈ t.nodes, n.nodeId ∈ net.map localId
  covers : ∀ t ∈ net, t.Covers (net.map localId).toFinset

theorem exists_nearest {net : List RoutingTable} (hne : net ≠ []) (hdistinct : (net.map localId).Nodup)
    (target : Bytes) :
    ∃ t ∈ net, ∀ t' ∈ net, t' ≠ t → xorDistance t.localId target < xorDistance t'.localId target := by
  obtain ⟨t, hm, hmin⟩ : ∃ t ∈ net, ∀ t' ∈ net, xorDistance t.localId target ≤ xorDistance t'.localId target :=
    Set.exists_min_image {t | t ∈ net} (fun t => xorDistance t.localId target) (List.finite_toSet net)
      (List.exists_mem_of_ne_nil net hne)
  refine ⟨t, hm, fun t' hm' hdiff => ?_⟩
  apply (hmin t' hm').lt_of_ne
  intro heq
  have hid := xorDistance_inj target t.localNode.id_size t'.localNode.id_size heq
  exact hdiff (List.inj_on_of_nodup_map hdistinct hm' hm hid.symm)

/-- In a covering network, however little its nodes know of each other, exactly the
node nearest to the target takes itself for the destination. -/
theorem CoveringNetwork.isDestination_nearest {P : Platform} {net : List RoutingTable}
    (h : CoveringNetwork P net) (hne : net ≠ []) {target : Bytes} (ht : target.length = kNodeIdSize) :
    ∃ t ∈ net, (∀ t' ∈ net, t' ≠ t → xorDistance t.localId target < xorDistance t'.localId target) ∧
      ∀ t' ∈ net, ((t'.isDestination P target true).1 = true ↔ t' = t) := by
  obtain ⟨t, hm, hnearest⟩ := exists_nearest hne h.distinct target
  refine ⟨t, hm, hnearest, fun t' hm' => ?_⟩
  rw [(h.reachable t' hm').isDestination_iff ht]
  constructor
  · intro hall
    by_contra hdiff
    have hid : t.localId ≠ t'.localId := by
      intro hid
      exact hdiff (List.inj_on_of_nodup_map h.distinct hm' hm hid.symm)
    have hlisted := List.mem_toFinset.mpr (List.mem_map_of_mem (f := localId) hm)
    obtain ⟨n, hn, hbucket⟩ := h.covers t' hm' t.localId hlisted hid
    exact absurd (xor_lt_of_bucket (hnearest t' hm' hdiff) hbucket) (hall n hn).asymm
  · rintro rfl n hn
    obtain ⟨t'', hm'', hid⟩ := List.mem_map.mp (h.members t' hm' n hn)
    rw [← hid]
    apply hnearest t'' hm''
    rintro rfl
    exact (h.reachable _ hm').consistent.notLocal n hn hid.symm

section Samples

def nodeAt (b : UInt8) : NodeInfo := { nodeEndingIn b with publicIp := [b] }

/-- A node that has joined and was offered some others. -/
def meeting (self : UInt8) (others : List UInt8) : RoutingTable :=
  TableEvent.runAll .simple (others.map (fun b => .op (.addNode (nodeAt b))))
    { init (localEndingIn self) 9 with joined := true }

theorem reachable_meeting (self : UInt8) (others : List UInt8) : Reachable .simple (meeting self others) := by
  apply TableEvent.reachable_runAll
  exact (Reachable.init (localEndingIn self) 9).other ⟨rfl, rfl, rfl, rfl, rfl⟩

theorem runAll_settles_two :
    let es : List TableEvent := [.op (.addNode (nodeAt 5)), .op (.addNode (nodeAt 4)), .op .heartbeatProc]
    (TableEvent.runAll .simple es (init (localEndingIn 0) 9)).Settled (nodeAt 4).nodeId ∧
      ∃ n ∈ (TableEvent.runAll .simple es (init (localEndingIn 0) 9)).nodes, n.nodeId = (nodeAt 5).nodeId := by
  have hfirst : Reachable .simple (init (localEndingIn 0) 9) := Reachable.init _ 9
  let e : TableEvent := .op (.addNode (nodeAt 4))
  let after : List TableEvent := [.op .heartbeatProc]
  have hkept : ∀ e' ∈ e :: after, e'.drops = false := by decide
  have h := TableEvent.runAll_settles hfirst [.op (.addNode (nodeAt 5))] hkept
  refine ⟨(h.2 _ (List.mem_singleton_self _) ⟨by decide, by decide +kernel, rfl⟩).1, ?_⟩
  obtain ⟨n, hn, hid⟩ : ∃ n ∈ (TableEvent.runAll .simple [.op (.addNode (nodeAt 5))] (init (localEndingIn 0) 9)).nodes,
    n.nodeId = (nodeAt 5).nodeId := by decide +kernel
  rw [← hid]
  exact h.1 n hn

/-- Three nodes; the first does not know the last, whose bucket the second occupies. -/
def threeNodes : List RoutingTable := [meeting 0 [4], meeting 4 [0, 5], meeting 5 [0, 4]]

theorem coveringNetwork_threeNodes : CoveringNetwork .simple threeNodes where
  reachable := by simp [threeNodes, reachable_meeting]
  distinct := by decide +kernel
  members := by decide +kernel
  covers := by decide +kernel

theorem isDestination_nearest_threeNodes :
    ∃ t ∈ threeNodes, (∀ t' ∈ threeNodes, t' ≠ t →
        xorDistance t.localId (localEndingIn 7).id < xorDistance t'.localId (localEndingIn 7).id) ∧
      ∀ t' ∈ threeNodes, ((t'.isDestination .simple (localEndingIn 7).id true).1 = true ↔ t' = t) :=
  coveringNetwork_threeNodes.isDestination_nearest (by simp [threeNodes]) rfl

end Samples
end RoutingTable
end XKad
