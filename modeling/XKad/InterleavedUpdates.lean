import XKad.Interleavings
import XKad.TableInvariants

/-!
# Concurrent AddNode, CanAddNode and DropNode

A call is cut at its mutex-protected blocks: a `Point` names the block that
comes next, with the record the call works on. One step runs one block.
-/
namespace XKad
open Std

namespace RoutingTable

inductive Update where
  | addNode (node : NodeInfo)
  | canAddNode (node : NodeInfo)
  | dropNode (node : NodeInfo)

/-- The block a call runs next. -/
inductive Point where
  | hasNodeCheck (node : NodeInfo)
  | nodesBlock (node : NodeInfo)
  | idMapInsert (node : NodeInfo)
  | hashMapInsert (node : NodeInfo)
  | canAddCheck (node : NodeInfo)
  | canAddSort (node : NodeInfo)
  | nodesErase (node : NodeInfo)
  | idMapErase (node : NodeInfo)
  | hashMapErase (node : NodeInfo)
  | dxipErase (node : NodeInfo)
  | resetSnapshot
  | copyNodes
  | storeSnapshot (copy : List NodeInfo)
  | returned (code : KadCode)
  | answered (b : Bool)

/-- The block at a point; a call that has returned does nothing. -/
def Point.block (P : Platform) : Point → RoutingTable → Point × RoutingTable
  | .hasNodeCheck node, t =>
    if node.natType = kNatTypeUnknown then (.returned .kadFailed, t)
    else if node.nodeId = t.localId then (.returned .kadFailed, t)
    else if !validNode node then (.returned .kadFailed, t)
    else if t.hasNode node then (.returned .kadNodeHasAdded, t)
    else
      -- `SetNodeBucket` runs outside every lock and reads only the two ids
      let (code, node) := setNodeBucket t.localId node
      if code ≠ .kadSuccess then (.returned .kadFailed, t) else (.nodesBlock node, t)
  | .nodesBlock node, t =>
    match t.addNodesBlock P node with
    | (some code, t) => (.returned code, t)
    | (none, t) => (.idMapInsert node, t)
  | .idMapInsert node, t => (.hashMapInsert node, t.addIdMapBlock node)
  | .hashMapInsert node, t => (.resetSnapshot, t.addHashMapBlock node)
  | .canAddCheck node, t =>
    if node.natType = kNatTypeUnknown then (.answered false, t)
    else if node.nodeId = t.localId then (.answered false, t)
    else if !validNode node then (.answered false, t)
    else if t.hasNode node then (.answered false, t)
    else
      let (code, node) := setNodeBucket t.localId node
      if code ≠ .kadSuccess then (.answered false, t) else (.canAddSort node, t)
  | .canAddSort node, t =>
    let t := (t.sortNodesByTargetXid P t.localId t.nodes.length).2
    (.answered (t.newNodeReplaceOldNode node), t)
  | .nodesErase node, t => (.idMapErase node, t.dropNodesBlock node)
  | .idMapErase node, t => (.hashMapErase node, t.dropIdMapBlock node)
  | .hashMapErase node, t => (.dxipErase node, t.dropHashMapBlock node)
  | .dxipErase node, t => (.resetSnapshot, t.dropDxip node)
  | .resetSnapshot, t => (.copyNodes, t.setNoLockForUseNodes none)
  | .copyNodes, t => (.storeSnapshot t.nodes, t)
  | .storeSnapshot copy, t => (.returned .kadSuccess, t.setNoLockForUseNodes (some copy))
  | .returned code, t => (.returned code, t)
  | .answered b, t => (.answered b, t)

/-- A call with the block it runs next. -/
structure UpdateCall where
  update : Update
  point : Point

def Update.start : Update → UpdateCall
  | .addNode node => ⟨.addNode node, .hasNodeCheck node⟩
  | .canAddNode node => ⟨.canAddNode node, .canAddCheck node⟩
  | .dropNode node => ⟨.dropNode node, .nodesErase node⟩

def UpdateCall.block (P : Platform) (c : UpdateCall) (t : RoutingTable) : UpdateCall × RoutingTable :=
  (⟨c.update, (c.point.block P t).1⟩, (c.point.block P t).2)

def Update.run (P : Platform) : Update → RoutingTable → Point × RoutingTable
  | .addNode node, t => (.returned (t.addNode P node).1, (t.addNode P node).2)
  | .canAddNode node, t => (.answered (t.canAddNode P node).1, (t.canAddNode P node).2)
  | .dropNode node, t => (.returned .kadSuccess, t.dropNode node)

abbrev Updates := Config RoutingTable UpdateCall

/-- The tests of `AddNode` that look at nothing but the argument and the local id. -/
structure Eligible (localId : Bytes) (node : NodeInfo) : Prop where
  natType : node.natType ≠ kNatTypeUnknown
  notLocal : node.nodeId ≠ localId
  valid : validNode node = true

theorem hasNodeCheck_cases (P : Platform) (node : NodeInfo) (t : RoutingTable) :
    (∃ code, (Eligible t.localId node → t.hasNode node = true) ∧
        (Point.hasNodeCheck node).block P t = (.returned code, t) ∧ t.addNode P node = (code, t)) ∨
      (Eligible t.localId node ∧
        (Point.hasNodeCheck node).block P t = (.nodesBlock (placed t.localId node), t) ∧
        t.addNode P node = match t.addNodesBlock P (placed t.localId node) with
          | (some code, t') => (code, t')
          | (none, t') => (.kadSuccess, ((t'.addIdMapBlock (placed t.localId node)).addHashMapBlock
              (placed t.localId node)).publishNodes)) := by
  dsimp only [Point.block, addNode]
  split_ifs with hnat hid hv hhas hbucket
  · exact Or.inl ⟨_, fun h => absurd hnat h.natType, rfl, rfl⟩
  · exact Or.inl ⟨_, fun h => absurd hid h.notLocal, rfl, rfl⟩
  · refine Or.inl ⟨_, fun h => ?_, rfl, rfl⟩
    simp [h.valid] at hv
  · exact Or.inl ⟨_, fun _ => hhas, rfl, rfl⟩
  · simp only [Bool.not_eq_true', Bool.not_eq_false] at hv
    rw [setNodeBucket_placed hid hv] at hbucket
    exact absurd rfl hbucket
  · simp only [Bool.not_eq_true', Bool.not_eq_false] at hv
    rw [setNodeBucket_placed hid hv]
    exact Or.inr ⟨⟨hnat, hid, hv⟩, rfl, rfl⟩

theorem canAddCheck_cases (P : Platform) (node : NodeInfo) (t : RoutingTable) :
    ((Point.canAddCheck node).block P t = (.answered false, t) ∧ t.canAddNode P node = (false, t)) ∨
      ∃ node', (Point.canAddCheck node).block P t = (.canAddSort node', t) ∧
        t.canAddNode P node =
          ((t.sortNodesByTargetXid P t.localId t.nodes.length).2.newNodeReplaceOldNode node',
            (t.sortNodesByTargetXid P t.localId t.nodes.length).2) := by
  dsimp only [Point.block, canAddNode]
  split_ifs
  · exact Or.inl ⟨rfl, rfl⟩
  · exact Or.inl ⟨rfl, rfl⟩
  · exact Or.inl ⟨rfl, rfl⟩
  · exact Or.inl ⟨rfl, rfl⟩
  · exact Or.inl ⟨rfl, rfl⟩
  · exact Or.inr ⟨_, rfl, rfl⟩

/-- Run alone, the blocks of a call are the call. -/
theorem Update.schedule_alone (P : Platform) (u : Update) (t : RoutingTable) :
    (⟨t, [u.start]⟩ : Updates).schedule (UpdateCall.block P) (List.replicate 7 0) =
      ⟨(u.run P t).2, [⟨u, (u.run P t).1⟩]⟩ := by
  have hone (u : Update) (p : Point) (t : RoutingTable) :
      (⟨t, [⟨u, p⟩]⟩ : Updates).advanceAt (UpdateCall.block P) 0 =
        ⟨(p.block P t).2, [⟨u, (p.block P t).1⟩]⟩ := rfl
  simp only [Config.schedule, List.replicate, List.foldl_cons, List.foldl_nil]
  cases u with
  | addNode node =>
    rw [Update.start, Update.run, hone]
    obtain ⟨code, _, hb, ha⟩ | ⟨_, hb, ha⟩ := hasNodeCheck_cases P node t
    · rw [hb, ha]
      rfl
    · rw [hb, ha, hone, Point.block]
      cases t.addNodesBlock P (placed t.localId node) with
      | mk code t' => cases code <;> rfl
  | canAddNode node =>
    rw [Update.start, Update.run, hone]
    obtain ⟨hb, ha⟩ | ⟨node', hb, ha⟩ := canAddCheck_cases P node t
    · rw [hb, ha]
      rfl
    · rw [hb, ha]
      rfl
  | dropNode node => rfl

/-- What a call knows at its next block. -/
def UpdateCall.Ok (localId : Bytes) (c : UpdateCall) : Prop :=
  match c.point with
  | .hasNodeCheck node => c.update = .addNode node
  | .nodesBlock node' => ∃ node, c.update = .addNode node ∧ Eligible localId node ∧
      node' = placed localId node
  | .canAddCheck _ | .canAddSort _ => ∃ node, c.update = .canAddNode node
  | .nodesErase node => c.update = .dropNode node
  | _ => True

/-- The call has passed the block that decides about its effect. -/
def Point.settled : Point → Bool
  | .hasNodeCheck _ | .nodesBlock _ | .canAddCheck _ | .canAddSort _ | .nodesErase _ => false
  | _ => true

/-- The node whose insertion into the id map is still to come. -/
def Point.pending : Point → Option NodeInfo
  | .idMapInsert node => some node
  | _ => none

/-- The id still to be erased from the id map. -/
def Point.erasing : Point → Option Bytes
  | .idMapErase node => some node.nodeId
  | _ => none

/-- A change that moves no node between vector, id map and the calls under way. -/
structure SameMembers (t t' : RoutingTable) : Prop where
  nodes : t'.nodes.Perm t.nodes
  nodeIdMap : t'.nodeIdMap = t.nodeIdMap

theorem SameMembers.refl (t : RoutingTable) : SameMembers t t := ⟨List.Perm.refl _, rfl⟩

/-- All that one block can do, by its effect on vector, id map and call. -/
inductive Effect (t : RoutingTable) (c : UpdateCall) : Point → RoutingTable → Prop where
  | pass {p : Point} {t' : RoutingTable} (settled : p.settled = c.point.settled)
      (pending : p.pending = none) (erasing : p.erasing = none) (was : c.point.pending = none)
      (was' : c.point.erasing = none) (h : SameMembers t t') : Effect t c p t'
  | inert {p : Point} {t' : RoutingTable} (node : NodeInfo) (update : c.update = .canAddNode node)
      (settled : p.settled = true) (unsettled : c.point.settled = false)
      (pending : p.pending = none) (erasing : p.erasing = none) (h : SameMembers t t') :
      Effect t c p t'
  | known {t' : RoutingTable} (code : KadCode) (node : NodeInfo) (update : c.update = .addNode node)
      (unsettled : c.point.settled = false) (hold : Eligible t.localId node → t.hasNode node = true)
      (h : SameMembers t t') : Effect t c (.returned code) t'
  | full {t' : RoutingTable} (code : KadCode) (node : NodeInfo) (update : c.update = .addNode node)
      (unsettled : c.point.settled = false)
      (hold : t.newNodeReplaceOldNode (placed t.localId node) = false) (h : SameMembers t t') :
      Effect t c (.returned code) t'
  | push {t' : RoutingTable} (node : NodeInfo) (update : c.update = .addNode node)
      (point : c.point = .nodesBlock (placed t.localId node)) (ok : Eligible t.localId node)
      (room : t.newNodeReplaceOldNode (placed t.localId node) = true)
      (new : t.hasNode node = false) (nodes : t'.nodes.Perm (t.nodes ++ [placed t.localId node]))
      (nodeIdMap : t'.nodeIdMap = t.nodeIdMap) :
      Effect t c (.idMapInsert (placed t.localId node)) t'
  | idMapInsert (node : NodeInfo) (point : c.point = .idMapInsert node) :
      Effect t c (.hashMapInsert node) (t.addIdMapBlock node)
  | nodesErase (node : NodeInfo) (update : c.update = .dropNode node)
      (point : c.point = .nodesErase node) : Effect t c (.idMapErase node) (t.dropNodesBlock node)
  | idMapErase (node : NodeInfo) (point : c.point = .idMapErase node) :
      Effect t c (.hashMapErase node) (t.dropIdMapBlock node)

theorem sameMembers_of_reorders {t t' : RoutingTable}
    (h : ∃ l, l.Perm t.nodes ∧ t' = t.withNodes l) : SameMembers t t' := by
  obtain ⟨l, hl, rfl⟩ := h
  exact ⟨hl, rfl⟩

theorem block_effect (P : Platform) {t : RoutingTable} {c : UpdateCall} (hok : c.Ok t.localId) :
    Effect t c (c.point.block P t).1 (c.point.block P t).2 := by
  obtain ⟨u, p⟩ := c
  cases p with
  | hasNodeCheck node =>
    obtain ⟨code, hold, hb, _⟩ | ⟨_, hb, _⟩ := hasNodeCheck_cases P node t
    · rw [hb]
      exact .known code node hok rfl hold (.refl t)
    · rw [hb]
      exact .pass rfl rfl rfl rfl rfl (.refl t)
  | nodesBlock node' =>
    obtain ⟨node, hu, hel, rfl⟩ := hok
    obtain ⟨l, hl, ⟨hfull, he⟩ | ⟨_, hold, he⟩ | ⟨hroom, hnew, he⟩⟩ :=
      addNodesBlock_cases P (placed t.localId node) t
    · simp only [Point.block, he]
      exact .full _ node hu rfl hfull ⟨hl, rfl⟩
    · simp only [Point.block, he]
      exact .known _ node hu rfl (fun _ => hold) ⟨hl, rfl⟩
    · simp only [Point.block, he]
      exact .push node hu rfl hel hroom hnew (hl.append_right _) rfl
  | idMapInsert node => exact .idMapInsert node rfl
  | hashMapInsert node => exact .pass rfl rfl rfl rfl rfl ⟨List.Perm.refl _, rfl⟩
  | canAddCheck node =>
    obtain ⟨node₀, hu⟩ := hok
    obtain ⟨hb, _⟩ | ⟨node', hb, _⟩ := canAddCheck_cases P node t
    · rw [hb]
      exact .inert node₀ hu rfl rfl rfl rfl (.refl t)
    · rw [hb]
      exact .pass rfl rfl rfl rfl rfl (.refl t)
  | canAddSort node =>
    obtain ⟨node₀, hu⟩ := hok
    exact .inert node₀ hu rfl rfl rfl rfl
      (sameMembers_of_reorders (sortNodesBy_reorders P NodeInfo.nodeId t.localId t.nodes.length t))
  | nodesErase node => exact .nodesErase node hok rfl
  | idMapErase node => exact .idMapErase node rfl
  | hashMapErase node => exact .pass rfl rfl rfl rfl rfl ⟨List.Perm.refl _, rfl⟩
  | dxipErase node => exact .pass rfl rfl rfl rfl rfl ⟨List.Perm.refl _, rfl⟩
  | resetSnapshot => exact .pass rfl rfl rfl rfl rfl ⟨List.Perm.refl _, rfl⟩
  | copyNodes => exact .pass rfl rfl rfl rfl rfl (.refl t)
  | storeSnapshot copy => exact .pass rfl rfl rfl rfl rfl ⟨List.Perm.refl _, rfl⟩
  | returned code => exact .pass rfl rfl rfl rfl rfl (.refl t)
  | answered b => exact .pass rfl rfl rfl rfl rfl (.refl t)

theorem block_localId (P : Platform) (p : Point) (t : RoutingTable) :
    (p.block P t).2.localId = t.localId := by
  cases p with
  | hasNodeCheck node =>
    obtain ⟨code, _, hb, _⟩ | ⟨_, hb, _⟩ := hasNodeCheck_cases P node t <;> rw [hb]
  | nodesBlock node =>
    obtain ⟨l, _, ⟨_, he⟩ | ⟨_, _, he⟩ | ⟨_, _, he⟩⟩ := addNodesBlock_cases P node t <;>
      simp [Point.block, he]
  | canAddCheck node =>
    obtain ⟨hb, _⟩ | ⟨node', hb, _⟩ := canAddCheck_cases P node t <;> rw [hb]
  | canAddSort node =>
    obtain ⟨l, _, hs⟩ := sortNodesBy_reorders P NodeInfo.nodeId t.localId t.nodes.length t
    simp [Point.block, sortNodesByTargetXid, hs]
  | dxipErase node => exact (LocalNodeInfo.sameIdentity_dropDxip t.localNode node.nodeId).id
  | _ => rfl

theorem block_ok (P : Platform) {t : RoutingTable} {c : UpdateCall} (hok : c.Ok t.localId) :
    (c.block P t).1.Ok t.localId := by
  obtain ⟨u, p⟩ := c
  cases p with
  | hasNodeCheck node =>
    obtain ⟨code, _, hb, _⟩ | ⟨hel, hb, _⟩ := hasNodeCheck_cases P node t
    · simp [UpdateCall.block, hb, UpdateCall.Ok]
    · simp only [UpdateCall.block, hb, UpdateCall.Ok]
      exact ⟨node, hok, hel, rfl⟩
  | nodesBlock node =>
    obtain ⟨l, _, ⟨_, he⟩ | ⟨_, _, he⟩ | ⟨_, _, he⟩⟩ := addNodesBlock_cases P node t <;>
      simp [UpdateCall.block, Point.block, he, UpdateCall.Ok]
  | canAddCheck node =>
    obtain ⟨hb, _⟩ | ⟨node', hb, _⟩ := canAddCheck_cases P node t
    · simp [UpdateCall.block, hb, UpdateCall.Ok]
    · simp only [UpdateCall.block, hb, UpdateCall.Ok]
      exact hok
  | _ => trivial

theorem start_ok (localId : Bytes) (u : Update) : u.start.Ok localId := by
  cases u with
  | addNode node => rfl
  | canAddNode node => exact ⟨node, rfl⟩
  | dropNode node => rfl

/-- The configurations of a table and the calls started on it, from `Init` on:
calls start at any time, and their blocks run in any order. -/
inductive Interleaved (P : Platform) : Updates → Prop where
  | init (l : LocalNodeInfo) (port : UInt16) : Interleaved P ⟨RoutingTable.init l port, []⟩
  | start {c : Updates} (h : Interleaved P c) (u : Update) :
      Interleaved P ⟨c.shared, c.threads ++ [u.start]⟩
  | block {c c' : Updates} (h : Interleaved P c)
      (hb : Config.Advance (UpdateCall.block P) Config.free c c') : Interleaved P c'

theorem Interleaved.run {P : Platform} {c c' : Updates} (h : Interleaved P c)
    (hr : Config.Run (UpdateCall.block P) Config.free c c') : Interleaved P c' := by
  induction hr with
  | refl => exact h
  | tail _ hb ih => exact ih.block hb

/-- Vector and calls under way agree with the buckets of the local id. -/
structure BucketsKept (c : Updates) : Prop where
  bucketed : Bucketed c.shared.localId c.shared.nodes
  calls : ∀ call ∈ c.threads, call.Ok c.shared.localId

theorem Effect.bucketed {t t' : RoutingTable} {c : UpdateCall} {p : Point} (he : Effect t c p t')
    (h : Bucketed t.localId t.nodes) : Bucketed t.localId t'.nodes := by
  cases he with
  | pass _ _ _ _ _ hs => exact h.subperm hs.nodes.subperm
  | inert _ _ _ _ _ _ hs => exact h.subperm hs.nodes.subperm
  | known _ _ _ _ _ hs => exact h.subperm hs.nodes.subperm
  | full _ _ _ _ _ hs => exact h.subperm hs.nodes.subperm
  | push node _ _ hel hroom hnew hn _ =>
    have hacc : t.Accepts node := ⟨hel.natType, hel.notLocal, hel.valid, hnew, hroom⟩
    exact (h.append hacc.admissible hroom).subperm hn.subperm
  | idMapInsert => exact h
  | nodesErase => exact h.subperm List.eraseP_sublist.subperm
  | idMapErase => exact h

theorem bucketsKept_block (P : Platform) (before : List UpdateCall) (call : UpdateCall)
    (after : List UpdateCall) (t : RoutingTable) (h : BucketsKept ⟨t, before ++ call :: after⟩) :
    BucketsKept ⟨(call.block P t).2, before ++ (call.block P t).1 :: after⟩ := by
  have hid : (call.block P t).2.localId = t.localId := block_localId P call.point t
  have hok : call.Ok t.localId := h.calls call (by simp)
  constructor
  · rw [hid]
    exact (block_effect P hok).bucketed h.bucketed
  · intro call' hc
    rw [hid]
    simp only [List.mem_append, List.mem_cons] at hc
    rcases hc with hc | rfl | hc
    · exact h.calls call' (by simp [hc])
    · exact block_ok P hok
    · exact h.calls call' (by simp [hc])

theorem Interleaved.bucketsKept {P : Platform} {c : Updates} (h : Interleaved P c) :
    BucketsKept c := by
  induction h with
  | init l port => exact ⟨Bucketed.nil _, by simp⟩
  | start _ u ih =>
    refine ⟨ih.bucketed, fun call hc => ?_⟩
    rcases List.mem_append.mp hc with hc | hc
    · exact ih.calls call hc
    · rw [List.mem_singleton.mp hc]
      exact start_ok _ u
  | block _ hb ih =>
    cases hb with
    | step before call after t _ => exact bucketsKept_block P before call after t ih

/-- Whatever the interleaving, buckets are right and never overfull, the table
stays within its capacity, and a sort with that capacity covers it. -/
theorem interleaved_capacity {P : Platform} {c : Updates} (h : Interleaved P c) :
    (∀ n ∈ c.shared.nodes, n.bucketIndex = (xorDistance c.shared.localId n.nodeId).size ∧
        1 ≤ n.bucketIndex ∧ n.bucketIndex ≤ 8 * kNodeIdSize) ∧
      (∀ b, c.shared.nodes.countP (fun n => n.bucketIndex = b) ≤ kKadParamK) ∧
      c.shared.nodes.length ≤ kRoutingMaxNodesSize ∧
      (∀ word target, (c.shared.sortNodesBy P word target (intOfUInt32 routingMaxNodesSize)).1 =
        c.shared.nodes.length) ∧
      ∀ target baseXip, (c.shared.getClosestNodes P target routingMaxNodesSize baseXip).1.Perm
        c.shared.nodes := by
  have hb := h.bucketsKept.bucketed
  have hl : c.shared.localId.length = kNodeIdSize := c.shared.localNode.id_size
  have hcap := hb.length_le hl
  refine ⟨fun n hn => ⟨hb.bucket n hn, hb.bounds hl hn⟩, hb.room, hcap, ?_, ?_⟩
  · intro word target
    have h2304 : intOfUInt32 routingMaxNodesSize = kRoutingMaxNodesSize := by decide
    rw [h2304, sortNodesBy_pos P word target (by decide), min_eq_right hcap]
  · intro target baseXip
    rw [getClosestNodes_all P target baseXip hcap]
    exact partialSortNodes_perm P _ target _ _

theorem interleaved_capacity_two :
    ∃ c : Updates, c.shared.nodes.length = 2 ∧ c.shared.nodes.length ≤ kRoutingMaxNodesSize := by
  let c : Updates := ⟨init (localEndingIn 0) 9,
    [(Update.addNode (nodeEndingIn 1)).start] ++ [(Update.addNode (nodeEndingIn 2)).start]⟩
  have hstart : Interleaved .simple c := ((Interleaved.init _ _).start _).start _
  have hrun := hstart.run (Config.run_schedule (Config.allowed_free [0, 1, 0, 1, 0, 1] c))
  exact ⟨_, by decide +kernel, (interleaved_capacity hrun).2.2.1⟩

end RoutingTable
end XKad
