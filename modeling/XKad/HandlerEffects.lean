import XKad.TableInvariants
import XKad.MessageHandlers

/-!
# What the message handlers do to a table

A handler offers records to `AddNode` and otherwise changes only the order of
the nodes and fields outside the indices. `HandlerCall.offers` names the records
of a call, `handlerCall_evolves` is the one lemma about each handler from which
the invariants of runs of handlers follow.
-/
namespace XKad
open Std

namespace RoutingTable

/-- Nothing but the order of the nodes and fields outside the indices differs. -/
structure Keeps (t t' : RoutingTable) : Prop where
  nodes : t'.nodes.Perm t.nodes
  nodeIdMap : t'.nodeIdMap = t.nodeIdMap
  nodeHashMap : t'.nodeHashMap = t.nodeHashMap
  noLockForUseNodes : t'.noLockForUseNodes = t.noLockForUseNodes
  localId : t'.localId = t.localId
  xid : t'.localNode.xid = t.localNode.xid
  hash64 : t'.localNode.hash64 = t.localNode.hash64
  clientMode : t'.localNode.clientMode = t.localNode.clientMode

namespace Keeps

variable {t t' t'' : RoutingTable}

theorem refl (t : RoutingTable) : Keeps t t := ⟨List.Perm.refl _, rfl, rfl, rfl, rfl, rfl, rfl, rfl⟩

theorem trans (h : Keeps t t') (h' : Keeps t' t'') : Keeps t t'' where
  nodes := h'.nodes.trans h.nodes
  nodeIdMap := h'.nodeIdMap.trans h.nodeIdMap
  nodeHashMap := h'.nodeHashMap.trans h.nodeHashMap
  noLockForUseNodes := h'.noLockForUseNodes.trans h.noLockForUseNodes
  localId := h'.localId.trans h.localId
  xid := h'.xid.trans h.xid
  hash64 := h'.hash64.trans h.hash64
  clientMode := h'.clientMode.trans h.clientMode

theorem withNodes {l : List NodeInfo} (hl : l.Perm t.nodes) : Keeps t (t.withNodes l) :=
  ⟨hl, rfl, rfl, rfl, rfl, rfl, rfl, rfl⟩

theorem of_reorders (h : ∃ l, l.Perm t.nodes ∧ t' = t.withNodes l) : Keeps t t' := by
  obtain ⟨l, hl, rfl⟩ := h
  exact withNodes hl

theorem setJoin (bootId bootIp : Bytes) (bootPort : UInt16) (t : RoutingTable) :
    Keeps t (t.setJoin bootId bootIp bootPort).2 := by
  rw [RoutingTable.setJoin]
  split
  · exact refl t
  · exact ⟨List.Perm.refl _, rfl, rfl, rfl, rfl, rfl, rfl, rfl⟩

theorem learnEndpoint (m : RoutingMessage) (r : BootstrapJoinResponse) (t : RoutingTable) :
    Keeps t (t.learnEndpoint m r) := by
  dsimp only [RoutingTable.learnEndpoint, LocalNodeInfo.addDxip]
  split <;> exact ⟨List.Perm.refl _, rfl, rfl, rfl, rfl, rfl, rfl, rfl⟩

theorem pushBootstrapNode (node : NodeInfo) (t : RoutingTable) : Keeps t (t.pushBootstrapNode node) :=
  ⟨List.Perm.refl _, rfl, rfl, rfl, rfl, rfl, rfl, rfl⟩

theorem detection (d : NodeDetectionManager) (t : RoutingTable) : Keeps t { t with detection := d } :=
  ⟨List.Perm.refl _, rfl, rfl, rfl, rfl, rfl, rfl, rfl⟩

theorem changes (h : Keeps t t') : Changes t t' := by
  have hreorder : Change t (t.withNodes t'.nodes) := .reorder h.nodes
  refine (Relation.ReflTransGen.single hreorder).tail (.other ?_)
  exact ⟨h.localId, rfl, h.nodeIdMap, h.nodeHashMap, h.noLockForUseNodes⟩

theorem accepts_iff (h : Keeps t t') (node : NodeInfo) : t'.Accepts node ↔ t.Accepts node := by
  have hroom : t'.newNodeReplaceOldNode (placed t'.localId node) =
      t.newNodeReplaceOldNode (placed t.localId node) := by
    rw [h.localId]
    exact newNodeReplaceOldNode_perm h.nodes _
  have hhas : t'.hasNode node = t.hasNode node := by rw [hasNode, hasNode, h.nodeIdMap]
  constructor
  · rintro ⟨hnat, hid, hv, hnew, hr⟩
    exact ⟨hnat, h.localId ▸ hid, hv, hhas ▸ hnew, hroom ▸ hr⟩
  · rintro ⟨hnat, hid, hv, hnew, hr⟩
    exact ⟨hnat, h.localId.symm ▸ hid, hv, hhas.symm ▸ hnew, hroom.symm ▸ hr⟩

end Keeps

/-- `AddNode` was offered `node` on the way from `t` to `t'`. -/
inductive Offered (t : RoutingTable) (node : NodeInfo) (t' : RoutingTable) : Prop where
  | refused (hr : ¬ t.Accepts node) (hk : Keeps t t')
  | added {u : RoutingTable} (ha : t.Accepts node) (hu : Keeps t u)
      (hk : Keeps (u.inserted (placed t.localId node)) t')

theorem Offered.after {s t t' : RoutingTable} {node : NodeInfo} (hs : Keeps s t) (h : Offered t node t') :
    Offered s node t' := by
  cases h with
  | refused hr hk => exact .refused (fun ha => hr ((hs.accepts_iff node).mpr ha)) (hs.trans hk)
  | added ha hu hk =>
    rw [hs.localId] at hk
    exact .added ((hs.accepts_iff node).mp ha) (hs.trans hu) hk

theorem Offered.before {t t' t'' : RoutingTable} {node : NodeInfo} (h : Offered t node t')
    (hk : Keeps t' t'') : Offered t node t'' := by
  cases h with
  | refused hr hk' => exact .refused hr (hk'.trans hk)
  | added ha hu hk' => exact .added ha hu (hk'.trans hk)

theorem offered_addNode (P : Platform) (node : NodeInfo) (t : RoutingTable) :
    Offered t node (t.addNode P node).2 := by
  obtain ⟨l, hl, ⟨hr, code, _, he⟩ | ⟨ha, he⟩⟩ := addNode_cases P node t
  · rw [he]
    exact .refused hr (.withNodes hl)
  · rw [he]
    exact .added ha (.withNodes hl) (.refl _)

/-- A call that offers the records `offers`, each to the table it is paired with. -/
inductive Evolves : List (RoutingTable × NodeInfo) → RoutingTable → RoutingTable → Prop where
  | keep {t t' : RoutingTable} (h : Keeps t t') : Evolves [] t t'
  | offer {t t' : RoutingTable} {node : NodeInfo} (h : Offered t node t') : Evolves [(t, node)] t t'
  | append {as bs : List (RoutingTable × NodeInfo)} {t t' t'' : RoutingTable} (h : Evolves as t t')
      (h' : Evolves bs t' t'') : Evolves (as ++ bs) t t''

/-- The rule for invariants of a call: it keeps what reordering and the addition of
its accepted records keep. -/
theorem Evolves.induct {as : List (RoutingTable × NodeInfo)} {t t' : RoutingTable} {I : RoutingTable → Prop}
    (hkeep : ∀ s s', Keeps s s' → I s → I s')
    (hadd : ∀ s u node, (s, node) ∈ as → s.Accepts node → Keeps s u → I u →
      I (u.inserted (placed s.localId node)))
    (h : Evolves as t t') (hi : I t) : I t' := by
  induction h with
  | keep h => exact hkeep _ _ h hi
  | offer h =>
    cases h with
    | refused _ hk => exact hkeep _ _ hk hi
    | added ha hu hk =>
      exact hkeep _ _ hk (hadd _ _ _ (List.mem_singleton_self _) ha hu (hkeep _ _ hu hi))
  | append _ _ ih ih' =>
    apply ih' (fun s u node hm => hadd s u node (List.mem_append_right _ hm))
    exact ih (fun s u node hm => hadd s u node (List.mem_append_left _ hm)) hi

theorem Evolves.changes {as : List (RoutingTable × NodeInfo)} {t t' : RoutingTable} (h : Evolves as t t') :
    Changes t t' := by
  refine h.induct (I := Changes t) ?_ ?_ .refl
  · intro s s' hk hc
    exact hc.trans hk.changes
  · intro s u node _ ha hu hc
    have hu' := (hu.accepts_iff node).mpr ha
    rw [← hu.localId]
    exact hc.tail (.insert hu'.admissible hu'.room hu'.new)

/-- Every accepted record is in the table afterwards. -/
theorem Evolves.mem_of_accepts {os : List (RoutingTable × NodeInfo)} {t t' : RoutingTable}
    (h : Evolves os t t') {o : RoutingTable × NodeInfo} (ho : o ∈ os) (ha : o.1.Accepts o.2) :
    o.2.nodeId ≠ t.localId ∧ ∃ n ∈ t'.nodes, n.nodeId = o.2.nodeId := by
  have hstays {as : List (RoutingTable × NodeInfo)} {s s' : RoutingTable} (h : Evolves as s s') {id : Bytes}
      (hs : ∃ n ∈ s.nodes, n.nodeId = id) : ∃ n ∈ s'.nodes, n.nodeId = id := by
    refine h.induct (I := fun s => ∃ n ∈ s.nodes, n.nodeId = id) ?_ ?_ hs
    · rintro s s' hk ⟨n, hn, hid⟩
      exact ⟨n, hk.nodes.mem_iff.mpr hn, hid⟩
    · rintro s u node _ _ _ ⟨n, hn, hid⟩
      exact ⟨n, List.mem_append_left _ hn, hid⟩
  induction h with
  | keep _ => cases ho
  | offer h =>
    rw [List.mem_singleton.mp ho] at ha ⊢
    cases h with
    | refused hr _ => exact absurd ha hr
    | added _ _ hk =>
      refine ⟨ha.notLocal, _, hk.nodes.mem_iff.mpr (List.mem_append_right _ (List.mem_singleton_self _)), rfl⟩
  | append h h' ih ih' =>
    rcases List.mem_append.mp ho with ho | ho
    · obtain ⟨hne, hmem⟩ := ih ho
      exact ⟨hne, hstays h' hmem⟩
    · obtain ⟨hne, hmem⟩ := ih' ho
      rw [h.changes.localId] at hne
      exact ⟨hne, hmem⟩

section Handlers

variable (P : Platform) (mid : UInt32) (m : RoutingMessage) (packet : XPacket) (t : RoutingTable)

theorem nextHop_reorders : ∃ l, l.Perm t.nodes ∧ (t.nextHop P m).2 = t.withNodes l := by
  rw [nextHop]
  split
  · exact ⟨t.nodes, List.Perm.refl _, rfl⟩
  · exact getClosestNodes_reorders P _ _ _ t

theorem sendToClosestNode_reorders (addHop : Bool) :
    ∃ l, l.Perm t.nodes ∧ (t.sendToClosestNode P m addHop).2 = t.withNodes l := by
  have hrecursive (m : RoutingMessage) : ∃ l, l.Perm t.nodes ∧ (t.recursiveSend P m).2 = t.withNodes l := by
    have hnext := nextHop_reorders P m t
    rw [recursiveSend]
    split <;> rename_i heq <;> rw [heq] at hnext <;> exact hnext
  rw [sendToClosestNode]
  split_ifs
  · exact ⟨t.nodes, List.Perm.refl _, rfl⟩
  · exact ⟨t.nodes, List.Perm.refl _, rfl⟩
  · exact hrecursive _
  · exact hrecursive _

/-- `HandleConnectRequest` relays, or it notes the sender for detection. -/
theorem handleConnectRequest_cases : (∃ l, l.Perm t.nodes ∧ (t.handleConnectRequest P m).2 = t.withNodes l) ∨
    ∃ d, (t.handleConnectRequest P m).2 = { t with detection := d } := by
  rw [handleConnectRequest, isDestination_direct]
  cases connectRequestOf m.data with
  | none => exact Or.inl ⟨t.nodes, List.Perm.refl _, rfl⟩
  | some r =>
    by_cases hdes : m.desNodeId = t.localId
    · rw [decide_eq_true hdes]
      dsimp only
      split
      · exact Or.inl ⟨t.nodes, List.Perm.refl _, rfl⟩
      · exact Or.inr ⟨_, rfl⟩
    · rw [decide_eq_false hdes]
      exact Or.inl (sendToClosestNode_reorders P m t true)

theorem replyNodes_reorders (r : FindClosestNodesRequest) :
    ∃ l, l.Perm t.nodes ∧ (t.replyNodes P r).2 = t.withNodes l :=
  getClosestNodes_reorders P r.targetId (r.count + 1) false t

theorem keeps_handleConnectRequest : Keeps t (t.handleConnectRequest P m).2 := by
  rcases handleConnectRequest_cases P m t with hsorts | ⟨d, hd⟩
  · exact .of_reorders hsorts
  · rw [hd]
    exact .detection d t

theorem keeps_findClosestNodes (mid : Bytes → UInt32) (draws : List UInt32) (attempts : ℤ) (count : UInt32)
    (nodes : List NodeInfo) : Keeps t (t.findClosestNodes P mid draws attempts count nodes).2 :=
  .of_reorders (findClosestNodes_reorders P mid draws attempts count nodes t)

/-- The end of `HandleBootstrapJoinResponse`: `SetJoin`, and a search if it did something. -/
theorem keeps_joinAndSearch (mid : Bytes → UInt32) (draws : List UInt32) (bootId bootIp : Bytes)
    (bootPort : UInt16) : Keeps t (match t.setJoin bootId bootIp bootPort with
      | (false, t) => (some [], t)
      | (true, t) => t.findClosestNodes P mid draws 1 routingMaxNodesSize []).2 := by
  have hjoin := Keeps.setJoin bootId bootIp bootPort t
  split <;> rename_i heq <;> rw [heq] at hjoin
  · exact hjoin
  · exact hjoin.trans (keeps_findClosestNodes P _ mid draws _ _ _)

theorem keeps_findNeighbours (mid : Bytes → UInt32) (draws : List UInt32) :
    Keeps t (t.findNeighbours P mid draws).2 := by
  rw [findNeighbours]
  split
  · exact .refl t
  · obtain ⟨l, hl, hs⟩ := sortNodesBy_reorders P NodeInfo.nodeId t.localId
      (intOfUInt32 routingMaxNodesSize) t
    dsimp only [sortNodesByTargetXid]
    rw [hs]
    exact (Keeps.withNodes hl).trans (keeps_findClosestNodes P _ mid draws 1 _ _)

theorem keeps_sendBootstrapJoinResponse : Keeps t (t.sendBootstrapJoinResponse P mid m packet).2 := by
  dsimp only [sendBootstrapJoinResponse]
  split
  · exact .refl t
  · split_ifs <;> exact ⟨List.Perm.refl _, rfl, rfl, rfl, rfl, rfl, rfl, rfl⟩

/-- Only a client cannot answer a join request. -/
theorem sendBootstrapJoinResponse_isSome :
    (t.sendBootstrapJoinResponse P mid m packet).1.isSome = !t.localNode.clientMode := by
  cases hclient : t.localNode.clientMode with
  | true =>
    rw [sendBootstrapJoinResponse, LocalNodeInfo.xipString_eq_none.mpr hclient]
    rfl
  | false =>
    rw [sendBootstrapJoinResponse, LocalNodeInfo.xipString_of_not_client hclient]
    dsimp only
    split_ifs <;> rfl

/-- `CanAddNode` before `AddNode` changes nothing: both make the same tests. -/
theorem offered_canAddNode (node : NodeInfo) :
    Offered t node (match t.canAddNode P node with
      | (true, t) => (t.addNode P node).2
      | (false, t) => t) := by
  have hcan := canAddNode_iff P node t
  have hkeep : Keeps t (t.canAddNode P node).2 := .of_reorders (canAddNode_reorders P node t)
  split <;> rename_i heq <;> rw [heq] at hcan hkeep
  · exact (offered_addNode P node _).after hkeep
  · exact .refused (fun ha => Bool.noConfusion (hcan.mpr ha)) hkeep

theorem evolves_admitRequester (node : NodeInfo) :
    Evolves (if node.natType = kNatTypePublic then [(t, node)] else []) t (t.admitRequester P node) := by
  rw [admitRequester]
  split
  · exact .offer (offered_canAddNode P t node)
  · exact .keep (.refl t)

def findNodesRequestOffers : List (RoutingTable × NodeInfo) :=
  if m.desNodeId ≠ t.localId then []
  else
    match m.data with
    | .findNodesRequest r =>
      if (nodeOfPb P r.srcNodeinfo).natType = kNatTypePublic then [(t, nodeOfPb P r.srcNodeinfo)] else []
    | _ => []

theorem handleFindNodesRequest_table {r : FindClosestNodesRequest} (hdes : m.desNodeId = t.localId)
    (hdata : m.data = .findNodesRequest r) : (t.handleFindNodesRequest P mid m packet).2 =
      ((t.admitRequester P (nodeOfPb P r.srcNodeinfo)).replyNodes P r).2 := by
  rw [handleFindNodesRequest, if_neg (not_not.mpr hdes), hdata]
  dsimp only
  generalize (t.admitRequester P (nodeOfPb P r.srcNodeinfo)).replyNodes P r = answer
  obtain ⟨_ | _ | ⟨e, es⟩, t'⟩ := answer <;> rfl

theorem evolves_handleFindNodesRequest : Evolves (findNodesRequestOffers P m t) t
    (t.handleFindNodesRequest P mid m packet).2 := by
  rw [findNodesRequestOffers]
  by_cases hdes : m.desNodeId = t.localId
  · rw [if_neg (not_not.mpr hdes)]
    cases hdata : m.data with
    | findNodesRequest r =>
      have hadmit := evolves_admitRequester P t (nodeOfPb P r.srcNodeinfo)
      have hreply : Keeps (t.admitRequester P (nodeOfPb P r.srcNodeinfo)) _ :=
        .of_reorders (replyNodes_reorders P _ r)
      have hall := hadmit.append (.keep hreply)
      rw [List.append_nil] at hall
      rw [handleFindNodesRequest_table P mid m packet t hdes hdata]
      exact hall
    | _ =>
      rw [handleFindNodesRequest, if_neg (not_not.mpr hdes), hdata]
      exact .keep (.refl t)
  · rw [handleFindNodesRequest, if_pos hdes, if_pos hdes]
    exact .keep (.refl t)

/-- The record `HandleFindNodesResponse` adds for a listed node that `CanAddNode`
allows, if it adds it without a handshake. -/
def foundRecord (n : PbNodeInfo) : Option NodeInfo :=
  let node := foundNode P m n
  if node.publicIp = t.localNode.publicIp ∧ node.publicPort = t.localNode.publicPort then
    some { node with xid := t.localNode.xid, hash64 := P.xhash64 t.localNode.xid }
  else if t.localNode.natType = kNatTypeConeAbnormal ∧ node.natType = kNatTypeConeAbnormal then none
  else if node.natType = kNatTypePublic ∨
      (node.localIp = node.publicIp ∧ node.localPort = node.publicPort) then some node
  else none

def foundOffers (mid : Bytes → UInt32) : List PbNodeInfo → RoutingTable → List (RoutingTable × NodeInfo)
  | [], _ => []
  | n :: ns, t =>
    ((t.foundRecord P m n).map (fun node => (t, node))).toList ++
      foundOffers mid ns (t.handleFoundNode P mid m packet n).2

def findNodesResponseOffers (mid : Bytes → UInt32) : List (RoutingTable × NodeInfo) :=
  if m.desNodeId ≠ t.localId then []
  else
    match m.data with
    | .findNodesResponse r => foundOffers P m packet mid r.nodes t
    | _ => []

/-- The tests of `AddNode` do not read the xid. -/
theorem accepts_withXid (node : NodeInfo) (xid : Bytes) (hash64 : UInt64) :
    t.Accepts { node with xid := xid, hash64 := hash64 } ↔ t.Accepts node :=
  ⟨fun h => ⟨h.natType, h.notLocal, h.valid, h.new, h.room⟩,
    fun h => ⟨h.natType, h.notLocal, h.valid, h.new, h.room⟩⟩

theorem foundRecord_accepts {n : PbNodeInfo} {node : NodeInfo} (h : foundRecord P m t n = some node) :
    t.Accepts node ↔ t.Accepts (foundNode P m n) := by
  dsimp only [foundRecord] at h
  split_ifs at h
  · cases h
    exact accepts_withXid t _ _ _
  · cases h
    exact Iff.rfl

theorem evolves_handleFoundNode (mid : Bytes → UInt32) (n : PbNodeInfo) :
    Evolves ((foundRecord P m t n).map (fun node => (t, node))).toList t
      (t.handleFoundNode P mid m packet n).2 := by
  have hcan := canAddNode_iff P (foundNode P m n) t
  obtain ⟨l, hl, hs⟩ := canAddNode_reorders P (foundNode P m n) t
  have hrecord (node : NodeInfo) (hf : foundRecord P m t n = some node) := foundRecord_accepts P m t hf
  dsimp only [handleFoundNode]
  split <;> rename_i heq <;> rw [heq] at hcan hs
  · -- `CanAddNode` refuses, and `AddNode` would
    cases hf : foundRecord P m t n with
    | none => exact .keep (hs ▸ .withNodes hl)
    | some node =>
      refine .offer (.refused (fun ha => ?_) (hs ▸ .withNodes hl))
      exact Bool.noConfusion (hcan.mpr ((hrecord node hf).mp ha))
  · have hacc : t.Accepts (foundNode P m n) := hcan.mp rfl
    subst hs
    have hkeep : Keeps t (t.withNodes l) := .withNodes hl
    dsimp only [foundRecord]
    have hlocal : (t.withNodes l).localNode = t.localNode := rfl
    have hid : (foundNode P m n).nodeId ≠ (t.withNodes l).localId := hacc.notLocal
    rw [hlocal, if_pos hid]
    split_ifs
    · exact .offer ((offered_addNode P _ _).after hkeep)
    · exact .keep hkeep
    · exact .offer ((offered_addNode P _ _).after hkeep)
    · exact .keep (hkeep.trans (.detection _ _))

theorem evolves_handleFoundNodes (mid : Bytes → UInt32) (ns : List PbNodeInfo) :
    Evolves (foundOffers P m packet mid ns t) t (t.handleFoundNodes P mid m packet ns).2 := by
  induction ns generalizing t with
  | nil => exact .keep (.refl t)
  | cons n ns ih => exact (evolves_handleFoundNode P m packet t mid n).append (ih _)

theorem evolves_handleFindNodesResponse (mid : Bytes → UInt32) :
    Evolves (findNodesResponseOffers P m packet t mid) t (t.handleFindNodesResponse P mid m packet).2 := by
  rw [findNodesResponseOffers, handleFindNodesResponse]
  by_cases hdes : m.desNodeId = t.localId
  · rw [if_neg (not_not.mpr hdes), if_neg (not_not.mpr hdes)]
    cases m.data with
    | findNodesResponse r => exact evolves_handleFoundNodes P m packet t mid r.nodes
    | _ => exact .keep (.refl t)
  · rw [if_pos hdes, if_pos hdes]
    exact .keep (.refl t)

def handshakeOffers : List (RoutingTable × NodeInfo) :=
  if m.desNodeId ≠ t.localId then []
  else
    match m.data with
    | .handshake h =>
      if h.type = kHandshakeResponse ∧ !m.isClientMsg then
        [(t, markSameVlan packet (handshakeNode P m packet h))]
      else []
    | _ => []

theorem handleHandshake_requested {h : Handshake} (hdes : m.desNodeId = t.localId)
    (hdata : m.data = .handshake h) (hres : h.type ≠ kHandshakeResponse) :
    ∃ d, (t.handleHandshake P mid m packet).2 =
      { (t.canAddNode P (handshakeNode P m packet h)).2 with detection := d } := by
  rw [handleHandshake, isDestination_direct, decide_eq_true hdes, hdata]
  simp only [hres, if_false]
  generalize t.canAddNode P (handshakeNode P m packet h) = answer
  obtain ⟨canAdd, t'⟩ := answer
  cases canAdd <;> dsimp only <;> split <;> exact ⟨_, rfl⟩

theorem evolves_handleHandshake : Evolves (handshakeOffers P m packet t) t
    (t.handleHandshake P mid m packet).2 := by
  rw [handshakeOffers]
  by_cases hdes : m.desNodeId = t.localId
  · rw [if_neg (not_not.mpr hdes)]
    cases hdata : m.data with
    | handshake h =>
      by_cases hres : h.type = kHandshakeResponse
      · rw [handleHandshake, isDestination_direct, decide_eq_true hdes, hdata]
        have hjoin (u : RoutingTable) : Keeps u
            (if !u.joined then (u.setJoin m.srcNodeId h.publicIp (toPort h.publicPort)).2 else u) := by
          split
          · exact .setJoin _ _ _ u
          · exact .refl u
        set node := handshakeNode P m packet h
        have hremove : Keeps t
            { t with detection := t.detection.removeDetection P node.publicIp node.publicPort } :=
          .detection _ t
        cases hclient : m.isClientMsg with
        | false =>
          simp only [hres, if_true, true_and, Bool.not_false]
          exact .offer (((offered_addNode P _ _).after hremove).before (hjoin _))
        | true =>
          simp only [hres, if_true, true_and, Bool.not_true, Bool.false_eq_true, if_false]
          exact .keep (hremove.trans (hjoin _))
      · obtain ⟨d, hd⟩ := handleHandshake_requested P mid m packet t hdes hdata hres
        have hcan : Keeps t (t.canAddNode P (handshakeNode P m packet h)).2 :=
          .of_reorders (canAddNode_reorders P _ t)
        rw [hd]
        dsimp only
        rw [if_neg (fun hc => hres hc.1)]
        exact .keep (hcan.trans (.detection d _))
    | _ =>
      rw [handleHandshake, isDestination_direct, decide_eq_true hdes, hdata]
      exact .keep (.refl t)
  · rw [handleHandshake, isDestination_direct, decide_eq_false hdes, if_pos hdes]
    exact .keep (.refl t)

/-- All that `HandleHandshake` can send: a request is answered with the own xip. -/
theorem handleHandshake_cases : (t.handleHandshake P mid m packet).1 = [] ∨
    m.desNodeId = t.localId ∧ (∃ h, m.data = .handshake h ∧ h.type ≠ kHandshakeResponse) ∧
      ∃ xip, t.localNode.xipString = some xip ∧ (t.handleHandshake P mid m packet).1 =
        [sendData (t.handshakeResponse mid m xip) packet.fromIp packet.fromPort] := by
  rw [handleHandshake, isDestination_direct]
  by_cases hdes : m.desNodeId = t.localId
  · rw [decide_eq_true hdes]
    cases m.data with
    | handshake h =>
      by_cases hres : h.type = kHandshakeResponse
      · exact Or.inl (by simp only [hres, if_true])
      · simp only [hres, if_false]
        obtain ⟨l, _, hl⟩ := canAddNode_reorders P (handshakeNode P m packet h) t
        -- the timer entry does not touch the local node
        have hlocal (canAdd : Bool) (d : NodeDetectionManager) :
            (if canAdd then { t.withNodes l with detection := d } else t.withNodes l).localNode =
              t.localNode := by
          split <;> rfl
        have hanswer (canAdd : Bool) (d : NodeDetectionManager) (xip : Bytes) :
            (if canAdd then { t.withNodes l with detection := d }
              else t.withNodes l).handshakeResponse mid m xip = t.handshakeResponse mid m xip := by
          rw [handshakeResponse, handshakeResponse, hlocal]
        rw [hl, hlocal]
        cases hxip : t.localNode.xipString with
        | none => exact Or.inl rfl
        | some xip =>
          dsimp only
          rw [hanswer]
          exact Or.inr ⟨hdes, ⟨h, rfl, hres⟩, xip, rfl, rfl⟩
    | _ => exact Or.inl rfl
  · rw [decide_eq_false hdes]
    exact Or.inl rfl

theorem sendBootstrapJoinResponse_cases : (t.sendBootstrapJoinResponse P mid m packet).1.getD [] = [] ∨
    ∃ xip dxip, t.localNode.xipString = some xip ∧ (m.isClientMsg = false → dxip = []) ∧
      (t.sendBootstrapJoinResponse P mid m packet).1 =
        some [sendData (t.joinResponseMessage mid m packet xip dxip) packet.fromIp packet.fromPort] := by
  rw [sendBootstrapJoinResponse]
  cases t.localNode.xipString with
  | none => exact Or.inl rfl
  | some xip =>
    dsimp only
    by_cases hflag : m.isClientMsg = true
    · rw [if_pos hflag]
      split_ifs
      · exact Or.inl rfl
      · exact Or.inr ⟨xip, _, rfl, fun hf => absurd hflag (by simp [hf]), rfl⟩
    · rw [if_neg hflag]
      split_ifs
      · exact Or.inl rfl
      · exact Or.inr ⟨xip, [], rfl, fun _ => rfl, rfl⟩

theorem handleBootstrapJoinRequest_cases : (t.handleBootstrapJoinRequest P mid m packet).1 = [] ∨
    ∃ xip dxip, t.localNode.xipString = some xip ∧ (m.isClientMsg = false → dxip = []) ∧
      (t.handleBootstrapJoinRequest P mid m packet).1 =
        [sendData (t.joinResponseMessage mid m packet xip dxip) packet.fromIp packet.fromPort] := by
  have hsent : (t.handleBootstrapJoinRequest P mid m packet).1 = [] ∨
      (t.handleBootstrapJoinRequest P mid m packet).1 =
        (t.sendBootstrapJoinResponse P mid m packet).1.getD [] := by
    rw [handleBootstrapJoinRequest]
    cases m.data with
    | bootstrapJoinRequest r =>
      generalize t.sendBootstrapJoinResponse P mid m packet = answer
      obtain ⟨sent, t'⟩ := answer
      cases sent <;> exact Or.inr rfl
    | _ => exact Or.inl rfl
  rcases hsent with hnil | hsent
  · exact Or.inl hnil
  · rw [hsent]
    rcases sendBootstrapJoinResponse_cases P mid m packet t with hnil | ⟨xip, dxip, hxip, hdxip, hone⟩
    · exact Or.inl hnil
    · exact Or.inr ⟨xip, dxip, hxip, hdxip, by rw [hone]; rfl⟩

/-- The records offered by `HandleBootstrapJoinRequest`; a client does not come to `AddNode`. -/
def joinRequestOffers : List (RoutingTable × NodeInfo) :=
  match m.data with
  | .bootstrapJoinRequest r =>
    if !t.localNode.clientMode && !m.isClientMsg then [(t, joinNode P m packet r)] else []
  | _ => []

/-- What a join request leaves: the sender is added unless it or this node is a client. -/
theorem handleBootstrapJoinRequest_table {r : BootstrapJoinRequest} (hdata : m.data = .bootstrapJoinRequest r) :
    (t.handleBootstrapJoinRequest P mid m packet).2 =
      if !t.localNode.clientMode && !m.isClientMsg then
        ((t.sendBootstrapJoinResponse P mid m packet).2.addNode P (joinNode P m packet r)).2
      else (t.sendBootstrapJoinResponse P mid m packet).2 := by
  rw [← sendBootstrapJoinResponse_isSome P mid m packet t, handleBootstrapJoinRequest, hdata]
  dsimp only
  generalize t.sendBootstrapJoinResponse P mid m packet = answer
  obtain ⟨_ | sent, t'⟩ := answer <;> rfl

theorem evolves_handleBootstrapJoinRequest : Evolves (joinRequestOffers P m packet t) t
    (t.handleBootstrapJoinRequest P mid m packet).2 := by
  rw [joinRequestOffers]
  cases hdata : m.data with
  | bootstrapJoinRequest r =>
    have hsend := keeps_sendBootstrapJoinResponse P mid m packet t
    rw [handleBootstrapJoinRequest_table P mid m packet t hdata]
    dsimp only
    split_ifs
    · exact .offer ((offered_addNode P _ _).after hsend)
    · exact .keep hsend
  | _ =>
    rw [handleBootstrapJoinRequest, hdata]
    exact .keep (.refl t)

def joinResponseOffers : List (RoutingTable × NodeInfo) :=
  if m.desNodeId ≠ t.localId then []
  else
    match m.data with
    | .bootstrapJoinResponse r =>
      if m.status = P.kadForbidden then [] else [(t, bootstrapNode P m packet r)]
    | _ => []

theorem evolves_handleBootstrapJoinResponse (mid : Bytes → UInt32) (draws : List UInt32) :
    Evolves (joinResponseOffers P m packet t) t
      (t.handleBootstrapJoinResponse P mid draws m packet).2 := by
  rw [joinResponseOffers, handleBootstrapJoinResponse, isDestination_direct]
  by_cases hdes : m.desNodeId = t.localId
  · rw [decide_eq_true hdes, if_neg (not_not.mpr hdes)]
    cases m.data with
    | bootstrapJoinResponse r =>
      by_cases hstatus : m.status = P.kadForbidden
      · simp only [if_pos hstatus]
        exact .keep (.refl t)
      · simp only [if_neg hstatus]
        have hoffer := (offered_addNode P (bootstrapNode P m packet r) _).after (.learnEndpoint m r t)
        generalize (t.learnEndpoint m r).addNode P (bootstrapNode P m packet r) = added at hoffer ⊢
        have hpush := hoffer.before (.pushBootstrapNode (bootstrapNode P m packet r) added.2)
        split_ifs
        · exact .offer hpush
        · exact .offer (hpush.before (keeps_joinAndSearch P _ mid draws _ _ _))
    | _ => exact .keep (.refl t)
  · rw [decide_eq_false hdes, if_pos hdes]
    exact .keep (.refl t)

end Handlers

end RoutingTable

/-- The handlers registered for message types. -/
inductive Handler where
  | handleConnectRequest | handleHandshake
  | handleBootstrapJoinRequest | handleBootstrapJoinResponse
  | handleFindNodesRequest | handleFindNodesResponse
  deriving DecidableEq

/-- `AddBaseHandlers`: the handler of a message type. -/
def MessageType.handler : MessageType → Option Handler
  | .kadConnectRequest => some .handleConnectRequest
  | .kadHandshake => some .handleHandshake
  | .kadBootstrapJoinRequest => some .handleBootstrapJoinRequest
  | .kadBootstrapJoinResponse => some .handleBootstrapJoinResponse
  | .kadFindNodesRequest => some .handleFindNodesRequest
  | .kadFindNodesResponse => some .handleFindNodesResponse
  | .none | .kadDropNodeRequest => Option.none

/-- A handler called with a message; `mid` gives the message ids it draws, `draws`
its random numbers. -/
structure HandlerCall where
  handler : Handler
  message : RoutingMessage
  packet : XPacket
  mid : Bytes → UInt32 := fun _ => 0
  draws : List UInt32 := []

namespace HandlerCall
open RoutingTable

def run (P : Platform) (c : HandlerCall) (t : RoutingTable) : List Outgoing × RoutingTable :=
  match c.handler with
  | .handleConnectRequest => t.handleConnectRequest P c.message
  | .handleHandshake => t.handleHandshake P (c.mid c.message.srcNodeId) c.message c.packet
  | .handleBootstrapJoinRequest =>
    t.handleBootstrapJoinRequest P (c.mid c.message.srcNodeId) c.message c.packet
  | .handleBootstrapJoinResponse =>
    let (sent, t) := t.handleBootstrapJoinResponse P c.mid c.draws c.message c.packet
    (sent.getD [], t)
  | .handleFindNodesRequest => t.handleFindNodesRequest P (c.mid c.message.srcNodeId) c.message c.packet
  | .handleFindNodesResponse => t.handleFindNodesResponse P c.mid c.message c.packet

/-- The records a call offers to `AddNode`, each with the table it meets. -/
def offers (P : Platform) (c : HandlerCall) (t : RoutingTable) : List (RoutingTable × NodeInfo) :=
  match c.handler with
  | .handleConnectRequest => []
  | .handleHandshake => handshakeOffers P c.message c.packet t
  | .handleBootstrapJoinRequest => joinRequestOffers P c.message c.packet t
  | .handleBootstrapJoinResponse => joinResponseOffers P c.message c.packet t
  | .handleFindNodesRequest => findNodesRequestOffers P c.message t
  | .handleFindNodesResponse => findNodesResponseOffers P c.message c.packet t c.mid

end HandlerCall

/-- All that a handler does to a table: it offers its records to `AddNode`. -/
theorem handlerCall_evolves (P : Platform) (c : HandlerCall) (t : RoutingTable) :
    RoutingTable.Evolves (c.offers P t) t (c.run P t).2 := by
  rw [HandlerCall.offers, HandlerCall.run]
  cases c.handler with
  | handleConnectRequest => exact .keep (RoutingTable.keeps_handleConnectRequest P _ t)
  | handleHandshake => exact RoutingTable.evolves_handleHandshake P _ _ _ t
  | handleBootstrapJoinRequest => exact RoutingTable.evolves_handleBootstrapJoinRequest P _ _ _ t
  | handleBootstrapJoinResponse => exact RoutingTable.evolves_handleBootstrapJoinResponse P _ _ t _ _
  | handleFindNodesRequest => exact RoutingTable.evolves_handleFindNodesRequest P _ _ _ t
  | handleFindNodesResponse => exact RoutingTable.evolves_handleFindNodesResponse P _ _ t _

end XKad
