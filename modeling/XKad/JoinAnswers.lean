import XKad.CoveredTables
import XKad.DynamicXips

/-!
# Answers to join requests

What calls and messages never undo: the identity of a table, the bootstrap nodes it has
remembered and its joined state. Whoever gets a join request answers it; a node that takes
the answer remembers where it came from, and joins if it knows the sender or has room.
-/
namespace XKad

namespace RoutingTable

/-- What no call and no message undoes: who the node is, the bootstrap nodes remembered
so far, to which `pushed` are added, and the joined state. -/
structure Onward (pushed : List NodeInfo) (t t' : RoutingTable) : Prop where
  localId : t'.localId = t.localId
  firstNode : t'.localNode.firstNode = t.localNode.firstNode
  clientMode : t'.localNode.clientMode = t.localNode.clientMode
  destroy : t'.destroy = t.destroy
  bootstrapNodes : t'.bootstrapNodes = t.bootstrapNodes ++ pushed
  joined : t.joined = true → t'.joined = true

namespace Onward

variable {t t' t'' : RoutingTable} {ns ns' : List NodeInfo}

theorem refl (t : RoutingTable) : Onward [] t t := ⟨rfl, rfl, rfl, rfl, (List.append_nil _).symm, id⟩

theorem trans (h : Onward ns t t') (h' : Onward ns' t' t'') : Onward (ns ++ ns') t t'' where
  localId := h'.localId.trans h.localId
  firstNode := h'.firstNode.trans h.firstNode
  clientMode := h'.clientMode.trans h.clientMode
  destroy := h'.destroy.trans h.destroy
  bootstrapNodes := by rw [h'.bootstrapNodes, h.bootstrapNodes, List.append_assoc]
  joined hj := h'.joined (h.joined hj)

theorem of_reorders (h : ∃ l, l.Perm t.nodes ∧ t' = t.withNodes l) : Onward [] t t' := by
  obtain ⟨l, _, rfl⟩ := h
  exact ⟨rfl, rfl, rfl, rfl, (List.append_nil _).symm, id⟩

theorem detection (d : NodeDetectionManager) (t : RoutingTable) : Onward [] t { t with detection := d } :=
  ⟨rfl, rfl, rfl, rfl, (List.append_nil _).symm, id⟩

theorem setJoin (bootId bootIp : Bytes) (bootPort : UInt16) (t : RoutingTable) :
    Onward [] t (t.setJoin bootId bootIp bootPort).2 := by
  rw [RoutingTable.setJoin]
  split
  · exact refl t
  · exact ⟨rfl, rfl, rfl, rfl, (List.append_nil _).symm, fun _ => rfl⟩

theorem learnEndpoint (m : RoutingMessage) (r : BootstrapJoinResponse) (t : RoutingTable) :
    Onward [] t (t.learnEndpoint m r) := by
  have hkeeps := Keeps.learnEndpoint m r t
  refine ⟨hkeeps.localId, ?_, hkeeps.clientMode, rfl, (List.append_nil _).symm, id⟩
  dsimp only [RoutingTable.learnEndpoint]
  split <;> rfl

theorem pushBootstrapNode (node : NodeInfo) (t : RoutingTable) : Onward [node] t (t.pushBootstrapNode node) :=
  ⟨rfl, rfl, rfl, rfl, rfl, id⟩

theorem addNode (P : Platform) (node : NodeInfo) (t : RoutingTable) : Onward [] t (t.addNode P node).2 := by
  obtain ⟨l, _, ⟨_, code, _, he⟩ | ⟨_, he⟩⟩ := addNode_cases P node t
  · rw [he]
    exact ⟨rfl, rfl, rfl, rfl, (List.append_nil _).symm, id⟩
  · rw [he]
    exact ⟨rfl, rfl, rfl, rfl, (List.append_nil _).symm, id⟩

theorem canAddNode (P : Platform) (node : NodeInfo) (t : RoutingTable) : Onward [] t (t.canAddNode P node).2 :=
  .of_reorders (canAddNode_reorders P node t)

theorem dropNode (node : NodeInfo) (t : RoutingTable) : Onward [] t (t.dropNode node) := by
  have hsame := LocalNodeInfo.sameIdentity_dropDxip t.localNode node.nodeId
  exact ⟨hsame.id, hsame.firstNode, hsame.clientMode, rfl, (List.append_nil _).symm, id⟩

theorem dropAll (ns : List NodeInfo) (t : RoutingTable) : Onward [] t (ns.foldl (fun t n => t.dropNode n) t) := by
  induction ns generalizing t with
  | nil => exact refl t
  | cons n ns ih => exact (dropNode n t).trans (ih _)

theorem op (P : Platform) (o : TableOp) (t : RoutingTable) : Onward [] t (o.run P t) := by
  cases o with
  | addNode node => exact addNode P node t
  | canAddNode node => exact canAddNode P node t
  | dropNode node => exact dropNode node t
  | onHeartbeatFailed ip port => exact dropAll _ t
  | handleNodeQuit m =>
    dsimp only [TableOp.run, handleNodeQuit]
    split
    · exact refl t
    · exact dropNode _ t
  | getClosestNodes target number baseXip => exact .of_reorders (getClosestNodes_reorders P target number baseXip t)
  | heartbeatProc =>
    dsimp only [TableOp.run, heartbeatProc]
    split
    · exact refl t
    · exact .of_reorders (sortNodesBy_reorders P _ _ _ t)
  | findNeighbours mid draws =>
    dsimp only [TableOp.run, findNeighbours]
    split
    · exact refl t
    · have hsorted : Onward [] t _ := .of_reorders (sortNodesBy_reorders P NodeInfo.nodeId t.localId
        (intOfUInt32 routingMaxNodesSize) t)
      exact hsorted.trans (.of_reorders (findClosestNodes_reorders P mid draws 1 _ _ _))

section Handlers

variable (P : Platform) (mid : UInt32) (m : RoutingMessage) (packet : XPacket) (t : RoutingTable)

theorem handleConnectRequest : Onward [] t (t.handleConnectRequest P m).2 := by
  rcases handleConnectRequest_cases P m t with hsorts | ⟨d, hd⟩
  · exact .of_reorders hsorts
  · rw [hd]
    exact detection d t

theorem handleHandshake : Onward [] t (t.handleHandshake P mid m packet).2 := by
  by_cases hdes : m.desNodeId = t.localId
  · cases hdata : m.data with
    | handshake h =>
      by_cases hres : h.type = kHandshakeResponse
      · rw [RoutingTable.handleHandshake, isDestination_direct, decide_eq_true hdes, hdata]
        dsimp only
        rw [if_pos hres]
        have hremoved := detection (t.detection.removeDetection P (handshakeNode P m packet h).publicIp
          (handshakeNode P m packet h).publicPort) t
        have hadded := hremoved.trans (addNode P (markSameVlan packet (handshakeNode P m packet h)) _)
        split_ifs
        · exact hadded.trans (setJoin _ _ _ _)
        · exact hadded
        · exact hremoved.trans (setJoin _ _ _ _)
        · exact hremoved
      · obtain ⟨d, hd⟩ := handleHandshake_requested P mid m packet t hdes hdata hres
        rw [hd]
        exact (canAddNode P (handshakeNode P m packet h) t).trans (detection d _)
    | _ =>
      rw [RoutingTable.handleHandshake, isDestination_direct, decide_eq_true hdes, hdata]
      exact refl t
  · rw [RoutingTable.handleHandshake, isDestination_direct, decide_eq_false hdes]
    exact refl t

theorem handleBootstrapJoinRequest : Onward [] t (t.handleBootstrapJoinRequest P mid m packet).2 := by
  cases hdata : m.data with
  | bootstrapJoinRequest r =>
    have hsend : Onward [] t (t.sendBootstrapJoinResponse P mid m packet).2 := by
      dsimp only [sendBootstrapJoinResponse]
      split
      · exact refl t
      · split_ifs <;> exact ⟨rfl, rfl, rfl, rfl, (List.append_nil _).symm, id⟩
    rw [handleBootstrapJoinRequest_table P mid m packet t hdata]
    split
    · exact hsend.trans (addNode P _ _)
    · exact hsend
  | _ =>
    rw [RoutingTable.handleBootstrapJoinRequest, hdata]
    exact refl t

theorem admitRequester (node : NodeInfo) : Onward [] t (t.admitRequester P node) := by
  rw [RoutingTable.admitRequester]
  split
  · have hcan := canAddNode P node t
    split <;> rename_i heq <;> rw [heq] at hcan
    · exact hcan.trans (addNode P node _)
    · exact hcan
  · exact refl t

theorem handleFindNodesRequest : Onward [] t (t.handleFindNodesRequest P mid m packet).2 := by
  by_cases hdes : m.desNodeId = t.localId
  · cases hdata : m.data with
    | findNodesRequest r =>
      rw [handleFindNodesRequest_table P mid m packet t hdes hdata]
      exact (admitRequester P t (nodeOfPb P r.srcNodeinfo)).trans (.of_reorders (replyNodes_reorders P _ r))
    | _ =>
      rw [RoutingTable.handleFindNodesRequest, if_neg (not_not.mpr hdes), hdata]
      exact refl t
  · rw [RoutingTable.handleFindNodesRequest, if_pos hdes]
    exact refl t

theorem handleFoundNode (mid : Bytes → UInt32) (n : PbNodeInfo) :
    Onward [] t (t.handleFoundNode P mid m packet n).2 := by
  have hcan := canAddNode P (foundNode P m n) t
  dsimp only [RoutingTable.handleFoundNode]
  split <;> rename_i heq <;> rw [heq] at hcan
  · exact hcan
  · split_ifs
    · exact hcan.trans (addNode P _ _)
    · exact hcan
    · exact hcan
    · exact hcan.trans (addNode P _ _)
    · exact hcan.trans (detection _ _)

theorem handleFindNodesResponse (mid : Bytes → UInt32) :
    Onward [] t (t.handleFindNodesResponse P mid m packet).2 := by
  have hloop (ns : List PbNodeInfo) (t : RoutingTable) : Onward [] t (t.handleFoundNodes P mid m packet ns).2 := by
    induction ns generalizing t with
    | nil => exact refl t
    | cons n ns ih => exact (handleFoundNode P m packet t mid n).trans (ih _)
  rw [RoutingTable.handleFindNodesResponse]
  split
  · exact refl t
  · cases m.data with
    | findNodesResponse r => exact hloop r.nodes t
    | _ => exact refl t

theorem joinAndSearch (mid : Bytes → UInt32) (draws : List UInt32) (bootId bootIp : Bytes) (bootPort : UInt16) :
    Onward [] t (match t.setJoin bootId bootIp bootPort with
      | (false, t) => (some [], t)
      | (true, t) => t.findClosestNodes P mid draws 1 routingMaxNodesSize []).2 := by
  have hjoin := setJoin bootId bootIp bootPort t
  split <;> rename_i heq <;> rw [heq] at hjoin
  · exact hjoin
  · exact hjoin.trans (.of_reorders (findClosestNodes_reorders P mid draws _ _ _ _))

theorem handleBootstrapJoinResponse (mid : Bytes → UInt32) (draws : List UInt32) :
    Onward ((joinResponseOffers P m packet t).map Prod.snd) t
      (t.handleBootstrapJoinResponse P mid draws m packet).2 := by
  rw [joinResponseOffers, RoutingTable.handleBootstrapJoinResponse, isDestination_direct]
  by_cases hdes : m.desNodeId = t.localId
  · rw [decide_eq_true hdes, if_neg (not_not.mpr hdes)]
    cases m.data with
    | bootstrapJoinResponse r =>
      have hpushed := ((learnEndpoint m r t).trans (addNode P (bootstrapNode P m packet r) _)).trans
        (pushBootstrapNode (bootstrapNode P m packet r) _)
      dsimp only
      split_ifs
      · exact refl t
      · exact hpushed
      · exact hpushed.trans (joinAndSearch P _ mid draws _ _ _)
    | _ => exact refl t
  · rw [decide_eq_false hdes, if_pos hdes]
    exact refl t

end Handlers

end Onward

end RoutingTable

open RoutingTable

/-- The bootstrap nodes an event adds: the sender of a join response that is taken. -/
def TableEvent.pushes (P : Platform) (t : RoutingTable) : TableEvent → List NodeInfo
  | .op _ => []
  | .call c =>
    match c.handler with
    | .handleBootstrapJoinResponse => (joinResponseOffers P c.message c.packet t).map Prod.snd
    | _ => []

theorem TableEvent.mem_pushes {P : Platform} {t : RoutingTable} {c : HandlerCall} {n : NodeInfo} :
    n ∈ (TableEvent.call c).pushes P t ↔ c.handler = .handleBootstrapJoinResponse ∧
      c.message.desNodeId = t.localId ∧ c.message.status ≠ P.kadForbidden ∧
      ∃ r, c.message.data = .bootstrapJoinResponse r ∧ n = bootstrapNode P c.message c.packet r := by
  obtain ⟨handler, m, packet, mid, draws⟩ := c
  cases handler with
  | handleBootstrapJoinResponse =>
    rw [TableEvent.pushes, joinResponseOffers]
    by_cases hdes : m.desNodeId = t.localId
    · cases m.data with
      | bootstrapJoinResponse r => by_cases hstatus : m.status = P.kadForbidden <;> simp [hdes, hstatus]
      | _ => simp
    · simp [hdes]
  | _ => simp [TableEvent.pushes]

namespace RoutingTable
namespace Onward

theorem event (P : Platform) (e : TableEvent) (t : RoutingTable) : Onward (e.pushes P t) t (e.run P t) := by
  cases e with
  | op o => exact op P o t
  | call c =>
    obtain ⟨handler, m, packet, mid, draws⟩ := c
    cases handler with
    | handleConnectRequest => exact handleConnectRequest P m t
    | handleHandshake => exact handleHandshake P _ m packet t
    | handleBootstrapJoinRequest => exact handleBootstrapJoinRequest P _ m packet t
    | handleBootstrapJoinResponse => exact handleBootstrapJoinResponse P m packet t mid draws
    | handleFindNodesRequest => exact handleFindNodesRequest P _ m packet t
    | handleFindNodesResponse => exact handleFindNodesResponse P m packet t mid

end Onward

section Taken

variable {P : Platform} {m : RoutingMessage} {t : RoutingTable} (h : TakesJoinResponse P t m) (packet : XPacket)
  (mid : Bytes → UInt32) (draws : List UInt32)

include h

end Taken

end RoutingTable

open RoutingTable

/-- A request `Bootstrap` makes for the node `id`. -/
structure IsJoinRequest (id : Bytes) (m : RoutingMessage) : Prop where
  type : m.type = .kadBootstrapJoinRequest
  srcNodeId : m.srcNodeId = id
  status : m.status = 0
  data : ∃ q, m.data = .bootstrapJoinRequest q

theorem setVersion_status (m : RoutingMessage) : (setVersion m).status = m.status := by
  obtain ⟨v, h⟩ := setVersion_eq m
  rw [h]

theorem isJoinRequest_bootstrap (mid : UInt32) (ip : Bytes) (port : UInt16) (service : UInt64)
    (t : RoutingTable) : ∀ o ∈ t.bootstrap mid ip port service, IsJoinRequest t.localId o.message := by
  intro o ho
  have htype := bootstrap_type o ho
  rw [List.mem_singleton.mp ho] at htype ⊢
  refine ⟨htype, ?_, ?_, ?_⟩
  · rw [sendData, setVersion_srcNodeId]
    dsimp only [setSpeClientMessage]
    split <;> rfl
  · rw [sendData, setVersion_status]
    dsimp only [setSpeClientMessage]
    split <;> rfl
  · rw [sendData, setVersion_data]
    exact ⟨_, rfl⟩

end XKad
