import XKad.ClientIsolation
import XKad.FindNodesReplies
import XKad.HandlerEffects

/-!
# Events of a table

What happens to a table is a completed call or a handled message. Every handler is
made of `AddNode`, `CanAddNode`, sorting queries and changes outside the indices, so
that messages lead to no other tables than calls do.
-/
namespace XKad

namespace RoutingTable

namespace Reachable

variable {P : Platform} {t : RoutingTable} (h : Reachable P t)

include h

theorem afterNextHop (m : RoutingMessage) : Reachable P (t.nextHop P m).2 := by
  rw [RoutingTable.nextHop]
  split
  · exact h
  · exact h.call (.getClosestNodes m.desNodeId routingMaxNodesSize false)

theorem afterRecursiveSend (m : RoutingMessage) : Reachable P (t.recursiveSend P m).2 := by
  have hnext := h.afterNextHop m
  rw [RoutingTable.recursiveSend]
  split <;> rename_i heq <;> rw [heq] at hnext <;> exact hnext

theorem afterSendToClosestNode (m : RoutingMessage) (addHop : Bool) :
    Reachable P (t.sendToClosestNode P m addHop).2 := by
  rw [RoutingTable.sendToClosestNode]
  split_ifs
  · exact h
  · exact h
  · exact h.afterRecursiveSend _
  · exact h.afterRecursiveSend _

theorem afterDetection (d : NodeDetectionManager) : Reachable P { t with detection := d } :=
  h.other ⟨rfl, rfl, rfl, rfl, rfl⟩

theorem afterSetJoin (bootId bootIp : Bytes) (bootPort : UInt16) :
    Reachable P (t.setJoin bootId bootIp bootPort).2 := by
  rw [RoutingTable.setJoin]
  split
  · exact h
  · exact h.other ⟨rfl, rfl, rfl, rfl, rfl⟩

theorem afterLearnEndpoint (m : RoutingMessage) (r : BootstrapJoinResponse) : Reachable P (t.learnEndpoint m r) := by
  apply h.other
  refine ⟨?_, rfl, rfl, rfl, rfl⟩
  dsimp only [RoutingTable.learnEndpoint, localId]
  split <;> rfl

/-- The search sorts as a query for the nodes next to the local id does. -/
theorem afterGetClosestAlphaNodes (draws : List UInt32) : Reachable P (t.getClosestAlphaNodes P draws).2 := by
  rw [RoutingTable.getClosestAlphaNodes]
  split
  · exact h
  · have hquery : Reachable P (t.getClosestNodes P t.localId 2 false).2 :=
      h.call (.getClosestNodes t.localId 2 false)
    have htable : (t.getClosestNodes P t.localId 2 false).2 =
        (t.sortNodesByTargetXid P t.localId kKadParamAlpha).2 := by
      rw [getClosestNodes, if_neg (by decide), if_neg (by simp),
        show intOfUInt32 2 = (kKadParamAlpha : ℤ) by decide]
      dsimp only
      split <;> rfl
    rw [htable] at hquery
    exact hquery

theorem afterFindClosestNodes (mid : Bytes → UInt32) (draws : List UInt32) (attempts : ℤ) (count : UInt32)
    (nodes : List NodeInfo) : Reachable P (t.findClosestNodes P mid draws attempts count nodes).2 := by
  have halpha := h.afterGetClosestAlphaNodes draws
  dsimp only [RoutingTable.findClosestNodes]
  split_ifs
  · exact h
  · exact h
  · split <;> rename_i heq <;> rw [heq] at halpha <;> exact halpha

theorem afterHandleConnectRequest (m : RoutingMessage) : Reachable P (t.handleConnectRequest P m).2 := by
  rw [RoutingTable.handleConnectRequest, isDestination_direct]
  cases connectRequestOf m.data with
  | none => exact h
  | some r =>
    by_cases hdes : m.desNodeId = t.localId
    · rw [decide_eq_true hdes]
      dsimp only
      split
      · exact h
      · exact h.afterDetection _
    · rw [decide_eq_false hdes]
      exact h.afterSendToClosestNode m true

theorem afterHandleHandshake (mid : UInt32) (m : RoutingMessage) (packet : XPacket) :
    Reachable P (t.handleHandshake P mid m packet).2 := by
  by_cases hdes : m.desNodeId = t.localId
  · cases hdata : m.data with
    | handshake g =>
      by_cases hres : g.type = kHandshakeResponse
      · rw [RoutingTable.handleHandshake, isDestination_direct, decide_eq_true hdes, hdata]
        dsimp only
        rw [if_pos hres]
        have hremoved := h.afterDetection (t.detection.removeDetection P (handshakeNode P m packet g).publicIp
          (handshakeNode P m packet g).publicPort)
        have hadded := hremoved.call (.addNode (markSameVlan packet (handshakeNode P m packet g)))
        split_ifs
        · exact hadded.afterSetJoin _ _ _
        · exact hadded
        · exact hremoved.afterSetJoin _ _ _
        · exact hremoved
      · obtain ⟨d, hd⟩ := handleHandshake_requested P mid m packet t hdes hdata hres
        rw [hd]
        exact (h.call (.canAddNode (handshakeNode P m packet g))).afterDetection d
    | _ =>
      rw [RoutingTable.handleHandshake, isDestination_direct, decide_eq_true hdes, hdata]
      exact h
  · rw [RoutingTable.handleHandshake, isDestination_direct, decide_eq_false hdes]
    exact h

theorem afterSendBootstrapJoinResponse (mid : UInt32) (m : RoutingMessage) (packet : XPacket) :
    Reachable P (t.sendBootstrapJoinResponse P mid m packet).2 := by
  apply h.other
  dsimp only [RoutingTable.sendBootstrapJoinResponse]
  split
  · exact ⟨rfl, rfl, rfl, rfl, rfl⟩
  · split_ifs <;> exact ⟨rfl, rfl, rfl, rfl, rfl⟩

theorem afterHandleBootstrapJoinRequest (mid : UInt32) (m : RoutingMessage) (packet : XPacket) :
    Reachable P (t.handleBootstrapJoinRequest P mid m packet).2 := by
  cases hdata : m.data with
  | bootstrapJoinRequest r =>
    have hsent := h.afterSendBootstrapJoinResponse mid m packet
    rw [handleBootstrapJoinRequest_table P mid m packet t hdata]
    split
    · exact hsent.call (.addNode _)
    · exact hsent
  | _ =>
    rw [RoutingTable.handleBootstrapJoinRequest, hdata]
    exact h

theorem afterHandleBootstrapJoinResponse (mid : Bytes → UInt32) (draws : List UInt32) (m : RoutingMessage)
    (packet : XPacket) : Reachable P (t.handleBootstrapJoinResponse P mid draws m packet).2 := by
  rw [RoutingTable.handleBootstrapJoinResponse, isDestination_direct]
  by_cases hdes : m.desNodeId = t.localId
  · rw [decide_eq_true hdes]
    dsimp only
    cases m.data with
    | bootstrapJoinResponse r =>
      dsimp only
      split
      · exact h
      · have hadded := (h.afterLearnEndpoint m r).call (.addNode (bootstrapNode P m packet r))
        have hpushed : Reachable P (((t.learnEndpoint m r).addNode P (bootstrapNode P m packet r)).2.pushBootstrapNode
          (bootstrapNode P m packet r)) := hadded.other ⟨rfl, rfl, rfl, rfl, rfl⟩
        split
        · exact hpushed
        · have hjoin := hpushed.afterSetJoin r.bootstrapId packet.fromIp packet.fromPort
          split <;> rename_i heq <;> rw [heq] at hjoin
          · exact hjoin
          · exact hjoin.afterFindClosestNodes mid draws 1 routingMaxNodesSize []
    | _ => exact h
  · rw [decide_eq_false hdes]
    exact h

theorem afterHandleFindNodesRequest (mid : UInt32) (m : RoutingMessage) (packet : XPacket) :
    Reachable P (t.handleFindNodesRequest P mid m packet).2 := by
  by_cases hdes : m.desNodeId = t.localId
  · cases hdata : m.data with
    | findNodesRequest r =>
      rw [handleFindNodesRequest_table P mid m packet t hdes hdata]
      exact (h.admitRequester (nodeOfPb P r.srcNodeinfo)).call (.getClosestNodes r.targetId (r.count + 1) false)
    | _ =>
      rw [RoutingTable.handleFindNodesRequest, if_neg (not_not.mpr hdes), hdata]
      exact h
  · rw [RoutingTable.handleFindNodesRequest, if_pos hdes]
    exact h

theorem afterHandleFoundNode (mid : Bytes → UInt32) (m : RoutingMessage) (packet : XPacket) (n : PbNodeInfo) :
    Reachable P (t.handleFoundNode P mid m packet n).2 := by
  have hcan := h.call (.canAddNode (foundNode P m n))
  dsimp only [TableOp.run] at hcan
  rw [RoutingTable.handleFoundNode]
  dsimp only
  split <;> rename_i heq <;> rw [heq] at hcan
  · exact hcan
  · split_ifs
    · exact hcan.call (.addNode _)
    · exact hcan
    · exact hcan
    · exact hcan.call (.addNode _)
    · exact hcan.afterDetection _

theorem afterHandleFoundNodes (mid : Bytes → UInt32) (m : RoutingMessage) (packet : XPacket)
    (ns : List PbNodeInfo) : Reachable P (t.handleFoundNodes P mid m packet ns).2 := by
  induction ns generalizing t with
  | nil => exact h
  | cons n ns ih => exact ih (h.afterHandleFoundNode mid m packet n)

theorem afterHandleFindNodesResponse (mid : Bytes → UInt32) (m : RoutingMessage) (packet : XPacket) :
    Reachable P (t.handleFindNodesResponse P mid m packet).2 := by
  rw [RoutingTable.handleFindNodesResponse]
  split_ifs
  · exact h
  · cases m.data with
    | findNodesResponse r => exact h.afterHandleFoundNodes mid m packet r.nodes
    | _ => exact h

/-- Whatever message is handled, the table stays reachable. -/
theorem afterHandlerCall (c : HandlerCall) : Reachable P (c.run P t).2 := by
  rw [HandlerCall.run]
  cases c.handler with
  | handleConnectRequest => exact h.afterHandleConnectRequest c.message
  | handleHandshake => exact h.afterHandleHandshake _ c.message c.packet
  | handleBootstrapJoinRequest => exact h.afterHandleBootstrapJoinRequest _ c.message c.packet
  | handleBootstrapJoinResponse => exact h.afterHandleBootstrapJoinResponse c.mid c.draws c.message c.packet
  | handleFindNodesRequest => exact h.afterHandleFindNodesRequest _ c.message c.packet
  | handleFindNodesResponse => exact h.afterHandleFindNodesResponse c.mid c.message c.packet

theorem afterLocalAction (a : LocalAction) : Reachable P (a.run P t).2 := by
  cases a with
  | bootstrap => exact h
  | sendFindClosestNodes => exact h
  | findNeighbours mid draws => exact h.call (.findNeighbours mid draws)
  | doTetection mid => exact h.afterDetection _
  | onHeartbeatFailed ip port => exact h.call (.onHeartbeatFailed ip port)

end Reachable
end RoutingTable

section Networks

variable {ι : Type} [DecidableEq ι] {P : Platform} {D : Deployment ι} {N : Network ι}
  {ok : HandlerCall → RoutingTable → Prop}

/-- The tables of a network are reached by the calls of a table. -/
theorem networkRun_reachable (h : NetworkRun P D ok N) (i : ι) : RoutingTable.Reachable P (N.table i) := by
  induction h with
  | start => exact .init _ _
  | act _ j a ih =>
    by_cases hj : i = j
    · subst hj
      simpa [Network.after] using ih.afterLocalAction a
    · simpa [Network.after, hj] using ih
  | deliver _ j c _ _ _ _ ih =>
    by_cases hj : i = j
    · subst hj
      simpa [Network.after] using ih.afterHandlerCall c
    · simpa [Network.after, hj] using ih

theorem networkRun_localId (h : NetworkRun P D ok N) (i : ι) : (N.table i).localId = (D.localNode i).id := by
  induction h with
  | start => exact RoutingTable.init_localId _ _
  | act _ j a ih =>
    by_cases hj : i = j
    · subst hj
      simpa [Network.after] using (RoutingTable.KeepsOut.action ∅ P a _).localId.trans ih
    · simpa [Network.after, hj] using ih
  | deliver _ j c _ _ _ _ ih =>
    by_cases hj : i = j
    · subst hj
      simpa [Network.after] using (handlerCall_evolves P c _).changes.localId.trans ih
    · simpa [Network.after, hj] using ih

/-- No node becomes a client, and none stops being one. -/
theorem networkRun_clientMode (h : NetworkRun P D ok N) (i : ι) :
    (N.table i).localNode.clientMode = (D.localNode i).clientMode := by
  induction h with
  | start => exact RoutingTable.init_clientMode _ _
  | act _ j a ih =>
    by_cases hj : i = j
    · subst hj
      simpa [Network.after] using (RoutingTable.KeepsOut.action ∅ P a _).clientMode.trans ih
    · simpa [Network.after, hj] using ih
  | @deliver N _ j c _ _ _ _ _ ih =>
    by_cases hj : i = j
    · subst hj
      have hout : RoutingTable.KeepsOut ∅ (N.table i) (c.run P (N.table i)).2 :=
        .evolves (handlerCall_evolves P c (N.table i)) (by simp)
      simpa [Network.after] using hout.clientMode.trans ih
    · simpa [Network.after, hj] using ih

end Networks
end XKad
