import XKad.ClientIsolation
import XKad.FindNodesReplies
import XKad.HashIndex
import XKad.JoinedTables

/-!
# Records and the nodes they name

A record reaches a table by way of messages that other nodes made of their own tables.
In a network that delivers messages at will, a record nevertheless says of the node it
names what that node says of itself, as long as no node is listed at the public
endpoint of the node that reads the list: `HandleFindNodesResponse` gives such a
record the xid of the reader. Then different nodes have different xids in every table,
so that the hash map agrees with the nodes.
-/
namespace XKad
open Std

/-- What the message says of nodes is so; `own id xid natType` is true of what a node
says of itself. -/
def MessageData.Genuine (own : Bytes → Bytes → Int32 → Prop) (src : Bytes) : MessageData → Prop
  | .handshake h => own src h.xid h.natType
  | .bootstrapJoinRequest r => own src r.xid r.natType
  | .bootstrapJoinResponse r => own src r.xid r.natType
  | .findNodesRequest r => own r.srcNodeinfo.id r.srcNodeinfo.xid r.srcNodeinfo.natType
  | .findNodesResponse r => ∀ n ∈ r.nodes, own n.id n.xid n.natType
  | .empty | .malformed | .connectRequest _ => True

def RoutingMessage.Genuine (own : Bytes → Bytes → Int32 → Prop) (m : RoutingMessage) : Prop :=
  m.data.Genuine own m.srcNodeId

/-- No listed node has the public endpoint of the node that reads the list. -/
def HandlerCall.EndpointsApart (c : HandlerCall) (t : RoutingTable) : Prop :=
  ∀ r, c.message.data = .findNodesResponse r → ∀ n ∈ r.nodes,
    ¬ (n.publicIp = t.localNode.publicIp ∧ toPort n.publicPort = t.localNode.publicPort)

/-- The nodes a message lists. -/
def MessageData.found : MessageData → List PbNodeInfo
  | .findNodesResponse r => r.nodes
  | _ => []

theorem HandlerCall.endpointsApart_iff {c : HandlerCall} {t : RoutingTable} :
    (∀ n ∈ c.message.data.found,
      ¬ (n.publicIp = t.localNode.publicIp ∧ toPort n.publicPort = t.localNode.publicPort)) ↔ c.EndpointsApart t := by
  constructor
  · intro h r hr
    rwa [hr] at h
  · intro h n hn
    cases hdata : c.message.data with
    | findNodesResponse r =>
      rw [hdata] at hn
      exact h r hdata n hn
    | _ =>
      rw [hdata] at hn
      cases hn

instance (c : HandlerCall) (t : RoutingTable) : Decidable (c.EndpointsApart t) :=
  decidable_of_iff _ HandlerCall.endpointsApart_iff

namespace RoutingTable

/-- The local node is one of the nodes. -/
def Owned (own : Bytes → Bytes → Int32 → Prop) (t : RoutingTable) : Prop :=
  own t.localId t.localNode.xid t.localNode.natType

/-- The records are what the nodes say of themselves. -/
def NodesGenuine (own : Bytes → Bytes → Int32 → Prop) (t : RoutingTable) : Prop :=
  ∀ n ∈ t.nodes, own n.nodeId n.xid n.natType

/-- The messages handed to the transport are genuine. -/
def SendsGenuine (own : Bytes → Bytes → Int32 → Prop) (sent : List Outgoing) : Prop :=
  ∀ o ∈ sent, o.message.Genuine own

variable {own : Bytes → Bytes → Int32 → Prop}

theorem SendsGenuine.nil : SendsGenuine own [] := by simp [SendsGenuine]

theorem genuine_setVersion {m : RoutingMessage} (h : m.Genuine own) : (setVersion m).Genuine own := by
  rw [RoutingMessage.Genuine, setVersion_data, setVersion_srcNodeId]
  exact h

theorem SendsGenuine.sendData {m : RoutingMessage} (h : m.Genuine own) (ip : Bytes) (port : UInt16) :
    SendsGenuine own [sendData m ip port] := by
  intro o ho
  rw [List.mem_singleton.mp ho]
  exact genuine_setVersion h

theorem SendsGenuine.sendDataToNode {m : RoutingMessage} (h : m.Genuine own) (node : NodeInfo) :
    SendsGenuine own [sendDataToNode m node] := by
  intro o ho
  rw [List.mem_singleton.mp ho, sendDataToNode_message]
  exact genuine_setVersion h

theorem Owned.sameLocal {t t' : RoutingTable} (h : Owned own t) (hs : SameLocal t t') : Owned own t' := by
  rw [Owned, localId, hs.localNode]
  exact h

theorem Owned.learnEndpoint {t : RoutingTable} (h : Owned own t) (m : RoutingMessage) (r : BootstrapJoinResponse) :
    Owned own (t.learnEndpoint m r) := by
  dsimp only [Owned, RoutingTable.learnEndpoint, localId, LocalNodeInfo.addDxip]
  split <;> exact h

section Senders
variable {P : Platform} {t : RoutingTable} (h : Owned own t)

include h

theorem Owned.bootstrap (mid : UInt32) (peerIp : Bytes) (peerPort : UInt16) (service : UInt64) :
    SendsGenuine own (t.bootstrap mid peerIp peerPort service) := by
  apply SendsGenuine.sendData
  rw [Owned] at h
  dsimp only [setSpeClientMessage]
  split <;> exact h

theorem Owned.findClosestNodesMessage (mid : UInt32) (nodeId : Bytes) (count : UInt32) (nodes : List NodeInfo)
    (service : UInt64) (xip : Bytes) (node : NodeInfo) :
    SendsGenuine own [sendDataToNode (t.findClosestNodesMessage P mid nodeId count nodes service xip) node] := by
  apply SendsGenuine.sendDataToNode
  exact h

theorem Owned.findClosestNodes (mid : Bytes → UInt32) (draws : List UInt32) (attempts : ℤ) (count : UInt32)
    (nodes : List NodeInfo) :
    SendsGenuine own ((t.findClosestNodes P mid draws attempts count nodes).1.getD []) := by
  intro o ho
  obtain ⟨_, _, _, _, _, rfl⟩ := findClosestNodes_sent ho
  exact h.findClosestNodesMessage _ _ _ _ _ _ _ _ (List.mem_singleton_self _)

theorem Owned.findNeighbours (mid : Bytes → UInt32) (draws : List UInt32) :
    SendsGenuine own ((t.findNeighbours P mid draws).1.getD []) := by
  have hsorted := h.sameLocal (.of_reorders
    (sortNodesBy_reorders P NodeInfo.nodeId t.localId (intOfUInt32 routingMaxNodesSize) t))
  rw [RoutingTable.findNeighbours]
  split
  · exact .nil
  · exact hsorted.findClosestNodes mid draws _ _ _

theorem Owned.doTetection (mid : Bytes → UInt32) :
    SendsGenuine own (t.detection.doTetection t.localNode mid).1 := by
  rw [NodeDetectionManager.doTetection]
  split
  · exact .nil
  · intro o ho
    obtain ⟨e, _, ho⟩ := List.mem_flatMap.mp ho
    split at ho
    · rw [NodeDetectionManager.handshake] at ho
      split at ho
      · cases ho
      · rw [List.mem_singleton.mp ho]
        exact h
    · cases ho

variable {m : RoutingMessage} {packet : XPacket} {mid : UInt32}

theorem Owned.handleHandshake : SendsGenuine own (t.handleHandshake P mid m packet).1 := by
  rcases handleHandshake_cases P mid m packet t with hnil | ⟨hdes, _, xip, _, hone⟩
  · rw [hnil]
    exact .nil
  · rw [hone]
    apply SendsGenuine.sendData
    rw [Owned, ← hdes] at h
    exact h

theorem Owned.handleBootstrapJoinRequest : SendsGenuine own (t.handleBootstrapJoinRequest P mid m packet).1 := by
  rcases handleBootstrapJoinRequest_cases P mid m packet t with hnil | ⟨xip, dxip, _, _, hone⟩
  · rw [hnil]
    exact .nil
  · rw [hone]
    apply SendsGenuine.sendData
    exact h

theorem Owned.handleBootstrapJoinResponse (mid : Bytes → UInt32) (draws : List UInt32) :
    SendsGenuine own ((t.handleBootstrapJoinResponse P mid draws m packet).1.getD []) := by
  rw [RoutingTable.handleBootstrapJoinResponse, isDestination_direct]
  by_cases hdes : m.desNodeId = t.localId
  · rw [decide_eq_true hdes]
    cases m.data with
    | bootstrapJoinResponse r =>
      have hadded := (h.learnEndpoint m r).sameLocal (.addNode P (bootstrapNode P m packet r) _)
      dsimp only
      generalize (t.learnEndpoint m r).addNode P (bootstrapNode P m packet r) = added at hadded ⊢
      split_ifs
      · exact .nil
      · exact .nil
      · split <;> rename_i heq
        · exact .nil
        · rw [setJoin] at heq
          split at heq
          · cases heq
          · cases heq
            apply Owned.findClosestNodes
            exact hadded
    | _ => exact .nil
  · rw [decide_eq_false hdes]
    exact .nil

omit h in
/-- Connect requests say nothing of nodes that reaches a table. -/
theorem sendsGenuine_of_connectRequest {sent : List Outgoing}
    (hsent : ∀ o ∈ sent, o.message.data = .empty ∨ ∃ r, o.message.data = .connectRequest r) :
    SendsGenuine own sent := by
  intro o ho
  rw [RoutingMessage.Genuine]
  rcases hsent o ho with hdata | ⟨r, hdata⟩ <;> rw [hdata] <;> trivial

omit h in
theorem sendsGenuine_handleConnectRequest : SendsGenuine own (t.handleConnectRequest P m).1 := by
  cases hparse : connectRequestOf m.data with
  | none =>
    simp [RoutingTable.handleConnectRequest, hparse, SendsGenuine]
  | some q =>
    have hm : m.data = .empty ∨ ∃ r, m.data = .connectRequest r := by
      cases hdata : m.data with
      | empty => exact Or.inl rfl
      | connectRequest r => exact Or.inr ⟨r, rfl⟩
      | _ => simp [hdata, connectRequestOf] at hparse
    apply sendsGenuine_of_connectRequest
    rcases handleConnectRequest_sends P m t with he | he
    · simp [he]
    · rw [he]
      obtain he | ⟨node, _, he⟩ := sendToClosestNode_cases P m t
      · simp [he]
      · intro o ho
        rw [he, List.mem_singleton] at ho
        rw [ho, sendDataToNode_message, setVersion_data]
        exact hm

omit h in
theorem sendsGenuine_handleFoundNode (mid : Bytes → UInt32) (n : PbNodeInfo) :
    SendsGenuine own (t.handleFoundNode P mid m packet n).1 := by
  dsimp only [RoutingTable.handleFoundNode]
  split
  · exact .nil
  · split_ifs
    · exact .nil
    · exact .nil
    · exact .nil
    · exact .nil
    · rw [RoutingTable.sendConnectRequest]
      split
      · exact .nil
      · apply SendsGenuine.sendData
        dsimp only [connectRequestMessage]
        split <;> trivial

omit h in
theorem sendsGenuine_handleFoundNodes (mid : Bytes → UInt32) (ns : List PbNodeInfo) (t : RoutingTable) :
    SendsGenuine own (t.handleFoundNodes P mid m packet ns).1 := by
  induction ns generalizing t with
  | nil => exact .nil
  | cons n ns ih =>
    intro o ho
    rcases List.mem_append.mp ho with ho | ho
    · exact sendsGenuine_handleFoundNode mid n o ho
    · exact ih _ o ho

end Senders
theorem markSameVlan_natType (packet : XPacket) (node : NodeInfo) :
    (markSameVlan packet node).natType = node.natType := by
  rw [markSameVlan]
  split <;> rfl

section Replies
variable {P : Platform} {t : RoutingTable}

theorem mem_getClosestNodes {target : Bytes} {number : UInt32} {n : NodeInfo}
    (hn : n ∈ (t.getClosestNodes P target number false).1) : n ∈ t.nodes := by
  obtain ⟨l, hl, hs⟩ := sortNodesBy_reorders P NodeInfo.nodeId target (intOfUInt32 number) t
  rw [getClosestNodes] at hn
  split_ifs at hn with hzero hbase
  · cases hn
  · cases hbase
  · dsimp only [sortNodesByTargetXid] at hn
    rw [hs] at hn
    split_ifs at hn
    · cases hn
    · exact hl.mem_iff.mp (List.mem_of_mem_take hn)

theorem mem_listNodes {target : Bytes} {contain : Bytes → Bool} {ns : List NodeInfo} {listed : List PbNodeInfo}
    {e : PbNodeInfo} (he : e ∈ listNodes target contain ns listed) : e ∈ listed ∨ ∃ n ∈ ns, e = pbOfNode n := by
  induction ns generalizing listed with
  | nil => exact Or.inl he
  | cons n ns ih =>
    have hlater (h : e ∈ listed ∨ ∃ n ∈ ns, e = pbOfNode n) : e ∈ listed ∨ ∃ n' ∈ n :: ns, e = pbOfNode n' := by
      apply h.imp_right
      rintro ⟨n', hn', heq⟩
      exact ⟨n', List.mem_cons_of_mem _ hn', heq⟩
    rw [listNodes] at he
    split_ifs at he
    · exact hlater (ih he)
    · exact hlater (ih he)
    · exact Or.inl he
    · rcases ih he with hin | hin
      · rcases List.mem_append.mp hin with hin | hin
        · exact Or.inl hin
        · exact Or.inr ⟨n, List.mem_cons_self, List.mem_singleton.mp hin⟩
      · exact hlater (Or.inr hin)

theorem localEntry_genuine (h : Owned own t) {es : List PbNodeInfo} (hes : localEntry t.localNode = some es) :
    ∀ e ∈ es, own e.id e.xid e.natType := by
  rw [localEntry] at hes
  intro e he
  split_ifs at hes
  · obtain ⟨xip, _, rfl⟩ := Option.map_eq_some_iff.mp hes
    rw [List.mem_singleton.mp he]
    exact h
  · obtain ⟨xip, _, rfl⟩ := Option.map_eq_some_iff.mp hes
    rw [List.mem_singleton.mp he]
    exact h
  · cases hes
    cases he

theorem replyNodes_genuine (h : Owned own t) (hnodes : NodesGenuine own t) (r : FindClosestNodesRequest)
    {es : List PbNodeInfo} (hes : (t.replyNodes P r).1 = some es) : ∀ e ∈ es, own e.id e.xid e.natType := by
  have hsorted : Owned own (t.getClosestNodes P r.targetId (r.count + 1) false).2 :=
    h.sameLocal (.of_reorders (getClosestNodes_reorders P r.targetId (r.count + 1) false t))
  dsimp only [replyNodes] at hes
  obtain ⟨listed, hlisted, rfl⟩ := Option.map_eq_some_iff.mp hes
  intro e he
  rcases mem_listNodes he with he | ⟨n, hn, rfl⟩
  · split_ifs at hlisted
    · cases hlisted
      cases he
    · exact localEntry_genuine hsorted hlisted e he
  · exact hnodes n (mem_getClosestNodes hn)

end Replies

section Offers
variable {P : Platform} {t t' : RoutingTable}

/-- Genuine offers leave genuine records. -/
theorem NodesGenuine.evolves {os : List (RoutingTable × NodeInfo)} (h : NodesGenuine own t) (hev : Evolves os t t')
    (hos : ∀ o ∈ os, own o.2.nodeId o.2.xid o.2.natType) : NodesGenuine own t' := by
  refine hev.induct (I := NodesGenuine own) (fun s s' hk hs n hn => hs n (hk.nodes.mem_iff.mp hn)) ?_ h
  intro s u node ho _ _ hu n hn
  rcases List.mem_append.mp hn with hn | hn
  · exact hu n hn
  · rw [List.mem_singleton.mp hn]
    exact hos _ ho

theorem NodesGenuine.dropAll (h : NodesGenuine own t) (ns : List NodeInfo) :
    NodesGenuine own (ns.foldl (fun t n => t.dropNode n) t) := by
  induction ns generalizing t with
  | nil => exact h
  | cons n ns ih => exact ih (fun n' hn' => h n' (List.mem_of_mem_eraseP hn'))

theorem foundOffers_genuine {m : RoutingMessage} {packet : XPacket} {mid : Bytes → UInt32} {ns : List PbNodeInfo}
    (hgenuine : ∀ n ∈ ns, own n.id n.xid n.natType)
    (hapart : ∀ n ∈ ns, ¬ (n.publicIp = t.localNode.publicIp ∧ toPort n.publicPort = t.localNode.publicPort)) :
    ∀ o ∈ foundOffers P m packet mid ns t, own o.2.nodeId o.2.xid o.2.natType := by
  induction ns generalizing t with
  | nil => exact fun o ho => by cases ho
  | cons n ns ih =>
    intro o ho
    rcases List.mem_append.mp ho with ho | ho
    · obtain ⟨node, hnode, rfl⟩ := Option.map_eq_some_iff.mp (Option.mem_toList.mp ho)
      dsimp only [foundRecord] at hnode
      split_ifs at hnode with hsame
      · exact absurd hsame (hapart n List.mem_cons_self)
      · cases hnode
        exact hgenuine n List.mem_cons_self
    · apply ih (fun n' hn' => hgenuine n' (List.mem_cons_of_mem _ hn')) _ o ho
      rw [(sameLocal_handleFoundNode P m packet t mid n).localNode]
      exact fun n' hn' => hapart n' (List.mem_cons_of_mem _ hn')

section Handlers
variable {m : RoutingMessage} (hm : m.Genuine own) {packet : XPacket}

include hm

theorem handshakeOffers_genuine :
    ∀ o ∈ handshakeOffers P m packet t, own o.2.nodeId o.2.xid o.2.natType := by
  rw [RoutingMessage.Genuine] at hm
  rw [handshakeOffers]
  split
  · exact List.forall_mem_nil _
  · split
    · rename_i g hdata
      rw [hdata] at hm
      split
      · rw [List.forall_mem_singleton, markSameVlan_nodeId, markSameVlan_xid, markSameVlan_natType]
        exact hm
      · exact List.forall_mem_nil _
    · exact List.forall_mem_nil _

theorem joinRequestOffers_genuine :
    ∀ o ∈ joinRequestOffers P m packet t, own o.2.nodeId o.2.xid o.2.natType := by
  rw [RoutingMessage.Genuine] at hm
  rw [joinRequestOffers]
  split
  · rename_i r hdata
    rw [hdata] at hm
    split
    · exact List.forall_mem_singleton.mpr hm
    · exact List.forall_mem_nil _
  · exact List.forall_mem_nil _

theorem joinResponseOffers_genuine :
    ∀ o ∈ joinResponseOffers P m packet t, own o.2.nodeId o.2.xid o.2.natType := by
  rw [RoutingMessage.Genuine] at hm
  rw [joinResponseOffers]
  split
  · exact List.forall_mem_nil _
  · split
    · rename_i r hdata
      rw [hdata] at hm
      split
      · exact List.forall_mem_nil _
      · exact List.forall_mem_singleton.mpr hm
    · exact List.forall_mem_nil _

theorem findNodesRequestOffers_genuine :
    ∀ o ∈ findNodesRequestOffers P m t, own o.2.nodeId o.2.xid o.2.natType := by
  rw [RoutingMessage.Genuine] at hm
  rw [findNodesRequestOffers]
  split
  · exact List.forall_mem_nil _
  · split
    · rename_i r hdata
      rw [hdata] at hm
      split
      · exact List.forall_mem_singleton.mpr hm
      · exact List.forall_mem_nil _
    · exact List.forall_mem_nil _

theorem findNodesResponseOffers_genuine {mid : Bytes → UInt32}
    (hapart : ∀ r, m.data = .findNodesResponse r → ∀ n ∈ r.nodes,
      ¬ (n.publicIp = t.localNode.publicIp ∧ toPort n.publicPort = t.localNode.publicPort)) :
    ∀ o ∈ findNodesResponseOffers P m packet t mid, own o.2.nodeId o.2.xid o.2.natType := by
  rw [RoutingMessage.Genuine] at hm
  rw [findNodesResponseOffers]
  split
  · exact List.forall_mem_nil _
  · split
    · rename_i r hdata
      rw [hdata] at hm
      exact foundOffers_genuine hm (hapart r hdata)
    · exact List.forall_mem_nil _

end Handlers

theorem offers_genuine {c : HandlerCall} (hm : c.message.Genuine own) (hapart : c.EndpointsApart t) :
    ∀ o ∈ c.offers P t, own o.2.nodeId o.2.xid o.2.natType := by
  rw [HandlerCall.offers]
  cases c.handler with
  | handleConnectRequest => exact List.forall_mem_nil _
  | handleHandshake => exact handshakeOffers_genuine hm
  | handleBootstrapJoinRequest => exact joinRequestOffers_genuine hm
  | handleBootstrapJoinResponse => exact joinResponseOffers_genuine hm
  | handleFindNodesRequest => exact findNodesRequestOffers_genuine hm
  | handleFindNodesResponse => exact findNodesResponseOffers_genuine hm hapart

end Offers
section Steps
variable {P : Platform} {t : RoutingTable}

theorem NodesGenuine.admitRequester (h : NodesGenuine own t) {node : NodeInfo}
    (hnode : own node.nodeId node.xid node.natType) : NodesGenuine own (t.admitRequester P node) := by
  apply h.evolves (evolves_admitRequester P t node)
  intro o ho
  split at ho
  · rw [List.mem_singleton.mp ho]
    exact hnode
  · cases ho

theorem Owned.handleFindNodesRequest (h : Owned own t) (hnodes : NodesGenuine own t) {m : RoutingMessage}
    (hm : m.Genuine own) (mid : UInt32) (packet : XPacket) :
    SendsGenuine own (t.handleFindNodesRequest P mid m packet).1 := by
  rw [RoutingTable.handleFindNodesRequest]
  split_ifs
  · exact .nil
  · cases hdata : m.data with
    | findNodesRequest r =>
      rw [RoutingMessage.Genuine, hdata] at hm
      have howned := h.sameLocal (sameLocal_admitRequester P t (nodeOfPb P r.srcNodeinfo))
      have hadmitted : NodesGenuine own (t.admitRequester P (nodeOfPb P r.srcNodeinfo)) :=
        hnodes.admitRequester hm
      dsimp only
      split <;> rename_i heq
      · exact .nil
      · split_ifs
        · exact .nil
        · apply SendsGenuine.sendData
          exact replyNodes_genuine howned hadmitted r (congrArg Prod.fst heq)
    | _ => exact .nil

/-- A call sends genuine messages for a genuine message. -/
theorem sendsGenuine_call (h : Owned own t) (hnodes : NodesGenuine own t) {c : HandlerCall}
    (hm : c.message.Genuine own) : SendsGenuine own (c.run P t).1 := by
  rw [HandlerCall.run]
  cases c.handler with
  | handleConnectRequest => exact sendsGenuine_handleConnectRequest
  | handleHandshake => exact h.handleHandshake
  | handleBootstrapJoinRequest => exact h.handleBootstrapJoinRequest
  | handleBootstrapJoinResponse => exact h.handleBootstrapJoinResponse c.mid c.draws
  | handleFindNodesRequest => exact h.handleFindNodesRequest hnodes hm _ _
  | handleFindNodesResponse =>
    dsimp only
    rw [RoutingTable.handleFindNodesResponse]
    split_ifs
    · exact .nil
    · cases c.message.data with
      | findNodesResponse r => exact sendsGenuine_handleFoundNodes c.mid r.nodes t
      | _ => exact .nil

theorem sendsGenuine_action (h : Owned own t) (a : LocalAction) : SendsGenuine own (a.run P t).1 := by
  cases a with
  | bootstrap mid peerIp peerPort service => exact h.bootstrap mid peerIp peerPort service
  | sendFindClosestNodes mid nodeId count nodes service =>
    intro o ho
    obtain ⟨_, _, _, rfl⟩ := sendFindClosestNodes_sent ho
    exact h.findClosestNodesMessage mid nodeId count nodes service _ _ _ (List.mem_singleton_self _)
  | findNeighbours mid draws => exact h.findNeighbours mid draws
  | doTetection mid => exact h.doTetection mid
  | onHeartbeatFailed ip port => exact .nil

theorem Owned.setJoin (h : Owned own t) (bootId bootIp : Bytes) (bootPort : UInt16) :
    Owned own (t.setJoin bootId bootIp bootPort).2 := by
  rw [RoutingTable.setJoin]
  split <;> exact h

theorem Owned.afterHandshake (h : Owned own t) (mid : UInt32) (m : RoutingMessage) (packet : XPacket) :
    Owned own (t.handleHandshake P mid m packet).2 := by
  by_cases hdes : m.desNodeId = t.localId
  · cases hdata : m.data with
    | handshake g =>
      have hcan := h.sameLocal (.canAddNode P (handshakeNode P m packet g) t)
      have hdetect (d : NodeDetectionManager) : Owned own { t with detection := d } := h
      have hadd (d : NodeDetectionManager) :=
        (hdetect d).sameLocal (.addNode P (markSameVlan packet (handshakeNode P m packet g)) _)
      by_cases hres : g.type = kHandshakeResponse
      · rw [RoutingTable.handleHandshake, isDestination_direct, decide_eq_true hdes, hdata]
        dsimp only
        rw [if_pos hres]
        split_ifs
        · exact (hadd _).setJoin _ _ _
        · exact hadd _
        · exact (hdetect _).setJoin _ _ _
        · exact h
      · obtain ⟨d, hd⟩ := handleHandshake_requested P mid m packet t hdes hdata hres
        rw [hd]
        exact hcan
    | _ =>
      rw [RoutingTable.handleHandshake, isDestination_direct, decide_eq_true hdes, hdata]
      exact h
  · rw [RoutingTable.handleHandshake, isDestination_direct, decide_eq_false hdes]
    exact h

theorem Owned.afterBootstrapJoinResponse (h : Owned own t) (mid : Bytes → UInt32) (draws : List UInt32)
    (m : RoutingMessage) (packet : XPacket) : Owned own (t.handleBootstrapJoinResponse P mid draws m packet).2 := by
  rw [RoutingTable.handleBootstrapJoinResponse, isDestination_direct]
  by_cases hdes : m.desNodeId = t.localId
  · rw [decide_eq_true hdes]
    cases m.data with
    | bootstrapJoinResponse r =>
      have hadded := (h.learnEndpoint m r).sameLocal (.addNode P (bootstrapNode P m packet r) _)
      dsimp only
      generalize (t.learnEndpoint m r).addNode P (bootstrapNode P m packet r) = added at hadded ⊢
      have hpushed : Owned own (added.2.pushBootstrapNode (bootstrapNode P m packet r)) := hadded
      split_ifs
      · exact h
      · exact hpushed
      · have hjoin := hpushed.setJoin r.bootstrapId packet.fromIp packet.fromPort
        split <;> rename_i heq <;> rw [heq] at hjoin
        · exact hjoin
        · exact hjoin.sameLocal (.of_reorders (findClosestNodes_reorders P mid draws _ _ _ _))
    | _ => exact h
  · rw [decide_eq_false hdes]
    exact h

theorem Owned.afterCall (h : Owned own t) (c : HandlerCall) : Owned own (c.run P t).2 := by
  rw [HandlerCall.run]
  cases c.handler with
  | handleConnectRequest => exact h.sameLocal (sameLocal_handleConnectRequest P c.message t)
  | handleHandshake => exact h.afterHandshake _ _ _
  | handleBootstrapJoinRequest => exact h.sameLocal (sameLocal_handleBootstrapJoinRequest P _ c.message c.packet t)
  | handleBootstrapJoinResponse => exact h.afterBootstrapJoinResponse _ _ _ _
  | handleFindNodesRequest => exact h.sameLocal (sameLocal_handleFindNodesRequest P _ c.message c.packet t)
  | handleFindNodesResponse => exact h.sameLocal (sameLocal_handleFindNodesResponse P c.message c.packet t c.mid)

theorem Owned.dropAll (h : Owned own t) (ns : List NodeInfo) : Owned own (ns.foldl (fun t n => t.dropNode n) t) := by
  induction ns generalizing t with
  | nil => exact h
  | cons n ns ih =>
    apply ih
    have hsame := LocalNodeInfo.sameIdentity_dropDxip t.localNode n.nodeId
    change own (t.localNode.dropDxip n.nodeId).id (t.localNode.dropDxip n.nodeId).xid
      (t.localNode.dropDxip n.nodeId).natType
    rw [hsame.id, hsame.xid, hsame.natType]
    exact h

theorem Owned.afterAction (h : Owned own t) (a : LocalAction) : Owned own (a.run P t).2 := by
  cases a with
  | bootstrap => exact h
  | sendFindClosestNodes => exact h
  | findNeighbours mid draws =>
    dsimp only [LocalAction.run, RoutingTable.findNeighbours]
    split
    · exact h
    · have hsorted := h.sameLocal (.of_reorders
        (sortNodesBy_reorders P NodeInfo.nodeId t.localId (intOfUInt32 routingMaxNodesSize) t))
      exact hsorted.sameLocal (.of_reorders (findClosestNodes_reorders P mid draws _ _ _ _))
  | doTetection mid => exact h
  | onHeartbeatFailed ip port => exact h.dropAll _

theorem NodesGenuine.afterAction (h : NodesGenuine own t) (a : LocalAction) : NodesGenuine own (a.run P t).2 := by
  cases a with
  | bootstrap => exact h
  | sendFindClosestNodes => exact h
  | findNeighbours mid draws =>
    exact h.evolves (.keep (keeps_findNeighbours P t mid draws)) (fun o ho => by cases ho)
  | doTetection mid => exact h
  | onHeartbeatFailed ip port => exact h.dropAll _

end Steps
end RoutingTable
open RoutingTable

section Networks
variable {ι : Type}

/-- What the nodes of the network say of themselves. -/
def Deployment.Own (D : Deployment ι) (id xid : Bytes) (natType : Int32) : Prop :=
  ∃ i, (D.localNode i).id = id ∧ (D.localNode i).xid = xid ∧ (D.localNode i).natType = natType

/-- What holds of the network in every run. -/
structure GenuineNetwork (D : Deployment ι) (N : Network ι) : Prop where
  owned : ∀ i, Owned D.Own (N.table i)
  nodes : ∀ i, NodesGenuine D.Own (N.table i)
  sent : SendsGenuine D.Own N.sent

theorem init_natType (l : LocalNodeInfo) (port : UInt16) :
    (RoutingTable.init l port).localNode.natType = l.natType := by
  dsimp only [RoutingTable.init]
  split <;> rfl

namespace GenuineNetwork

variable {P : Platform} {D : Deployment ι} {N : Network ι}

theorem start (D : Deployment ι) : GenuineNetwork D (Network.start D) where
  owned i := ⟨i, (init_localId _ _).symm, (init_xid _ _).symm, (init_natType _ _).symm⟩
  nodes i n hn := by cases hn
  sent := .nil

theorem offers (h : GenuineNetwork D N) (i : ι) {c : HandlerCall} {o : Outgoing} (ho : o ∈ N.sent)
    (hm : c.message = o.message) (hapart : c.EndpointsApart (N.table i)) :
    ∀ o ∈ c.offers P (N.table i), D.Own o.2.nodeId o.2.xid o.2.natType :=
  offers_genuine (hm ▸ h.sent o ho) hapart

variable [DecidableEq ι]

theorem after (h : GenuineNetwork D N) (i : ι) {result : List Outgoing × RoutingTable}
    (howned : Owned D.Own result.2) (hnodes : NodesGenuine D.Own result.2) (hsent : SendsGenuine D.Own result.1) :
    GenuineNetwork D (N.after i result) := by
  refine ⟨fun j => ?_, fun j => ?_, fun o ho => ?_⟩
  · by_cases hj : j = i
    · subst hj
      simpa [Network.after] using howned
    · simpa [Network.after, hj] using h.owned j
  · by_cases hj : j = i
    · subst hj
      simpa [Network.after] using hnodes
    · simpa [Network.after, hj] using h.nodes j
  · rcases List.mem_append.mp ho with ho | ho
    · exact h.sent o ho
    · exact hsent o ho

theorem act (h : GenuineNetwork D N) (i : ι) (a : LocalAction) :
    GenuineNetwork D (N.after i (a.run P (N.table i))) :=
  h.after i ((h.owned i).afterAction a) ((h.nodes i).afterAction a) (sendsGenuine_action (h.owned i) a)

theorem call (h : GenuineNetwork D N) (i : ι) {c : HandlerCall} {o : Outgoing} (ho : o ∈ N.sent)
    (hm : c.message = o.message) (hapart : c.EndpointsApart (N.table i)) :
    GenuineNetwork D (N.after i (c.run P (N.table i))) :=
  h.after i ((h.owned i).afterCall c)
    ((h.nodes i).evolves (handlerCall_evolves P c _) (h.offers i ho hm hapart))
    (sendsGenuine_call (h.owned i) (h.nodes i) (hm ▸ h.sent o ho))

theorem run (h : NetworkRun P D HandlerCall.EndpointsApart N) : GenuineNetwork D N := by
  induction h with
  | start => exact .start D
  | act _ i a ih => exact ih.act i a
  | deliver _ i c ho hm _ hapart ih => exact ih.call i ho hm hapart

end GenuineNetwork

/-- Nodes of different ids have different xids, with different hashes. -/
structure Deployment.Hashed (P : Platform) (D : Deployment ι) : Prop where
  hash : ∀ i, (D.localNode i).hash64 = P.xhash64 (D.localNode i).xid
  xid : Function.Injective (fun i => (D.localNode i).xid)
  injective : Set.InjOn P.xhash64 (Set.range fun i => (D.localNode i).xid)

/-- The table of the node with its hash map, and its genuine records. -/
structure HashedTable (P : Platform) (D : Deployment ι) (i : ι) (t : RoutingTable) : Prop where
  localId : t.localId = (D.localNode i).id
  xid : t.localNode.xid = (D.localNode i).xid
  indexed : HashIndexed P (Set.range fun i => (D.localNode i).xid) t
  nodes : NodesGenuine D.Own t

namespace HashedTable

variable {P : Platform} {D : Deployment ι} {i : ι} {t t' : RoutingTable}

theorem dropAll_xid (ns : List NodeInfo) (t : RoutingTable) :
    (ns.foldl (fun t n => t.dropNode n) t).localNode.xid = t.localNode.xid := by
  induction ns generalizing t with
  | nil => rfl
  | cons n ns ih => exact (ih _).trans (LocalNodeInfo.sameIdentity_dropDxip t.localNode n.nodeId).xid

theorem init (hD : D.Hashed P) (i : ι) :
    HashedTable P D i (RoutingTable.init (D.localNode i) (D.port i)) :=
  ⟨init_localId _ _, init_xid _ _, .init (hD.hash i) (Set.mem_range_self i) _, fun n hn => by cases hn⟩

theorem keeps (h : HashedTable P D i t) (hk : Keeps t t') : HashedTable P D i t' :=
  ⟨hk.localId.trans h.localId, hk.xid.trans h.xid, h.indexed.keeps hk, fun n hn => h.nodes n (hk.nodes.mem_iff.mp hn)⟩

/-- A genuine record that is accepted brings an xid of its own. -/
theorem freshXid (h : HashedTable P D i t) (hD : D.Hashed P) {node : NodeInfo} (hacc : t.Accepts node)
    (hown : D.Own node.nodeId node.xid node.natType) : t.FreshXid node := by
  obtain ⟨j, hid, hxid, _⟩ := hown
  constructor
  · intro heq
    rw [← hxid, h.xid] at heq
    obtain rfl := hD.xid heq
    exact hacc.notLocal (hid.symm.trans h.localId.symm)
  · intro n hn heq
    obtain ⟨k, hid', hxid', _⟩ := h.nodes n hn
    rw [← hxid, ← hxid'] at heq
    obtain rfl := hD.xid heq
    have hhas := (h.indexed.consistent.hasNode_iff node).mpr ⟨n, hn, hid'.symm.trans hid⟩
    rw [hacc.new] at hhas
    cases hhas

theorem evolves (h : HashedTable P D i t) (hD : D.Hashed P) {os : List (RoutingTable × NodeInfo)}
    (hev : Evolves os t t') (hos : ∀ o ∈ os, D.Own o.2.nodeId o.2.xid o.2.natType)
    (hhash : ∀ o ∈ os, o.2.hash64 = P.xhash64 o.2.xid) : HashedTable P D i t' := by
  refine hev.induct (I := HashedTable P D i) (fun s s' hk hs => hs.keeps hk) ?_ h
  intro s u node ho hacc hk hu
  have hacc' := (hk.accepts_iff node).mpr hacc
  have hown := hos _ ho
  have hfresh := hu.freshXid hD hacc' hown
  rw [← hk.localId]
  refine ⟨hu.localId, hu.xid, hu.indexed.insert hD.injective hacc' (hhash _ ho) ?_ hfresh, fun n hn => ?_⟩
  · obtain ⟨j, _, hxid, _⟩ := hown
    exact ⟨j, hxid⟩
  · rcases List.mem_append.mp hn with hn | hn
    · exact hu.nodes n hn
    · rw [List.mem_singleton.mp hn]
      exact hown

theorem action (h : HashedTable P D i t) (a : LocalAction) : HashedTable P D i (a.run P t).2 := by
  cases a with
  | bootstrap => exact h
  | sendFindClosestNodes => exact h
  | findNeighbours mid draws => exact h.keeps (keeps_findNeighbours P t mid draws)
  | doTetection mid => exact h.keeps (.detection _ t)
  | onHeartbeatFailed ip port =>
    refine ⟨?_, ?_, h.indexed.onHeartbeatFailed ip port, h.nodes.dropAll _⟩
    · rw [← h.localId]
      exact (KeepsOut.action ∅ P (.onHeartbeatFailed ip port) t).localId
    · rw [← h.xid]
      exact dropAll_xid _ t

end HashedTable

variable [DecidableEq ι] {P : Platform} {D : Deployment ι} {N : Network ι}

/-- In a run in which no node reads a list that has a node at its own endpoint, every
record in every table names a node of the network and has its xid and NAT type,
whatever was lost, repeated or delivered to the wrong node. -/
theorem networkRun_genuine (h : NetworkRun P D HandlerCall.EndpointsApart N) :
    ∀ i, ∀ n ∈ (N.table i).nodes, D.Own n.nodeId n.xid n.natType :=
  (GenuineNetwork.run h).nodes

/-- In such a run, with different xids of different hashes, every table keeps its hash map. -/
theorem HashedTable.run (hD : D.Hashed P) (h : NetworkRun P D HandlerCall.EndpointsApart N) :
    ∀ i, HashedTable P D i (N.table i) := by
  induction h with
  | start => exact .init hD
  | act _ i a ih =>
    intro j
    by_cases hj : j = i
    · subst hj
      simpa [Network.after] using (ih j).action a
    · simpa [Network.after, hj] using ih j
  | @deliver N hrun i c o ho hm _ hapart ih =>
    intro j
    by_cases hj : j = i
    · subst hj
      have hcall := (ih j).evolves hD (handlerCall_evolves P c (N.table j))
        ((GenuineNetwork.run hrun).offers j ho hm hapart) (fun o ho => (offers_hashed P c _ o ho).hash)
      simpa [Network.after] using hcall
    · simpa [Network.after, hj] using ih j

/-- The hash map of every table agrees with its nodes in every state of such a run. -/
theorem networkRun_hashAgreement (hD : D.Hashed P) (h : NetworkRun P D HandlerCall.EndpointsApart N) :
    ∀ i, (N.table i).HashAgreement :=
  fun i => (HashedTable.run hD h i).indexed.agreement

end Networks
section Samples

/-- Two nodes of the sample join one after the other at the second of them. -/
theorem networkRun_joined : NetworkRun .simple (nodesAndClient kNatTypeConeNormal) HandlerCall.EndpointsApart
    (joined kNatTypeConeNormal) :=
  have apart {c : HandlerCall} {t : RoutingTable} (h : c.message.data.found = []) : c.EndpointsApart t :=
    HandlerCall.endpointsApart_iff.mp (by simp [h])
  .joinedAt (.joinedAt .start Host.first Host.second (apart rfl)) Host.client Host.second (apart rfl)

theorem networkRun_genuine_joined : ((joined kNatTypeConeNormal).table .second).nodes.length = 2 ∧
    ∀ i, ∀ n ∈ ((joined kNatTypeConeNormal).table i).nodes,
      (nodesAndClient kNatTypeConeNormal).Own n.nodeId n.xid n.natType :=
  ⟨by decide +kernel, networkRun_genuine networkRun_joined⟩

theorem hashed_nodesAndClient (natType : Int32) : (nodesAndClient natType).Hashed .simple where
  hash i := by
    have hhash : ∀ i : Host, (localEndingIn i.lastByte).hash64 =
        Platform.simple.xhash64 (localEndingIn i.lastByte).xid := by
      decide +kernel
    exact hhash i
  xid i j h := by
    have hxids : Function.Injective (fun i : Host => (localEndingIn i.lastByte).xid) := by decide +kernel
    exact hxids h
  injective := by
    have hhashes : Function.Injective (fun i : Host =>
        Platform.simple.xhash64 (localEndingIn i.lastByte).xid) := by
      decide +kernel
    rintro _ ⟨i, rfl⟩ _ ⟨j, rfl⟩ h
    rw [hhashes h]

theorem networkRun_hashAgreement_joined : ((joined kNatTypeConeNormal).table .second).nodes.length = 2 ∧
    ∀ i, ((joined kNatTypeConeNormal).table i).HashAgreement :=
  ⟨by decide +kernel, networkRun_hashAgreement (hashed_nodesAndClient _) networkRun_joined⟩

end Samples
end XKad
