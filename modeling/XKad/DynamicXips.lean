import XKad.JoinedTables

/-!
# Handing out dynamic xips

A bootstrap node dispatches a dynamic xip for a join request that carries
`client_msg`, and a client records the one it finds in the response. `Bootstrap`
never sets `client_msg`, so the exchange ends with an empty xip at the client and
none at the bootstrap node.
-/
namespace XKad
open Std

namespace RoutingTable

/-- `c` has recorded a non-empty dynamic xip for `b`, which maps it to the endpoint of `packet`. -/
def Handover (b c : RoutingTable) (packet : XPacket) : Prop :=
  ∃ d, d ≠ [] ∧ c.localNode.nodeDxipMap[b.localId]? = some d ∧ c.localNode.hasDynamicXip d = true ∧
    ∃ client, b.dyManager.findClientNode d = some client ∧ client.publicIp = packet.fromIp ∧
      client.publicPort = packet.fromPort

/-- `HandleBootstrapJoinResponse` takes the response of `m`: it is for this node,
parses and is not forbidden. -/
def TakesJoinResponse (P : Platform) (t : RoutingTable) (m : RoutingMessage) : Prop :=
  m.desNodeId = t.localId ∧ m.status ≠ P.kadForbidden ∧ ∃ r, m.data = .bootstrapJoinResponse r

variable {P : Platform} {m : RoutingMessage} {t : RoutingTable}

/-- A client records the dynamic xip of the response, whatever it is. -/
theorem learnEndpoint_nodeDxipMap (hclient : t.localNode.clientMode = true) (r : BootstrapJoinResponse) :
    (t.learnEndpoint m r).localNode.nodeDxipMap[m.srcNodeId]? = some r.dxip := by
  rw [learnEndpoint]
  dsimp only
  rw [if_pos hclient]
  simp [LocalNodeInfo.addDxip]

theorem handleBootstrapJoinResponse_localNode {r : BootstrapJoinResponse} (mid : Bytes → UInt32)
    (draws : List UInt32) (packet : XPacket) (hdes : m.desNodeId = t.localId)
    (hstatus : m.status ≠ P.kadForbidden) (hdata : m.data = .bootstrapJoinResponse r) :
    (t.handleBootstrapJoinResponse P mid draws m packet).2.localNode = (t.learnEndpoint m r).localNode := by
  rw [handleBootstrapJoinResponse, isDestination_direct, decide_eq_true hdes, hdata]
  dsimp only
  rw [if_neg hstatus]
  have hadd := (SameLocal.addNode P (bootstrapNode P m packet r) (t.learnEndpoint m r)).localNode
  generalize (t.learnEndpoint m r).addNode P (bootstrapNode P m packet r) = added at hadd ⊢
  have hjoin : ((added.2.pushBootstrapNode (bootstrapNode P m packet r)).setJoin r.bootstrapId packet.fromIp
      packet.fromPort).2.localNode = added.2.localNode := by
    rw [setJoin]
    split <;> rfl
  have hfind (u : RoutingTable) :
      (u.findClosestNodes P mid draws 1 routingMaxNodesSize []).2.localNode = u.localNode :=
    (SameLocal.of_reorders (findClosestNodes_reorders P mid draws 1 routingMaxNodesSize [] u)).localNode
  split_ifs
  · exact hadd
  · split <;> rename_i heq <;> rw [heq] at hjoin
    · exact hjoin.trans hadd
    · exact ((hfind _).trans hjoin).trans hadd

/-- A request without the flag is answered, if at all, without a dynamic xip. -/
theorem handleBootstrapJoinRequest_dxip (hflag : m.isClientMsg = false) (mid : UInt32) (packet : XPacket)
    {o : Outgoing} (ho : o ∈ (t.handleBootstrapJoinRequest P mid m packet).1) :
    o.message.srcNodeId = t.localId ∧ ∃ r, o.message.data = .bootstrapJoinResponse r ∧ r.dxip = [] := by
  rcases handleBootstrapJoinRequest_cases P mid m packet t with hnil | ⟨xip, dxip, _, hdxip, hone⟩
  · rw [hnil] at ho
    cases ho
  · rw [hone] at ho
    rw [List.mem_singleton.mp ho, sendData, setVersion_srcNodeId, setVersion_data, hdxip hflag]
    exact ⟨rfl, _, rfl, rfl⟩

theorem bootstrap_isClientMsg {mid : UInt32} {peerIp : Bytes} {peerPort : UInt16} {desServiceType : UInt64}
    {o : Outgoing} (ho : o ∈ t.bootstrap mid peerIp peerPort desServiceType) :
    o.message.isClientMsg = false := by
  rw [List.mem_singleton.mp ho, sendData, RoutingMessage.isClientMsg]
  simp only [setVersion_clientMsg, setSpeClientMessage]
  split <;> rfl

/-- No bootstrap exchange hands over a dynamic xip: whenever the client takes the
response, it has recorded the empty xip. -/
theorem not_handover {b c : RoutingTable} (hclient : c.localNode.clientMode = true) {mid : UInt32}
    {peerIp : Bytes} {peerPort : UInt16} {desServiceType : UInt64} {request : Outgoing}
    (hrequest : request ∈ c.bootstrap mid peerIp peerPort desServiceType) {mid' : UInt32}
    {packet packet' : XPacket} {response : Outgoing}
    (hresponse : response ∈ (b.handleBootstrapJoinRequest P mid' request.message packet).1)
    (htakes : TakesJoinResponse P c response.message) (mids : Bytes → UInt32) (draws : List UInt32) :
    ¬ Handover (b.handleBootstrapJoinRequest P mid' request.message packet).2
      (c.handleBootstrapJoinResponse P mids draws response.message packet').2 packet := by
  obtain ⟨hdes, hstatus, _⟩ := htakes
  obtain ⟨hsrc, r, hdata, hdxip⟩ :=
    handleBootstrapJoinRequest_dxip (bootstrap_isClientMsg hrequest) mid' packet hresponse
  have hrecorded := learnEndpoint_nodeDxipMap (m := response.message) hclient r
  have hid : (b.handleBootstrapJoinRequest P mid' request.message packet).2.localId = b.localId :=
    congrArg LocalNodeInfo.id (sameLocal_handleBootstrapJoinRequest P mid' request.message packet b).localNode
  rintro ⟨d, hd, hmap, _⟩
  rw [handleBootstrapJoinResponse_localNode mids draws packet' hdes hstatus hdata, hid, ← hsrc, hrecorded] at hmap
  exact hd ((Option.some.inj hmap).symm.trans hdxip)

section Samples

def bootstrapNodeTable : RoutingTable := init { localEndingIn 0 with natType := kNatTypePublic } 9000

def clientTable : RoutingTable :=
  init { localEndingIn 1 with clientMode := true, natType := kNatTypeConeNormal } 9000

/-- The request of the client, seen from the endpoint of `requestPacket`. -/
def joinRequest : Outgoing :=
  (clientTable.bootstrap 1 [49] 9000 0).head (by simp [bootstrap])

def requestPacket : XPacket := ⟨[50], 9000⟩

def joinAnswer : List Outgoing × RoutingTable :=
  bootstrapNodeTable.handleBootstrapJoinRequest .simple 2 joinRequest.message requestPacket

def joinResponse : Outgoing := joinAnswer.1.head (by decide +kernel)

def joinedClient : RoutingTable :=
  (clientTable.handleBootstrapJoinResponse .simple (fun _ => 3) [] joinResponse.message ⟨[49], 9000⟩).2

theorem takes_joinResponse : TakesJoinResponse .simple clientTable joinResponse.message :=
  ⟨by decide +kernel, by decide +kernel, _, rfl⟩

theorem not_handover_joining : joinedClient.joined = true ∧ ¬ Handover joinAnswer.2 joinedClient requestPacket :=
  ⟨by decide +kernel, not_handover rfl (List.head_mem _) (List.head_mem _) takes_joinResponse _ _⟩

/-- The client joins, and holds the empty xip for the bootstrap node. -/
theorem not_always_handover : ¬ ∀ (P : Platform) (b c : RoutingTable), Reachable P b → Reachable P c →
    c.localNode.clientMode = true → ∀ (mid : UInt32) (peerIp : Bytes) (peerPort : UInt16)
      (desServiceType : UInt64) (mid' : UInt32) (packet packet' : XPacket) (mids : Bytes → UInt32)
      (draws : List UInt32), ∀ request ∈ c.bootstrap mid peerIp peerPort desServiceType,
      ∀ response ∈ (b.handleBootstrapJoinRequest P mid' request.message packet).1,
      TakesJoinResponse P c response.message →
      Handover (b.handleBootstrapJoinRequest P mid' request.message packet).2
        (c.handleBootstrapJoinResponse P mids draws response.message packet').2 packet := by
  intro h
  obtain ⟨d, hd, hmap, _⟩ := h .simple bootstrapNodeTable clientTable (.init _ _) (.init _ _) rfl
    1 [49] 9000 0 2 requestPacket ⟨[49], 9000⟩ (fun _ => 3) [] joinRequest (List.head_mem _) joinResponse
    (List.head_mem _) takes_joinResponse
  have hempty : joinedClient.localNode.nodeDxipMap[joinAnswer.2.localId]? = some [] := by decide +kernel
  exact hd (Option.some.inj (hmap.symm.trans hempty))

end Samples
end RoutingTable
end XKad
