import XKad.DynamicXips

/-!
# Refused join responses

`HandleBootstrapJoinResponse` takes the endpoint and the dynamic xip from the
response and pushes the sender to `bootstrap_nodes_` before it looks at what
`AddNode` said. A refusal keeps the table and the join state, and none of these.
-/
namespace XKad
open Std

namespace RoutingTable

/-- The response `r` reaches `AddNode`, which says neither `kKadSuccess` nor `kKadNodeHasAdded`. -/
structure RefusesJoin (P : Platform) (t : RoutingTable) (m : RoutingMessage) (packet : XPacket)
    (r : BootstrapJoinResponse) : Prop where
  addressed : m.desNodeId = t.localId
  data : m.data = .bootstrapJoinResponse r
  allowed : m.status ≠ P.kadForbidden
  notAdded : ((t.learnEndpoint m r).addNode P (bootstrapNode P m packet r)).1 ≠ .kadSuccess
  notKnown : ((t.learnEndpoint m r).addNode P (bootstrapNode P m packet r)).1 ≠ .kadNodeHasAdded

/-- The join state and the members of the table are the same. -/
structure SameJoinState (t t' : RoutingTable) : Prop where
  joined : t'.joined = t.joined
  bootstrapId : t'.bootstrapId = t.bootstrapId
  bootstrapIp : t'.bootstrapIp = t.bootstrapIp
  bootstrapPort : t'.bootstrapPort = t.bootstrapPort
  nodes : t'.nodes.Perm t.nodes
  nodeIdMap : t'.nodeIdMap = t.nodeIdMap
  nodeHashMap : t'.nodeHashMap = t.nodeHashMap

/-- Nothing a join response is about differs. -/
structure SameAsBefore (t t' : RoutingTable) : Prop extends SameJoinState t t' where
  publicIp : t'.localNode.publicIp = t.localNode.publicIp
  publicPort : t'.localNode.publicPort = t.localNode.publicPort
  nodeDxipMap : t'.localNode.nodeDxipMap = t.localNode.nodeDxipMap
  dxipNodeMap : t'.localNode.dxipNodeMap = t.localNode.dxipNodeMap
  bootstrapNodes : t'.bootstrapNodes = t.bootstrapNodes

variable {P : Platform} {t : RoutingTable} {m : RoutingMessage} {packet : XPacket} {r : BootstrapJoinResponse}

theorem handleBootstrapJoinResponse_refused (h : RefusesJoin P t m packet r) (mid : Bytes → UInt32)
    (draws : List UInt32) : ∃ l, l.Perm t.nodes ∧
      t.handleBootstrapJoinResponse P mid draws m packet =
        (some [], ((t.learnEndpoint m r).withNodes l).pushBootstrapNode (bootstrapNode P m packet r)) := by
  obtain ⟨l, hl, ⟨_, code, _, he⟩ | ⟨_, he⟩⟩ := addNode_cases P (bootstrapNode P m packet r) (t.learnEndpoint m r)
  · refine ⟨l, hl, ?_⟩
    have hadded := h.notAdded
    have hknown := h.notKnown
    rw [he] at hadded hknown
    rw [handleBootstrapJoinResponse, isDestination_direct, decide_eq_true h.addressed, h.data]
    dsimp only
    rw [if_neg h.allowed, he]
    dsimp only
    rw [if_pos ⟨hadded, hknown⟩]
  · have hadded := h.notAdded
    rw [he] at hadded
    exact absurd rfl hadded

theorem sameJoinState_refused (h : RefusesJoin P t m packet r) (mid : Bytes → UInt32) (draws : List UInt32) :
    SameJoinState t (t.handleBootstrapJoinResponse P mid draws m packet).2 := by
  obtain ⟨l, hl, he⟩ := handleBootstrapJoinResponse_refused h mid draws
  rw [he]
  exact ⟨rfl, rfl, rfl, rfl, hl, rfl, rfl⟩

theorem bootstrapNodes_refused (h : RefusesJoin P t m packet r) (mid : Bytes → UInt32) (draws : List UInt32) :
    (t.handleBootstrapJoinResponse P mid draws m packet).2.bootstrapNodes =
      t.bootstrapNodes ++ [bootstrapNode P m packet r] := by
  obtain ⟨l, _, he⟩ := handleBootstrapJoinResponse_refused h mid draws
  rw [he]
  rfl

theorem localNode_refused (h : RefusesJoin P t m packet r) (mid : Bytes → UInt32) (draws : List UInt32) :
    (t.handleBootstrapJoinResponse P mid draws m packet).2.localNode = (t.learnEndpoint m r).localNode := by
  obtain ⟨l, _, he⟩ := handleBootstrapJoinResponse_refused h mid draws
  rw [he]
  rfl

theorem learnEndpoint_publicIp (m : RoutingMessage) (r : BootstrapJoinResponse) (t : RoutingTable) :
    (t.learnEndpoint m r).localNode.publicIp = r.publicIp := by
  rw [learnEndpoint]
  dsimp only
  split <;> rfl

theorem learnEndpoint_publicPort (m : RoutingMessage) (r : BootstrapJoinResponse) (t : RoutingTable) :
    (t.learnEndpoint m r).localNode.publicPort = toPort r.publicPort := by
  rw [learnEndpoint]
  dsimp only
  split <;> rfl

/-- Every refused response changes the state: the join state and the members are the
same, the sender is one more bootstrap node, the endpoint is the one of the response,
and a client has recorded its dynamic xip. -/
theorem refusedJoin_changes (h : RefusesJoin P t m packet r) (mid : Bytes → UInt32) (draws : List UInt32) :
    ¬ SameAsBefore t (t.handleBootstrapJoinResponse P mid draws m packet).2 ∧
      SameJoinState t (t.handleBootstrapJoinResponse P mid draws m packet).2 ∧
      (t.handleBootstrapJoinResponse P mid draws m packet).2.bootstrapNodes =
        t.bootstrapNodes ++ [bootstrapNode P m packet r] ∧
      (t.handleBootstrapJoinResponse P mid draws m packet).2.localNode.publicIp = r.publicIp ∧
      (t.handleBootstrapJoinResponse P mid draws m packet).2.localNode.publicPort = toPort r.publicPort ∧
      (t.localNode.clientMode = true →
        (t.handleBootstrapJoinResponse P mid draws m packet).2.localNode.nodeDxipMap[m.srcNodeId]? =
          some r.dxip) := by
  have hnodes := bootstrapNodes_refused h mid draws
  refine ⟨fun hsame => ?_, sameJoinState_refused h mid draws, hnodes, ?_, ?_, fun hclient => ?_⟩
  · have hlength := congrArg List.length (hnodes.symm.trans hsame.bootstrapNodes)
    rw [List.length_append, List.length_singleton] at hlength
    omega
  · rw [localNode_refused h, learnEndpoint_publicIp]
  · rw [localNode_refused h, learnEndpoint_publicPort]
  · rw [localNode_refused h, learnEndpoint_nodeDxipMap hclient]

/-- A response whose sender does not tell its NAT type. -/
def untypedResponse : BootstrapJoinResponse where
  publicIp := [51]
  publicPort := 9001
  bootstrapId := (localEndingIn 2).id
  dxip := [7]

def untypedMessage : RoutingMessage where
  desNodeId := clientTable.localId
  srcNodeId := (localEndingIn 2).id
  data := .bootstrapJoinResponse untypedResponse

theorem refuses_untyped : RefusesJoin .simple clientTable untypedMessage ⟨[50], 9000⟩ untypedResponse :=
  ⟨rfl, rfl, by decide +kernel, by decide +kernel, by decide +kernel⟩

theorem refusedJoin_changes_untyped : ∃ t', t' =
      (clientTable.handleBootstrapJoinResponse .simple (fun _ => 3) [] untypedMessage ⟨[50], 9000⟩).2 ∧
    ¬ SameAsBefore clientTable t' ∧ SameJoinState clientTable t' ∧
    t'.bootstrapNodes = clientTable.bootstrapNodes ++
      [bootstrapNode .simple untypedMessage ⟨[50], 9000⟩ untypedResponse] ∧
    t'.localNode.publicIp = [51] ∧ t'.localNode.publicPort = 9001 ∧
    t'.localNode.nodeDxipMap[(localEndingIn 2).id]? = some [7] := by
  obtain ⟨hchanged, hsame, hnodes, hip, hport, hdxip⟩ := refusedJoin_changes refuses_untyped (fun _ => 3) []
  exact ⟨_, rfl, hchanged, hsame, hnodes, hip, hport, hdxip rfl⟩

/-- A client that `AddNode` refused the sender for still holds its dynamic xip. -/
theorem not_refusedJoin_sameAsBefore : ¬ ∀ (P : Platform) (t : RoutingTable), Reachable P t →
    ∀ (m : RoutingMessage) (packet : XPacket) (r : BootstrapJoinResponse), RefusesJoin P t m packet r →
      ∀ (mid : Bytes → UInt32) (draws : List UInt32),
        SameAsBefore t (t.handleBootstrapJoinResponse P mid draws m packet).2 := by
  intro hall
  have hsame := hall .simple clientTable (.init _ _) untypedMessage ⟨[50], 9000⟩ untypedResponse
    refuses_untyped (fun _ => 3) []
  have hnone : (clientTable.handleBootstrapJoinResponse .simple (fun _ => 3) []
      untypedMessage ⟨[50], 9000⟩).2.bootstrapNodes.length = 1 := by
    decide +kernel
  rw [hsame.bootstrapNodes] at hnone
  cases hnone

end RoutingTable
end XKad
