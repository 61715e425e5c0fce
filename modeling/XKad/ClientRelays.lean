import XKad.MessageHandlers
import XKad.TreeMaps

/-!
# Messages relayed to clients

The first relay node of a client notes the endpoint a message came from, under the
client id of the message and under its xid, and both functions that take an answer
back look the client id up. A reply reaches the endpoint of its client exactly if
the last message that noted the id, as whichever of the two, came from there.
-/
namespace XKad
open Std

/-- `ClientNodeManager`: where the clients of this process are, by the id noted. -/
structure ClientNodeManager where
  clientNodesMap : ExtTreeMap Bytes ClientNodeInfo := ∅

namespace ClientNodeManager

def addClientNode (node : ClientNodeInfo) (c : ClientNodeManager) : ClientNodeManager :=
  { c with clientNodesMap := c.clientNodesMap.insert node.nodeId node }

def findClientNode (nodeId : Bytes) (c : ClientNodeManager) : Option ClientNodeInfo :=
  c.clientNodesMap[nodeId]?

end ClientNodeManager

/-- The return codes of the functions that relay; `transport` is whatever the
transport answers. -/
inductive RelayCode where
  | kContinue | kKadFailed | kKadSuccess | transport
  deriving DecidableEq

/-- What a function that relays leaves: its code, the message as it then is, and
what the transport was given. -/
structure RelayEffect (μ ω : Type) where
  code : RelayCode
  message : μ
  sent : List ω

/-- `KadMessageHandler::HandleClientMessage`; the local node of `t` is never missing. -/
def KadMessageHandler.handleClientMessage (t : RoutingTable) (m : RoutingMessage) (packet : XPacket)
    (c : ClientNodeManager) : RelayEffect RoutingMessage Outgoing × ClientNodeManager :=
  match m.clientId with
  | none => (⟨.kContinue, m, []⟩, c)
  | some clientId =>
    if !m.relayFlag then
      if clientId = t.localId then (⟨.kContinue, m, []⟩, c)
      else
        let c := c.addClientNode ⟨clientId, packet.fromIp, packet.fromPort⟩
        let c := if !m.xid.isEmpty then c.addClientNode ⟨m.xid, packet.fromIp, packet.fromPort⟩ else c
        (⟨.kContinue, { m with relayFlag := true, srcNodeId := t.localId }, []⟩, c)
    else if m.desNodeId ≠ t.localId then (⟨.kContinue, m, []⟩, c)
    else
      match c.findClientNode clientId with
      | none => (⟨.kContinue, m, []⟩, c)
      | some client =>
        let m := { m with relayFlag := false, desNodeId := client.nodeId }
        (⟨.transport, setVersion m, [sendData m client.publicIp client.publicPort]⟩, c)

def RoutingTable.checkAndSendRelay (c : ClientNodeManager) (m : RoutingMessage) (t : RoutingTable) :
    RelayEffect RoutingMessage Outgoing :=
  match m.clientId with
  | none => ⟨.kKadFailed, m, []⟩
  | some clientId =>
    if !m.relayFlag then ⟨.kKadFailed, m, []⟩
    else if m.desNodeId ≠ t.localId then ⟨.kKadFailed, m, []⟩
    else
      match c.findClientNode clientId with
      | none => ⟨.kKadFailed, m, []⟩
      | some client =>
        let m := { m with relayFlag := false, desNodeId := client.nodeId }
        ⟨.kKadSuccess, setVersion m, [sendData m client.publicIp client.publicPort]⟩

namespace KadMessageHandler

def handleClientMessages (t : RoutingTable) (received : List (RoutingMessage × XPacket))
    (c : ClientNodeManager) : ClientNodeManager :=
  received.foldl (fun c r => (handleClientMessage t r.1 r.2 c).2) c

/-- The entries a request makes. -/
def noted (localId : Bytes) (r : RoutingMessage × XPacket) : List (Bytes × ClientNodeInfo) :=
  match r.1.clientId with
  | none => []
  | some clientId =>
    if clientId = localId then []
    else
      let ids := if !r.1.xid.isEmpty then [clientId, r.1.xid] else [clientId]
      ids.map (fun id => (id, ⟨id, r.2.fromIp, r.2.fromPort⟩))

/-- The request is noted under `id`: a client other than this node has it as its
client id or as its xid. -/
def NotesId (localId id : Bytes) (r : RoutingMessage × XPacket) : Prop :=
  ∃ clientId, r.1.clientId = some clientId ∧ clientId ≠ localId ∧
    (clientId = id ∨ (r.1.xid ≠ [] ∧ r.1.xid = id))

theorem mem_noted {localId : Bytes} {r : RoutingMessage × XPacket} {e : Bytes × ClientNodeInfo} :
    e ∈ noted localId r ↔ NotesId localId e.1 r ∧ e.2 = ⟨e.1, r.2.fromIp, r.2.fromPort⟩ := by
  obtain ⟨id, node⟩ := e
  simp only [noted, NotesId]
  cases r.1.clientId with
  | none => simp
  | some clientId =>
    by_cases hlocal : clientId = localId
    · simp [hlocal]
    · cases r.1.xid with
      | nil => simp [hlocal]; grind
      | cons b xid => simp [hlocal]; grind

theorem any_noted {localId id : Bytes} {r : RoutingMessage × XPacket} :
    (noted localId r).any (fun e => decide (e.1 = id)) = true ↔ NotesId localId id r := by
  simp only [List.any_eq_true, decide_eq_true_eq]
  constructor
  · rintro ⟨e, he, rfl⟩
    exact (mem_noted.mp he).1
  · intro h
    exact ⟨(id, ⟨id, r.2.fromIp, r.2.fromPort⟩), mem_noted.mpr ⟨h, rfl⟩, rfl⟩

instance (localId id : Bytes) (r : RoutingMessage × XPacket) : Decidable (NotesId localId id r) :=
  decidable_of_iff _ any_noted

theorem latest_noted {localId id : Bytes} {r : RoutingMessage × XPacket} (h : NotesId localId id r) :
    latest (fun e => decide (e.1 = id)) (noted localId r) = some (id, ⟨id, r.2.fromIp, r.2.fromPort⟩) := by
  cases hlast : latest (fun e => decide (e.1 = id)) (noted localId r) with
  | none =>
    obtain ⟨e, he, hid⟩ := List.any_eq_true.mp (any_noted.mpr h)
    rw [latest_eq_none.mp hlast e he] at hid
    cases hid
  | some e =>
    obtain ⟨hmem, hid⟩ := latest_some hlast
    obtain rfl := of_decide_eq_true hid
    exact congrArg (fun node => some (e.1, node)) (mem_noted.mp hmem).2

variable {t : RoutingTable}

theorem handleClientMessage_request {r : RoutingMessage × XPacket} (hflag : r.1.relayFlag = false)
    (c : ClientNodeManager) : (handleClientMessage t r.1 r.2 c).1.sent = [] ∧
      (handleClientMessage t r.1 r.2 c).2.clientNodesMap =
        (noted t.localId r).foldl (fun clients e => clients.insert e.1 e.2) c.clientNodesMap := by
  rw [handleClientMessage, noted]
  cases r.1.clientId with
  | none => exact ⟨rfl, rfl⟩
  | some clientId =>
    simp only [hflag, Bool.not_false, if_true]
    by_cases hlocal : clientId = t.localId
    · rw [if_pos hlocal, if_pos hlocal]
      exact ⟨rfl, rfl⟩
    · rw [if_neg hlocal, if_neg hlocal]
      refine ⟨rfl, ?_⟩
      cases r.1.xid with
      | nil => rfl
      | cons b xid => rfl

theorem handleClientMessages_requests {received : List (RoutingMessage × XPacket)}
    (hflag : ∀ r ∈ received, r.1.relayFlag = false) (c : ClientNodeManager) :
    (handleClientMessages t received c).clientNodesMap =
      (received.flatMap (noted t.localId)).foldl (fun clients e => clients.insert e.1 e.2) c.clientNodesMap := by
  induction received generalizing c with
  | nil => rfl
  | cons r received ih =>
    obtain ⟨hr, hrest⟩ := List.forall_mem_cons.mp hflag
    have hstep := (handleClientMessage_request (t := t) hr c).2
    rw [List.flatMap_cons, List.foldl_append, ← hstep]
    exact ih hrest _

/-- An id is found where the last request noted under it came from. -/
theorem findClientNode_requests {received : List (RoutingMessage × XPacket)}
    (hflag : ∀ r ∈ received, r.1.relayFlag = false) (c : ClientNodeManager) (id : Bytes) :
    (handleClientMessages t received c).findClientNode id =
      ((latest (fun r => decide (NotesId t.localId id r)) received).map
        (fun r => ⟨id, r.2.fromIp, r.2.fromPort⟩)).or (c.findClientNode id) := by
  have hany : (fun r => (noted t.localId r).any (fun e => decide (e.1 = id))) =
      fun r => decide (NotesId t.localId id r) := by
    funext r
    rw [Bool.eq_iff_iff, any_noted, decide_eq_true_eq]
  rw [ClientNodeManager.findClientNode, handleClientMessages_requests hflag, getElem?_foldl_insert,
    latest_flatMap, hany]
  apply congrArg (fun found => Option.or found c.clientNodesMap[id]?)
  cases hlast : latest (fun r => decide (NotesId t.localId id r)) received with
  | none => rfl
  | some r =>
    rw [Option.bind_some, latest_noted (of_decide_eq_true (latest_some hlast).2)]
    rfl

/-- A reply to a known client goes to its endpoint, by either function. -/
theorem reply_sent {c : ClientNodeManager} {m : RoutingMessage} {id : Bytes} {client : ClientNodeInfo}
    (hflag : m.relayFlag = true) (hid : m.clientId = some id) (hdes : m.desNodeId = t.localId)
    (hclient : c.findClientNode id = some client) (packet : XPacket) :
    (handleClientMessage t m packet c).1.sent =
        [sendData { m with relayFlag := false, desNodeId := client.nodeId } client.publicIp client.publicPort] ∧
      (t.checkAndSendRelay c m).sent =
        [sendData { m with relayFlag := false, desNodeId := client.nodeId } client.publicIp client.publicPort] := by
  constructor
  · rw [handleClientMessage]
    simp [hflag, hid, hdes, hclient]
  · rw [RoutingTable.checkAndSendRelay]
    simp [hflag, hid, hdes, hclient]

/-- Both functions hand a reply to the client `id` once, and to this endpoint. -/
def RepliesReach (t : RoutingTable) (c : ClientNodeManager) (id : Bytes) (endpoint : XPacket) : Prop :=
  ∀ (m : RoutingMessage) (packet : XPacket), m.relayFlag = true → m.clientId = some id →
    m.desNodeId = t.localId →
      (handleClientMessage t m packet c).1.sent =
          [sendData { m with relayFlag := false, desNodeId := id } endpoint.fromIp endpoint.fromPort] ∧
        (t.checkAndSendRelay c m).sent =
          [sendData { m with relayFlag := false, desNodeId := id } endpoint.fromIp endpoint.fromPort]

theorem repliesReach_iff {c : ClientNodeManager} {id ip : Bytes} {port : UInt16} {endpoint : XPacket}
    (hnoted : c.findClientNode id = some ⟨id, ip, port⟩) :
    RepliesReach t c id endpoint ↔ ⟨ip, port⟩ = endpoint := by
  constructor
  · intro h
    let reply : RoutingMessage := { clientId := some id, relayFlag := true, desNodeId := t.localId }
    have hsent := (h reply endpoint rfl rfl rfl).2
    rw [(reply_sent rfl rfl rfl hnoted endpoint).2] at hsent
    have hpair := congrArg (fun out => out.map (fun o => (o.toIp, o.toPort))) hsent
    simp only [sendData, List.map_cons, List.map_nil, List.cons.injEq, Prod.mk.injEq] at hpair
    cases endpoint
    exact congrArg₂ XPacket.mk hpair.1.1 hpair.1.2
  · rintro rfl m packet hflag hid hdes
    exact reply_sent hflag hid hdes hnoted packet

/-- After any requests at a relay, replies to a client go where its last request came
from exactly if the last request noted under its id came from there. -/
theorem repliesReach_latest_iff (t : RoutingTable) (c : ClientNodeManager)
    (received : List (RoutingMessage × XPacket)) (hflag : ∀ r ∈ received, r.1.relayFlag = false) (id : Bytes)
    (hid : id ≠ t.localId) (last : RoutingMessage × XPacket)
    (hlast : latest (fun r => decide (r.1.clientId = some id)) received = some last) :
    RepliesReach t (handleClientMessages t received c) id last.2 ↔
      ∀ r, latest (fun r => decide (NotesId t.localId id r)) received = some r → r.2 = last.2 := by
  obtain ⟨hmem, hclient⟩ := latest_some hlast
  cases hnoted : latest (fun r => decide (NotesId t.localId id r)) received with
  | none =>
    have hnot := of_decide_eq_false (latest_eq_none.mp hnoted last hmem)
    exact absurd ⟨id, of_decide_eq_true hclient, hid, Or.inl rfl⟩ hnot
  | some r =>
    have hfound := findClientNode_requests (t := t) hflag c id
    rw [hnoted] at hfound
    rw [repliesReach_iff hfound]
    constructor
    · intro heq other hother
      rw [← Option.some.inj hother]
      exact heq
    · intro h
      exact h r rfl

section Samples

def relayNode : LocalNodeInfo where
  id := List.replicate 36 9
  id_size := rfl
  xid := List.replicate 36 9
  hash64 := 9

def relayTable : RoutingTable := RoutingTable.init relayNode 30303

/-- A request of one client, and one of another that has its id as xid. -/
def takenRequests : List (RoutingMessage × XPacket) :=
  [({ clientId := some [1] }, ⟨[10], 1⟩), ({ clientId := some [2], xid := [1] }, ⟨[20], 2⟩)]

/-- Replies to the first client do not reach it; the second gets them. -/
theorem replies_taken :
    (∀ r ∈ takenRequests, r.1.relayFlag = false) ∧ [1] ≠ relayTable.localId ∧
      latest (fun r => decide (r.1.clientId = some [1])) takenRequests =
        some ({ clientId := some [1] }, ⟨[10], 1⟩) ∧
      ¬ RepliesReach relayTable (handleClientMessages relayTable takenRequests {}) [1] ⟨[10], 1⟩ ∧
      RepliesReach relayTable (handleClientMessages relayTable takenRequests {}) [1] ⟨[20], 2⟩ := by
  have hflag : ∀ r ∈ takenRequests, r.1.relayFlag = false := by decide
  have hfound : (handleClientMessages relayTable takenRequests {}).findClientNode [1] =
      some ⟨[1], [20], 2⟩ := findClientNode_requests hflag {} [1]
  refine ⟨hflag, by decide, by decide, ?_, ?_⟩
  · rw [repliesReach_iff  hfound]
    decide
  · rw [repliesReach_iff  hfound]

/-- Three requests of two clients whose ids and xids are their own. -/
theorem repliesReach_latest_apart : RepliesReach relayTable (handleClientMessages relayTable
    [({ clientId := some [1], xid := [11] }, ⟨[10], 1⟩), ({ clientId := some [2], xid := [12] }, ⟨[20], 2⟩),
      ({ clientId := some [1], xid := [11] }, ⟨[10], 3⟩)] {}) [1] ⟨[10], 3⟩ :=
  (repliesReach_latest_iff relayTable {} _ (by decide) [1] (by decide)
    ({ clientId := some [1], xid := [11] }, ⟨[10], 3⟩) (by decide)).mpr (by decide)

end Samples
end KadMessageHandler
end XKad
