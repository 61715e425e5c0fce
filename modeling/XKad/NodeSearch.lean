import XKad.RoutingTables

/-!
# Searching for more nodes

`FindNeighbours` and what it calls: the choice of the nodes to ask and the
find-nodes requests sent to them. Random numbers are drawn from a list; a call
that runs out of draws inside its rejection loop has not returned.
-/
namespace XKad
open Std

/-- `SetSpeClientMessage` of the base class does nothing. -/
def setSpeClientMessage (m : RoutingMessage) : RoutingMessage := m

namespace RoutingTable

/-- The rejection loop of `GetClosestAlphaNodes`. -/
def drawAlphaNodes (nodes : List NodeInfo) : ExtTreeSet Bytes → List UInt32 → Option (ExtTreeSet Bytes)
  | query, [] =>
    if query.size < kKadParamAlpha + kKadParamAlphaRandom then none else some query
  | query, draw :: draws =>
    if query.size < kKadParamAlpha + kKadParamAlphaRandom then
      let randIndex := draw.toNat % (nodes.length - kKadParamAlpha)
      match nodes[randIndex + kKadParamAlpha]? with
      | none => none
      | some node =>
        if query.contains node.nodeId then drawAlphaNodes nodes query draws
        else drawAlphaNodes nodes (query.insert node.nodeId) draws
    else some query

/-- `GetClosestAlphaNodes`: the ids to query, in key order. -/
def getClosestAlphaNodes (P : Platform) (draws : List UInt32) (t : RoutingTable) :
    Option (ExtTreeSet Bytes) × RoutingTable :=
  if t.nodes.length ≤ kKadParamAlpha + kKadParamAlphaRandom then
    (some (t.nodes.foldl (fun q n => q.insert n.nodeId) ∅), t)
  else
    let (count, t) := t.sortNodesByTargetXid P t.localId kKadParamAlpha
    let query := (t.nodes.take count.toNat).foldl (fun q n => q.insert n.nodeId) ∅
    (drawAlphaNodes t.nodes query draws, t)

def getExistsNodesBloomfilter (P : Platform) (nodes : List NodeInfo) : List UInt64 :=
  P.bloomVector (nodes.foldl (fun b n => P.bloomAdd b n.nodeId)
    (P.emptyBloom kFindNodesBloomfilterBitSize kFindNodesBloomfilterHashNum))

/-- The request of `SendFindClosestNodes`, with the own xip. -/
def findClosestNodesMessage (P : Platform) (mid : UInt32) (nodeId : Bytes) (count : UInt32)
    (nodes : List NodeInfo) (desServiceType : UInt64) (xip : Bytes) (t : RoutingTable) : RoutingMessage :=
  let l := t.localNode
  let message := setFreqMessage l mid {}
  let message := { message with
    desServiceType := desServiceType
    desNodeId := nodeId
    type := .kadFindNodesRequest
    priority := .flash
    data := .findNodesRequest {
      count := count
      targetId := l.id
      bloomfilter := getExistsNodesBloomfilter P nodes
      srcNodeinfo := {
        id := l.id
        publicIp := l.publicIp
        publicPort := ofPort l.publicPort
        localIp := l.localIp
        localPort := ofPort l.localPort
        natType := l.natType
        xip := xip
        xid := l.xid } } }
  setSpeClientMessage message

/-- `SendFindClosestNodes`: the code and the messages sent, if the own xip can be read. -/
def sendFindClosestNodes (P : Platform) (mid : UInt32) (nodeId : Bytes) (count : UInt32)
    (nodes : List NodeInfo) (desServiceType : UInt64) (t : RoutingTable) : Option (KadCode × List Outgoing) :=
  match t.localNode.xipString with
  | none => none
  | some xip =>
    match t.getNode nodeId with
    | none => some (.kadNodeNotExists, [])
    | some node =>
      some (.kadSuccess,
        [sendDataToNode (t.findClosestNodesMessage P mid nodeId count nodes desServiceType xip) node])

/-- The loop of `FindClosestNodes` over the ids to query. -/
def askNodes (P : Platform) (mid : Bytes → UInt32) (count : UInt32) (nodes : List NodeInfo)
    (t : RoutingTable) : List Bytes → Option (List Outgoing)
  | [] => some []
  | id :: ids =>
    match t.sendFindClosestNodes P (mid id) id count nodes t.localNode.serviceType with
    | none => none
    | some (_, sent) => (t.askNodes P mid count nodes ids).map (sent ++ ·)

section Sent
variable {P : Platform} {t : RoutingTable}

theorem sendFindClosestNodes_sent {mid : UInt32} {id : Bytes} {count : UInt32} {nodes : List NodeInfo}
    {service : UInt64} {o : Outgoing}
    (ho : o ∈ ((t.sendFindClosestNodes P mid id count nodes service).map Prod.snd).getD []) :
    ∃ xip node, t.localNode.xipString = some xip ∧
      o = sendDataToNode (t.findClosestNodesMessage P mid id count nodes service xip) node := by
  rw [sendFindClosestNodes] at ho
  split at ho
  · cases ho
  · rename_i xip hxip
    split at ho
    · cases ho
    · exact ⟨xip, _, hxip, List.mem_singleton.mp ho⟩

theorem length_sendFindClosestNodes (mid : UInt32) (id : Bytes) (count : UInt32) (nodes : List NodeInfo)
    (service : UInt64) :
    (((t.sendFindClosestNodes P mid id count nodes service).map Prod.snd).getD []).length ≤ 1 := by
  rw [sendFindClosestNodes]
  split
  · exact Nat.zero_le _
  · split
    · exact Nat.zero_le _
    · exact Nat.le_refl _

variable (mid : Bytes → UInt32) (count : UInt32) (nodes : List NodeInfo)

/-- The loop stops at its first request if the own xip cannot be read. -/
theorem askNodes_eq (ids : List Bytes) : t.askNodes P mid count nodes ids =
    if t.localNode.clientMode = true ∧ ids ≠ [] then none
    else some (ids.flatMap (fun id =>
      ((t.sendFindClosestNodes P (mid id) id count nodes t.localNode.serviceType).map Prod.snd).getD [])) := by
  induction ids with
  | nil => simp [askNodes]
  | cons id ids ih =>
    rw [askNodes]
    cases hclient : t.localNode.clientMode with
    | true =>
      rw [sendFindClosestNodes, LocalNodeInfo.xipString_eq_none.mpr hclient]
      simp
    | false =>
      rw [ih, List.flatMap_cons]
      cases hsend : t.sendFindClosestNodes P (mid id) id count nodes t.localNode.serviceType with
      | none =>
        rw [sendFindClosestNodes, LocalNodeInfo.xipString_of_not_client hclient] at hsend
        dsimp only at hsend
        split at hsend <;> cases hsend
      | some answer => simp [hclient]

end Sent

/-- `FindClosestNodes`; `mid id` is the message id drawn for the request to `id`. The first
component is missing if it does not return: the draws run out, or the own xip cannot be read. -/
def findClosestNodes (P : Platform) (mid : Bytes → UInt32) (draws : List UInt32) (attempts : ℤ)
    (count : UInt32) (nodes : List NodeInfo) (t : RoutingTable) : Option (List Outgoing) × RoutingTable :=
  if !t.localNode.firstNode && !t.joined && t.nodes.length ≤ 0 then (some [], t)
  else if attempts = 0 then
    ((t.sendFindClosestNodes P (mid t.bootstrapId) t.bootstrapId count nodes t.localNode.serviceType).map Prod.snd,
      t)
  else
    match t.getClosestAlphaNodes P draws with
    | (none, t) => (none, t)
    | (some query, t) => (t.askNodes P mid count nodes query.toList, t)

def findNeighbours (P : Platform) (mid : Bytes → UInt32) (draws : List UInt32) (t : RoutingTable) :
    Option (List Outgoing) × RoutingTable :=
  if t.destroy then (some [], t)
  else
    let (sortNum, t) := t.sortNodesByTargetXid P t.localId (intOfUInt32 routingMaxNodesSize)
    t.findClosestNodes P mid draws 1 routingMaxNodesSize (t.nodes.take sortNum.toNat)

end RoutingTable
end XKad
