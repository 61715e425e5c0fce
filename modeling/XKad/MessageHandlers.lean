import XKad.NodeSearch

/-!
# Message handlers

The handlers of `RoutingTable` that admit nodes, answer searches or relay
messages, and the senders they use. A handler returns the messages it hands to
the transport and the table it leaves. Log lines are left out.
-/
namespace XKad
open Std

namespace RoutingTable

/-- `SetJoin`: false if the node had joined before. -/
def setJoin (bootId bootIp : Bytes) (bootPort : UInt16) (t : RoutingTable) : Bool × RoutingTable :=
  if t.joined then (false, t)
  else
    (true, { t with
      joined := true
      bootstrapId := bootId
      bootstrapIp := bootIp
      bootstrapPort := bootPort })

def bootstrap (mid : UInt32) (peerIp : Bytes) (peerPort : UInt16) (desServiceType : UInt64)
    (t : RoutingTable) : List Outgoing :=
  let l := t.localNode
  let message := setFreqMessage l mid {}
  let message := { message with
    desServiceType := desServiceType
    priority := .flash
    desNodeId := []
    type := .kadBootstrapJoinRequest }
  -- a client sets its client id here, and not `client_msg`
  let message := if l.clientMode then { message with clientId := some l.id, relayFlag := false }
    else message
  let message := { message with
    data := .bootstrapJoinRequest {
      localIp := l.localIp
      localPort := ofPort l.localPort
      natType := l.natType
      xid := l.xid
      xip := if l.clientMode then [] else l.xipString.getD [] } }
  [sendData (setSpeClientMessage message) peerIp peerPort]

/-- The duplicate test of `RecursiveSend`: the set of hops, or nothing if one comes twice. -/
def excludeHops : Finset Bytes → List Bytes → Option (Finset Bytes)
  | exclude, [] => some exclude
  | exclude, hop :: hops =>
    if hop ∈ exclude then none else excludeHops (insert hop exclude) hops

theorem excludeHops_eq (exclude : Finset Bytes) (hops : List Bytes) : excludeHops exclude hops =
    if hops.Nodup ∧ ∀ hop ∈ hops, hop ∉ exclude then some (exclude ∪ hops.toFinset) else none := by
  induction hops generalizing exclude with
  | nil => simp [excludeHops]
  | cons hop hops ih =>
    rw [excludeHops]
    by_cases hin : hop ∈ exclude
    · simp [hin]
    · rw [if_neg hin, ih]
      refine if_congr ?_ ?_ rfl
      · simp only [List.nodup_cons, List.mem_cons, forall_eq_or_imp, Finset.mem_insert, not_or]
        constructor
        · rintro ⟨hnodup, hall⟩
          exact ⟨⟨fun hmem => (hall hop hmem).1 rfl, hnodup⟩, hin, fun x hx => (hall x hx).2⟩
        · rintro ⟨⟨hfresh, hnodup⟩, _, hall⟩
          exact ⟨hnodup, fun x hx => ⟨fun heq => hfresh (heq ▸ hx), hall x hx⟩⟩
      · simp [Finset.insert_union]

theorem excludeHops_empty (hops : List Bytes) :
    excludeHops ∅ hops = if hops.Nodup then some hops.toFinset else none := by
  simp [excludeHops_eq]

/-- `RecursiveSend` up to its choice: the closest node that is not this node, not
behind its endpoint and not among the hops. -/
def nextHop (P : Platform) (m : RoutingMessage) (t : RoutingTable) : Option NodeInfo × RoutingTable :=
  match excludeHops ∅ m.hopNodes with
  | none => (none, t)
  | some exclude =>
    let (nextNodes, t) := t.getClosestNodes P m.desNodeId routingMaxNodesSize false
    let readyNodes := nextNodes.filter (fun n =>
      !(n.nodeId == t.localId) &&
        !(n.publicIp == t.localNode.publicIp && n.publicPort == t.localNode.publicPort) &&
        !decide (n.nodeId ∈ exclude))
    (readyNodes.head?, t)

def recursiveSend (P : Platform) (m : RoutingMessage) (t : RoutingTable) : List Outgoing × RoutingTable :=
  match t.nextHop P m with
  | (none, t) => ([], t)
  | (some node, t) => ([sendDataToNode m node], t)

def sendToClosestNode (P : Platform) (m : RoutingMessage) (addHop : Bool) (t : RoutingTable) :
    List Outgoing × RoutingTable :=
  if m.desNodeId = t.localId then ([], t)
  else if !t.localNode.firstNode && !t.joined then ([], t)
  else
    let m := if addHop then { m with hopNodes := m.hopNodes ++ [t.localId] } else m
    t.recursiveSend P m

def connectRequestMessage (mid : UInt32) (id relayRoutingId : Bytes) (serviceType : UInt64)
    (t : RoutingTable) : RoutingMessage :=
  let l := t.localNode
  let message := setFreqMessage l mid {}
  let message := { message with
    desServiceType := serviceType
    desNodeId := id
    type := .kadConnectRequest
    priority := .flash }
  let message := if l.clientMode then
      { message with
        clientMsg := some true
        relayFlag := true
        requestType := true
        clientId := some l.id }
    else message
  { message with
    data := .connectRequest {
      localIp := l.localIp
      localPort := ofPort l.localPort
      publicIp := l.publicIp
      publicPort := ofPort l.publicPort
      natType := l.natType
      relayRoutingId := relayRoutingId } }

def sendConnectRequest (mid : UInt32) (findnodesRoutingId ip : Bytes) (port : UInt16) (id : Bytes)
    (serviceType : UInt64) (t : RoutingTable) : List Outgoing :=
  if t.localNode.publicIp.isEmpty then []
  else [sendData (t.connectRequestMessage mid id findnodesRoutingId serviceType) ip port]

/-- The bytes parsed as a `ConnectReq`; an empty field parses as a request of defaults. -/
def connectRequestOf : MessageData → Option ConnectReq
  | .connectRequest r => some r
  | .empty => some {}
  | _ => none

def handleConnectRequest (P : Platform) (m : RoutingMessage) (t : RoutingTable) :
    List Outgoing × RoutingTable :=
  match connectRequestOf m.data with
  | none => ([], t)
  | some r =>
    match t.isDestination P m.desNodeId false with
    | (false, t) => t.sendToClosestNode P m true
    | (true, t) =>
      let node : NodeInfo := {
        nodeId := m.srcNodeId
        localIp := r.localIp
        localPort := toPort r.localPort
        publicIp := r.publicIp
        publicPort := toPort r.publicPort
        serviceType := m.srcServiceType
        natType := r.natType }
      if t.localNode.natType = kNatTypeConeAbnormal ∧ node.natType = kNatTypeConeAbnormal then ([], t)
      else ([], { t with detection := t.detection.addDetectionNode P node })

/-- The record the handlers of find-nodes messages make of a listed node. -/
def nodeOfPb (P : Platform) (n : PbNodeInfo) : NodeInfo where
  nodeId := n.id
  localIp := n.localIp
  localPort := toPort n.localPort
  publicIp := n.publicIp
  publicPort := toPort n.publicPort
  natType := n.natType
  xip := n.xip
  xid := n.xid
  hash64 := P.xhash64 n.xid

def pbOfNode (n : NodeInfo) : PbNodeInfo where
  id := n.nodeId
  publicIp := n.publicIp
  publicPort := ofPort n.publicPort
  localIp := n.localIp
  localPort := ofPort n.localPort
  natType := n.natType
  xip := n.xip
  xid := n.xid

/-- The requester goes into the table if it is public and `CanAddNode` agrees. -/
def admitRequester (P : Platform) (node : NodeInfo) (t : RoutingTable) : RoutingTable :=
  if node.natType = kNatTypePublic then
    match t.canAddNode P node with
    | (true, t) => (t.addNode P node).2
    | (false, t) => t
  else t

/-- The local node's own entry in a reply: none if its endpoint is not known. Nothing if
there should be one and the own xip cannot be read. -/
def localEntry (l : LocalNodeInfo) : Option (List PbNodeInfo) :=
  if l.firstNode then
    l.xipString.map (fun xip => [{
      id := l.id
      publicIp := l.localIp
      publicPort := ofPort l.localPort
      natType := l.natType
      xip := xip
      xid := l.xid }])
  else if !l.publicIp.isEmpty && decide (0 < l.publicPort) then
    l.xipString.map (fun xip => [{
      id := l.id
      publicIp := l.publicIp
      publicPort := ofPort l.publicPort
      natType := l.natType
      xip := xip
      xid := l.xid }])
  else some []

/-- The loop of `HandleFindNodesRequest` over the closest nodes. -/
def listNodes (target : Bytes) (contain : Bytes → Bool) : List NodeInfo → List PbNodeInfo → List PbNodeInfo
  | [], listed => listed
  | n :: ns, listed =>
    if n.nodeId = target then listNodes target contain ns listed
    else if contain n.nodeId then listNodes target contain ns listed
    else if 16 ≤ listed.length then listed
    else listNodes target contain ns (listed ++ [pbOfNode n])

def requestFilter (P : Platform) (r : FindClosestNodesRequest) : P.Bloom :=
  if r.bloomfilter.isEmpty then P.emptyBloom kFindNodesBloomfilterBitSize kFindNodesBloomfilterHashNum
  else P.bloomOfVector r.bloomfilter kFindNodesBloomfilterHashNum

def replyNodes (P : Platform) (r : FindClosestNodesRequest) (t : RoutingTable) :
    Option (List PbNodeInfo) × RoutingTable :=
  let contain := P.bloomContain (requestFilter P r)
  let (closestNodes, t) := t.getClosestNodes P r.targetId (r.count + 1) false
  let own := if contain t.localId then some [] else localEntry t.localNode
  (own.map (listNodes r.targetId contain closestNodes), t)

def handleFindNodesRequest (P : Platform) (mid : UInt32) (m : RoutingMessage) (packet : XPacket)
    (t : RoutingTable) : List Outgoing × RoutingTable :=
  if m.desNodeId ≠ t.localId then ([], t)
  else
    match m.data with
    | .findNodesRequest r =>
      let t := t.admitRequester P (nodeOfPb P r.srcNodeinfo)
      match t.replyNodes P r with
      | (none, t) => ([], t)
      | (some nodes, t) =>
        if nodes.length ≤ 0 then ([], t)
        else
          let res := setFreqMessage t.localNode mid {}
          let res := { res with
            desNodeId := m.srcNodeId
            type := .kadFindNodesResponse
            id := m.id
            data := .findNodesResponse ⟨nodes⟩ }
          ([sendData res packet.fromIp packet.fromPort], t)
    | _ => ([], t)

/-- The record `HandleFindNodesResponse` makes of a listed node. -/
def foundNode (P : Platform) (m : RoutingMessage) (n : PbNodeInfo) : NodeInfo :=
  { nodeOfPb P n with serviceType := m.srcServiceType }

def handleFoundNode (P : Platform) (mid : Bytes → UInt32) (m : RoutingMessage) (packet : XPacket)
    (n : PbNodeInfo) (t : RoutingTable) : List Outgoing × RoutingTable :=
  let node := foundNode P m n
  match t.canAddNode P node with
  | (false, t) => ([], t)
  | (true, t) =>
    if node.publicIp = t.localNode.publicIp ∧ node.publicPort = t.localNode.publicPort then
      -- a node behind the local endpoint gets the local xid
      if node.nodeId ≠ t.localId then
        let node := { node with xid := t.localNode.xid, hash64 := P.xhash64 t.localNode.xid }
        ([], (t.addNode P node).2)
      else ([], t)
    else if t.localNode.natType = kNatTypeConeAbnormal ∧ node.natType = kNatTypeConeAbnormal then ([], t)
    else if node.natType = kNatTypePublic ∨
        (node.localIp = node.publicIp ∧ node.localPort = node.publicPort) then
      ([], (t.addNode P node).2)
    else
      let t := { t with detection := t.detection.addDetectionNode P node }
      (t.sendConnectRequest (mid n.id) m.srcNodeId packet.fromIp packet.fromPort n.id m.srcServiceType, t)

def handleFoundNodes (P : Platform) (mid : Bytes → UInt32) (m : RoutingMessage) (packet : XPacket) :
    List PbNodeInfo → RoutingTable → List Outgoing × RoutingTable
  | [], t => ([], t)
  | n :: ns, t =>
    let (sent, t) := t.handleFoundNode P mid m packet n
    let (sent', t) := handleFoundNodes P mid m packet ns t
    (sent ++ sent', t)

def handleFindNodesResponse (P : Platform) (mid : Bytes → UInt32) (m : RoutingMessage) (packet : XPacket)
    (t : RoutingTable) : List Outgoing × RoutingTable :=
  if m.desNodeId ≠ t.localId then ([], t)
  else
    match m.data with
    | .findNodesResponse r => handleFoundNodes P mid m packet r.nodes t
    | _ => ([], t)

/-- The record `HandleHandshake` makes of the sender. -/
def handshakeNode (P : Platform) (m : RoutingMessage) (packet : XPacket) (h : Handshake) : NodeInfo where
  nodeId := m.srcNodeId
  publicIp := if h.publicIp.isEmpty then packet.fromIp else h.publicIp
  publicPort := if h.publicIp.isEmpty then packet.fromPort else toPort h.publicPort
  localIp := h.localIp
  localPort := toPort h.localPort
  serviceType := m.srcServiceType
  natType := h.natType
  xid := h.xid
  hash64 := P.xhash64 h.xid
  xip := h.xip

/-- A node reached at its local endpoint shares the local network. -/
def markSameVlan (packet : XPacket) (node : NodeInfo) : NodeInfo :=
  if (packet.fromIp = node.localIp ∧ packet.fromPort = node.localPort) ∧ node.publicIp ≠ node.localIp then
    { node with sameVlan := true }
  else node

section MarkSameVlan
variable (packet : XPacket) (node : NodeInfo)

@[simp] theorem markSameVlan_nodeId : (markSameVlan packet node).nodeId = node.nodeId := by
  rw [markSameVlan]
  split <;> rfl

@[simp] theorem markSameVlan_xid : (markSameVlan packet node).xid = node.xid := by
  rw [markSameVlan]
  split <;> rfl

@[simp] theorem markSameVlan_hash64 : (markSameVlan packet node).hash64 = node.hash64 := by
  rw [markSameVlan]
  split <;> rfl

end MarkSameVlan

def handshakeResponse (mid : UInt32) (m : RoutingMessage) (xip : Bytes) (t : RoutingTable) : RoutingMessage :=
  let l := t.localNode
  let res := setFreqMessage l mid {}
  { res with
    srcServiceType := m.desServiceType
    desServiceType := m.srcServiceType
    srcNodeId := m.desNodeId
    desNodeId := m.srcNodeId
    type := .kadHandshake
    id := m.id
    clientMsg := if l.clientMode then some true else none
    data := .handshake {
      type := kHandshakeResponse
      localIp := l.localIp
      localPort := ofPort l.localPort
      publicIp := l.publicIp
      publicPort := ofPort l.publicPort
      natType := l.natType
      xid := l.xid
      xip := xip } }

/-- `HandleHandshake`. A received packet has a source address, so the assertion
on the public ip holds. -/
def handleHandshake (P : Platform) (mid : UInt32) (m : RoutingMessage) (packet : XPacket)
    (t : RoutingTable) : List Outgoing × RoutingTable :=
  match t.isDestination P m.desNodeId false with
  | (false, t) => ([], t)
  | (true, t) =>
    match m.data with
    | .handshake h =>
      let node := handshakeNode P m packet h
      if h.type = kHandshakeResponse then
        let t := { t with detection := t.detection.removeDetection P node.publicIp node.publicPort }
        let node := markSameVlan packet node
        let t := if !m.isClientMsg then (t.addNode P node).2 else t
        ([], if !t.joined then (t.setJoin m.srcNodeId h.publicIp (toPort h.publicPort)).2 else t)
      else
        let (canAdd, t) := t.canAddNode P node
        let t := if canAdd then { t with detection := t.detection.addDetectionNode P node } else t
        match t.localNode.xipString with
        | none => ([], t)
        | some xip => ([sendData (t.handshakeResponse mid m xip) packet.fromIp packet.fromPort], t)
    | _ => ([], t)

def joinResponseMessage (mid : UInt32) (m : RoutingMessage) (packet : XPacket) (xip dxip : Bytes)
    (t : RoutingTable) : RoutingMessage :=
  let l := t.localNode
  let res := setFreqMessage l mid {}
  { res with
    srcServiceType := m.desServiceType
    desServiceType := m.srcServiceType
    desNodeId := m.srcNodeId
    type := .kadBootstrapJoinResponse
    id := m.id
    debug := "join res"
    status := m.status
    clientMsg := if m.isClientMsg then some true else none
    data := .bootstrapJoinResponse {
      publicIp := packet.fromIp
      publicPort := ofPort packet.fromPort
      bootstrapId := l.id
      natType := l.natType
      xid := l.xid
      xip := xip
      dxip := dxip } }

/-- `SendBootstrapJoinResponse`: the messages sent, if the own xip can be read. -/
def sendBootstrapJoinResponse (P : Platform) (mid : UInt32) (m : RoutingMessage) (packet : XPacket)
    (t : RoutingTable) : Option (List Outgoing) × RoutingTable :=
  match t.localNode.xipString with
  | none => (none, t)
  | some xip =>
    let (dxip, t) :=
      if m.isClientMsg then
        let (dyXip, dy) := t.dyManager.dispatchDynamicXip P xip
        let client : ClientNodeInfo := { publicIp := packet.fromIp, publicPort := packet.fromPort }
        (dyXip, { t with dyManager := dy.addClientNode dyXip client })
      else ([], t)
    if packet.fromIp.isEmpty || decide (ofPort packet.fromPort ≤ 0) then (some [], t)
    else (some [sendData (t.joinResponseMessage mid m packet xip dxip) packet.fromIp packet.fromPort], t)

def joinNode (P : Platform) (m : RoutingMessage) (packet : XPacket) (r : BootstrapJoinRequest) : NodeInfo where
  nodeId := m.srcNodeId
  localIp := r.localIp
  localPort := toPort r.localPort
  publicIp := packet.fromIp
  publicPort := packet.fromPort
  serviceType := m.srcServiceType
  natType := r.natType
  xid := r.xid
  hash64 := P.xhash64 r.xid
  xip := r.xip

def handleBootstrapJoinRequest (P : Platform) (mid : UInt32) (m : RoutingMessage) (packet : XPacket)
    (t : RoutingTable) : List Outgoing × RoutingTable :=
  match m.data with
  | .bootstrapJoinRequest r =>
    let node := joinNode P m packet r
    match t.sendBootstrapJoinResponse P mid m packet with
    | (none, t) => ([], t)
    | (some sent, t) => (sent, if !m.isClientMsg then (t.addNode P node).2 else t)
  | _ => ([], t)

def bootstrapNode (P : Platform) (m : RoutingMessage) (packet : XPacket) (r : BootstrapJoinResponse) :
    NodeInfo where
  nodeId := m.srcNodeId
  localIp := packet.fromIp
  localPort := packet.fromPort
  publicIp := packet.fromIp
  publicPort := packet.fromPort
  serviceType := m.srcServiceType
  natType := r.natType
  xid := r.xid
  hash64 := P.xhash64 r.xid
  xip := r.xip

/-- The endpoint, and for a client the dynamic xip, a join response tells. -/
def learnEndpoint (m : RoutingMessage) (r : BootstrapJoinResponse) (t : RoutingTable) : RoutingTable :=
  let l := { t.localNode with publicIp := r.publicIp, publicPort := toPort r.publicPort }
  { t with localNode := if l.clientMode then l.addDxip m.srcNodeId r.dxip else l }

def pushBootstrapNode (node : NodeInfo) (t : RoutingTable) : RoutingTable :=
  { t with bootstrapNodes := t.bootstrapNodes ++ [node] }

/-- `HandleBootstrapJoinResponse`. The first component is missing if the search it
starts does not return. Of `bootstrap_nodes_` only the
endpoints are read elsewhere, so a bucket `AddNode` writes is not kept there. -/
def handleBootstrapJoinResponse (P : Platform) (mid : Bytes → UInt32) (draws : List UInt32)
    (m : RoutingMessage) (packet : XPacket) (t : RoutingTable) : Option (List Outgoing) × RoutingTable :=
  match t.isDestination P m.desNodeId false with
  | (false, t) => (some [], t)
  | (true, t) =>
    match m.data with
    | .bootstrapJoinResponse r =>
      if m.status = P.kadForbidden then (some [], t)
      else
        let t := t.learnEndpoint m r
        let node := bootstrapNode P m packet r
        let (ret, t) := t.addNode P node
        let t := t.pushBootstrapNode node
        if ret ≠ .kadSuccess ∧ ret ≠ .kadNodeHasAdded then (some [], t)
        else
          match t.setJoin r.bootstrapId packet.fromIp packet.fromPort with
          | (false, t) => (some [], t)
          | (true, t) => t.findClosestNodes P mid draws 1 routingMaxNodesSize []
    | _ => (some [], t)

end RoutingTable
end XKad
