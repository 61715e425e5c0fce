import XKad.NodeRecords

/-!
# Routing messages

The protobuf messages of `kadmlia.proto` and the envelope `RoutingMessage` with
the fields the routing table reads or writes. An optional field without a
`has_` test in the source is kept as its value, with the proto2 default.
-/
namespace XKad

/-- `protobuf::NodeInfo`. -/
structure PbNodeInfo where
  id : Bytes := []
  publicIp : Bytes := []
  publicPort : Int32 := 0
  localIp : Bytes := []
  localPort : Int32 := 0
  natType : Int32 := 0
  xip : Bytes := []
  xid : Bytes := []
  deriving DecidableEq

structure FindClosestNodesRequest where
  count : UInt32 := 0
  targetId : Bytes := []
  bloomfilter : List UInt64 := []
  srcNodeinfo : PbNodeInfo := {}
  deriving DecidableEq

structure FindClosestNodesResponse where
  nodes : List PbNodeInfo := []
  deriving DecidableEq

structure ConnectReq where
  localIp : Bytes := []
  localPort : Int32 := 0
  publicIp : Bytes := []
  publicPort : Int32 := 0
  natType : Int32 := 0
  relayRoutingId : Bytes := []
  deriving DecidableEq

structure BootstrapJoinRequest where
  localIp : Bytes := []
  localPort : Int32 := 0
  natType : Int32 := 0
  xid : Bytes := []
  xip : Bytes := []
  deriving DecidableEq

structure BootstrapJoinResponse where
  publicIp : Bytes := []
  publicPort : Int32 := 0
  bootstrapId : Bytes := []
  natType : Int32 := 0
  xid : Bytes := []
  xip : Bytes := []
  dxip : Bytes := []
  deriving DecidableEq

structure Handshake where
  localIp : Bytes := []
  localPort : Int32 := 0
  type : Int32 := 0
  publicIp : Bytes := []
  publicPort : Int32 := 0
  natType : Int32 := 0
  xid : Bytes := []
  xip : Bytes := []
  deriving DecidableEq

/-- The bytes of `message.data()`, given by what the handler's parser makes of
them. `empty` stands for a missing or empty field, `malformed` for bytes that do
not parse. -/
inductive MessageData where
  | empty
  | malformed
  | findNodesRequest (r : FindClosestNodesRequest)
  | findNodesResponse (r : FindClosestNodesResponse)
  | connectRequest (r : ConnectReq)
  | bootstrapJoinRequest (r : BootstrapJoinRequest)
  | bootstrapJoinResponse (r : BootstrapJoinResponse)
  | handshake (r : Handshake)
  deriving DecidableEq

inductive MessageType where
  | none
  | kadConnectRequest | kadHandshake
  | kadBootstrapJoinRequest | kadBootstrapJoinResponse
  | kadFindNodesRequest | kadFindNodesResponse
  | kadDropNodeRequest
  deriving DecidableEq

inductive Priority where
  | routine | flash
  deriving DecidableEq

/-- `transport::protobuf::RoutingMessage`. `hopNodes` lists the node ids of
`hop_nodes`, `clientMsg` and `clientId` keep their `has_` bit. -/
structure RoutingMessage where
  type : MessageType := .none
  id : UInt32 := 0
  srcServiceType : UInt64 := 0
  desServiceType : UInt64 := 0
  srcNodeId : Bytes := []
  desNodeId : Bytes := []
  xid : Bytes := []
  hopNum : UInt32 := 0
  hopNodes : List Bytes := []
  priority : Priority := .routine
  data : MessageData := .empty
  clientMsg : Option Bool := none
  clientId : Option Bytes := none
  relayFlag : Bool := false
  requestType : Bool := false
  status : UInt32 := 0
  debug : String := ""
  versionTag : Option String := none
  deriving DecidableEq

def RoutingMessage.isClientMsg (m : RoutingMessage) : Bool := m.clientMsg == some true

/-- The source endpoint a received `xpacket_t` carries. -/
structure XPacket where
  fromIp : Bytes
  fromPort : UInt16
  deriving DecidableEq

/-- A message handed to the transport. -/
structure Outgoing where
  message : RoutingMessage
  toIp : Bytes
  toPort : UInt16
  deriving DecidableEq

theorem toInt_sub_one {x : Int32} (h : -2147483648 < x.toInt) : (x - 1).toInt = x.toInt - 1 := by
  have hlt := x.toInt_lt
  rw [Int32.toInt_sub, show (1 : Int32).toInt = 1 from rfl]
  apply Int.bmod_eq_of_le
  · omega
  · omega

theorem toInt_add_one {x : Int32} (h : x.toInt < 2147483647) : (x + 1).toInt = x.toInt + 1 := by
  have hle := x.le_toInt
  rw [Int32.toInt_add, show (1 : Int32).toInt = 1 from rfl]
  apply Int.bmod_eq_of_le
  · omega
  · omega

/-- An `int32` port of a message stored in a `uint16_t`. -/
def toPort (p : Int32) : UInt16 := p.toUInt32.toUInt16

/-- A `uint16_t` port written to an `int32` field. -/
def ofPort (p : UInt16) : Int32 := p.toUInt32.toInt32

@[simp] theorem toPort_ofPort (p : UInt16) : toPort (ofPort p) = p := by
  simp [toPort, ofPort]

/-- `SetFreqMessage`; `mid` is the value `CallbackManager::MessageId()` returns. -/
def setFreqMessage (l : LocalNodeInfo) (mid : UInt32) (m : RoutingMessage) : RoutingMessage :=
  { m with
    hopNum := 0
    srcServiceType := l.serviceType
    srcNodeId := l.id
    xid := l.xid
    priority := .routine
    id := mid }

def setVersion (m : RoutingMessage) : RoutingMessage :=
  if m.versionTag.isSome then m else { m with versionTag := some "0.6.0" }

def sendData (m : RoutingMessage) (ip : Bytes) (port : UInt16) : Outgoing :=
  ⟨setVersion m, ip, port⟩

/-- `SendData` to a node: over the local network when it is known to share it. -/
def sendDataToNode (m : RoutingMessage) (node : NodeInfo) : Outgoing :=
  if node.sameVlan then sendData m node.localIp node.localPort
  else ⟨setVersion m, node.publicIp, node.publicPort⟩

/-- Attaching the version tag changes nothing else. -/
theorem setVersion_eq (m : RoutingMessage) :
    ∃ v, setVersion m = { m with versionTag := v } := by
  rw [setVersion]
  split
  · exact ⟨m.versionTag, rfl⟩
  · exact ⟨_, rfl⟩

theorem sendDataToNode_message (m : RoutingMessage) (node : NodeInfo) :
    (sendDataToNode m node).message = setVersion m := by
  rw [sendDataToNode]
  split <;> rfl

/-- The packet goes to the local endpoint of a node known to share the local network,
and to the public endpoint of any other. -/
def Outgoing.AddressedTo (o : Outgoing) (node : NodeInfo) : Prop :=
  if node.sameVlan then o.toIp = node.localIp ∧ o.toPort = node.localPort
  else o.toIp = node.publicIp ∧ o.toPort = node.publicPort

theorem sendDataToNode_addressedTo (m : RoutingMessage) (node : NodeInfo) :
    (sendDataToNode m node).AddressedTo node := by
  rw [sendDataToNode, Outgoing.AddressedTo]
  split <;> exact ⟨rfl, rfl⟩

section SetVersion
variable (m : RoutingMessage)

@[simp] theorem setVersion_hopNodes : (setVersion m).hopNodes = m.hopNodes := by
  obtain ⟨v, h⟩ := setVersion_eq m
  rw [h]

@[simp] theorem setVersion_data : (setVersion m).data = m.data := by
  obtain ⟨v, h⟩ := setVersion_eq m
  rw [h]

@[simp] theorem setVersion_type : (setVersion m).type = m.type := by
  obtain ⟨v, h⟩ := setVersion_eq m
  rw [h]

@[simp] theorem setVersion_srcNodeId : (setVersion m).srcNodeId = m.srcNodeId := by
  obtain ⟨v, h⟩ := setVersion_eq m
  rw [h]

@[simp] theorem setVersion_desNodeId : (setVersion m).desNodeId = m.desNodeId := by
  obtain ⟨v, h⟩ := setVersion_eq m
  rw [h]

@[simp] theorem setVersion_clientMsg : (setVersion m).clientMsg = m.clientMsg := by
  obtain ⟨v, h⟩ := setVersion_eq m
  rw [h]

end SetVersion
end XKad
