import XKad.CompareTrees
import XKad.BigEndianWords

/-!
# Node records and constants

The records of `node_info.h` and `local_node_info.h` with the fields the
routing table reads or writes, and the constants of `routing_utils.h`. A
`NodeInfoPtr` is modelled by the record behind it: no modelled function changes
a record after it was stored in a table. Strings are byte words, `std::map` is
`Std.ExtTreeMap`, and fixed-width integers keep their width.
-/
namespace XKad
open Std

/-- Ids are 36 bytes, 288 bits. -/
def kNodeIdSize : ℕ := 36
def kKadParamK : ℕ := 8
def kKadParamAlpha : ℕ := 2
def kKadParamAlphaRandom : ℕ := 1
def kRoutingMaxNodesSize : ℕ := kNodeIdSize * 8 * kKadParamK
def kDetectionTimes : Int32 := 4
def kFindNodesBloomfilterBitSize : UInt32 := 4096
def kFindNodesBloomfilterHashNum : UInt32 := 11

def kInvalidBucketIndex : ℤ := -1
def kSelfBucketIndex : ℤ := 0

/-- The values of `NatType`; records and messages carry any `int32_t`. -/
def kNatTypeUnknown : Int32 := 0
def kNatTypePublic : Int32 := 1
def kNatTypeConeNormal : Int32 := 2
def kNatTypeConeAbnormal : Int32 := 3

def kHandshakeRequest : Int32 := 1
def kHandshakeResponse : Int32 := 2

/-- The return codes of `error_code.h` used by the routing table. -/
inductive KadCode where
  | kadSuccess | kadFailed | kadNodeHasAdded | kadNodeNotExists | kadTimeout
  deriving DecidableEq, Repr

structure NodeInfo where
  nodeId : Bytes := []
  bucketIndex : ℤ := kInvalidBucketIndex
  publicIp : Bytes := []
  publicPort : UInt16 := 0
  localIp : Bytes := []
  localPort : UInt16 := 0
  detectionCount : Int32 := 0
  natType : Int32 := 0
  detectionDelayCount : Int32 := 0
  serviceType : UInt64 := 0
  sameVlan : Bool := false
  xid : Bytes := []
  xip : Bytes := []
  hash64 : UInt64 := 0
  deriving DecidableEq

/-- `LocalNodeInfo`. The id comes from the Kademlia key, whose words have
`kNodeIdSize` bytes; `xid` is the process-wide `global_xid`. -/
structure LocalNodeInfo where
  id : Bytes
  id_size : id.length = kNodeIdSize
  xid : Bytes
  hash64 : UInt64
  xip : Bytes := []
  firstNode : Bool := false
  clientMode : Bool := false
  natType : Int32 := kNatTypeUnknown
  localIp : Bytes := []
  localPort : UInt16 := 0
  publicIp : Bytes := []
  publicPort : UInt16 := 0
  serviceType : UInt64 := 0
  nodeDxipMap : ExtTreeMap Bytes Bytes := ∅
  dxipNodeMap : ExtTreeMap Bytes Bytes := ∅

namespace LocalNodeInfo

def addDxip (l : LocalNodeInfo) (nodeId dxip : Bytes) : LocalNodeInfo :=
  { l with
    nodeDxipMap := l.nodeDxipMap.insert nodeId dxip
    dxipNodeMap := l.dxipNodeMap.insert dxip nodeId }

def dropDxip (l : LocalNodeInfo) (nodeId : Bytes) : LocalNodeInfo :=
  match l.nodeDxipMap[nodeId]? with
  | none => l
  | some dxip =>
    { l with
      nodeDxipMap := l.nodeDxipMap.erase nodeId
      dxipNodeMap := l.dxipNodeMap.erase dxip }

def hasDynamicXip (l : LocalNodeInfo) (dxip : Bytes) : Bool := l.dxipNodeMap.contains dxip

/-- The fields a dynamic xip operation leaves alone. -/
structure SameIdentity (l l' : LocalNodeInfo) : Prop where
  id : l'.id = l.id
  xid : l'.xid = l.xid
  hash64 : l'.hash64 = l.hash64
  firstNode : l'.firstNode = l.firstNode
  clientMode : l'.clientMode = l.clientMode
  natType : l'.natType = l.natType
  publicIp : l'.publicIp = l.publicIp
  publicPort : l'.publicPort = l.publicPort

theorem sameIdentity_dropDxip (l : LocalNodeInfo) (nodeId : Bytes) :
    SameIdentity l (l.dropDxip nodeId) := by
  rw [dropDxip]
  split <;> exact ⟨rfl, rfl, rfl, rfl, rfl, rfl, rfl, rfl⟩

end LocalNodeInfo
end XKad
