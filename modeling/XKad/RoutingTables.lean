import XKad.XorDistance
import XKad.OrderedWalks
import XKad.NodeManagers

/-!
# The routing table

State and operations of `RoutingTable` (the base class). `AddNode` and
`DropNode` are cut at their mutex-protected blocks, so that the sequential
functions and the interleaved calls run the same code. Operations return their
result and the table; a sort reorders `nodes` in place.
-/
namespace XKad
open Std

structure RoutingTable where
  localNode : LocalNodeInfo
  nodes : List NodeInfo := []
  nodeIdMap : ExtTreeMap Bytes NodeInfo := ∅
  nodeHashMap : ExtTreeMap UInt64 NodeInfo := ∅
  noLockForUseNodes : Option (List NodeInfo) := none
  joined : Bool := false
  bootstrapId : Bytes := []
  bootstrapIp : Bytes := []
  bootstrapPort : UInt16 := 0
  bootstrapNodes : List NodeInfo := []
  detection : NodeDetectionManager := {}
  dyManager : DynamicXipManager := {}
  destroy : Bool := false

/-- A `uint32_t` argument received as `int`. -/
def intOfUInt32 (x : UInt32) : ℤ := x.toInt32.toInt

def routingMaxNodesSize : UInt32 := UInt32.ofNat kRoutingMaxNodesSize

def validNode (node : NodeInfo) : Bool :=
  if node.nodeId.length ≠ kNodeIdSize then false
  else if node.publicIp.isEmpty || node.publicPort ≤ 0 then false
  else true

namespace RoutingTable

/-- `Init` on a new table; `transportPort` is the transport's local port. -/
def init (l : LocalNodeInfo) (transportPort : UInt16) : RoutingTable :=
  let l := { l with localPort := transportPort }
  let l := if l.firstNode then { l with publicIp := l.localIp, publicPort := l.localPort } else l
  let node : NodeInfo := {
    nodeId := l.id
    localIp := l.localIp
    localPort := l.localPort
    publicIp := l.publicIp
    publicPort := l.publicPort
    xid := l.xid
    hash64 := l.hash64 }
  { localNode := l, nodeHashMap := (∅ : ExtTreeMap UInt64 NodeInfo).insertIfNew node.hash64 node }

def localId (t : RoutingTable) : Bytes := t.localNode.id

/-- `std::partial_sort` of the first `count` places by `CloserToTarget` on the
words `word` takes from the nodes. -/
def partialSortNodes (P : Platform) (word : NodeInfo → Bytes) (target : Bytes) (count : ℕ)
    (nodes : List NodeInfo) : List NodeInfo :=
  (P.partialSort.program count nodes).eval
    (fun lhs rhs => closerToTarget (word lhs) (word rhs) target)

/-- `SortNodesByTargetXid` and `SortNodesByTargetXip`, by the word compared. The cast
of `nodes_.size()` to `int` is left out: it matters from 2^31 nodes on, far above the
capacity of a table. -/
def sortNodesBy (P : Platform) (word : NodeInfo → Bytes) (target : Bytes) (number : ℤ)
    (t : RoutingTable) : ℤ × RoutingTable :=
  let count := min number t.nodes.length
  if count ≤ 0 then (0, t)
  else (count, { t with nodes := partialSortNodes P word target count.toNat t.nodes })

def sortNodesByTargetXid (P : Platform) (target : Bytes) (number : ℤ) (t : RoutingTable) :
    ℤ × RoutingTable :=
  t.sortNodesBy P NodeInfo.nodeId target number

def sortNodesByTargetXip (P : Platform) (target : Bytes) (number : ℤ) (t : RoutingTable) :
    ℤ × RoutingTable :=
  t.sortNodesBy P NodeInfo.xip target number

def hasNode (t : RoutingTable) (node : NodeInfo) : Bool := t.nodeIdMap.contains node.nodeId

def findLocalNode (t : RoutingTable) (nodeId : Bytes) : Option NodeInfo := t.nodeIdMap[nodeId]?

def getNode (t : RoutingTable) (id : Bytes) : Option NodeInfo := t.nodeIdMap[id]?

/-- `NewNodeReplaceOldNode`: room in the k-bucket of `node`. -/
def newNodeReplaceOldNode (t : RoutingTable) (node : NodeInfo) : Bool :=
  let sum := t.nodes.countP (fun n => n.bucketIndex = node.bucketIndex)
  decide (sum < kKadParamK)

/-- The `nodes_mutex_` block of `AddNode`: a return code if it leaves the function. -/
def addNodesBlock (P : Platform) (node : NodeInfo) (t : RoutingTable) :
    Option KadCode × RoutingTable :=
  let t := (t.sortNodesByTargetXid P t.localId t.nodes.length).2
  if !t.newNodeReplaceOldNode node then (some .kadFailed, t)
  else if t.hasNode node then (some .kadNodeHasAdded, t)
  else (none, { t with nodes := t.nodes ++ [node] })

def addIdMapBlock (node : NodeInfo) (t : RoutingTable) : RoutingTable :=
  { t with nodeIdMap := t.nodeIdMap.insertIfNew node.nodeId node }

def addHashMapBlock (node : NodeInfo) (t : RoutingTable) : RoutingTable :=
  { t with nodeHashMap := t.nodeHashMap.insertIfNew node.hash64 node }

def setNoLockForUseNodes (copy : Option (List NodeInfo)) (t : RoutingTable) : RoutingTable :=
  { t with noLockForUseNodes := copy }

/-- Reset the snapshot, copy `nodes_` and publish the copy. -/
def publishNodes (t : RoutingTable) : RoutingTable :=
  (t.setNoLockForUseNodes none).setNoLockForUseNodes (some t.nodes)

def addNode (P : Platform) (node : NodeInfo) (t : RoutingTable) : KadCode × RoutingTable :=
  if node.natType = kNatTypeUnknown then (.kadFailed, t)
  else if node.nodeId = t.localId then (.kadFailed, t)
  else if !validNode node then (.kadFailed, t)
  else if t.hasNode node then (.kadNodeHasAdded, t)
  else
    let (code, node) := setNodeBucket t.localId node
    if code ≠ .kadSuccess then (.kadFailed, t)
    else
      match t.addNodesBlock P node with
      | (some code, t) => (code, t)
      | (none, t) => (.kadSuccess, ((t.addIdMapBlock node).addHashMapBlock node).publishNodes)

/-- The `bucket_index` written into the record shared with the caller is left out;
`AddNode` writes it again. -/
def canAddNode (P : Platform) (node : NodeInfo) (t : RoutingTable) : Bool × RoutingTable :=
  if node.natType = kNatTypeUnknown then (false, t)
  else if node.nodeId = t.localId then (false, t)
  else if !validNode node then (false, t)
  else if t.hasNode node then (false, t)
  else
    let (code, node) := setNodeBucket t.localId node
    if code ≠ .kadSuccess then (false, t)
    else
      let t := (t.sortNodesByTargetXid P t.localId t.nodes.length).2
      (t.newNodeReplaceOldNode node, t)

/-- The `nodes_mutex_` block of `DropNode`: the first node of that id goes. -/
def dropNodesBlock (node : NodeInfo) (t : RoutingTable) : RoutingTable :=
  { t with nodes := t.nodes.eraseP (fun n => n.nodeId = node.nodeId) }

def dropIdMapBlock (node : NodeInfo) (t : RoutingTable) : RoutingTable :=
  { t with nodeIdMap := t.nodeIdMap.erase node.nodeId }

def dropHashMapBlock (node : NodeInfo) (t : RoutingTable) : RoutingTable :=
  { t with nodeHashMap := t.nodeHashMap.erase node.hash64 }

/-- The dynamic xip granted by the dropped node goes with it. -/
def dropDxip (node : NodeInfo) (t : RoutingTable) : RoutingTable :=
  { t with localNode := t.localNode.dropDxip node.nodeId }

/-- `DropNode`, which always returns `kKadSuccess`. -/
def dropNode (node : NodeInfo) (t : RoutingTable) : RoutingTable :=
  ((((t.dropNodesBlock node).dropIdMapBlock node).dropHashMapBlock node).dropDxip node).publishNodes

def getUnLockNodes (t : RoutingTable) : Option (List NodeInfo) := t.noLockForUseNodes

def getClosestNodes (P : Platform) (target : Bytes) (numberToGet : UInt32) (baseXip : Bool)
    (t : RoutingTable) : List NodeInfo × RoutingTable :=
  if numberToGet = 0 then ([], t)
  else
    let (sortedCount, t) :=
      if baseXip then t.sortNodesByTargetXip P target (intOfUInt32 numberToGet)
      else t.sortNodesByTargetXid P target (intOfUInt32 numberToGet)
    if sortedCount = 0 then ([], t)
    else (t.nodes.take sortedCount.toNat, t)

/-- `GetClosestNode`: the first of the closest nodes that is not skipped. -/
def getClosestNode (P : Platform) (target : Bytes) (notSelf : Bool) (exclude : Finset Bytes)
    (baseXip : Bool) (t : RoutingTable) : Option NodeInfo × RoutingTable :=
  let (closestNodes, t) := t.getClosestNodes P target routingMaxNodesSize baseXip
  (closestNodes.find? (fun n => !((notSelf && n.nodeId == t.localId) || decide (n.nodeId ∈ exclude))), t)

/-- `ClosestToTarget` with an exclude set; `closest` is the caller's variable. -/
def closestToTargetExclude (P : Platform) (target : Bytes) (exclude : Finset Bytes) (closest : Bool)
    (t : RoutingTable) : KadCode × Bool × RoutingTable :=
  if target = t.localId then (.kadFailed, closest, t)
  else if t.nodes.length = 0 then (.kadFailed, closest, t)
  else if target.length ≠ kNodeIdSize then (.kadFailed, closest, t)
  else
    match t.getClosestNode P target true exclude false with
    | (none, t) => (.kadSuccess, true, t)
    | (some node, t) =>
      (.kadSuccess,
        decide (node.bucketIndex = kSelfBucketIndex) || closerToTarget t.localId node.nodeId target, t)

def closestToTarget (P : Platform) (target : Bytes) (closest : Bool) (t : RoutingTable) :
    KadCode × Bool × RoutingTable :=
  if target = t.localId then (.kadFailed, closest, t)
  else if t.nodes.length = 0 then (.kadSuccess, true, t)
  else if target.length ≠ kNodeIdSize then (.kadFailed, closest, t)
  else
    match t.getClosestNode P target true ∅ false with
    | (none, t) => (.kadSuccess, true, t)
    | (some node, t) =>
      (.kadSuccess,
        decide (node.bucketIndex = kSelfBucketIndex) || closerToTarget t.localId node.nodeId target, t)

def isDestination (P : Platform) (desNodeId : Bytes) (checkClosest : Bool) (t : RoutingTable) :
    Bool × RoutingTable :=
  if desNodeId = t.localId then (true, t)
  else if !checkClosest then (false, t)
  else
    match t.closestToTarget P desNodeId false with
    | (.kadSuccess, closest, t) => (closest, t)
    | (_, _, t) => (false, t)

/-- `OnHeartbeatFailed`: drop every node seen at the endpoint. -/
def onHeartbeatFailed (ip : Bytes) (port : UInt16) (t : RoutingTable) : RoutingTable :=
  (t.nodes.filter (fun n => n.publicIp = ip && n.publicPort = port)).foldl (fun t n => t.dropNode n) t

/-- `HandleNodeQuit`: a node record is made of the claimed id and xid and dropped. -/
def handleNodeQuit (P : Platform) (message : RoutingMessage) (t : RoutingTable) : RoutingTable :=
  if !(t.isDestination P message.desNodeId false).1 then t
  else t.dropNode { nodeId := message.srcNodeId, xid := message.xid, hash64 := P.xhash64 message.xid }

/-- `HeartbeatProc`: apart from the log line it only sorts. -/
def heartbeatProc (P : Platform) (t : RoutingTable) : RoutingTable :=
  if t.destroy then t
  else (t.sortNodesByTargetXid P t.localId (intOfUInt32 routingMaxNodesSize)).2

/-- `GetSelfIndex`: the position of the local node in hash order, or -1. -/
def getSelfIndex (t : RoutingTable) : ℤ :=
  if t.nodeHashMap.contains t.localNode.hash64 then
    (t.nodeHashMap.keys.idxOf t.localNode.hash64 : ℤ)
  else -1

def getRangeNodes (min max : UInt64) (vec : List NodeInfo) (t : RoutingTable) : List NodeInfo :=
  if min = 0 ∧ max = UInt64.ofNat (2 ^ 64 - 1) then t.nodes
  else
    let items := t.nodeHashMap.toList
    let minit := lowerBound min items
    let maxit := upperBound max items
    vec ++ (walkUntil maxit minit (items.drop minit)).map Prod.snd

/-- `GetRangeNodes` by position in hash order. `max_index < 0` is never true, and the
sum `max_index + 1` is taken in 32 bits. Nothing is returned when the loop runs over the end. -/
def getRangeNodesByIndex (minIndex maxIndex : UInt32) (vec : List NodeInfo) (t : RoutingTable) :
    Option (List NodeInfo) :=
  let size := t.nodeHashMap.size
  if maxIndex < minIndex then some vec
  else if size ≤ minIndex.toNat then some vec
  else
    let maxIndex := if size ≤ maxIndex.toNat then UInt32.ofNat (size - 1) else maxIndex
    if minIndex = 0 ∧ maxIndex.toNat = size - 1 then some t.nodes
    else
      let items := t.nodeHashMap.toList
      let nxitMin := minIndex.toNat
      let nxitMax := (maxIndex + 1).toNat
      (walkTo nxitMax nxitMin (items.drop nxitMin)).map (fun walked => vec ++ walked.map Prod.snd)

end RoutingTable
end XKad
