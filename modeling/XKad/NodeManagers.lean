import XKad.RenderedLists
import XKad.RoutingMessages

/-!
# The external platform and the managers owned by a routing table

`Platform` collects what the routing table calls outside this repository. The
node detection manager keeps the nodes still to be contacted by a handshake, the
dynamic xip manager hands temporary addresses to clients.
-/
namespace XKad
open Std

/-- Code outside the repository: the library's partial sort, the hash of an xid,
the bloom filter, the setters of a xip, the text of a port and a return code. A
parsed xip is kept as its string. -/
structure Platform where
  partialSort : PartialSort NodeInfo
  xhash64 : Bytes → UInt64
  Bloom : Type
  emptyBloom : UInt32 → UInt32 → Bloom
  bloomOfVector : List UInt64 → UInt32 → Bloom
  bloomAdd : Bloom → Bytes → Bloom
  bloomContain : Bloom → Bytes → Bool
  bloomVector : Bloom → List UInt64
  setXipTypeDynamic : Bytes → Bytes
  setProcessId : Bytes → UInt32 → Bytes
  setRouterId : Bytes → UInt32 → Bytes
  setSwitchId : Bytes → UInt32 → Bytes
  setLocalId : Bytes → UInt32 → Bytes
  portText : UInt16 → Bytes
  kadForbidden : UInt32

/-- The decimal digits of a port, as `std::to_string` writes them. -/
def decimalText (port : UInt16) : Bytes :=
  (Nat.toDigits 10 port.toNat).map (fun c => UInt8.ofNat c.toNat)

/-- What is used of a text written for a port: it consists of digits, and another port
has another text. -/
structure WritesPorts (portText : UInt16 → Bytes) : Prop where
  digits : ∀ port, ∀ b ∈ portText port, 48 ≤ b.toNat ∧ b.toNat ≤ 57
  injective : Function.Injective portText

namespace WritesPorts

variable {portText : UInt16 → Bytes} {sep : UInt8} {ip ip' : Bytes} {p q : UInt16}

theorem notMem (h : WritesPorts portText) (hsep : ¬ (48 ≤ sep.toNat ∧ sep.toNat ≤ 57)) (port : UInt16) :
    sep ∉ portText port :=
  fun hmem => hsep (h.digits port sep hmem)

/-- An endpoint can be read off a text that separates the address from the port. -/
theorem endpoint_inj (h : WritesPorts portText) (hsep : ¬ (48 ≤ sep.toNat ∧ sep.toNat ≤ 57)) :
    ip ++ sep :: portText p = ip' ++ sep :: portText q ↔ ip = ip' ∧ p = q :=
  append_separator_inj (h.notMem hsep) (fun _ _ heq => h.injective heq)

theorem toNat_of_isDigit {c : Char} (h : c.isDigit = true) : 48 ≤ c.toNat ∧ c.toNat ≤ 57 := by
  simp only [Char.isDigit, Bool.and_eq_true, decide_eq_true_eq] at h
  exact ⟨UInt32.le_iff_toNat_le.mp h.1, UInt32.le_iff_toNat_le.mp h.2⟩

theorem decimalText_chars (port : UInt16) :
    (decimalText port).map (fun b => Char.ofNat b.toNat) = Nat.toDigits 10 port.toNat := by
  rw [decimalText, List.map_map]
  conv_rhs => rw [← List.map_id (Nat.toDigits 10 port.toNat)]
  apply List.map_congr_left
  intro c hc
  have hdigit := toNat_of_isDigit (Nat.isDigit_of_mem_toDigits (by decide) (by decide) hc)
  have hval : c.toNat % 2 ^ 8 = c.toNat := Nat.mod_eq_of_lt (by omega)
  simp only [Function.comp_apply, UInt8.toNat_ofNat', hval, Char.ofNat_toNat, id_eq]

theorem decimal : WritesPorts decimalText where
  digits port b hb := by
    obtain ⟨c, hc, rfl⟩ := List.mem_map.mp hb
    have hdigit := toNat_of_isDigit (Nat.isDigit_of_mem_toDigits (by decide) (by decide) hc)
    have hval : (UInt8.ofNat c.toNat).toNat = c.toNat := by
      rw [UInt8.toNat_ofNat']
      exact Nat.mod_eq_of_lt (by omega)
    rw [hval]
    exact hdigit
  injective p q h := by
    have hchars := (decimalText_chars p).symm.trans ((congrArg _ h).trans (decimalText_chars q))
    have hnat := congrArg (fun l => Nat.ofDigitChars 10 l 0) hchars
    simp only [Nat.ofDigitChars_ten_toDigits] at hnat
    exact UInt16.toNat_inj.mp hnat

end WritesPorts

/-- A platform to run the model on: insertion sort, the last eight bytes as
hash, the list of hashes as filter, a xip that keeps its fields in order, and ports
in decimal digits. -/
def Platform.simple : Platform where
  partialSort := .insertion
  xhash64 s := UInt64.ofNat (bigEndian s)
  Bloom := List UInt64
  emptyBloom _ _ := []
  bloomOfVector v _ := v
  bloomAdd b s := UInt64.ofNat (bigEndian s) :: b
  bloomContain b s := b.elem (UInt64.ofNat (bigEndian s))
  bloomVector b := b
  setXipTypeDynamic s := s ++ [1]
  setProcessId s v := s ++ [v.toUInt8]
  setRouterId s v := s ++ [v.toUInt8]
  setSwitchId s v := s ++ [v.toUInt8]
  setLocalId s v := s ++ [v.toUInt8]
  portText := decimalText
  kadForbidden := 1

/-- `LocalNodeInfo::xip()`. For a client it reads through a reference to a parser that
`GetXipParser` has destroyed: there is no value, and what calls it comes to an end. -/
def LocalNodeInfo.xipString (l : LocalNodeInfo) : Option Bytes :=
  if l.clientMode then none else some l.xip

theorem LocalNodeInfo.xipString_eq_none {l : LocalNodeInfo} : l.xipString = none ↔ l.clientMode = true := by
  rw [xipString]
  split <;> simp [*]

theorem LocalNodeInfo.xipString_of_not_client {l : LocalNodeInfo} (h : l.clientMode = false) :
    l.xipString = some l.xip :=
  if_neg (by simp [h])

structure ClientNodeInfo where
  nodeId : Bytes := []
  publicIp : Bytes := []
  publicPort : UInt16 := 0
  deriving DecidableEq

structure DynamicXipManager where
  dyXipMap : ExtTreeMap Bytes ClientNodeInfo := ∅
  atomXipManagerId : UInt32 := 0

namespace DynamicXipManager

def getProcessId (id : UInt32) : UInt32 := (id &&& 0xF00000) >>> 16
def getRouterId (id : UInt32) : UInt32 := (id &&& 0x0F0000) >>> 16
def getSwitchId (id : UInt32) : UInt32 := (id &&& 0xFF00) >>> 8
def getLocalId (id : UInt32) : UInt32 := id &&& 0xFF

def dispatchDynamicXip (P : Platform) (localXip : Bytes) (m : DynamicXipManager) :
    Bytes × DynamicXipManager :=
  let nowId := m.atomXipManagerId + 1
  let xip := P.setXipTypeDynamic localXip
  let xip := P.setProcessId xip (getProcessId nowId)
  let xip := P.setRouterId xip (getRouterId nowId)
  let xip := P.setSwitchId xip (getSwitchId nowId)
  let xip := P.setLocalId xip (getLocalId nowId)
  (xip, { m with atomXipManagerId := nowId })

def addClientNode (dyXip : Bytes) (node : ClientNodeInfo) (m : DynamicXipManager) :
    DynamicXipManager :=
  { m with dyXipMap := m.dyXipMap.insert dyXip node }

def findClientNode (dyXip : Bytes) (m : DynamicXipManager) : Option ClientNodeInfo :=
  m.dyXipMap[dyXip]?

end DynamicXipManager

/-- `NodeDetectionManager`: the nodes to contact, by endpoint. -/
structure NodeDetectionManager where
  detectionNodesMap : ExtTreeMap Bytes NodeInfo := ∅
  destroy : Bool := false

namespace NodeDetectionManager

/-- `ip + "_" + port`. -/
def endpointKey (portText : UInt16 → Bytes) (ip : Bytes) (port : UInt16) : Bytes := ip ++ 95 :: portText port

theorem endpointKey_inj {portText : UInt16 → Bytes} (h : WritesPorts portText) {ip ip' : Bytes} {p q : UInt16} :
    endpointKey portText ip p = endpointKey portText ip' q ↔ ip = ip' ∧ p = q :=
  h.endpoint_inj (by decide)

def addDetectionNode (P : Platform) (node : NodeInfo) (m : NodeDetectionManager) : NodeDetectionManager :=
  if m.destroy then m
  else
    let key := endpointKey P.portText node.publicIp node.publicPort
    let delay := if node.natType = kNatTypeConeAbnormal then 3 else 0
    { m with
      detectionNodesMap := m.detectionNodesMap.insertIfNew key { node with detectionDelayCount := delay } }

def removeDetection (P : Platform) (ip : Bytes) (port : UInt16) (m : NodeDetectionManager) : NodeDetectionManager :=
  { m with detectionNodesMap := m.detectionNodesMap.erase (endpointKey P.portText ip port) }

/-- `Handshake`: the request sent to a node under detection. -/
def handshake (l : LocalNodeInfo) (mid : UInt32) (node : NodeInfo) (m : NodeDetectionManager) :
    List Outgoing :=
  if m.destroy then []
  else
    let message := setFreqMessage l mid {}
    let message := { message with
      desServiceType := node.serviceType
      desNodeId := node.nodeId
      type := .kadHandshake
      clientMsg := if l.clientMode then some true else none
      data := .handshake {
        type := kHandshakeRequest
        localIp := l.localIp
        localPort := ofPort l.localPort
        publicIp := l.publicIp
        publicPort := ofPort l.publicPort
        natType := l.natType
        xid := l.xid } }
    [⟨message, node.publicIp, node.publicPort⟩]

/-- One entry met by the scan of `DoTetection`: the entry afterwards, if it
stays, and whether a handshake is sent to it. -/
def detectEntry (node : NodeInfo) : Option NodeInfo × Bool :=
  if 0 < node.detectionDelayCount then
    (some { node with detectionDelayCount := node.detectionDelayCount - 1 }, false)
  else if kDetectionTimes ≤ node.detectionCount then (none, false)
  else (some { node with detectionCount := node.detectionCount + 1 }, true)

/-- `DoTetection`: one tick over all entries, in key order; `mid key` is the
message id drawn for the handshake of that entry. -/
def doTetection (l : LocalNodeInfo) (mid : Bytes → UInt32) (m : NodeDetectionManager) :
    List Outgoing × NodeDetectionManager :=
  if m.destroy then ([], m)
  else
    let sent := m.detectionNodesMap.toList.flatMap
      (fun e => if (detectEntry e.2).2 then m.handshake l (mid e.1) e.2 else [])
    (sent, { m with detectionNodesMap := m.detectionNodesMap.filterMap (fun _ n => (detectEntry n).1) })

end NodeDetectionManager
end XKad
