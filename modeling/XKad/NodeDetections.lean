import XKad.Interleavings
import XKad.NodeManagers
import XKad.TreeMaps

/-!
# Detecting nodes by handshakes

An entry of the `NodeDetectionManager` waits out its delay, gets one handshake a tick
and is erased by the tick after the last one. `rest` counts the ticks an entry has left.
-/
namespace XKad
open Std

/-- A node as its constructor leaves `detection_count`. -/
structure FreshNode where
  node : NodeInfo
  fresh : node.detectionCount = 0

/-- The calls of a manager that is not destroyed. -/
inductive DetectionOp where
  | addDetectionNode (node : FreshNode)
  | removeDetection (ip : Bytes) (port : UInt16)
  | doTetection (l : LocalNodeInfo) (mid : Bytes → UInt32)

namespace DetectionOp

def run (P : Platform) : DetectionOp → NodeDetectionManager → List Outgoing × NodeDetectionManager
  | addDetectionNode node, m => ([], m.addDetectionNode P node.node)
  | removeDetection ip port, m => ([], m.removeDetection P ip port)
  | doTetection l mid, m => m.doTetection l mid

def next (P : Platform) (op : DetectionOp) (m : NodeDetectionManager) : NodeDetectionManager := (op.run P m).2

def isTick : DetectionOp → Bool
  | doTetection _ _ => true
  | _ => false

def isAdd : DetectionOp → Bool
  | addDetectionNode _ => true
  | _ => false

def ticks (ops : List DetectionOp) : ℕ := ops.countP isTick

/-- The call stores a new entry for the endpoint. -/
def Accepts (P : Platform) (ip : Bytes) (port : UInt16) (m : NodeDetectionManager) : DetectionOp → Prop
  | addDetectionNode node => node.node.publicIp = ip ∧ node.node.publicPort = port ∧
      NodeDetectionManager.endpointKey P.portText ip port ∉ m.detectionNodesMap
  | _ => False

instance (P : Platform) (ip : Bytes) (port : UInt16) (m : NodeDetectionManager) :
    ∀ op : DetectionOp, Decidable (op.Accepts P ip port m)
  | addDetectionNode node => inferInstanceAs (Decidable (node.node.publicIp = ip ∧ node.node.publicPort = port ∧
      NodeDetectionManager.endpointKey P.portText ip port ∉ m.detectionNodesMap))
  | removeDetection _ _ => inferInstanceAs (Decidable False)
  | doTetection _ _ => inferInstanceAs (Decidable False)

/-- The handshakes of the entry of an endpoint: what is sent there before another entry
is stored for the endpoint. -/
def handshakesOf (P : Platform) (ip : Bytes) (port : UInt16) :
    List DetectionOp → NodeDetectionManager → List Outgoing
  | [], _ => []
  | op :: ops, m =>
    if op.Accepts P ip port m then []
    else (op.run P m).1.filter (fun o => o.toIp = ip ∧ o.toPort = port) ++ handshakesOf P ip port ops (op.next P m)

end DetectionOp

/-- The counters an entry has on its way. -/
structure NodeInfo.Counting (n : NodeInfo) : Prop where
  delay_nonneg : 0 ≤ n.detectionDelayCount.toInt
  delay_le : n.detectionDelayCount.toInt ≤ 3
  count_nonneg : 0 ≤ n.detectionCount.toInt
  count_le : n.detectionCount.toInt ≤ kDetectionTimes.toInt

/-- The ticks after which the entry is gone. -/
def NodeInfo.rest (n : NodeInfo) : ℤ :=
  n.detectionDelayCount.toInt + (kDetectionTimes.toInt - n.detectionCount.toInt) + 1

namespace NodeDetectionManager

structure SameNode (n n' : NodeInfo) : Prop where
  nodeId : n'.nodeId = n.nodeId
  publicIp : n'.publicIp = n.publicIp
  publicPort : n'.publicPort = n.publicPort

/-- All that a tick does with an entry. -/
inductive Tick (n : NodeInfo) : Prop
  | waits (n' : NodeInfo) (heq : detectEntry n = (some n', false)) (hsame : SameNode n n')
    (hpos : 0 < n.detectionDelayCount.toInt)
    (hdelay : n'.detectionDelayCount.toInt = n.detectionDelayCount.toInt - 1)
    (hcount : n'.detectionCount.toInt = n.detectionCount.toInt)
  | sends (n' : NodeInfo) (heq : detectEntry n = (some n', true)) (hsame : SameNode n n')
    (hzero : n.detectionDelayCount.toInt = 0) (hmore : n.detectionCount.toInt < kDetectionTimes.toInt)
    (hdelay : n'.detectionDelayCount.toInt = 0)
    (hcount : n'.detectionCount.toInt = n.detectionCount.toInt + 1)
  | ends (heq : detectEntry n = (none, false)) (hzero : n.detectionDelayCount.toInt = 0)
    (hfull : n.detectionCount.toInt = kDetectionTimes.toInt)

theorem tick_cases {n : NodeInfo} (h : n.Counting) : Tick n := by
  have hdelay := h.delay_nonneg
  have hcount := h.count_le
  by_cases hpos : 0 < n.detectionDelayCount
  · have hpos' : 0 < n.detectionDelayCount.toInt := Int32.lt_iff_toInt_lt.mp hpos
    have hentry : detectEntry n =
        (some { n with detectionDelayCount := n.detectionDelayCount - 1 }, false) := by
      rw [detectEntry, if_pos hpos]
    exact .waits _ hentry ⟨rfl, rfl, rfl⟩ hpos' (toInt_sub_one (by omega)) rfl
  · have hnonpos : n.detectionDelayCount.toInt ≤ 0 :=
      Int.not_lt.mp (fun hlt => hpos (Int32.lt_iff_toInt_lt.mpr hlt))
    have hzero : n.detectionDelayCount.toInt = 0 := by omega
    by_cases hfull : kDetectionTimes ≤ n.detectionCount
    · have hle := Int32.le_iff_toInt_le.mp hfull
      refine .ends ?_ hzero (by omega)
      rw [detectEntry, if_neg hpos, if_pos hfull]
    · have hmore : n.detectionCount.toInt < kDetectionTimes.toInt :=
        Int.not_le.mp (fun hle => hfull (Int32.le_iff_toInt_le.mpr hle))
      have hentry : detectEntry n = (some { n with detectionCount := n.detectionCount + 1 }, true) := by
        rw [detectEntry, if_neg hpos, if_neg hfull]
      have htimes : kDetectionTimes.toInt = 4 := rfl
      exact .sends _ hentry ⟨rfl, rfl, rfl⟩ hzero hmore hzero (toInt_add_one (by omega))

/-- The map after any calls: entries at their keys, with counters on their way. -/
structure Detecting (P : Platform) (m : NodeDetectionManager) : Prop where
  alive : m.destroy = false
  keyed : ∀ (k : Bytes) n, m.detectionNodesMap[k]? = some n → k = endpointKey P.portText n.publicIp n.publicPort
  counting : ∀ (k : Bytes) n, m.detectionNodesMap[k]? = some n → n.Counting

variable {P : Platform} {m : NodeDetectionManager} {ip : Bytes} {port : UInt16} {n : NodeInfo}

theorem Detecting.empty : Detecting P {} where
  alive := rfl
  keyed k n hn := by simp at hn
  counting k n hn := by simp at hn

def entryOf (node : NodeInfo) : NodeInfo :=
  { node with detectionDelayCount := if node.natType = kNatTypeConeAbnormal then 3 else 0 }

theorem counting_entryOf (node : FreshNode) : (entryOf node.node).Counting := by
  have hcount : (entryOf node.node).detectionCount = 0 := node.fresh
  have hdelay : (entryOf node.node).detectionDelayCount = if node.node.natType = kNatTypeConeAbnormal then 3 else 0 :=
    rfl
  constructor
  · rw [hdelay]
    split <;> decide
  · rw [hdelay]
    split <;> decide
  · rw [hcount]
    decide
  · rw [hcount]
    decide

section Calls

variable (h : m.Detecting P)
include h

theorem addDetectionNode_getElem? (node : NodeInfo) (k : Bytes) :
    (m.addDetectionNode P node).detectionNodesMap[k]? =
      if endpointKey P.portText node.publicIp node.publicPort = k ∧ k ∉ m.detectionNodesMap then some (entryOf node)
      else m.detectionNodesMap[k]? := by
  rw [addDetectionNode, if_neg (by simp [h.alive])]
  dsimp only
  rw [ExtTreeMap.getElem?_insertIfNew]
  by_cases hk : endpointKey P.portText node.publicIp node.publicPort = k
  · subst hk
    simp [entryOf]
  · simp [hk]

omit h in
theorem removeDetection_getElem? (k : Bytes) : (m.removeDetection P ip port).detectionNodesMap[k]? =
    if endpointKey P.portText ip port = k then none else m.detectionNodesMap[k]? := by
  simp [removeDetection, ExtTreeMap.getElem?_erase]

theorem doTetection_getElem? (l : LocalNodeInfo) (mid : Bytes → UInt32) (k : Bytes) :
    (m.doTetection l mid).2.detectionNodesMap[k]? =
      m.detectionNodesMap[k]?.bind (fun n => (detectEntry n).1) := by
  rw [doTetection, if_neg (by simp [h.alive])]
  exact ExtTreeMap.getElem?_filterMap'

/-- An entry after a tick is one from before, a tick older. -/
theorem doTetection_entry {l : LocalNodeInfo} {mid : Bytes → UInt32} {k : Bytes} {n' : NodeInfo}
    (hn' : (m.doTetection l mid).2.detectionNodesMap[k]? = some n') :
    ∃ n, m.detectionNodesMap[k]? = some n ∧ (detectEntry n).1 = some n' ∧ SameNode n n' ∧ n'.Counting ∧
      n'.rest = n.rest - 1 := by
  rw [doTetection_getElem? h, Option.bind_eq_some_iff] at hn'
  obtain ⟨n, hn, hentry⟩ := hn'
  obtain ⟨hd, hd', hc, hc'⟩ := h.counting k n hn
  refine ⟨n, hn, hentry, ?_⟩
  rcases tick_cases (h.counting k n hn) with ⟨n₁, heq, hsame, hpos, hdelay, hcount⟩ |
    ⟨n₁, heq, hsame, hzero, hmore, hdelay, hcount⟩ | ⟨heq, _, _⟩
  · rw [heq] at hentry
    cases hentry
    refine ⟨hsame, ⟨by omega, by omega, by omega, by omega⟩, ?_⟩
    rw [NodeInfo.rest, NodeInfo.rest]
    omega
  · rw [heq] at hentry
    cases hentry
    refine ⟨hsame, ⟨by omega, by omega, by omega, by omega⟩, ?_⟩
    rw [NodeInfo.rest, NodeInfo.rest]
    omega
  · rw [heq] at hentry
    cases hentry

theorem Detecting.next (op : DetectionOp) : Detecting P (op.next P m) := by
  cases op with
  | addDetectionNode node =>
    have halive : (m.addDetectionNode P node.node).destroy = false := by
      rw [addDetectionNode, if_neg (by simp [h.alive])]
      exact h.alive
    have hentry {k : Bytes} {n : NodeInfo} (hn : (m.addDetectionNode P node.node).detectionNodesMap[k]? = some n) :
        m.detectionNodesMap[k]? = some n ∨
          k = endpointKey P.portText n.publicIp n.publicPort ∧ n = entryOf node.node := by
      rw [addDetectionNode_getElem? h] at hn
      split_ifs at hn with hnew
      · cases hn
        exact Or.inr ⟨hnew.1.symm, rfl⟩
      · exact Or.inl hn
    refine ⟨halive, fun k n hn => ?_, fun k n hn => ?_⟩
    · rcases hentry hn with hold | ⟨hk, _⟩
      · exact h.keyed k n hold
      · exact hk
    · rcases hentry hn with hold | ⟨_, rfl⟩
      · exact h.counting k n hold
      · exact counting_entryOf node
  | removeDetection ip port =>
    have hentry {k : Bytes} {n : NodeInfo} (hn : (m.removeDetection P ip port).detectionNodesMap[k]? = some n) :
        m.detectionNodesMap[k]? = some n := by
      rw [removeDetection_getElem?] at hn
      split_ifs at hn
      exact hn
    exact ⟨h.alive, fun k n hn => h.keyed k n (hentry hn), fun k n hn => h.counting k n (hentry hn)⟩
  | doTetection l mid =>
    have halive : (m.doTetection l mid).2.destroy = false := by
      rw [doTetection, if_neg (by simp [h.alive])]
      exact h.alive
    refine ⟨halive, fun k n' hn' => ?_, fun k n' hn' => ?_⟩
    · obtain ⟨n, hn, _, hsame, _⟩ := doTetection_entry h hn'
      rw [hsame.publicIp, hsame.publicPort]
      exact h.keyed k n hn
    · obtain ⟨_, _, _, _, hcounting, _⟩ := doTetection_entry h hn'
      exact hcounting

/-- `RemoveDetection` removes the entry of its endpoint and no other. -/
theorem removeDetection_iff (hports : WritesPorts P.portText) (k : Bytes) (n : NodeInfo) :
    (m.removeDetection P ip port).detectionNodesMap[k]? = some n ↔
      m.detectionNodesMap[k]? = some n ∧ ¬ (n.publicIp = ip ∧ n.publicPort = port) := by
  rw [removeDetection_getElem?]
  constructor
  · intro hn
    split_ifs at hn with hk
    refine ⟨hn, fun hsame => hk ?_⟩
    rw [h.keyed k n hn]
    exact (endpointKey_inj hports).mpr ⟨hsame.1.symm, hsame.2.symm⟩
  · rintro ⟨hn, hother⟩
    rw [if_neg]
    · exact hn
    · intro hk
      rw [h.keyed k n hn] at hk
      obtain ⟨hip, hport⟩ := (endpointKey_inj hports).mp hk
      exact hother ⟨hip.symm, hport.symm⟩

theorem handshake_to (l : LocalNodeInfo) (mid : UInt32) (n : NodeInfo) :
    ∃ o, m.handshake l mid n = [o] ∧ o.toIp = n.publicIp ∧ o.toPort = n.publicPort ∧
      o.message.desNodeId = n.nodeId := by
  rw [handshake, if_neg (by simp [h.alive])]
  exact ⟨_, rfl, rfl, rfl, rfl⟩

/-- A tick sends to an endpoint what its own entry is due. -/
theorem doTetection_sent (hports : WritesPorts P.portText) (l : LocalNodeInfo) (mid : Bytes → UInt32) (ip : Bytes)
    (port : UInt16) :
    (m.doTetection l mid).1.filter (fun o => o.toIp = ip ∧ o.toPort = port) =
      (m.detectionNodesMap[endpointKey P.portText ip port]?.map (fun n =>
        if (detectEntry n).2 then m.handshake l (mid (endpointKey P.portText ip port)) n else [])).getD [] := by
  have hto (e : Bytes × NodeInfo) (he : e ∈ m.detectionNodesMap.toList) :
      (if (detectEntry e.2).2 then m.handshake l (mid e.1) e.2 else []).filter
          (fun o => o.toIp = ip ∧ o.toPort = port) =
        if e.1 = endpointKey P.portText ip port ∧ (detectEntry e.2).2 then m.handshake l (mid e.1) e.2 else [] := by
    have hkey := h.keyed e.1 e.2 (ExtTreeMap.mem_toList_iff_getElem?_eq_some.mp he)
    obtain ⟨o, ho, hip, hport, _⟩ := handshake_to h l (mid e.1) e.2
    by_cases hdue : (detectEntry e.2).2
    · by_cases hk : e.1 = endpointKey P.portText ip port
      · obtain ⟨hip', hport'⟩ := (endpointKey_inj hports).mp (hkey.symm.trans hk)
        rw [if_pos hdue, if_pos ⟨hk, hdue⟩, ho, List.filter_cons_of_pos]
        · rfl
        · simp [hip, hport, hip', hport']
      · rw [if_pos hdue, if_neg (fun hc => hk hc.1), ho, List.filter_cons_of_neg]
        · rfl
        · rw [hip, hport]
          intro hc
          have hsame := of_decide_eq_true hc
          exact hk (hkey.trans ((endpointKey_inj hports).mpr hsame))
    · rw [if_neg hdue, if_neg (fun hc => hdue hc.2)]
      rfl
  rw [doTetection, if_neg (by simp [h.alive])]
  dsimp only
  rw [List.filter_flatMap, List.flatMap_congr hto, flatMap_toList_of_key]
  · cases m.detectionNodesMap[endpointKey P.portText ip port]? with
    | none => rfl
    | some n => simp
  · intro e _ hne
    rw [if_neg (fun hc => hne hc.1)]

end Calls

end NodeDetectionManager

namespace DetectionOp
open NodeDetectionManager

variable {P : Platform} {m : NodeDetectionManager} {ip : Bytes} {port : UInt16} {n : NodeInfo}

theorem detecting_follow (h : m.Detecting P) (ops : List DetectionOp) : (follow (next P) ops m).Detecting P :=
  follow_invariant (fun op _ hm => hm.next op) h ops

def Unremoved (ip : Bytes) (port : UInt16) (ops : List DetectionOp) : Prop := removeDetection ip port ∉ ops

/-- What is sent to the endpoint of an entry during calls. -/
structure Contacts (ip : Bytes) (port : UInt16) (n : NodeInfo) (ops : List DetectionOp) (sent : List Outgoing) :
    Prop where
  atMost : (sent.length : ℤ) ≤ kDetectionTimes.toInt - n.detectionCount.toInt
  notBefore : (ticks ops : ℤ) ≤ n.detectionDelayCount.toInt → sent = []
  own : ∀ o ∈ sent, o.message.desNodeId = n.nodeId
  onTime : Unremoved ip port ops → (sent.length : ℤ) =
    min (kDetectionTimes.toInt - n.detectionCount.toInt) (max (ticks ops - n.detectionDelayCount.toInt) 0)

/-- No message is right while the delay lasts, after the last handshake and after a removal. -/
theorem Contacts.nil (h : n.Counting) {ops : List DetectionOp} (hend : ticks ops ≤ n.detectionDelayCount.toInt ∨
    n.detectionCount.toInt = kDetectionTimes.toInt ∨ ¬ Unremoved ip port ops) : Contacts ip port n ops [] := by
  have hle := h.count_le
  refine ⟨?_, fun _ => rfl, fun o ho => absurd ho List.not_mem_nil, fun hstays => ?_⟩
  · rw [List.length_nil]
    omega
  · rw [List.length_nil]
    rcases hend with hdelay | hfull | hremoved
    · omega
    · omega
    · exact absurd hstays hremoved

namespace Contacts

variable {n' : NodeInfo} {ops : List DetectionOp} {sent : List Outgoing}

theorem unremoved_tail {op : DetectionOp} (h : Unremoved ip port (op :: ops)) : Unremoved ip port ops :=
  fun hin => h (List.mem_cons_of_mem op hin)

theorem cons (h : Contacts ip port n ops sent) {op : DetectionOp} (hop : op.isTick = false) :
    Contacts ip port n (op :: ops) sent := by
  have hticks : ticks (op :: ops) = ticks ops := List.countP_cons_of_neg (by simp [hop])
  refine ⟨h.atMost, ?_, h.own, fun hstays => ?_⟩
  · rw [hticks]
    exact h.notBefore
  · rw [hticks]
    exact h.onTime (unremoved_tail hstays)

variable {l : LocalNodeInfo} {mid : Bytes → UInt32}

theorem ticks_cons : ticks (doTetection l mid :: ops) = ticks ops + 1 := List.countP_cons_of_pos rfl

theorem cons_waits (h : Contacts ip port n' ops sent) (hsame : SameNode n n')
    (hdelay : n'.detectionDelayCount.toInt = n.detectionDelayCount.toInt - 1)
    (hcount : n'.detectionCount.toInt = n.detectionCount.toInt) :
    Contacts ip port n (doTetection l mid :: ops) sent := by
  obtain ⟨hmost, hbefore, hown, htime⟩ := h
  refine ⟨by omega, fun hle => hbefore ?_, fun o ho => (hown o ho).trans hsame.nodeId, fun hstays => ?_⟩
  · rw [ticks_cons] at hle
    push_cast at hle
    omega
  · rw [htime (unremoved_tail hstays), ticks_cons]
    push_cast
    omega

theorem cons_sends (h : Contacts ip port n' ops sent) (hsame : SameNode n n') {o : Outgoing}
    (hdes : o.message.desNodeId = n.nodeId) (hzero : n.detectionDelayCount.toInt = 0)
    (hdelay : n'.detectionDelayCount.toInt = 0) (hcount : n'.detectionCount.toInt = n.detectionCount.toInt + 1) :
    Contacts ip port n (doTetection l mid :: ops) (o :: sent) := by
  obtain ⟨hmost, _, hown, htime⟩ := h
  refine ⟨?_, fun hle => ?_, fun o' ho' => ?_, fun hstays => ?_⟩
  · rw [List.length_cons]
    push_cast
    omega
  · rw [ticks_cons] at hle
    push_cast at hle
    omega
  · rcases List.mem_cons.mp ho' with rfl | ho'
    · exact hdes
    · exact (hown o' ho').trans hsame.nodeId
  · have hrest := htime (unremoved_tail hstays)
    rw [List.length_cons, ticks_cons]
    push_cast
    omega

end Contacts

theorem handshakesOf_absent (hports : WritesPorts P.portText) (h : m.Detecting P)
    (hnone : m.detectionNodesMap[endpointKey P.portText ip port]? = none) (ops : List DetectionOp) :
    handshakesOf P ip port ops m = [] := by
  induction ops generalizing m with
  | nil => rfl
  | cons op ops ih =>
    rw [handshakesOf]
    split_ifs with haccepts
    · rfl
    · have hnext : (op.next P m).detectionNodesMap[endpointKey P.portText ip port]? = none := by
        cases op with
        | addDetectionNode node =>
          rw [next, run, addDetectionNode_getElem? h, hnone, if_neg]
          rintro ⟨hkey, hnew⟩
          obtain ⟨hip, hport⟩ := (endpointKey_inj hports).mp hkey
          exact haccepts ⟨hip, hport, hnew⟩
        | removeDetection ip' port' =>
          rw [next, run, removeDetection_getElem?, hnone, ite_self]
        | doTetection l mid =>
          rw [next, run, doTetection_getElem? h, hnone]
          rfl
      have hsent : (op.run P m).1.filter (fun o => o.toIp = ip ∧ o.toPort = port) = [] := by
        cases op with
        | doTetection l mid =>
          rw [run, doTetection_sent h hports, hnone]
          rfl
        | _ => rfl
      rw [hsent, List.nil_append]
      exact ih (h.next op) hnext

theorem not_accepts_of_present (he : m.detectionNodesMap[endpointKey P.portText ip port]? = some n) (op : DetectionOp) :
    ¬ op.Accepts P ip port m := by
  cases op with
  | addDetectionNode node =>
    rintro ⟨_, _, hnew⟩
    rw [ExtTreeMap.getElem?_eq_none hnew] at he
    cases he
  | _ => exact not_false

theorem handshakesOf_present (hports : WritesPorts P.portText) (h : m.Detecting P)
    (he : m.detectionNodesMap[endpointKey P.portText ip port]? = some n) (ops : List DetectionOp) :
    Contacts ip port n ops (handshakesOf P ip port ops m) := by
  induction ops generalizing m n with
  | nil => exact .nil (h.counting _ n he) (Or.inl (h.counting _ n he).delay_nonneg)
  | cons op ops ih =>
    have hcounting := h.counting _ n he
    rw [handshakesOf, if_neg (not_accepts_of_present he op)]
    cases op with
    | addDetectionNode node =>
      have hnext : ((addDetectionNode node).next P m).detectionNodesMap[endpointKey P.portText ip port]? = some n := by
        rw [next, run, addDetectionNode_getElem? h, if_neg, he]
        rintro ⟨_, hnew⟩
        rw [ExtTreeMap.getElem?_eq_none hnew] at he
        cases he
      exact (ih (h.next _) hnext).cons rfl
    | removeDetection ip' port' =>
      by_cases hkey : endpointKey P.portText ip' port' = endpointKey P.portText ip port
      · have hnext :
            ((removeDetection ip' port').next P m).detectionNodesMap[endpointKey P.portText ip port]? = none := by
          rw [next, run, removeDetection_getElem?, if_pos hkey]
        obtain ⟨rfl, rfl⟩ := (endpointKey_inj hports).mp hkey
        rw [handshakesOf_absent hports (h.next _) hnext]
        exact .nil hcounting (Or.inr (Or.inr (fun hstays => hstays List.mem_cons_self)))
      · have hnext :
            ((removeDetection ip' port').next P m).detectionNodesMap[endpointKey P.portText ip port]? = some n := by
          rw [next, run, removeDetection_getElem?, if_neg hkey, he]
        exact (ih (h.next _) hnext).cons rfl
    | doTetection l mid =>
      rw [run, doTetection_sent h hports, he, Option.map_some, Option.getD_some]
      have hnext : ((doTetection l mid).next P m).detectionNodesMap[endpointKey P.portText ip port]? =
          (detectEntry n).1 := by
        rw [next, run, doTetection_getElem? h, he]
        rfl
      rcases tick_cases hcounting with ⟨n', heq, hsame, _, hdelay, hcount⟩ |
        ⟨n', heq, hsame, hzero, _, hdelay, hcount⟩ | ⟨heq, _, hfull⟩
      · rw [heq] at hnext
        rw [heq, if_neg Bool.false_ne_true, List.nil_append]
        exact (ih (h.next _) hnext).cons_waits hsame hdelay hcount
      · obtain ⟨o, ho, _, _, hdes⟩ := handshake_to h l (mid (endpointKey P.portText ip port)) n
        rw [heq] at hnext
        rw [heq, if_pos rfl, ho, List.singleton_append]
        exact (ih (h.next _) hnext).cons_sends hsame hdes hzero hdelay hcount
      · -- the tick after the last handshake erases the entry
        rw [heq] at hnext
        rw [heq, if_neg Bool.false_ne_true, List.nil_append, handshakesOf_absent hports (h.next _) hnext]
        exact .nil hcounting (Or.inr (Or.inl hfull))

theorem handshakesOf_removed (hports : WritesPorts P.portText) (h : m.Detecting P) (before after : List DetectionOp) :
    handshakesOf P ip port (before ++ removeDetection ip port :: after) m = handshakesOf P ip port before m := by
  induction before generalizing m with
  | nil =>
    have hnext : ((removeDetection ip port).next P m).detectionNodesMap[endpointKey P.portText ip port]? = none := by
      rw [next, run, removeDetection_getElem?, if_pos rfl]
    have hnot : ¬ (removeDetection ip port).Accepts P ip port m := not_false
    rw [List.nil_append, handshakesOf, handshakesOf, if_neg hnot, handshakesOf_absent hports (h.next _) hnext]
    rfl
  | cons op before ih =>
    rw [List.cons_append, handshakesOf, handshakesOf, ih (h.next op)]

/-- Every tick without an `AddDetectionNode` takes one from what the entries have left. -/
theorem rest_le (hports : WritesPorts P.portText) (h : m.Detecting P) {b : ℤ}
    (hb : ∀ (k : Bytes) n, m.detectionNodesMap[k]? = some n → n.rest ≤ b)
    {ops : List DetectionOp} (hadds : ∀ op ∈ ops, op.isAdd = false) :
    ∀ (k : Bytes) n, (follow (next P) ops m).detectionNodesMap[k]? = some n → n.rest + ticks ops ≤ b := by
  induction ops generalizing m b with
  | nil =>
    intro k n hn
    simpa [ticks] using hb k n hn
  | cons op ops ih =>
    obtain ⟨hadd, hrest⟩ := List.forall_mem_cons.mp hadds
    intro k n hn
    rw [follow_cons] at hn
    cases op with
    | addDetectionNode node => cases hadd
    | removeDetection ip port =>
      refine ih (h.next _) (fun k' n' hn' => hb k' n' ?_) hrest k n hn
      exact ((removeDetection_iff h hports k' n').mp hn').1
    | doTetection l mid =>
      have hticks : ticks (doTetection l mid :: ops) = ticks ops + 1 := List.countP_cons_of_pos rfl
      have hless := ih (b := b - 1) (h.next _) (fun k' n' hn' => ?_) hrest k n hn
      · rw [hticks]
        push_cast
        omega
      · obtain ⟨n₀, hn₀, _, _, _, hone⟩ := doTetection_entry h hn'
        have hle := hb k' n₀ hn₀
        omega

theorem drained (hports : WritesPorts P.portText) (h : m.Detecting P) {ops : List DetectionOp}
    (hadds : ∀ op ∈ ops, op.isAdd = false) (hticks : 8 ≤ ticks ops) :
    (follow (next P) ops m).detectionNodesMap = ∅ := by
  have htimes : kDetectionTimes.toInt = 4 := rfl
  have hstart : ∀ (k : Bytes) n, m.detectionNodesMap[k]? = some n → n.rest ≤ 8 := by
    intro k n hn
    obtain ⟨_, hdelay, hcount, _⟩ := h.counting k n hn
    rw [NodeInfo.rest]
    omega
  apply ExtTreeMap.ext_getElem?
  intro k
  cases hn : (follow (next P) ops m).detectionNodesMap[k]? with
  | none => simp
  | some n =>
    have hle := rest_le hports h hstart hadds k n hn
    obtain ⟨hdelay, _, _, hcount⟩ := (detecting_follow h ops).counting k n hn
    rw [NodeInfo.rest] at hle
    omega

/-- What the entry just stored for `node` gets during later calls. -/
structure Scheduled (P : Platform) (node : NodeInfo) (m : NodeDetectionManager) (later : List DetectionOp) :
    Prop where
  atMost : (handshakesOf P node.publicIp node.publicPort later m).length ≤ kDetectionTimes.toInt
  /-- Nothing while the ticks are no more than `detection_delay_count`. -/
  notBefore : ∃ n, m.detectionNodesMap[endpointKey P.portText node.publicIp node.publicPort]? = some n ∧
    (ticks later ≤ n.detectionDelayCount.toInt → handshakesOf P node.publicIp node.publicPort later m = [])
  /-- Nothing after a `RemoveDetection` for the endpoint. -/
  notAfter : ∀ first last, later = first ++ removeDetection node.publicIp node.publicPort :: last →
    handshakesOf P node.publicIp node.publicPort later m = handshakesOf P node.publicIp node.publicPort first m
  own : ∀ o ∈ handshakesOf P node.publicIp node.publicPort later m, o.message.desNodeId = node.nodeId
  /-- One a tick after the delay, unless the entry is removed. -/
  onTime : Unremoved node.publicIp node.publicPort later →
    ((handshakesOf P node.publicIp node.publicPort later m).length : ℤ) =
      min kDetectionTimes.toInt (max (ticks later - (entryOf node).detectionDelayCount.toInt) 0)

theorem scheduled_of_accepted (hports : WritesPorts P.portText) (h : m.Detecting P) (node : FreshNode)
    (hnew : endpointKey P.portText node.node.publicIp node.node.publicPort ∉ m.detectionNodesMap)
    (later : List DetectionOp) : Scheduled P node.node ((addDetectionNode node).next P m) later := by
  have hentry : ((addDetectionNode node).next P m).detectionNodesMap[
      endpointKey P.portText node.node.publicIp node.node.publicPort]? = some (entryOf node.node) :=
    (addDetectionNode_getElem? h node.node _).trans (if_pos ⟨rfl, hnew⟩)
  have hnext := h.next (addDetectionNode node)
  obtain ⟨hmost, hdelay, hown, htime⟩ := handshakesOf_present hports hnext hentry later
  have hcount : (entryOf node.node).detectionCount.toInt = 0 := congrArg Int32.toInt node.fresh
  rw [hcount, sub_zero] at hmost htime
  refine ⟨hmost, ⟨_, hentry, hdelay⟩, ?_, hown, htime⟩
  rintro first last rfl
  exact handshakesOf_removed hports hnext first last

/-- The detection of nodes over any calls: what an accepted entry gets, what
`RemoveDetection` removes, and when the map is empty again. -/
theorem detection_schedule (hports : WritesPorts P.portText) (ops : List DetectionOp) :
    (∀ before node later, ops = before ++ addDetectionNode node :: later →
      endpointKey P.portText node.node.publicIp node.node.publicPort ∉ (follow (next P) before {}).detectionNodesMap →
      Scheduled P node.node (follow (next P) (before ++ [addDetectionNode node]) {}) later) ∧
    (∀ (ip : Bytes) (port : UInt16) (k : Bytes) (n : NodeInfo),
      (follow (next P) (ops ++ [removeDetection ip port]) {}).detectionNodesMap[k]? = some n ↔
        (follow (next P) ops {}).detectionNodesMap[k]? = some n ∧ ¬ (n.publicIp = ip ∧ n.publicPort = port)) ∧
    ∀ before later, ops = before ++ later → (∀ op ∈ later, op.isAdd = false) → 8 ≤ ticks later →
      (follow (next P) ops {}).detectionNodesMap = ∅ := by
  refine ⟨?_, ?_, ?_⟩
  · intro before node later _ hnew
    rw [follow_append]
    exact scheduled_of_accepted hports (detecting_follow .empty before) node hnew later
  · intro ip port k n
    rw [follow_append]
    exact removeDetection_iff (detecting_follow .empty ops) hports k n
  · rintro before later rfl hadds hticks
    rw [follow_append]
    exact drained hports (detecting_follow .empty before) hadds hticks

def detector : LocalNodeInfo where
  id := List.replicate kNodeIdSize 0
  id_size := List.length_replicate
  xid := [48]
  hash64 := 0

def behindNat (ip : Bytes) (port : UInt16) : FreshNode where
  node := { nodeId := [0], publicIp := ip, publicPort := port, natType := kNatTypeConeAbnormal }
  fresh := rfl

/-- Of two nodes, whose addresses end and begin alike, one is removed after five ticks. -/
theorem detection_schedule_two :
    let add := addDetectionNode (behindNat [49] 25)
    let later := List.replicate 5 (doTetection detector fun _ => 0) ++
      [.removeDetection [49, 95, 50] 5] ++ List.replicate 8 (doTetection detector fun _ => 0)
    let before := [addDetectionNode (behindNat [49, 95, 50] 5)]
    Scheduled .simple (behindNat [49] 25).node (follow (next .simple) (before ++ [add]) {}) later ∧
      (∀ (k : Bytes) (n : NodeInfo),
        (follow (next .simple) (before ++ add :: later ++ [removeDetection [49] 25]) {}).detectionNodesMap[k]? =
            some n ↔
          (follow (next .simple) (before ++ add :: later) {}).detectionNodesMap[k]? = some n ∧
            ¬ (n.publicIp = [49] ∧ n.publicPort = 25)) ∧
      (follow (next .simple) (before ++ add :: later) {}).detectionNodesMap = ∅ := by
  intro add later before
  obtain ⟨hscheduled, hremoved, hdrained⟩ :=
    detection_schedule (P := .simple) .decimal (before ++ add :: later)
  refine ⟨hscheduled before _ later rfl (by decide +kernel), hremoved [49] 25, ?_⟩
  exact hdrained (before ++ [add]) later (by simp) (by decide) (by decide)

end DetectionOp
end XKad
