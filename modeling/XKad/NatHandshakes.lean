import XKad.NodeManagers
import XKad.Interleavings
import XKad.TreeMaps

/-!
# Handshakes to peers behind a NAT

`AddDetection` stores an entry for an endpoint. A tick of the timer copies the map of
entries under the mutex, then works on each copied entry without it: it counts the
delay down, then sends a handshake, and after the last one erases the key of the entry
under the mutex. The other two operations may come at any point of a tick.
-/
namespace XKad
open Std

def kDetectionPeriod : ℕ := 50
def kDetectCount : ℕ := 2000 / kDetectionPeriod

/-- The arguments of `AddDetection`; a transport is named by a number. -/
structure NatDetection where
  ip : Bytes
  port : UInt16
  transport : ℕ
  detectPort : UInt16
  messageType : Int32
  delayMs : Int32
  deriving DecidableEq

/-- A ping of `DoHandshake`: the transport it leaves by, where it goes, and the fields
set in its message. -/
structure NatHandshake where
  transport : ℕ
  peerIp : Bytes
  detectPort : UInt16
  messageType : Int32
  hopNum : UInt32 := 0
  srcNodeId : Bytes := []
  desNodeId : Bytes := []
  isRoot : Bool := true
  deriving DecidableEq

/-- `NatDetectStruct`. A counter falls only while it is positive. -/
structure NatDetectStruct where
  ip : Bytes
  port : UInt16
  transport : ℕ
  detectPort : UInt16
  messageType : Int32
  delayCount : ℤ := 0
  detectCount : ℤ := 0
  deriving DecidableEq

def NatDetection.struct (d : NatDetection) : NatDetectStruct where
  ip := d.ip
  port := d.port
  transport := d.transport
  detectPort := d.detectPort
  messageType := d.messageType
  delayCount := d.delayMs.toInt.tdiv kDetectionPeriod
  detectCount := kDetectCount

def NatDetection.key (d : NatDetection) : Bytes := NodeDetectionManager.endpointKey decimalText d.ip d.port

def NatDetectStruct.doHandshake (st : NatDetectStruct) : NatHandshake where
  transport := st.transport
  peerIp := st.ip
  detectPort := st.detectPort
  messageType := st.messageType

/-- The work on one copied entry: the entry afterwards, whether a handshake is sent,
and whether the key is erased. -/
def NatDetectStruct.detect (st : NatDetectStruct) : NatDetectStruct × Bool × Bool :=
  if 0 < st.delayCount then ({ st with delayCount := st.delayCount - 1 }, false, false)
  else if 0 < st.detectCount then
    ({ st with detectCount := st.detectCount - 1 }, true, decide (st.detectCount - 1 ≤ 0))
  else (st, false, true)

/-- Where the timer thread is: between ticks, at the next copied entry, or before the
erase of a key. A shared pointer is the index of its struct. -/
inductive DetectPoint where
  | idle
  | working (rest : List (Bytes × ℕ))
  | erasing (key : Bytes) (ptr : ℕ) (rest : List (Bytes × ℕ))
  deriving DecidableEq

/-- `NatHandshakeManager` with the structs its map points to. `sent` lists the
handshakes with the entry each came from and `ticks` counts the copies made; both are
only there to be stated. -/
structure NatHandshakeManager where
  peers : ExtTreeMap Bytes ℕ := ∅
  structs : List NatDetectStruct := []
  point : DetectPoint := .idle
  sent : List (ℕ × NatHandshake) := []
  ticks : ℕ := 0

namespace NatHandshakeManager

/-- `AddDetection`: an entry of the same endpoint is replaced. -/
def addDetection (d : NatDetection) (m : NatHandshakeManager) : NatHandshakeManager :=
  { m with
    structs := m.structs ++ [d.struct]
    peers := m.peers.insert d.key m.structs.length }

def removeDetection (ip : Bytes) (port : UInt16) (m : NatHandshakeManager) : NatHandshakeManager :=
  { m with peers := m.peers.erase (NodeDetectionManager.endpointKey decimalText ip port) }

/-- The work on a copied entry, which the map may no longer have. -/
def detectEntry (key : Bytes) (ptr : ℕ) (rest : List (Bytes × ℕ)) (m : NatHandshakeManager) :
    NatHandshakeManager :=
  match m.structs[ptr]? with
  | none => { m with point := .working rest }
  | some st =>
    { m with
      structs := m.structs.set ptr st.detect.1
      sent := if st.detect.2.1 then m.sent ++ [(ptr, st.doHandshake)] else m.sent
      point := if st.detect.2.2 then .erasing key ptr rest else .working rest }

/-- The next block of `DetectProc`: the locked copy, the work on one entry, the locked
erase, or the end of the tick. -/
def detectProc (m : NatHandshakeManager) : NatHandshakeManager :=
  match m.point with
  | .idle => { m with point := .working m.peers.toList, ticks := m.ticks + 1 }
  | .working [] => { m with point := .idle }
  | .working ((key, ptr) :: rest) => m.detectEntry key ptr rest
  | .erasing key _ rest => { m with peers := m.peers.erase key, point := .working rest }

end NatHandshakeManager

inductive NatStep where
  | addDetection (d : NatDetection)
  | removeDetection (ip : Bytes) (port : UInt16)
  | detectProc
  deriving DecidableEq

namespace NatHandshakeManager

def step : NatStep → NatHandshakeManager → NatHandshakeManager
  | .addDetection d => addDetection d
  | .removeDetection ip port => removeDetection ip port
  | .detectProc => detectProc

def handshakesOf (ptr : ℕ) (m : NatHandshakeManager) : List NatHandshake :=
  (m.sent.filter (fun e => e.1 = ptr)).map Prod.snd

/-- A key is erased only while the map has the entry worked on, or none. -/
def ErasesOwn : NatStep → NatHandshakeManager → Prop
  | .detectProc, ⟨peers, _, .erasing key ptr _, _, _⟩ => peers[key]? = some ptr ∨ peers[key]? = none
  | _, _ => True

end NatHandshakeManager

namespace NatDetection
variable (d : NatDetection)

def delayTicks : ℕ := d.struct.delayCount.toNat

/-- The handshakes sent by the time `r` ticks have worked on the entry. -/
def sentAfter (r : ℕ) : ℕ := min kDetectCount (r - d.delayTicks)

def structAfter (r : ℕ) : NatDetectStruct :=
  { d.struct with
    delayCount := d.struct.delayCount - (min r d.delayTicks : ℕ)
    detectCount := kDetectCount - d.sentAfter r }

theorem structAfter_zero : d.structAfter 0 = d.struct := by
  simp [structAfter, sentAfter, struct]

theorem doHandshake_structAfter (r : ℕ) : (d.structAfter r).doHandshake = d.struct.doHandshake := rfl

theorem sentAfter_mono {r r' : ℕ} (h : r ≤ r') : d.sentAfter r ≤ d.sentAfter r' := by
  simp only [sentAfter]
  omega

theorem sentAfter_of_spent {r : ℕ} (h : d.delayTicks + kDetectCount ≤ r) : d.sentAfter r = kDetectCount := by
  simp only [sentAfter]
  omega

theorem sentAfter_succ (r : ℕ) : d.sentAfter (r + 1) =
    d.sentAfter r + if d.delayTicks ≤ r ∧ r < d.delayTicks + kDetectCount then 1 else 0 := by
  simp only [sentAfter]
  split_ifs <;> omega

/-- One tick: the delay is counted down first, then the handshakes, and the entry is
erased with the last of them. -/
theorem detect_structAfter (r : ℕ) : (d.structAfter r).detect =
    (d.structAfter (r + 1), decide (d.delayTicks ≤ r ∧ r < d.delayTicks + kDetectCount),
      decide (d.delayTicks + kDetectCount ≤ r + 1)) := by
  have hcount : (0 : ℕ) < kDetectCount := by decide
  have hdelay : d.delayTicks = d.struct.delayCount.toNat := rfl
  have hwaits : (d.structAfter r).delayCount = d.struct.delayCount - (min r d.delayTicks : ℕ) := rfl
  have hsends : (d.structAfter r).detectCount = kDetectCount - (min kDetectCount (r - d.delayTicks) : ℕ) := rfl
  by_cases hearly : r < d.delayTicks
  · rw [NatDetectStruct.detect, if_pos (by omega), decide_eq_false (by omega), decide_eq_false (by omega)]
    simp only [structAfter, sentAfter, Prod.mk.injEq, NatDetectStruct.mk.injEq, true_and, and_true]
    omega
  · by_cases hlate : r < d.delayTicks + kDetectCount
    · have hsend : decide (d.delayTicks ≤ r ∧ r < d.delayTicks + kDetectCount) = true :=
        decide_eq_true ⟨by omega, hlate⟩
      have hlast : decide ((d.structAfter r).detectCount - 1 ≤ 0) =
          decide (d.delayTicks + kDetectCount ≤ r + 1) := decide_eq_decide.mpr (by omega)
      rw [NatDetectStruct.detect, if_neg (by omega), if_pos (by omega), hsend, hlast]
      simp only [structAfter, sentAfter, Prod.mk.injEq, NatDetectStruct.mk.injEq, true_and, and_true]
      omega
    · rw [NatDetectStruct.detect, if_neg (by omega), if_neg (by omega), decide_eq_false (by omega),
        decide_eq_true (by omega)]
      simp only [structAfter, sentAfter, Prod.mk.injEq, NatDetectStruct.mk.injEq, true_and, and_true]
      omega

end NatDetection

def DetectPoint.rest : DetectPoint → List (Bytes × ℕ)
  | .idle => []
  | .working rest | .erasing _ _ rest => rest

def DetectPoint.erased : DetectPoint → Option ℕ
  | .erasing _ ptr _ => some ptr
  | _ => none

namespace NatHandshakeManager
variable {m : NatHandshakeManager} {d : NatDetection} {ptr start r : ℕ}

/-- Every pointer kept anywhere is to a struct. -/
structure Allocated (m : NatHandshakeManager) : Prop where
  peers : ∀ (key : Bytes) (q : ℕ), m.peers[key]? = some q → q < m.structs.length
  rest : ∀ e ∈ m.point.rest, e.2 < m.structs.length
  erased : ∀ q, m.point.erased = some q → q < m.structs.length
  sent : ∀ e ∈ m.sent, e.1 < m.structs.length

/-- What holds of the entry at `ptr` stored for `d` when `start` ticks had begun: `r`
ticks have worked on it, and the map has it unless its handshakes are spent. -/
structure Tracked (d : NatDetection) (ptr start r : ℕ) (m : NatHandshakeManager) : Prop where
  struct : m.structs[ptr]? = some (d.structAfter r)
  sent : m.handshakesOf ptr = List.replicate (d.sentAfter r) d.struct.doHandshake
  keyed : ∀ key : Bytes, m.peers[key]? = some ptr → key = d.key
  erased : m.point.erased = some ptr → d.delayTicks + kDetectCount ≤ r
  ticks : r + m.point.rest.countP (fun e => e.2 = ptr) + start ≤ m.ticks
  kept : m.peers[d.key]? = some ptr ∧ r + m.point.rest.countP (fun e => e.2 = ptr) + start = m.ticks ∨
    d.delayTicks + kDetectCount ≤ r

theorem countP_toList {peers : ExtTreeMap Bytes ℕ} {key : Bytes}
    (h : ∀ k, peers[k]? = some ptr → k = key) :
    peers.toList.countP (fun e => e.2 = ptr) = if peers[key]? = some ptr then 1 else 0 := by
  have hnodup : peers.toList.Nodup := (nodup_keys peers).of_map
  have hmem : (key, ptr) ∈ peers.toList ↔ peers[key]? = some ptr :=
    ExtTreeMap.mem_toList_iff_getElem?_eq_some
  have hcount : peers.toList.countP (fun e => e.2 = ptr) = peers.toList.count (key, ptr) := by
    apply List.countP_congr
    rintro ⟨k, q⟩ he
    have hk := h k
    rw [ExtTreeMap.mem_toList_iff_getElem?_eq_some] at he
    simp only [decide_eq_true_eq, beq_iff_eq, Prod.mk.injEq]
    constructor
    · rintro rfl
      exact ⟨hk he, rfl⟩
    · exact fun hkq => hkq.2
  rw [hcount, hnodup.count]
  simp only [hmem]

theorem handshakesOf_append (q : ℕ) (h : NatHandshake) (m' : NatHandshakeManager)
    (hs : m'.sent = m.sent ++ [(q, h)]) :
    m'.handshakesOf ptr = m.handshakesOf ptr ++ if q = ptr then [h] else [] := by
  rw [handshakesOf, handshakesOf, hs, List.filter_append, List.map_append]
  split_ifs with hq <;> simp [hq]

/-- What the work on the entry at `q` leaves as it was, and where it goes on. -/
structure EntryWork (key : Bytes) (q : ℕ) (rest : List (Bytes × ℕ)) (m m' : NatHandshakeManager) : Prop where
  peers : m'.peers = m.peers
  ticks : m'.ticks = m.ticks
  length : m'.structs.length = m.structs.length
  struct : ∀ ptr, q ≠ ptr → m'.structs[ptr]? = m.structs[ptr]?
  handshakes : ∀ ptr, q ≠ ptr → m'.handshakesOf ptr = m.handshakesOf ptr
  sent : ∀ e ∈ m'.sent, e ∈ m.sent ∨ e.1 = q
  point : m'.point = .working rest ∨ m'.point = .erasing key q rest

theorem entryWork (key : Bytes) (q : ℕ) (rest : List (Bytes × ℕ)) (m : NatHandshakeManager) :
    EntryWork key q rest m (m.detectEntry key q rest) := by
  rw [detectEntry]
  cases hst : m.structs[q]? with
  | none => exact ⟨rfl, rfl, rfl, fun _ _ => rfl, fun _ _ => rfl, fun _ he => Or.inl he, Or.inl rfl⟩
  | some st =>
    refine ⟨rfl, rfl, List.length_set, fun ptr hne => List.getElem?_set_ne hne, fun ptr hne => ?_, fun e he => ?_, ?_⟩
    · by_cases hsend : st.detect.2.1 = true
      · rw [handshakesOf_append (m := m) q st.doHandshake _ (if_pos hsend), if_neg hne, List.append_nil]
      · simp only [handshakesOf, if_neg hsend]
    · dsimp only at he
      split_ifs at he
      · rw [List.mem_append, List.mem_singleton] at he
        exact he.imp_right (fun heq => by rw [heq])
      · exact Or.inl he
    · dsimp only
      split_ifs
      · exact Or.inr rfl
      · exact Or.inl rfl

theorem EntryWork.rest_eq {key : Bytes} {q : ℕ} {rest : List (Bytes × ℕ)} {m' : NatHandshakeManager}
    (hw : EntryWork key q rest m m') : m'.point.rest = rest := by
  rcases hw.point with hp | hp <;> rw [hp] <;> rfl

theorem EntryWork.erased_eq {key : Bytes} {q : ℕ} {rest : List (Bytes × ℕ)} {m' : NatHandshakeManager}
    (hw : EntryWork key q rest m m') (he : m'.point.erased = some ptr) : q = ptr := by
  rcases hw.point with hp | hp <;> rw [hp] at he
  · cases he
  · exact Option.some.inj he

theorem Tracked.addDetection (h : Tracked d ptr start r m) {d' : NatDetection}
    (hne : d'.key ≠ d.key) : Tracked d ptr start r (m.addDetection d') := by
  have hlt : ptr < m.structs.length := (List.getElem?_eq_some_iff.mp h.struct).1
  have hsame : (m.peers.insert d'.key m.structs.length)[d.key]? = m.peers[d.key]? :=
    getElem?_insert_of_ne hne.symm
  refine ⟨?_, h.sent, ?_, h.erased, h.ticks, ?_⟩
  · exact (List.getElem?_append_left hlt).trans h.struct
  · intro key hkey
    rcases getElem?_insert_iff.mp hkey with ⟨_, hptr⟩ | ⟨_, hold⟩
    · omega
    · exact h.keyed key hold
  · simp only [NatHandshakeManager.addDetection, hsame]
    exact h.kept

theorem Tracked.erase_of_ne (h : Tracked d ptr start r m) {key : Bytes} (hne : key ≠ d.key) :
    Tracked d ptr start r { m with peers := m.peers.erase key } := by
  have hsame : (m.peers.erase key)[d.key]? = m.peers[d.key]? := getElem?_erase_of_ne hne.symm
  refine ⟨h.struct, h.sent, ?_, h.erased, h.ticks, ?_⟩
  · intro k hk
    exact h.keyed k (getElem?_erase_iff.mp hk).2
  · simp only [hsame]
    exact h.kept

theorem Tracked.detectEntry_self (h : Tracked d ptr start r m) {key : Bytes} {rest : List (Bytes × ℕ)}
    (hpoint : m.point = .working ((key, ptr) :: rest)) :
    Tracked d ptr start (r + 1) (m.detectEntry key ptr rest) := by
  have hlt : ptr < m.structs.length := (List.getElem?_eq_some_iff.mp h.struct).1
  have hticks := h.ticks
  have hkept := h.kept
  simp only [hpoint, DetectPoint.rest, List.countP_cons, decide_true, if_true] at hticks hkept
  have heq : m.detectEntry key ptr rest = { m with
      structs := m.structs.set ptr (d.structAfter (r + 1))
      sent := if d.delayTicks ≤ r ∧ r < d.delayTicks + kDetectCount then
        m.sent ++ [(ptr, d.struct.doHandshake)] else m.sent
      point := if d.delayTicks + kDetectCount ≤ r + 1 then .erasing key ptr rest else .working rest } := by
    rw [detectEntry, h.struct]
    simp only [d.detect_structAfter, decide_eq_true_eq, d.doHandshake_structAfter]
  have hrest : (m.detectEntry key ptr rest).point.rest = rest := by
    rw [heq]
    dsimp only
    split_ifs <;> rfl
  refine ⟨?_, ?_, ?_, ?_, ?_, ?_⟩
  · rw [heq]
    exact List.getElem?_set_self hlt
  · rw [d.sentAfter_succ]
    by_cases hsend : d.delayTicks ≤ r ∧ r < d.delayTicks + kDetectCount
    · rw [handshakesOf_append (m := m) ptr d.struct.doHandshake _ (by rw [heq]; exact if_pos hsend), h.sent,
        if_pos rfl, if_pos hsend, List.replicate_succ']
    · rw [if_neg hsend, Nat.add_zero, ← h.sent, handshakesOf, handshakesOf, heq]
      simp only [if_neg hsend]
  · rw [heq]
    exact h.keyed
  · rw [heq]
    dsimp only
    split_ifs with hspent
    · exact fun _ => hspent
    · simp [DetectPoint.erased]
  · rw [hrest, heq]
    dsimp only
    omega
  · rw [hrest, heq]
    dsimp only
    rcases hkept with ⟨hpeer, hkept⟩ | hspent
    · exact Or.inl ⟨hpeer, by omega⟩
    · exact Or.inr (by omega)

theorem Tracked.detectEntry_of_ne (h : Tracked d ptr start r m) {key : Bytes} {q : ℕ}
    {rest : List (Bytes × ℕ)} (hpoint : m.point = .working ((key, q) :: rest)) (hne : q ≠ ptr) :
    Tracked d ptr start r (m.detectEntry key q rest) := by
  have hticks := h.ticks
  have hkept := h.kept
  simp only [hpoint, DetectPoint.rest, List.countP_cons, hne, decide_false, Bool.false_eq_true, if_false,
    Nat.add_zero] at hticks hkept
  have hw := entryWork key q rest m
  refine ⟨(hw.struct ptr hne).trans h.struct, (hw.handshakes ptr hne).trans h.sent, ?_, ?_, ?_, ?_⟩
  · rw [hw.peers]
    exact h.keyed
  · exact fun he => absurd (hw.erased_eq he) hne
  · rw [hw.rest_eq, hw.ticks]
    exact hticks
  · rw [hw.rest_eq, hw.ticks, hw.peers]
    exact hkept

/-- The blocks of `DetectProc` keep track of an entry if the erase hits no entry of
another call. -/
theorem Tracked.detectProc (h : Tracked d ptr start r m) (hg : ErasesOwn .detectProc m) :
    ∃ r', Tracked d ptr start r' m.detectProc := by
  obtain ⟨peers, structs, point, sent, ticks⟩ := m
  cases point with
  | idle =>
    have hcount := countP_toList h.keyed
    have hticks := h.ticks
    have hkept := h.kept
    simp only [DetectPoint.rest, List.countP_nil, Nat.add_zero] at hticks hkept
    refine ⟨r, h.struct, h.sent, h.keyed, by simp [NatHandshakeManager.detectProc, DetectPoint.erased], ?_, ?_⟩
    · simp only [NatHandshakeManager.detectProc, DetectPoint.rest, hcount]
      split_ifs <;> omega
    · simp only [NatHandshakeManager.detectProc, DetectPoint.rest, hcount]
      refine hkept.imp_left ?_
      rintro ⟨hpeer, heq⟩
      rw [if_pos hpeer]
      exact ⟨hpeer, by omega⟩
  | working rest =>
    cases rest with
    | nil =>
      refine ⟨r, h.struct, h.sent, h.keyed, ?_, h.ticks, h.kept⟩
      simp [NatHandshakeManager.detectProc, DetectPoint.erased]
    | cons e rest =>
      obtain ⟨key, q⟩ := e
      by_cases hq : q = ptr
      · subst hq
        exact ⟨r + 1, h.detectEntry_self rfl⟩
      · exact ⟨r, h.detectEntry_of_ne rfl hq⟩
  | erasing key q rest =>
    refine ⟨r, ?_⟩
    have hpast : Tracked d ptr start r ⟨peers, structs, .working rest, sent, ticks⟩ :=
      ⟨h.struct, h.sent, h.keyed, by simp [DetectPoint.erased], h.ticks, h.kept⟩
    by_cases hkey : key = d.key
    · -- the map has the spent entry at this key, or none
      have hspent : d.delayTicks + kDetectCount ≤ r := by
        rcases h.kept with ⟨hpeer, _⟩ | hspent
        · rcases hg with hown | hgone
          · rw [hkey, hpeer, Option.some.injEq] at hown
            exact h.erased (congrArg some hown.symm)
          · rw [hkey, hpeer] at hgone
            cases hgone
        · exact hspent
      refine ⟨h.struct, h.sent, ?_, hpast.erased, h.ticks, Or.inr hspent⟩
      intro k hk
      exact h.keyed k (getElem?_erase_iff.mp hk).2
    · exact hpast.erase_of_ne hkey

theorem Allocated.empty : Allocated {} :=
  ⟨by simp, by simp [DetectPoint.rest], by simp [DetectPoint.erased], by simp⟩

theorem Allocated.detectProc (h : Allocated m) : Allocated m.detectProc := by
  obtain ⟨peers, structs, point, sent, ticks⟩ := m
  cases point with
  | idle =>
    refine ⟨h.peers, ?_, h.erased, h.sent⟩
    intro e he
    exact h.peers e.1 e.2 (ExtTreeMap.mem_toList_iff_getElem?_eq_some.mp he)
  | working rest =>
    cases rest with
    | nil => exact ⟨h.peers, h.rest, h.erased, h.sent⟩
    | cons e rest =>
      obtain ⟨key, q⟩ := e
      have hq : q < structs.length := h.rest (key, q) List.mem_cons_self
      have hw := entryWork key q rest ⟨peers, structs, .working ((key, q) :: rest), sent, ticks⟩
      dsimp only [NatHandshakeManager.detectProc]
      refine ⟨?_, ?_, ?_, ?_⟩ <;> rw [hw.length]
      · rw [hw.peers]
        exact h.peers
      · rw [hw.rest_eq]
        exact fun e he => h.rest e (List.mem_cons_of_mem _ he)
      · intro p hp
        rw [← hw.erased_eq hp]
        exact hq
      · intro e he
        rcases hw.sent e he with he | he
        · exact h.sent e he
        · rw [he]
          exact hq
  | erasing key q rest =>
    refine ⟨?_, h.rest, by simp [NatHandshakeManager.detectProc, DetectPoint.erased], h.sent⟩
    intro k p hk
    exact h.peers k p (getElem?_erase_iff.mp hk).2

theorem Allocated.step (h : Allocated m) (l : NatStep) : Allocated (step l m) := by
  cases l with
  | addDetection d =>
    have hle : m.structs.length ≤ (m.structs ++ [d.struct]).length := by simp
    refine ⟨?_, fun e he => (h.rest e he).trans_le hle, fun q hq => (h.erased q hq).trans_le hle,
      fun e he => (h.sent e he).trans_le hle⟩
    intro k p hk
    rcases getElem?_insert_iff.mp hk with ⟨_, rfl⟩ | ⟨_, hold⟩
    · simp [NatHandshakeManager.step, NatHandshakeManager.addDetection]
    · exact (h.peers k p hold).trans_le hle
  | removeDetection ip port =>
    refine ⟨?_, h.rest, h.erased, h.sent⟩
    intro k p hk
    exact h.peers k p (getElem?_erase_iff.mp hk).2
  | detectProc => exact h.detectProc

theorem Allocated.tracked (h : Allocated m) (d : NatDetection) :
    Tracked d m.structs.length m.ticks 0 (m.addDetection d) := by
  have hsent : m.sent.filter (fun e => e.1 = m.structs.length) = [] := by
    apply List.filter_eq_nil_iff.mpr
    intro e he
    have := h.sent e he
    simp only [decide_eq_true_eq]
    omega
  have hcount : m.point.rest.countP (fun e => e.2 = m.structs.length) = 0 := by
    apply List.countP_eq_zero.mpr
    intro e he
    have := h.rest e he
    simp only [decide_eq_true_eq]
    omega
  refine ⟨?_, ?_, ?_, ?_, ?_, ?_⟩
  · rw [d.structAfter_zero]
    simp [NatHandshakeManager.addDetection]
  · simp [handshakesOf, NatHandshakeManager.addDetection, hsent, NatDetection.sentAfter]
  · intro k hk
    rcases getElem?_insert_iff.mp hk with ⟨heq, _⟩ | ⟨_, hold⟩
    · exact heq
    · exact absurd (h.peers k _ hold) (Nat.lt_irrefl _)
  · intro he
    exact absurd (h.erased _ he) (Nat.lt_irrefl _)
  · simp [NatHandshakeManager.addDetection, hcount]
  · simp [NatHandshakeManager.addDetection, hcount]

end NatHandshakeManager

def NatStep.Touches (ip : Bytes) (port : UInt16) : NatStep → Prop
  | .addDetection d => d.ip = ip ∧ d.port = port
  | .removeDetection ip' port' => ip' = ip ∧ port' = port
  | .detectProc => False

namespace NatHandshakeManager
variable {m : NatHandshakeManager} {d : NatDetection} {ptr start r : ℕ}

theorem Tracked.step (h : ∃ r, Tracked d ptr start r m) {l : NatStep} (hl : ¬ l.Touches d.ip d.port)
    (hg : ErasesOwn l m) : ∃ r, Tracked d ptr start r (step l m) := by
  obtain ⟨r, h⟩ := h
  cases l with
  | addDetection d' =>
    have hne : d'.key ≠ d.key := fun heq => hl ((NodeDetectionManager.endpointKey_inj .decimal).mp heq)
    exact ⟨r, h.addDetection hne⟩
  | removeDetection ip port =>
    have hne : NodeDetectionManager.endpointKey decimalText ip port ≠ d.key :=
      fun heq => hl ((NodeDetectionManager.endpointKey_inj .decimal).mp heq)
    exact ⟨r, h.erase_of_ne hne⟩
  | detectProc => exact h.detectProc hg

/-- The map has the entry at `ptr`, or all handshakes of the entry have been sent. -/
def Kept (d : NatDetection) (ptr : ℕ) (m : NatHandshakeManager) : Prop :=
  m.peers[d.key]? = some ptr ∨ m.handshakesOf ptr = List.replicate kDetectCount d.struct.doHandshake

/-- The handshakes of the entry come one a tick after the delay, up to the count; only
the tick under way may still owe one. -/
def OnSchedule (d : NatDetection) (ptr start : ℕ) (m : NatHandshakeManager) : Prop :=
  ∃ n, m.handshakesOf ptr = List.replicate n d.struct.doHandshake ∧ n ≤ d.sentAfter (m.ticks - start) ∧
    (m.point = .idle → n = d.sentAfter (m.ticks - start))

theorem Tracked.isKept (h : Tracked d ptr start r m) : m.Kept d ptr := by
  refine h.kept.imp And.left (fun hspent => ?_)
  rw [h.sent, d.sentAfter_of_spent hspent]

theorem Tracked.onSchedule (h : Tracked d ptr start r m) : m.OnSchedule d ptr start := by
  have hticks := h.ticks
  refine ⟨d.sentAfter r, h.sent, d.sentAfter_mono (by omega), fun hidle => ?_⟩
  rcases h.kept with ⟨_, heq⟩ | hspent
  · simp only [hidle, DetectPoint.rest, List.countP_nil, Nat.add_zero] at heq
    rw [← heq, Nat.add_sub_cancel]
  · rw [d.sentAfter_of_spent hspent, d.sentAfter_of_spent (by omega)]

/-- The entry worked on and those still to be worked on come from one copy with
distinct keys; what the map has besides was stored later, and has sent nothing. -/
structure CopiedFrom (copied : List (Bytes × ℕ)) (stored : ℕ) (m : NatHandshakeManager) : Prop where
  keys : (copied.map Prod.fst).Nodup
  rest : ∀ e ∈ m.point.rest, e ∈ copied
  erasing : ∀ key q rest, m.point = .erasing key q rest → (key, q) ∈ copied
  before : ∀ e ∈ copied, e.2 < stored
  sent : ∀ e ∈ m.sent, e.1 < stored
  le : stored ≤ m.structs.length
  peers : ∀ (key : Bytes) (q : ℕ), m.peers[key]? = some q → (key, q) ∈ copied ∨ stored ≤ q

theorem CopiedFrom.erase {copied : List (Bytes × ℕ)} {stored : ℕ} (h : CopiedFrom copied stored m) (key : Bytes) :
    CopiedFrom copied stored { m with peers := m.peers.erase key } := by
  refine ⟨h.keys, h.rest, h.erasing, h.before, h.sent, h.le, fun k q hk => ?_⟩
  exact h.peers k q (getElem?_erase_iff.mp hk).2

theorem CopiedFrom.step (hm : Allocated m) (h : m.point ≠ .idle → ∃ copied stored, CopiedFrom copied stored m)
    (l : NatStep) (hbusy : (step l m).point ≠ .idle) : ∃ copied stored, CopiedFrom copied stored (step l m) := by
  cases l with
  | addDetection d =>
    obtain ⟨copied, stored, hc⟩ := h hbusy
    have hle : m.structs.length ≤ (m.structs ++ [d.struct]).length := by simp
    refine ⟨copied, stored, hc.keys, hc.rest, hc.erasing, hc.before, hc.sent, hc.le.trans hle, fun k q hk => ?_⟩
    rcases getElem?_insert_iff.mp hk with ⟨_, rfl⟩ | ⟨_, hold⟩
    · exact Or.inr hc.le
    · exact hc.peers k q hold
  | removeDetection ip port =>
    obtain ⟨copied, stored, hc⟩ := h hbusy
    exact ⟨copied, stored, hc.erase _⟩
  | detectProc =>
    obtain ⟨peers, structs, point, sent, ticks⟩ := m
    cases point with
    | idle =>
      refine ⟨peers.toList, structs.length, nodup_keys peers, fun e he => he, nofun, ?_, hm.sent, Nat.le_refl _, ?_⟩
      · intro e he
        exact hm.peers e.1 e.2 (ExtTreeMap.mem_toList_iff_getElem?_eq_some.mp he)
      · intro k q hk
        exact Or.inl (ExtTreeMap.mem_toList_iff_getElem?_eq_some.mpr hk)
    | working rest =>
      cases rest with
      | nil => exact absurd rfl hbusy
      | cons e rest =>
        obtain ⟨key, q⟩ := e
        obtain ⟨copied, stored, hc⟩ := h nofun
        have hq : (key, q) ∈ copied := hc.rest (key, q) List.mem_cons_self
        have hw := entryWork key q rest ⟨peers, structs, .working ((key, q) :: rest), sent, ticks⟩
        refine ⟨copied, stored, ?_⟩
        dsimp only [NatHandshakeManager.step, NatHandshakeManager.detectProc]
        refine ⟨hc.keys, ?_, ?_, hc.before, ?_, ?_, ?_⟩
        · rw [hw.rest_eq]
          exact fun e he => hc.rest e (List.mem_cons_of_mem _ he)
        · intro k p rest' hp
          rcases hw.point with hp' | hp' <;> rw [hp'] at hp <;> cases hp
          exact hq
        · intro e he
          rcases hw.sent e he with he | he
          · exact hc.sent e he
          · rw [he]
            exact hc.before (key, q) hq
        · rw [hw.length]
          exact hc.le
        · rw [hw.peers]
          exact hc.peers
    | erasing key q rest =>
      obtain ⟨copied, stored, hc⟩ := h nofun
      refine ⟨copied, stored, ?_⟩
      have hpast : CopiedFrom copied stored ⟨peers, structs, .working rest, sent, ticks⟩ :=
        ⟨hc.keys, hc.rest, nofun, hc.before, hc.sent, hc.le, hc.peers⟩
      exact hpast.erase key

/-- The step takes an entry out of the map that has sent nothing. -/
def Loses (l : NatStep) (m : NatHandshakeManager) : Prop :=
  ∃ (key : Bytes) (ptr : ℕ), m.peers[key]? = some ptr ∧ (step l m).peers[key]? = none ∧
    (step l m).handshakesOf ptr = []

theorem loses_of_not_erasesOwn {steps : List NatStep} {l : NatStep}
    (hl : ¬ ErasesOwn l (follow step steps {})) : Loses l (follow step steps {}) := by
  set m := follow step steps {}
  have hcopied : Allocated m ∧ (m.point ≠ .idle → ∃ copied stored, CopiedFrom copied stored m) :=
    follow_invariant (I := fun m => Allocated m ∧ (m.point ≠ .idle → ∃ copied stored, CopiedFrom copied stored m))
      (fun l m h => ⟨h.1.step l, CopiedFrom.step h.1 h.2 l⟩) ⟨.empty, fun hbusy => absurd rfl hbusy⟩ steps
  clear_value m
  obtain ⟨peers, structs, point, sent, ticks⟩ := m
  cases l with
  | addDetection d => exact absurd trivial hl
  | removeDetection ip port => exact absurd trivial hl
  | detectProc =>
    cases point with
    | idle => exact absurd trivial hl
    | working rest => exact absurd trivial hl
    | erasing key q rest =>
      obtain ⟨copied, stored, hc⟩ := hcopied.2 nofun
      obtain ⟨hother, hsome⟩ := not_or.mp hl
      obtain ⟨ptr, hptr⟩ := Option.ne_none_iff_exists'.mp hsome
      have hnew : stored ≤ ptr := by
        refine (hc.peers key ptr hptr).resolve_left (fun hin => hother ?_)
        have hsame := List.inj_on_of_nodup_map hc.keys hin (hc.erasing key q rest rfl) rfl
        rw [hptr, (Prod.mk.inj hsame).2]
      refine ⟨key, ptr, hptr, by simp [step, NatHandshakeManager.detectProc], ?_⟩
      have hnone : sent.filter (fun e => e.1 = ptr) = [] := by
        apply List.filter_eq_nil_iff.mpr
        intro e he
        have hlt := hc.sent e he
        simp only [decide_eq_true_eq]
        omega
      rw [handshakesOf]
      exact congrArg (List.map Prod.snd) hnone

/-- An entry neither removed nor replaced is kept until its handshakes are spent, and
they are sent on schedule, in every run that erases no key of a newer entry. The first
erase that does loses an entry. -/
theorem detection_kept {before after : List NatStep} {d : NatDetection}
    (hrun : Along step ErasesOwn (before ++ .addDetection d :: after) {})
    (hafter : ∀ l ∈ after, ¬ l.Touches d.ip d.port) :
    let stored := follow step before {}
    let m := follow step (before ++ .addDetection d :: after) {}
    m.Kept d stored.structs.length ∧ m.OnSchedule d stored.structs.length stored.ticks ∧
      ∀ l, ¬ ErasesOwn l m → Loses l m := by
  intro stored m
  have hm : m = follow step after (stored.addDetection d) := by
    rw [show m = follow step _ {} from rfl, follow_append]
    rfl
  have hboth := (along_append before _ _).mp hrun
  have hstored : Allocated stored := follow_invariant (fun l _ h => h.step l) .empty before
  have htracked : ∃ r, Tracked d stored.structs.length stored.ticks r m := by
    rw [hm]
    have hsince := hboth.2.2.and_labels hafter
    exact along_invariant (I := fun m => ∃ r, Tracked d stored.structs.length stored.ticks r m)
      (fun l _ hl h => Tracked.step h hl.2 hl.1) hsince ⟨0, hstored.tracked d⟩
  obtain ⟨r, h⟩ := htracked
  exact ⟨h.isKept, h.onSchedule, fun _ hl => loses_of_not_erasesOwn hl⟩

instance (ip : Bytes) (port : UInt16) (l : NatStep) : Decidable (l.Touches ip port) :=
  match l with
  | .addDetection d => inferInstanceAs (Decidable (d.ip = ip ∧ d.port = port))
  | .removeDetection ip' port' => inferInstanceAs (Decidable (ip' = ip ∧ port' = port))
  | .detectProc => isFalse id

instance (l : NatStep) (m : NatHandshakeManager) : Decidable (ErasesOwn l m) :=
  match l, m with
  | .detectProc, ⟨peers, _, .erasing key ptr _, _, _⟩ =>
    inferInstanceAs (Decidable (peers[key]? = some ptr ∨ peers[key]? = none))
  | .detectProc, ⟨_, _, .idle, _, _⟩ | .detectProc, ⟨_, _, .working _, _, _⟩ => isTrue trivial
  | .addDetection _, _ | .removeDetection _ _, _ => isTrue trivial

def peerBehindNat (messageType : Int32) : NatDetection where
  ip := [49]
  port := 9000
  transport := 0
  detectPort := 9001
  messageType := messageType
  delayMs := 50

theorem detection_kept_two :
    let other := { peerBehindNat 26 with port := 9002 }
    let before := [.addDetection (peerBehindNat 26), .detectProc]
    let m := follow step (before ++ .addDetection other :: [.detectProc, .removeDetection [49] 9000, .detectProc]) {}
    m.Kept other 1 ∧ m.OnSchedule other 1 1 ∧ ∀ l, ¬ ErasesOwn l m → Loses l m :=
  detection_kept (by decide +kernel) (by decide)

/-- The last tick of an entry has copied the map when the endpoint is detected again:
the erase of the spent entry hits the new one, which has sent nothing. -/
theorem not_detection_kept : ¬ ∀ (before after : List NatStep) (d : NatDetection),
    (∀ l ∈ after, ¬ l.Touches d.ip d.port) →
    let stored := follow step before {}
    let m := follow step (before ++ .addDetection d :: after) {}
    m.Kept d stored.structs.length ∧ m.OnSchedule d stored.structs.length stored.ticks := by
  intro h
  let before := .addDetection (peerBehindNat 26) :: List.replicate (40 * 3 + 2) NatStep.detectProc
  rcases (h before [.detectProc] (peerBehindNat 25) (by decide)).1 with hpeer | hsent
  · revert hpeer
    decide +kernel
  · revert hsent
    decide +kernel

end NatHandshakeManager
end XKad
