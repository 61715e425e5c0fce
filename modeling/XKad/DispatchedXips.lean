import XKad.BitFields
import XKad.MessageHandlers
import XKad.TreeMaps

/-!
# Dispatching xips to clients

`DispatchDynamicXip` counts up and hands four fields of the new number to the xip. The
fields are the low 24 bits, so that 2 ^ 24 numbers in a row, wherever the counter starts
and wraps, get different xips.
-/
namespace XKad
open Std

/-- The values handed to the four setters of `XipParser`. -/
structure XipFields where
  processId : UInt32
  routerId : UInt32
  switchId : UInt32
  localId : UInt32
  deriving DecidableEq

inductive XipField where
  | processId | routerId | switchId | localId
  deriving DecidableEq

def Platform.setXipField (P : Platform) : XipField → Bytes → UInt32 → Bytes
  | .processId => P.setProcessId
  | .routerId => P.setRouterId
  | .switchId => P.setSwitchId
  | .localId => P.setLocalId

/-- `XipParser` keeps each of the four values, if it fits a byte, and the others as they were. -/
structure StoresXipFields (P : Platform) (get : XipField → Bytes → UInt32) : Prop where
  same : ∀ (f : XipField) (xip : Bytes) (v : UInt32), v.toNat < 256 → get f (P.setXipField f xip v) = v
  other : ∀ (f g : XipField) (xip : Bytes) (v : UInt32), f ≠ g → get f (P.setXipField g xip v) = get f xip

namespace DynamicXipManager

/-- The four values made of a number of the counter. -/
def fieldsOf (id : UInt32) : XipFields := ⟨getProcessId id, getRouterId id, getSwitchId id, getLocalId id⟩

def xipOf (P : Platform) (localXip : Bytes) (f : XipFields) : Bytes :=
  P.setXipField .localId (P.setXipField .switchId (P.setXipField .routerId (P.setXipField .processId
    (P.setXipTypeDynamic localXip) f.processId) f.routerId) f.switchId) f.localId

/-- The values of the `n` dispatches that follow the number `start`. -/
def dispatchedFields (start : UInt32) (n : ℕ) : List XipFields :=
  (List.range n).map (fun i => fieldsOf (start + UInt32.ofNat (i + 1)))

theorem dispatchDynamicXip_eq (P : Platform) (localXip : Bytes) (m : DynamicXipManager) :
    m.dispatchDynamicXip P localXip = (xipOf P localXip (fieldsOf (m.atomXipManagerId + 1)),
      { m with atomXipManagerId := m.atomXipManagerId + 1 }) := rfl

/-- The fields of a number tell its low 24 bits. -/
theorem fieldsOf_inj {a b : UInt32} (h : fieldsOf a = fieldsOf b) : a.toNat % 2 ^ 24 = b.toNat % 2 ^ 24 := by
  injection h with hprocess hrouter hswitch hlocal
  have hp : bitField 0xF00000#32 16 a.toBitVec = bitField 0xF00000#32 16 b.toBitVec :=
    congrArg UInt32.toBitVec hprocess
  have hr : bitField 0x0F0000#32 16 a.toBitVec = bitField 0x0F0000#32 16 b.toBitVec :=
    congrArg UInt32.toBitVec hrouter
  have hs : bitField 0xFF00#32 8 a.toBitVec = bitField 0xFF00#32 8 b.toBitVec :=
    congrArg UInt32.toBitVec hswitch
  have hl : a.toBitVec &&& 0xFF#32 = b.toBitVec &&& 0xFF#32 := congrArg UInt32.toBitVec hlocal
  have hlow : a.toBitVec &&& 0xFFFFFF#32 = b.toBitVec &&& 0xFFFFFF#32 :=
    and_mask_or (and_mask_or (and_mask_or (and_mask_of_bitField (by decide) hp)
      (and_mask_of_bitField (by decide) hr)) (and_mask_of_bitField (by decide) hs)) hl
  have hnat := congrArg BitVec.toNat hlow
  rw [show 0xFFFFFF#32 = BitVec.ofNat 32 (2 ^ 24 - 1) from rfl, toNat_and_low _ (by decide),
    toNat_and_low _ (by decide)] at hnat
  exact hnat

theorem toNat_field_le (id mask shift : UInt32) :
    ((id &&& mask) >>> shift).toNat ≤ mask.toNat / 2 ^ (shift.toNat % 32) := by
  rw [UInt32.toNat_shiftRight, UInt32.toNat_and, Nat.shiftRight_eq_div_pow]
  exact Nat.div_le_div_right Nat.and_le_right

theorem fieldsOf_lt (id : UInt32) : (fieldsOf id).processId.toNat < 256 ∧ (fieldsOf id).routerId.toNat < 256 ∧
    (fieldsOf id).switchId.toNat < 256 ∧ (fieldsOf id).localId.toNat < 256 := by
  refine ⟨?_, ?_, ?_, ?_⟩
  · exact (toNat_field_le id 0xF00000 16).trans_lt (by decide)
  · exact (toNat_field_le id 0x0F0000 16).trans_lt (by decide)
  · exact (toNat_field_le id 0xFF00 8).trans_lt (by decide)
  · rw [fieldsOf, getLocalId, UInt32.toNat_and]
    exact Nat.and_le_right.trans_lt (by decide)

/-- No window of 2 ^ 24 numbers repeats its fields. -/
theorem dispatchedFields_nodup (start : UInt32) {n : ℕ} (hn : n ≤ 2 ^ 24) : (dispatchedFields start n).Nodup := by
  refine List.Nodup.map_on ?_ List.nodup_range
  intro i hi j hj heq
  have hmod := fieldsOf_inj heq
  rw [List.mem_range] at hi hj
  have hstart := start.toNat_lt
  simp only [UInt32.toNat_add, UInt32.toNat_ofNat'] at hmod
  omega

section Stored

variable {P : Platform} {get : XipField → Bytes → UInt32}

theorem read_xipOf (h : StoresXipFields P get) (localXip : Bytes) (id : UInt32) :
    (⟨get .processId (xipOf P localXip (fieldsOf id)), get .routerId (xipOf P localXip (fieldsOf id)),
      get .switchId (xipOf P localXip (fieldsOf id)), get .localId (xipOf P localXip (fieldsOf id))⟩ : XipFields) =
      fieldsOf id := by
  obtain ⟨hprocess, hrouter, hswitch, hlocal⟩ := fieldsOf_lt id
  rw [xipOf, h.other .processId .localId _ _ (by decide), h.other .processId .switchId _ _ (by decide),
    h.other .processId .routerId _ _ (by decide), h.same .processId _ _ hprocess,
    h.other .routerId .localId _ _ (by decide), h.other .routerId .switchId _ _ (by decide),
    h.same .routerId _ _ hrouter, h.other .switchId .localId _ _ (by decide), h.same .switchId _ _ hswitch,
    h.same .localId _ _ hlocal]

theorem nodup_xips (h : StoresXipFields P get) (localXip : Bytes) (start : UInt32) {n : ℕ} (hn : n ≤ 2 ^ 24) :
    ((dispatchedFields start n).map (xipOf P localXip)).Nodup := by
  refine (dispatchedFields_nodup start hn).map_on ?_
  intro f hf g hg heq
  obtain ⟨i, _, rfl⟩ := List.mem_map.mp hf
  obtain ⟨j, _, rfl⟩ := List.mem_map.mp hg
  rw [← read_xipOf h localXip, heq, read_xipOf h localXip]

end Stored

end DynamicXipManager

/-- A bootstrap node with its clients joining: the xips dispatched so far, in order, and
the joins that have entered their client. -/
structure JoinState where
  manager : DynamicXipManager
  dispatched : List Bytes := []
  entered : Finset ℕ := ∅

/-- The two calls of a join. The joins of several clients may overlap: a client is
entered under the xip of its own join at any time after the dispatch. -/
inductive JoinStep (P : Platform) (localXip : Bytes) (client : ℕ → ClientNodeInfo) :
    JoinState → JoinState → Prop where
  | dispatch (s : JoinState) : JoinStep P localXip client s { s with
      manager := (s.manager.dispatchDynamicXip P localXip).2
      dispatched := s.dispatched ++ [(s.manager.dispatchDynamicXip P localXip).1] }
  | enter (s : JoinState) (i : ℕ) (xip : Bytes) (hi : s.dispatched[i]? = some xip) :
    JoinStep P localXip client s { s with
      manager := s.manager.addClientNode xip (client i)
      entered := insert i s.entered }

abbrev JoinRun (P : Platform) (localXip : Bytes) (client : ℕ → ClientNodeInfo) :=
  Relation.ReflTransGen (JoinStep P localXip client)

/-- What the joins keep: the counter has gone up by the dispatches, each dispatch got the
xip of its number, and every client entered is found under its own. -/
structure Joined (P : Platform) (localXip : Bytes) (client : ℕ → ClientNodeInfo) (start : UInt32)
    (s : JoinState) : Prop where
  counter : s.manager.atomXipManagerId = start + UInt32.ofNat s.dispatched.length
  xips : s.dispatched = (DynamicXipManager.dispatchedFields start s.dispatched.length).map
    (DynamicXipManager.xipOf P localXip)
  found : s.dispatched.Nodup → ∀ i ∈ s.entered, ∃ xip, s.dispatched[i]? = some xip ∧
    s.manager.findClientNode xip = some (client i)

namespace Joined

variable {P : Platform} {localXip : Bytes} {client : ℕ → ClientNodeInfo} {start : UInt32} {s s' : JoinState}

theorem first (m : DynamicXipManager) : Joined P localXip client m.atomXipManagerId ⟨m, [], ∅⟩ where
  counter := by simp
  xips := rfl
  found _ i hi := by simp at hi

theorem step (h : Joined P localXip client start s) (hs : JoinStep P localXip client s s') :
    Joined P localXip client start s' := by
  cases hs with
  | dispatch =>
    rw [DynamicXipManager.dispatchDynamicXip_eq]
    have hnext : s.manager.atomXipManagerId + 1 = start + UInt32.ofNat (s.dispatched.length + 1) := by
      rw [h.counter, add_assoc, UInt32.ofNat_add]
      rfl
    refine ⟨?_, ?_, fun hnodup i hi => ?_⟩
    · rw [List.length_append]
      exact hnext
    · dsimp only
      rw [List.length_append, List.length_singleton, DynamicXipManager.dispatchedFields, List.range_succ,
        List.map_append, List.map_append, hnext]
      congr 1
      exact h.xips
    · obtain ⟨xip, hxip, hfind⟩ := h.found (List.nodup_append.mp hnodup).1 i hi
      refine ⟨xip, ?_, hfind⟩
      exact (List.getElem?_append_left (List.getElem?_eq_some_iff.mp hxip).1).trans hxip
  | enter i xip hi =>
    refine ⟨h.counter, h.xips, fun hnodup j hj => ?_⟩
    by_cases hji : j = i
    · subst hji
      exact ⟨xip, hi, by simp [DynamicXipManager.findClientNode, DynamicXipManager.addClientNode]⟩
    · obtain ⟨xip', hxip', hfind⟩ := h.found hnodup j (Finset.mem_of_mem_insert_of_ne hj hji)
      have hne : xip ≠ xip' := by
        rintro rfl
        exact hji ((List.getElem?_inj (List.getElem?_eq_some_iff.mp hxip').1 hnodup).mp (hxip'.trans hi.symm))
      refine ⟨xip', hxip', ?_⟩
      exact (getElem?_insert_of_ne hne.symm).trans hfind

theorem run {m : DynamicXipManager} (hr : JoinRun P localXip client ⟨m, [], ∅⟩ s) :
    Joined P localXip client m.atomXipManagerId s := by
  induction hr with
  | refl => exact first m
  | tail _ hs ih => exact ih.step hs

end Joined

/-- The handler of a client's join request, where the own xip can be read, takes both steps
of its join. -/
theorem joinRun_sendBootstrapJoinResponse {P : Platform} {t : RoutingTable} {localXip : Bytes}
    (hxip : t.localNode.xipString = some localXip) {m : RoutingMessage} (hflag : m.isClientMsg = true)
    (mid : UInt32) (packet : XPacket) {client : ℕ → ClientNodeInfo} {dispatched : List Bytes} {entered : Finset ℕ}
    (hclient : client dispatched.length = { publicIp := packet.fromIp, publicPort := packet.fromPort }) :
    JoinRun P localXip client ⟨t.dyManager, dispatched, entered⟩
      ⟨(t.sendBootstrapJoinResponse P mid m packet).2.dyManager,
        dispatched ++ [(t.dyManager.dispatchDynamicXip P localXip).1],
        insert dispatched.length entered⟩ := by
  have hmanager : (t.sendBootstrapJoinResponse P mid m packet).2.dyManager =
      (t.dyManager.dispatchDynamicXip P localXip).2.addClientNode
        (t.dyManager.dispatchDynamicXip P localXip).1 (client dispatched.length) := by
    rw [RoutingTable.sendBootstrapJoinResponse, hxip, hflag, hclient]
    dsimp only
    split <;> rfl
  rw [hmanager]
  refine (Relation.ReflTransGen.single (.dispatch _)).tail ?_
  exact .enter _ dispatched.length _ List.getElem?_concat_length

/-- In every run of at most 2 ^ 24 joins, from any number of the counter, the values
handed to the xips are pairwise different, and with a faithful `XipParser` the client
of each join that is done is found under the xip of that join. -/
theorem joinRun_finds {P : Platform} {localXip : Bytes} {client : ℕ → ClientNodeInfo} {m : DynamicXipManager}
    {s : JoinState} (hr : JoinRun P localXip client ⟨m, [], ∅⟩ s) (hlen : s.dispatched.length ≤ 2 ^ 24) :
    s.dispatched = (DynamicXipManager.dispatchedFields m.atomXipManagerId s.dispatched.length).map
        (DynamicXipManager.xipOf P localXip) ∧
      (DynamicXipManager.dispatchedFields m.atomXipManagerId s.dispatched.length).Nodup ∧
      ∀ get, StoresXipFields P get → ∀ i ∈ s.entered, ∃ xip, s.dispatched[i]? = some xip ∧
        s.manager.findClientNode xip = some (client i) := by
  have hjoined := Joined.run hr
  refine ⟨hjoined.xips, DynamicXipManager.dispatchedFields_nodup _ hlen, fun get hget => hjoined.found ?_⟩
  rw [hjoined.xips]
  exact DynamicXipManager.nodup_xips hget localXip _ hlen

section Samples

def writeXip (i : ℕ) (v : UInt8) (xip : Bytes) : Bytes :=
  (List.range 5).map (fun j => if j = i then v else xip.getD j 0)

def XipField.position : XipField → ℕ
  | .processId => 1
  | .routerId => 2
  | .switchId => 3
  | .localId => 4

/-- A platform whose xips have a byte for each field. -/
def Platform.bytewise : Platform :=
  { Platform.simple with
    setXipTypeDynamic := writeXip 0 1
    setProcessId := fun xip v => writeXip 1 v.toUInt8 xip
    setRouterId := fun xip v => writeXip 2 v.toUInt8 xip
    setSwitchId := fun xip v => writeXip 3 v.toUInt8 xip
    setLocalId := fun xip v => writeXip 4 v.toUInt8 xip }

def readXip (f : XipField) (xip : Bytes) : UInt32 := (xip.getD f.position 0).toUInt32

theorem readXip_write (f : XipField) (i : ℕ) (v : UInt8) (xip : Bytes) :
    readXip f (writeXip i v xip) = if f.position = i then v.toUInt32 else readXip f xip := by
  have hpos : f.position < 5 := by cases f <;> decide
  rw [readXip, readXip, writeXip, List.getD_eq_getElem?_getD, List.getElem?_map, List.getElem?_range hpos]
  dsimp only [Option.map_some, Option.getD_some]
  split <;> rfl

theorem storesXipFields_bytewise : StoresXipFields .bytewise readXip where
  same f xip v hv := by
    have hset : Platform.bytewise.setXipField f xip v = writeXip f.position v.toUInt8 xip := by cases f <;> rfl
    rw [hset, readXip_write, if_pos rfl]
    apply UInt32.toNat_inj.mp
    simpa using hv
  other f g xip v hne := by
    have hset : Platform.bytewise.setXipField g xip v = writeXip g.position v.toUInt8 xip := by cases g <;> rfl
    rw [hset, readXip_write, if_neg (fun heq => hne ?_)]
    revert heq
    cases f <;> cases g <;> decide

def wrappingManager : DynamicXipManager where
  atomXipManagerId := UInt32.ofNat (2 ^ 32 - 1)

/-- Two clients, the second dispatched before the first is entered. -/
theorem joinRun_finds_wrapping : ∃ s, JoinRun .bytewise [] (fun i => ⟨[], [49], UInt16.ofNat i⟩)
    ⟨wrappingManager, [], ∅⟩ s ∧ s.dispatched = [[1, 0, 0, 0, 0], [1, 0, 0, 0, 1]] ∧
      s.manager.findClientNode [1, 0, 0, 0, 0] = some ⟨[], [49], 0⟩ := by
  have hrun : JoinRun .bytewise [] (fun i => ⟨[], [49], UInt16.ofNat i⟩) ⟨wrappingManager, [], ∅⟩ _ :=
    (((Relation.ReflTransGen.single (.dispatch _)).tail (.dispatch _)).tail
      (.enter _ 0 [1, 0, 0, 0, 0] (by decide +kernel))).tail (.enter _ 1 [1, 0, 0, 0, 1] (by decide +kernel))
  obtain ⟨xip, hxip, hfind⟩ := (joinRun_finds hrun (by decide +kernel)).2.2 readXip storesXipFields_bytewise 0
    (by decide +kernel)
  have hfirst : xip = [1, 0, 0, 0, 0] := Option.some.inj (hxip.symm.trans (by decide +kernel))
  rw [hfirst] at hfind
  exact ⟨_, hrun, by decide +kernel, hfind⟩

end Samples
end XKad
