import XKad.Interleavings
import XKad.NodeRecords

/-!
# The cache of service nodes

`BootstrapCacheHelper` with the members its service node cache is made of. What
`get_service_public_nodes_` answers is part of each call, missing when the callback
is not set. Only `CacheServicePublicNodes` drops nodes, and always four of them.
-/
namespace XKad
open Std

/-- The vector grows past this size before nodes are dropped. -/
def kCacheServiceNodesSize : ℕ := 8
def kCacheServiceNodesDeleteSize : ℕ := 4

structure BootstrapCacheHelper where
  servicePublicNodes : ExtTreeMap UInt64 (List NodeInfo) := ∅
  cacheServiceTypes : ExtTreeSet UInt64 := ∅

/-- `get_service_public_nodes_`, with the nodes it gives for a service type at this time. -/
abbrev GetServicePublicNodes := Option (UInt64 → List NodeInfo)

namespace BootstrapCacheHelper

def cached (serviceType : UInt64) (h : BootstrapCacheHelper) : List NodeInfo :=
  h.servicePublicNodes[serviceType]?.getD []

def setVector (serviceType : UInt64) (nodes : List NodeInfo) (h : BootstrapCacheHelper) :
    BootstrapCacheHelper :=
  { h with servicePublicNodes := h.servicePublicNodes.insert serviceType nodes }

def setCacheServiceType (serviceType : UInt64) (h : BootstrapCacheHelper) : BootstrapCacheHelper :=
  { h with cacheServiceTypes := h.cacheServiceTypes.insert serviceType }

/-- `GetRandomCacheServiceType`; `draw` is the bit pattern of the random number. -/
def getRandomCacheServiceType (kInvalidType : UInt64) (get : GetServicePublicNodes) (draw : UInt64)
    (h : BootstrapCacheHelper) : UInt64 :=
  match get with
  | none => kInvalidType
  | some _ =>
    if h.cacheServiceTypes.isEmpty then kInvalidType
    else
      let randIdx := (draw % UInt64.ofNat h.cacheServiceTypes.size).toUInt32
      h.cacheServiceTypes.toList[randIdx.toNat]?.getD kInvalidType

/-- The first four places of a vector of more than eight nodes are erased. -/
def dieOut (nodes : List NodeInfo) : List NodeInfo :=
  if nodes.length > kCacheServiceNodesSize then nodes.drop kCacheServiceNodesDeleteSize else nodes

def cacheServicePublicNodes (get : GetServicePublicNodes) (serviceType : UInt64)
    (h : BootstrapCacheHelper) : BootstrapCacheHelper :=
  match get with
  | none => h
  | some get =>
    if h.cacheServiceTypes.isEmpty then h
    else if !h.cacheServiceTypes.contains serviceType then h
    else
      let serviceNodes := get serviceType
      if serviceNodes.isEmpty then h
      else h.setVector serviceType (dieOut (h.cached serviceType ++ serviceNodes))

def repeatCacheServicePublicNodes (kInvalidType : UInt64) (get : GetServicePublicNodes) (draw : UInt64)
    (h : BootstrapCacheHelper) : BootstrapCacheHelper :=
  let serviceType := h.getRandomCacheServiceType kInvalidType get draw
  if serviceType = kInvalidType then h else h.cacheServicePublicNodes get serviceType

def insertEndpoints (nodes : List NodeInfo) (bootEndpoints : Finset (Bytes × UInt16)) :
    Finset (Bytes × UInt16) :=
  nodes.foldl (fun s v => insert (v.publicIp, v.publicPort) s) bootEndpoints

/-- A service type that is looked up gets a vector. -/
def ensureVector (serviceType : UInt64) (h : BootstrapCacheHelper) : BootstrapCacheHelper :=
  if h.servicePublicNodes.contains serviceType then h else h.setVector serviceType []

/-- `GetCacheServicePublicNodes`, with the set it was given and fills. -/
def getCacheServicePublicNodes (get : GetServicePublicNodes) (serviceType : UInt64)
    (bootEndpoints : Finset (Bytes × UInt16)) (h : BootstrapCacheHelper) :
    Bool × Finset (Bytes × UInt16) × BootstrapCacheHelper :=
  let h := h.ensureVector serviceType
  if !(h.cached serviceType).isEmpty then (true, insertEndpoints (h.cached serviceType) bootEndpoints, h)
  else
    match get with
    | none => (false, bootEndpoints, h)
    | some get =>
      let serviceNodes := get serviceType
      if serviceNodes.isEmpty then (false, bootEndpoints, h)
      else (true, insertEndpoints serviceNodes bootEndpoints,
        h.setVector serviceType (h.cached serviceType ++ serviceNodes))

/-- No vector holds more nodes than it is meant to. -/
def Bounded (h : BootstrapCacheHelper) : Prop :=
  ∀ (serviceType : UInt64) (nodes : List NodeInfo), h.servicePublicNodes[serviceType]? = some nodes →
    nodes.length ≤ kCacheServiceNodesSize

variable {h : BootstrapCacheHelper}

@[simp] theorem cached_setVector_self (h : BootstrapCacheHelper) (serviceType : UInt64)
    (nodes : List NodeInfo) : (h.setVector serviceType nodes).cached serviceType = nodes := by
  simp [cached, setVector]

theorem cached_setVector_of_ne (h : BootstrapCacheHelper) {serviceType other : UInt64} (hne : other ≠ serviceType)
    (nodes : List NodeInfo) : (h.setVector serviceType nodes).cached other = h.cached other := by
  simp [cached, setVector, ExtTreeMap.getElem?_insert, hne.symm]

theorem bounded_iff : h.Bounded ↔ ∀ serviceType, (h.cached serviceType).length ≤ kCacheServiceNodesSize := by
  constructor
  · intro hb serviceType
    rw [cached]
    cases hv : h.servicePublicNodes[serviceType]? with
    | none => exact Nat.zero_le _
    | some nodes => exact hb serviceType nodes hv
  · intro hb serviceType nodes hv
    have hlength := hb serviceType
    rwa [cached, hv] at hlength

theorem Bounded.setVector_iff (hb : h.Bounded) (serviceType : UInt64) (nodes : List NodeInfo) :
    (h.setVector serviceType nodes).Bounded ↔ nodes.length ≤ kCacheServiceNodesSize := by
  rw [bounded_iff] at hb ⊢
  constructor
  · intro hall
    simpa using hall serviceType
  · intro hnodes other
    by_cases hne : other = serviceType
    · rw [hne, cached_setVector_self]
      exact hnodes
    · rw [cached_setVector_of_ne h hne]
      exact hb other

theorem dieOut_suffix (nodes : List NodeInfo) : dieOut nodes <:+ nodes := by
  rw [dieOut]
  split
  · exact List.drop_suffix _ _
  · exact List.suffix_rfl

/-- Four nodes fewer are few enough exactly for up to twelve. -/
theorem length_dieOut_le_iff (nodes : List NodeInfo) : (dieOut nodes).length ≤ kCacheServiceNodesSize ↔
    nodes.length ≤ kCacheServiceNodesSize + kCacheServiceNodesDeleteSize := by
  rw [dieOut]
  split_ifs with hmore
  · rw [List.length_drop]
    omega
  · exact iff_of_true (by omega) (by omega)

theorem cacheServicePublicNodes_cases (get : GetServicePublicNodes) (serviceType : UInt64)
    (h : BootstrapCacheHelper) :
    (h.cacheServicePublicNodes get serviceType = h ∧
        ∀ f, get = some f → serviceType ∈ h.cacheServiceTypes → f serviceType = []) ∨
      ∃ f, get = some f ∧ serviceType ∈ h.cacheServiceTypes ∧ h.cacheServicePublicNodes get serviceType =
        h.setVector serviceType (dieOut (h.cached serviceType ++ f serviceType)) := by
  cases get with
  | none => exact Or.inl ⟨rfl, fun f hf => by cases hf⟩
  | some get =>
    rw [cacheServicePublicNodes]
    dsimp only
    split_ifs with hempty hset hnodes
    · refine Or.inl ⟨rfl, fun f _ hmem => ?_⟩
      rw [ExtTreeSet.isEmpty_iff] at hempty
      rw [hempty] at hmem
      exact absurd hmem ExtTreeSet.not_mem_empty
    · refine Or.inl ⟨rfl, fun f _ hmem => ?_⟩
      rw [ExtTreeSet.contains_iff_mem.mpr hmem] at hset
      cases hset
    · refine Or.inl ⟨rfl, fun f hf _ => ?_⟩
      cases hf
      exact List.isEmpty_iff.mp hnodes
    · refine Or.inr ⟨get, rfl, ?_, rfl⟩
      rw [← ExtTreeSet.contains_iff_mem]
      simpa using hset

theorem cached_ensureVector (serviceType : UInt64) (h : BootstrapCacheHelper) (other : UInt64) :
    (h.ensureVector serviceType).cached other = h.cached other := by
  rw [ensureVector]
  split_ifs with hin
  · rfl
  · by_cases hne : other = serviceType
    · rw [hne, cached_setVector_self, cached, ExtTreeMap.getElem?_eq_none]
      · rfl
      · rwa [ExtTreeMap.contains_iff_mem] at hin
    · exact cached_setVector_of_ne h hne []

/-- The lookup of a service type: an append happens to an empty vector only. -/
theorem getCacheServicePublicNodes_cases (get : GetServicePublicNodes) (serviceType : UInt64)
    (bootEndpoints : Finset (Bytes × UInt16)) (h : BootstrapCacheHelper) :
    ((∀ other, (h.getCacheServicePublicNodes get serviceType bootEndpoints).2.2.cached other =
          h.cached other) ∧
        (h.cached serviceType = [] → ∀ f, get = some f → f serviceType = [])) ∨
      ∃ f, get = some f ∧ h.cached serviceType = [] ∧
        (h.getCacheServicePublicNodes get serviceType bootEndpoints).2.2.cached serviceType = f serviceType ∧
        ∀ other, other ≠ serviceType →
          (h.getCacheServicePublicNodes get serviceType bootEndpoints).2.2.cached other = h.cached other := by
  have hsame := cached_ensureVector serviceType h
  rw [getCacheServicePublicNodes.eq_def]
  generalize h.ensureVector serviceType = h' at hsame ⊢
  dsimp only
  rw [hsame]
  cases hvec : h.cached serviceType with
  | cons n ns => exact Or.inl ⟨hsame, fun hnil => by cases hnil⟩
  | nil =>
    cases get with
    | none => exact Or.inl ⟨hsame, fun _ f hf => by cases hf⟩
    | some get =>
      cases hnodes : get serviceType with
      | nil =>
        refine Or.inl ⟨fun other => ?_, fun _ f hf => ?_⟩
        · simp [hnodes, hsame]
        · cases hf
          exact hnodes
      | cons n ns =>
        refine Or.inr ⟨get, rfl, rfl, ?_, fun other hne => ?_⟩
        · simp [hnodes]
        · simp [hnodes, cached_setVector_of_ne, hne, hsame]

end BootstrapCacheHelper

/-- The calls that use the service node cache. -/
inductive CacheOp where
  | setCacheServiceType (serviceType : UInt64)
  | repeatCacheServicePublicNodes (get : GetServicePublicNodes) (draw : UInt64)
  | cacheServicePublicNodes (get : GetServicePublicNodes) (serviceType : UInt64)
  | getCacheServicePublicNodes (get : GetServicePublicNodes) (serviceType : UInt64)
    (bootEndpoints : Finset (Bytes × UInt16))

namespace CacheOp
open BootstrapCacheHelper

def run (kInvalidType : UInt64) : CacheOp → BootstrapCacheHelper → BootstrapCacheHelper
  | setCacheServiceType serviceType, h => h.setCacheServiceType serviceType
  | repeatCacheServicePublicNodes get draw, h => h.repeatCacheServicePublicNodes kInvalidType get draw
  | cacheServicePublicNodes get serviceType, h => h.cacheServicePublicNodes get serviceType
  | getCacheServicePublicNodes get serviceType bootEndpoints, h =>
    (h.getCacheServicePublicNodes get serviceType bootEndpoints).2.2

def answer : CacheOp → UInt64 → List NodeInfo
  | setCacheServiceType _, _ => []
  | repeatCacheServicePublicNodes get _, serviceType => (get.map (fun f => f serviceType)).getD []
  | cacheServicePublicNodes get _, serviceType => (get.map (fun f => f serviceType)).getD []
  | getCacheServicePublicNodes get _ _, serviceType => (get.map (fun f => f serviceType)).getD []

/-- There is room for an answer of `CacheServicePublicNodes` if four nodes fewer are few enough. -/
def RoomFor (get : GetServicePublicNodes) (serviceType : UInt64) (h : BootstrapCacheHelper) : Prop :=
  ∀ f, get = some f → serviceType ∈ h.cacheServiceTypes → (h.cached serviceType).length +
    (f serviceType).length ≤ kCacheServiceNodesSize + kCacheServiceNodesDeleteSize

/-- The answers a call can take in without going over the size. -/
def Fits (kInvalidType : UInt64) : CacheOp → BootstrapCacheHelper → Prop
  | setCacheServiceType _, _ => True
  | repeatCacheServicePublicNodes get draw, h =>
    h.getRandomCacheServiceType kInvalidType get draw ≠ kInvalidType →
      RoomFor get (h.getRandomCacheServiceType kInvalidType get draw) h
  | cacheServicePublicNodes get serviceType, h => RoomFor get serviceType h
  | getCacheServicePublicNodes get serviceType _, h =>
    ∀ f, get = some f → h.cached serviceType = [] → (f serviceType).length ≤ kCacheServiceNodesSize

variable {h : BootstrapCacheHelper} {kInvalidType : UInt64}

theorem bounded_cacheServicePublicNodes_iff (hb : h.Bounded) (get : GetServicePublicNodes) (serviceType : UInt64) :
    (h.cacheServicePublicNodes get serviceType).Bounded ↔ RoomFor get serviceType h := by
  obtain ⟨he, hnone⟩ | ⟨f, hf, hmem, he⟩ := cacheServicePublicNodes_cases get serviceType h
  · rw [he]
    refine iff_of_true hb (fun f hf hmem => ?_)
    have hlength := bounded_iff.mp hb serviceType
    rw [hnone f hf hmem, List.length_nil]
    omega
  · rw [he, hb.setVector_iff, length_dieOut_le_iff, List.length_append]
    constructor
    · intro hle f' hf' _
      cases hf.symm.trans hf'
      exact hle
    · exact fun hroom => hroom f hf hmem

theorem bounded_getCacheServicePublicNodes_iff (hb : h.Bounded) (get : GetServicePublicNodes)
    (serviceType : UInt64) (bootEndpoints : Finset (Bytes × UInt16)) :
    (h.getCacheServicePublicNodes get serviceType bootEndpoints).2.2.Bounded ↔
      ∀ f, get = some f → h.cached serviceType = [] → (f serviceType).length ≤ kCacheServiceNodesSize := by
  rw [bounded_iff] at hb ⊢
  obtain ⟨hsame, hnone⟩ | ⟨f, hf, hnil, hself, hother⟩ :=
    getCacheServicePublicNodes_cases get serviceType bootEndpoints h
  · refine iff_of_true (fun other => hsame other ▸ hb other) (fun f hf hnil => ?_)
    rw [hnone hnil f hf]
    exact Nat.zero_le _
  · constructor
    · intro hall f' hf' _
      cases hf.symm.trans hf'
      exact hself ▸ hall serviceType
    · intro hfits other
      by_cases hne : other = serviceType
      · rw [hne, hself]
        exact hfits f hf hnil
      · exact hother other hne ▸ hb other

/-- One call keeps the bound exactly if its answer fits. -/
theorem bounded_run_iff (op : CacheOp) (h : BootstrapCacheHelper) (hb : h.Bounded) :
    (op.run kInvalidType h).Bounded ↔ op.Fits kInvalidType h := by
  cases op with
  | setCacheServiceType serviceType => exact iff_of_true hb trivial
  | repeatCacheServicePublicNodes get draw =>
    rw [run, BootstrapCacheHelper.repeatCacheServicePublicNodes, Fits]
    split_ifs with hinvalid
    · exact iff_of_true hb (fun hvalid => absurd hinvalid hvalid)
    · rw [bounded_cacheServicePublicNodes_iff hb, forall_prop_of_true hinvalid]
  | cacheServicePublicNodes get serviceType => exact bounded_cacheServicePublicNodes_iff hb get serviceType
  | getCacheServicePublicNodes get serviceType bootEndpoints =>
    exact bounded_getCacheServicePublicNodes_iff hb get serviceType bootEndpoints

/-- Of the nodes of a vector and those a call appends, the oldest are dropped, if any. -/
def DropsOldest (op : CacheOp) (h h' : BootstrapCacheHelper) : Prop :=
  ∀ serviceType, ∃ new, (new = [] ∨ new = op.answer serviceType) ∧
    h'.cached serviceType <:+ h.cached serviceType ++ new

theorem dropsOldest_of_same {op : CacheOp} {h h' : BootstrapCacheHelper}
    (hsame : ∀ other, h'.cached other = h.cached other) : op.DropsOldest h h' := by
  intro other
  refine ⟨[], Or.inl rfl, ?_⟩
  rw [hsame, List.append_nil]

theorem dropsOldest_of_one {op : CacheOp} {h h' : BootstrapCacheHelper} {serviceType : UInt64}
    (hself : h'.cached serviceType <:+ h.cached serviceType ++ op.answer serviceType)
    (hother : ∀ other, other ≠ serviceType → h'.cached other = h.cached other) : op.DropsOldest h h' := by
  intro other
  by_cases hne : other = serviceType
  · exact hne ▸ ⟨_, Or.inr rfl, hself⟩
  · refine ⟨[], Or.inl rfl, ?_⟩
    rw [hother other hne, List.append_nil]

theorem dropsOldest_cacheServicePublicNodes {op : CacheOp} (get : GetServicePublicNodes) (serviceType : UInt64)
    (h : BootstrapCacheHelper) (hanswer : ∀ f, get = some f → op.answer serviceType = f serviceType) :
    op.DropsOldest h (h.cacheServicePublicNodes get serviceType) := by
  obtain ⟨he, _⟩ | ⟨f, hf, _, he⟩ := cacheServicePublicNodes_cases get serviceType h
  · rw [he]
    exact dropsOldest_of_same (fun _ => rfl)
  · rw [he]
    apply dropsOldest_of_one
    · rw [cached_setVector_self, hanswer f hf]
      exact dieOut_suffix _
    · exact fun other hne => cached_setVector_of_ne h hne _

theorem dropsOldest_run (op : CacheOp) (h : BootstrapCacheHelper) :
    op.DropsOldest h (op.run kInvalidType h) := by
  cases op with
  | setCacheServiceType serviceType => exact dropsOldest_of_same (fun _ => rfl)
  | repeatCacheServicePublicNodes get draw =>
    rw [run, BootstrapCacheHelper.repeatCacheServicePublicNodes]
    split_ifs with hinvalid
    · exact dropsOldest_of_same (fun _ => rfl)
    · exact dropsOldest_cacheServicePublicNodes get _ h (fun f hf => by rw [answer, hf]; rfl)
  | cacheServicePublicNodes get serviceType =>
    exact dropsOldest_cacheServicePublicNodes get serviceType h (fun f hf => by rw [answer, hf]; rfl)
  | getCacheServicePublicNodes get serviceType bootEndpoints =>
    obtain ⟨hsame, _⟩ | ⟨f, hf, _, hself, hother⟩ :=
      getCacheServicePublicNodes_cases get serviceType bootEndpoints h
    · exact dropsOldest_of_same hsame
    · refine dropsOldest_of_one ?_ hother
      rw [run, hself, answer, hf]
      exact List.suffix_append _ _

/-- The bound holds after every call of a sequence, and the oldest nodes are the ones
dropped, exactly if every answer fits in the state its call meets. -/
theorem bounded_iff_fits (hempty : h.servicePublicNodes = ∅) (kInvalidType : UInt64) (ops : List CacheOp) :
    (∀ done op todo, ops = done ++ op :: todo →
        (op.run kInvalidType (follow (run kInvalidType) done h)).Bounded ∧
        op.DropsOldest (follow (run kInvalidType) done h) (op.run kInvalidType (follow (run kInvalidType) done h))) ↔
      Along (run kInvalidType) (Fits kInvalidType) ops h := by
  have hb : h.Bounded := by
    intro serviceType nodes hv
    rw [hempty] at hv
    cases hv
  rw [← along_invariant_iff bounded_run_iff hb, along_iff_forall]
  constructor
  · exact fun hall done op todo heq => (hall done op todo heq).1
  · exact fun hall done op todo heq => ⟨hall done op todo heq, dropsOldest_run op _⟩

def records (n : ℕ) : List NodeInfo := List.replicate n {}

theorem bounded_iff_fits_three :
    (∀ done op todo, [setCacheServiceType 5, cacheServicePublicNodes (some (fun _ => records 3)) 5] =
          done ++ op :: todo →
        (op.run 0 (follow (run 0) done {})).Bounded ∧
        op.DropsOldest (follow (run 0) done {}) (op.run 0 (follow (run 0) done {}))) ↔
      Along (run 0) (Fits 0) [setCacheServiceType 5, cacheServicePublicNodes (some (fun _ => records 3)) 5] {} :=
  bounded_iff_fits rfl 0 _

/-- The nine nodes of one answer are all kept. -/
theorem not_bounded_nine : ¬ ∀ (h : BootstrapCacheHelper), h.servicePublicNodes = ∅ →
    ∀ (kInvalidType : UInt64) (ops done : List CacheOp) (op : CacheOp) (todo : List CacheOp),
      ops = done ++ op :: todo → (op.run kInvalidType (follow (run kInvalidType) done h)).Bounded ∧
        op.DropsOldest (follow (run kInvalidType) done h)
          (op.run kInvalidType (follow (run kInvalidType) done h)) := by
  intro hall
  have hbounded := (hall {} rfl 0 _ [] (getCacheServicePublicNodes (some (fun _ => records 9)) 5 ∅) [] rfl).1
  have hlength := bounded_iff.mp hbounded 5
  have hnine : (((getCacheServicePublicNodes (some (fun _ => records 9)) 5 ∅).run 0 {}).cached 5).length = 9 := by
    decide +kernel
  rw [follow_nil, hnine] at hlength
  exact absurd hlength (by decide)

end CacheOp
end XKad
