import XKad.NodeManagers

/-!
# Public endpoints

`BootstrapCacheHelper` keeps public endpoints twice, as texts and as pairs, and tells
them apart by their texts. What the bootstrap cache holds and which nodes are public
is part of each call.
-/
namespace XKad

structure EndpointLists where
  publicEndpoints : List Bytes := []
  vecEndpoints : List (Bytes × UInt16) := []

/-- `ip + ":" + check_cast<std::string>(port)`. -/
def endpointText (portText : UInt16 → Bytes) (e : Bytes × UInt16) : Bytes := e.1 ++ 58 :: portText e.2

namespace EndpointLists

variable (portText : UInt16 → Bytes)

/-- Both lists are cleared, and each endpoint is pushed whose text is not found. -/
def rewriteEndpoints (endpoints : List (Bytes × UInt16)) : EndpointLists :=
  let (publicEndpoints, vecEndpoints) := endpoints.foldl (pushNew (endpointText portText)) ([], [])
  { publicEndpoints, vecEndpoints }

/-- `LoadBootstrapCache`; `cache` is what `GetCache` fills in, missing when it fails. -/
def loadBootstrapCache (cache : Option (List (Bytes × UInt16))) (h : EndpointLists) : EndpointLists :=
  match cache with
  | none => h
  | some endpoints => rewriteEndpoints portText endpoints

/-- `DumpPublicEndpoints`, with what it gives to `SetCache`, if anything. -/
def dumpPublicEndpoints (nodes : List NodeInfo) : Option (List (Bytes × UInt16)) × EndpointLists :=
  let h := rewriteEndpoints portText (nodes.map (fun node => (node.publicIp, node.publicPort)))
  (if h.vecEndpoints.isEmpty then none else some h.vecEndpoints, h)

end EndpointLists

inductive EndpointCall where
  | loadBootstrapCache (cache : Option (List (Bytes × UInt16)))
  | dumpPublicEndpoints (nodes : List NodeInfo)

namespace EndpointCall

def run (portText : UInt16 → Bytes) (h : EndpointLists) : EndpointCall → EndpointLists
  | .loadBootstrapCache cache => h.loadBootstrapCache portText cache
  | .dumpPublicEndpoints nodes => (EndpointLists.dumpPublicEndpoints portText nodes).2

def input : EndpointCall → Option (List (Bytes × UInt16))
  | .loadBootstrapCache cache => cache
  | .dumpPublicEndpoints nodes => some (nodes.map (fun node => (node.publicIp, node.publicPort)))

variable {portText : UInt16 → Bytes}

theorem run_eq (h : EndpointLists) (c : EndpointCall) :
    c.run portText h = (c.input.map (EndpointLists.rewriteEndpoints portText)).getD h := by
  cases c with
  | loadBootstrapCache cache => cases cache <;> rfl
  | dumpPublicEndpoints nodes => rfl

theorem runs_eq (calls : List EndpointCall) (start : EndpointLists) :
    calls.foldl (run portText) start =
      ((calls.filterMap input).getLast?.map (EndpointLists.rewriteEndpoints portText)).getD start := by
  induction calls using List.reverseRecOn with
  | nil => rfl
  | append_singleton calls c ih =>
    rw [List.foldl_append, List.foldl_cons, List.foldl_nil, run_eq, ih, List.filterMap_append]
    cases hinput : c.input with
    | none => simp [hinput]
    | some endpoints => simp [hinput]

end EndpointCall

namespace WritesPorts

variable {portText : UInt16 → Bytes}

/-- No two endpoints have one text, whatever colons their addresses contain. -/
theorem endpointText_injective (h : WritesPorts portText) : Function.Injective (endpointText portText) := by
  intro e e' heq
  obtain ⟨hip, hport⟩ := (h.endpoint_inj (by decide)).mp heq
  exact Prod.ext hip hport

end WritesPorts

namespace EndpointLists

/-- The lists agree, place by place, and hold each of the endpoints once, in the order of
their first occurrences. -/
structure HoldsFirst (portText : UInt16 → Bytes) (endpoints : List (Bytes × UInt16)) (h : EndpointLists) :
    Prop where
  length : h.publicEndpoints.length = h.vecEndpoints.length
  text : ∀ i : ℕ, h.publicEndpoints[i]? = h.vecEndpoints[i]?.map (endpointText portText)
  nodupTexts : h.publicEndpoints.Nodup
  nodupEndpoints : h.vecEndpoints.Nodup
  mem : ∀ e, e ∈ h.vecEndpoints ↔ e ∈ endpoints
  order : h.vecEndpoints.Pairwise (fun e e' => endpoints.idxOf e < endpoints.idxOf e')

theorem holdsFirst_rewriteEndpoints {portText : UInt16 → Bytes} (h : WritesPorts portText)
    (endpoints : List (Bytes × UInt16)) : HoldsFirst portText endpoints (rewriteEndpoints portText endpoints) := by
  have heq : rewriteEndpoints portText endpoints =
      ⟨endpoints.eraseDups.map (endpointText portText), endpoints.eraseDups⟩ := by
    rw [rewriteEndpoints, foldl_pushNew h.endpointText_injective]
  rw [heq]
  exact {
    length := List.length_map _
    text := fun i => List.getElem?_map
    nodupTexts := (nodup_eraseDups endpoints).map h.endpointText_injective
    nodupEndpoints := nodup_eraseDups endpoints
    mem := fun e => List.mem_eraseDups
    order := pairwise_idxOf_eraseDups endpoints }

/-- After any calls, the lists are as the last call that rewrote them left them: they
agree, and hold each of its endpoints once, in order. -/
theorem calls_holdFirst {portText : UInt16 → Bytes} (h : WritesPorts portText) (calls : List EndpointCall)
    (start : EndpointLists) {endpoints : List (Bytes × UInt16)}
    (hlast : (calls.filterMap EndpointCall.input).getLast? = some endpoints) :
    HoldsFirst portText endpoints (calls.foldl (EndpointCall.run portText) start) := by
  rw [EndpointCall.runs_eq, hlast]
  exact holdsFirst_rewriteEndpoints h endpoints

/-- A load, a dump that repeats an endpoint between two whose addresses end alike, and a
failed load. -/
theorem calls_holdFirst_repeated : HoldsFirst decimalText
    [([49, 58, 50], 3), ([49], 23), ([49, 58, 50], 3), ([49], 2)]
    ([.loadBootstrapCache (some [([50], 1)]),
      .dumpPublicEndpoints [{ publicIp := [49, 58, 50], publicPort := 3 }, { publicIp := [49], publicPort := 23 },
        { publicIp := [49, 58, 50], publicPort := 3 }, { publicIp := [49], publicPort := 2 }],
      .loadBootstrapCache none].foldl (EndpointCall.run decimalText) {}) :=
  calls_holdFirst .decimal _ {} rfl

end EndpointLists
end XKad
