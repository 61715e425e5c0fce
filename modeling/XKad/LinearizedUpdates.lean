import XKad.InterleavedUpdates

/-!
# When concurrent updates are atomic

`Update.effect` is what a call is for: its effect on the multiset of nodes. The
two indices change under two locks, one after the other, so interleaved calls
need not behave like calls in some order. They do as long as every step is
`Coordinated`: no block works on an index the other one has left behind.
-/
namespace XKad
open Std

namespace RoutingTable

/-- The nodes `AddNode` should take: eligible, new and with room in their bucket. -/
def Takes (localId : Bytes) (node : NodeInfo) (s : Multiset NodeInfo) : Prop :=
  Eligible localId node ∧ (∀ n ∈ s, n.nodeId ≠ node.nodeId) ∧
    s.countP (fun n => n.bucketIndex = (placed localId node).bucketIndex) < kKadParamK

open Classical in
/-- The effect of a call on the set of nodes. -/
noncomputable def Update.effect (localId : Bytes) : Update → Multiset NodeInfo → Multiset NodeInfo
  | .addNode node, s => if Takes localId node s then placed localId node ::ₘ s else s
  | .canAddNode _, s => s
  | .dropNode node, s => s.filter (fun n => n.nodeId ≠ node.nodeId)

/-- The sequential execution of calls. -/
def runAll (P : Platform) (us : List Update) (t : RoutingTable) : RoutingTable :=
  us.foldl (fun t u => (u.run P t).2) t

theorem room_iff (t : RoutingTable) (node : NodeInfo) : t.newNodeReplaceOldNode node = true ↔
    (t.nodes : Multiset NodeInfo).countP (fun n => n.bucketIndex = node.bucketIndex) < kKadParamK := by
  rw [newNodeReplaceOldNode, decide_eq_true_iff, Multiset.coe_countP]

theorem Consistent.hasNode_eq_false {t : RoutingTable} (h : t.Consistent) (node : NodeInfo) :
    t.hasNode node = false ↔ ∀ n ∈ t.nodes, n.nodeId ≠ node.nodeId := by
  rw [← Bool.not_eq_true, h.hasNode_iff]
  push Not
  rfl

theorem Consistent.accepts_iff {t : RoutingTable} (h : t.Consistent) (node : NodeInfo) :
    t.Accepts node ↔ Takes t.localId node t.nodes := by
  constructor
  · rintro ⟨hnat, hid, hv, hnew, hroom⟩
    exact ⟨⟨hnat, hid, hv⟩, (h.hasNode_eq_false node).mp hnew, (room_iff t _).mp hroom⟩
  · rintro ⟨⟨hnat, hid, hv⟩, hnew, hroom⟩
    exact ⟨hnat, hid, hv, (h.hasNode_eq_false node).mpr hnew, (room_iff t _).mpr hroom⟩

theorem consistent_changes {t t' : RoutingTable} (hc : Changes t t') (h : t.Consistent) :
    t'.Consistent := by
  induction hc with
  | refl => exact h
  | tail _ hs ih => exact consistent_change _ _ hs ih

theorem Consistent.run {t : RoutingTable} (h : t.Consistent) (P : Platform) (u : Update) :
    (u.run P t).2.Consistent := by
  cases u with
  | addNode node => exact consistent_changes (changes_addNode P node t) h
  | canAddNode node => exact consistent_changes (changes_of_reorders (canAddNode_reorders P node t)) h
  | dropNode node => exact h.drop node

theorem run_localId (P : Platform) (u : Update) (t : RoutingTable) :
    (u.run P t).2.localId = t.localId := by
  cases u with
  | addNode node =>
    obtain ⟨l, _, ⟨_, code, _, he⟩ | ⟨_, he⟩⟩ := addNode_cases P node t <;> simp [Update.run, he]
  | canAddNode node =>
    obtain ⟨l, _, hs⟩ := canAddNode_reorders P node t
    simp [Update.run, hs]
  | dropNode node => exact dropNode_localId t node

theorem Consistent.run_effect {t : RoutingTable} (h : t.Consistent) (P : Platform) (u : Update) :
    ((u.run P t).2.nodes : Multiset NodeInfo) = u.effect t.localId t.nodes := by
  cases u with
  | addNode node =>
    obtain ⟨l, hl, ⟨hno, code, _, he⟩ | ⟨hacc, he⟩⟩ := addNode_cases P node t
    · rw [h.accepts_iff] at hno
      simp only [Update.run, he, Update.effect, if_neg hno]
      exact Multiset.coe_eq_coe.mpr hl
    · rw [h.accepts_iff] at hacc
      simp only [Update.run, he, Update.effect, if_pos hacc, inserted_nodes]
      rw [Multiset.cons_coe, Multiset.coe_eq_coe]
      exact (hl.append_right _).trans (List.perm_append_singleton _ _)
  | canAddNode node =>
    obtain ⟨l, hl, hs⟩ := canAddNode_reorders P node t
    simp only [Update.run, hs, Update.effect]
    exact Multiset.coe_eq_coe.mpr hl
  | dropNode node =>
    simp only [Update.run, Update.effect, dropNode_nodes, eraseP_eq_filter h.nodup, Multiset.filter_coe]

theorem Consistent.runAll_effect {t : RoutingTable} (h : t.Consistent) (P : Platform) (us : List Update) :
    (runAll P us t).Consistent ∧ ((runAll P us t).nodes : Multiset NodeInfo) =
      us.foldl (fun s u => u.effect t.localId s) (t.nodes : Multiset NodeInfo) := by
  induction us generalizing t with
  | nil => exact ⟨h, rfl⟩
  | cons u us ih =>
    obtain ⟨hc, hn⟩ := ih (h.run P u)
    refine ⟨hc, hn.trans ?_⟩
    rw [run_localId, h.run_effect P u]
    rfl

theorem nodeIdMap_eq {t t' : RoutingTable}
    (h : ∀ id n, t.nodeIdMap[id]? = some n ↔ n ∈ t.nodes ∧ n.nodeId = id)
    (h' : ∀ id n, t'.nodeIdMap[id]? = some n ↔ n ∈ t'.nodes ∧ n.nodeId = id)
    (hn : t'.nodes.Perm t.nodes) : t'.nodeIdMap = t.nodeIdMap := by
  refine ExtTreeMap.ext_getElem? (fun id => Option.ext (fun n => ?_))
  rw [h, h', hn.mem_iff]

/-- Some call is about to put `node` into the id map. -/
def PendingIn (calls : List UpdateCall) (node : NodeInfo) : Prop :=
  ∃ c ∈ calls, c.point.pending = some node

/-- Some call has erased `id` from the vector and not yet from the id map. -/
def ErasingIn (calls : List UpdateCall) (id : Bytes) : Prop :=
  ∃ c ∈ calls, c.point.erasing = some id

/-- The next block of `call` finds the two indices in step as far as it needs. -/
def Coordinated (c : Updates) (call : UpdateCall) : Prop :=
  match call.point with
  -- the vector must not get a second node of an id
  | .nodesBlock node => c.shared.newNodeReplaceOldNode node = true → c.shared.hasNode node = false →
      ∀ n ∈ c.shared.nodes, n.nodeId ≠ node.nodeId
  -- the id map must not get a node that has left the vector for good
  | .idMapInsert node => node.nodeId ∉ c.shared.nodeIdMap →
      node ∈ c.shared.nodes ∨ ErasingIn c.threads node.nodeId
  -- the id map must not lose a node that stays in the vector
  | .idMapErase node => node.nodeId ∈ c.shared.nodeIdMap →
      ∀ n ∈ c.shared.nodes, n.nodeId = node.nodeId → PendingIn c.threads n
  | _ => True

/-- The calls whose effect on the vector is decided. -/
def decided (calls : List UpdateCall) : List Update :=
  (calls.filter (fun c => c.point.settled)).map UpdateCall.update

/-- Vector and id map differ by no more than the calls under way account for. -/
structure InStep (c : Updates) : Prop where
  distinct : c.shared.nodes.Pairwise (fun a b => a.nodeId ≠ b.nodeId)
  key : ∀ id (n : NodeInfo), c.shared.nodeIdMap[id]? = some n → n.nodeId = id
  entered : ∀ n ∈ c.shared.nodes, c.shared.nodeIdMap[n.nodeId]? = some n ∨ PendingIn c.threads n ∨
    (n.nodeId ∈ c.shared.nodeIdMap ∧ ErasingIn c.threads n.nodeId)
  left : ∀ id (n : NodeInfo), c.shared.nodeIdMap[id]? = some n →
    n ∈ c.shared.nodes ∨ ErasingIn c.threads id

def Known (c : Updates) (id : Bytes) : Prop :=
  id ∈ c.shared.nodeIdMap ∨ ∃ n, PendingIn c.threads n ∧ n.nodeId = id

/-- Executed in the order `us` the decided calls produce the vector, and every
known id is in the table at some time. -/
structure OrderedBy (t₀ : RoutingTable) (us : List Update) (c : Updates) : Prop where
  perm : us.Perm (decided c.threads)
  nodes : us.foldl (fun s u => u.effect t₀.localId s) (t₀.nodes : Multiset NodeInfo) =
    c.shared.nodes
  known : ∀ id, Known c id → Visited (Update.effect t₀.localId) (t₀.nodes : Multiset NodeInfo) us
    (fun s => ∃ n ∈ s, n.nodeId = id)

/-- What holds in every configuration of a coordinated run from `t₀`. -/
structure Linearized (t₀ : RoutingTable) (c : Updates) : Prop where
  localId : c.shared.localId = t₀.localId
  calls : ∀ call ∈ c.threads, call.Ok t₀.localId
  inStep : InStep c
  ordered : ∃ us, OrderedBy t₀ us c

section Threads

variable {calls calls' : List UpdateCall}

@[simp] theorem pendingIn_cons (c : UpdateCall) (n : NodeInfo) :
    PendingIn (c :: calls) n ↔ c.point.pending = some n ∨ PendingIn calls n := by
  simp [PendingIn]

@[simp] theorem erasingIn_cons (c : UpdateCall) (id : Bytes) :
    ErasingIn (c :: calls) id ↔ c.point.erasing = some id ∨ ErasingIn calls id := by
  simp [ErasingIn]

theorem pendingIn_perm (h : calls.Perm calls') (n : NodeInfo) :
    PendingIn calls n ↔ PendingIn calls' n := by
  simp only [PendingIn, h.mem_iff]

theorem erasingIn_perm (h : calls.Perm calls') (id : Bytes) :
    ErasingIn calls id ↔ ErasingIn calls' id := by
  simp only [ErasingIn, h.mem_iff]

theorem decided_perm (h : calls.Perm calls') : (decided calls).Perm (decided calls') :=
  (h.filter _).map _

theorem decided_cons (c : UpdateCall) : decided (c :: calls) =
    if c.point.settled then c.update :: decided calls else decided calls := by
  simp only [decided]
  cases h : c.point.settled <;> simp [h]

theorem Linearized.perm {t₀ t : RoutingTable} (h : Linearized t₀ ⟨t, calls⟩)
    (hp : calls.Perm calls') : Linearized t₀ ⟨t, calls'⟩ := by
  obtain ⟨us, hus⟩ := h.ordered
  refine ⟨h.localId, fun c hc => h.calls c (hp.mem_iff.mpr hc), ⟨h.inStep.distinct, h.inStep.key, ?_, ?_⟩,
    us, ⟨hus.perm.trans (decided_perm hp), hus.nodes, ?_⟩⟩
  · intro n hn
    rw [← pendingIn_perm hp, ← erasingIn_perm hp]
    exact h.inStep.entered n hn
  · intro id n hm
    rw [← erasingIn_perm hp]
    exact h.inStep.left id n hm
  · intro id hk
    simp only [Known, ← pendingIn_perm hp] at hk
    exact hus.known id hk

end Threads

theorem InStep.same {t t' : RoutingTable} {calls calls' : List UpdateCall} (h : InStep ⟨t, calls⟩)
    (hs : SameMembers t t') (hp : ∀ n, PendingIn calls' n ↔ PendingIn calls n)
    (he : ∀ id, ErasingIn calls' id ↔ ErasingIn calls id) : InStep ⟨t', calls'⟩ := by
  refine ⟨hs.nodes.symm.pairwise h.distinct (fun hab => hab.symm), ?_, ?_, ?_⟩
  · intro id n hm
    rw [hs.nodeIdMap] at hm
    exact h.key id n hm
  · intro n hn
    rw [hs.nodeIdMap, hp, he]
    exact h.entered n (hs.nodes.mem_iff.mp hn)
  · intro id n hm
    rw [hs.nodeIdMap] at hm
    rw [he]
    exact (h.left id n hm).imp hs.nodes.mem_iff.mpr (fun hx => hx)

theorem Point.pending_eq_none {p : Point} (h : p.settled = false) : p.pending = none := by
  cases p with
  | idMapInsert node => cases h
  | _ => rfl

theorem Point.erasing_eq_none {p : Point} (h : p.settled = false) : p.erasing = none := by
  cases p with
  | idMapErase node => cases h
  | _ => rfl

theorem InStep.settle {t t' : RoutingTable} {c c' : UpdateCall} {rest : List UpdateCall}
    (h : InStep ⟨t, c :: rest⟩) (hs : SameMembers t t') (hc : c.point.settled = false)
    (hp : c'.point.pending = none) (he : c'.point.erasing = none) : InStep ⟨t', c' :: rest⟩ :=
  h.same hs (by simp [hp, Point.pending_eq_none hc]) (by simp [he, Point.erasing_eq_none hc])

section Steps

variable {t t' : RoutingTable} {u : Update} {node : NodeInfo} {rest : List UpdateCall}

theorem InStep.push (h : InStep ⟨t, ⟨u, .nodesBlock node⟩ :: rest⟩)
    (hnew : ∀ n ∈ t.nodes, n.nodeId ≠ node.nodeId) (hn : t'.nodes.Perm (t.nodes ++ [node]))
    (hm : t'.nodeIdMap = t.nodeIdMap) : InStep ⟨t', ⟨u, .idMapInsert node⟩ :: rest⟩ := by
  have hmem (n : NodeInfo) : n ∈ t'.nodes ↔ n ∈ t.nodes ∨ n = node := by
    rw [hn.mem_iff, List.mem_append, List.mem_singleton]
  refine ⟨?_, ?_, ?_, ?_⟩
  · refine hn.symm.pairwise (List.pairwise_append.mpr ⟨h.distinct, List.pairwise_singleton _ _, ?_⟩)
      (fun hab => hab.symm)
    intro a ha b hb
    rw [List.mem_singleton.mp hb]
    exact hnew a ha
  · intro id n hi
    rw [hm] at hi
    exact h.key id n hi
  · intro n hi
    simp only [hm, pendingIn_cons, erasingIn_cons, Point.pending, Point.erasing]
    rcases (hmem n).mp hi with hi | rfl
    · have hold := h.entered n hi
      simp only [pendingIn_cons, erasingIn_cons, Point.pending, Point.erasing] at hold
      tauto
    · exact Or.inr (Or.inl (Or.inl rfl))
  · intro id n hi
    rw [hm] at hi
    have hold := h.left id n hi
    simp only [erasingIn_cons, Point.erasing] at hold ⊢
    exact hold.imp (fun hx => (hmem n).mpr (Or.inl hx)) (fun hx => hx)

/-- The insertion into the id map, effective or not, when the node is still
wanted there. -/
theorem InStep.idMapInsert (h : InStep ⟨t, ⟨u, .idMapInsert node⟩ :: rest⟩)
    (hg : node.nodeId ∉ t.nodeIdMap → node ∈ t.nodes ∨ ErasingIn rest node.nodeId) :
    InStep ⟨t.addIdMapBlock node, ⟨u, .hashMapInsert node⟩ :: rest⟩ := by
  have hkey : ∀ (id : Bytes) (n : NodeInfo), (t.addIdMapBlock node).nodeIdMap[id]? = some n → n.nodeId = id := by
    intro id n hi
    rcases getElem?_insertIfNew_iff.mp hi with ⟨rfl, _, rfl⟩ | hold
    · rfl
    · exact h.key id n hold
  have hleft : ∀ (id : Bytes) (n : NodeInfo), (t.addIdMapBlock node).nodeIdMap[id]? = some n →
      n ∈ t.nodes ∨ ErasingIn rest id := by
    intro id n hi
    rcases getElem?_insertIfNew_iff.mp hi with ⟨rfl, hno, rfl⟩ | hold
    · exact hg hno
    · have hwas := h.left id n hold
      simp only [erasingIn_cons, Point.erasing, reduceCtorEq, false_or] at hwas
      exact hwas
  refine ⟨h.distinct, hkey, ?_, ?_⟩
  · intro n hn
    by_cases hid : node.nodeId = n.nodeId
    · -- the entry found at the id is the node, or is on its way out
      have hin : n.nodeId ∈ (t.addIdMapBlock node).nodeIdMap := by
        rw [addIdMapBlock, ExtTreeMap.mem_insertIfNew, ← hid]
        exact Or.inl compare_self
      obtain ⟨m, hm⟩ := Option.isSome_iff_exists.mp (ExtTreeMap.mem_iff_isSome_getElem?.mp hin)
      rcases hleft _ m hm with hmem | herase
      · have hmn : m = n := List.inj_on_of_nodup_map (List.pairwise_map.mpr h.distinct) hmem hn (hkey _ m hm)
        subst hmn
        exact Or.inl hm
      · exact Or.inr (Or.inr ⟨hin, by simpa [Point.erasing] using herase⟩)
    · have hold := h.entered n hn
      have hne : node ≠ n := fun hx => hid (congrArg NodeInfo.nodeId hx)
      simp only [pendingIn_cons, erasingIn_cons, Point.pending, Point.erasing, addIdMapBlock,
        getElem?_insertIfNew_iff, ExtTreeMap.mem_insertIfNew, reduceCtorEq, false_or, Ne.symm hid, false_and,
        Option.some.injEq, hne] at hold ⊢
      tauto
  · intro id n hi
    simp only [erasingIn_cons, Point.erasing, reduceCtorEq, false_or]
    exact hleft id n hi

theorem InStep.nodesErase (h : InStep ⟨t, ⟨u, .nodesErase node⟩ :: rest⟩) :
    InStep ⟨t.dropNodesBlock node, ⟨u, .idMapErase node⟩ :: rest⟩ := by
  have hnodes : (t.dropNodesBlock node).nodes = t.nodes.filter (fun n => n.nodeId ≠ node.nodeId) :=
    eraseP_eq_filter h.distinct node.nodeId
  refine ⟨?_, h.key, ?_, ?_⟩
  · rw [hnodes]
    exact h.distinct.sublist List.filter_sublist
  · intro n hn
    rw [hnodes] at hn
    have hold := h.entered n (List.mem_of_mem_filter hn)
    simp only [pendingIn_cons, erasingIn_cons, Point.pending, Point.erasing, reduceCtorEq, false_or]
      at hold ⊢
    tauto
  · intro id n hi
    have hold := h.left id n hi
    simp only [erasingIn_cons, Point.erasing, reduceCtorEq, false_or, Option.some.injEq] at hold ⊢
    by_cases hid : node.nodeId = id
    · exact Or.inr (Or.inl hid)
    · refine hold.imp (fun hn => ?_) Or.inr
      rw [hnodes]
      have hkey := h.key id n hi
      simp [hn, hkey, Ne.symm hid]

/-- The erasure from the id map, when no node that stays loses its entry. -/
theorem InStep.idMapErase (h : InStep ⟨t, ⟨u, .idMapErase node⟩ :: rest⟩)
    (hg : node.nodeId ∈ t.nodeIdMap → ∀ n ∈ t.nodes, n.nodeId = node.nodeId → PendingIn rest n) :
    InStep ⟨t.dropIdMapBlock node, ⟨u, .hashMapErase node⟩ :: rest⟩ := by
  refine ⟨h.distinct, ?_, ?_, ?_⟩
  · intro id n hi
    exact h.key id n (getElem?_erase_iff.mp hi).2
  · intro n hn
    have hold := h.entered n hn
    simp only [pendingIn_cons, erasingIn_cons, Point.pending, Point.erasing, dropIdMapBlock,
      getElem?_erase_iff, ExtTreeMap.mem_erase, reduceCtorEq, false_or, Option.some.injEq] at hold ⊢
    by_cases hid : node.nodeId = n.nodeId
    · by_cases hmap : node.nodeId ∈ t.nodeIdMap
      · exact Or.inr (Or.inl (hg hmap n hn hid.symm))
      · rw [hid] at hmap
        have hnone : t.nodeIdMap[n.nodeId]? = none := by simp [hmap]
        simp only [hnone, reduceCtorEq, hmap, false_and, or_false, false_or] at hold
        exact Or.inr (Or.inl hold)
    · simp only [hid, false_or] at hold
      have hne : n.nodeId ≠ node.nodeId := Ne.symm hid
      have hc : compare node.nodeId n.nodeId ≠ .eq := fun hc => hid (LawfulEqCmp.eq_of_compare hc)
      tauto
  · intro id n hi
    obtain ⟨hid, hi⟩ := getElem?_erase_iff.mp hi
    have hold := h.left id n hi
    simp only [erasingIn_cons, Point.erasing, Option.some.injEq, reduceCtorEq, hid.symm, false_or] at hold ⊢
    exact hold

end Steps

theorem inStep_effect {t t' : RoutingTable} {c : UpdateCall} {p : Point} {rest : List UpdateCall}
    (hg : Coordinated ⟨t, c :: rest⟩ c) (h : InStep ⟨t, c :: rest⟩) (he : Effect t c p t') :
    InStep ⟨t', ⟨c.update, p⟩ :: rest⟩ := by
  obtain ⟨u, q⟩ := c
  cases he with
  | pass _ hp he hp' he' hs => exact h.same hs (by simp [hp, hp']) (by simp [he, he'])
  | inert _ _ _ hc hp he hs => exact h.settle hs hc hp he
  | known _ _ _ hc _ hs => exact h.settle hs hc rfl rfl
  | full _ _ _ hc _ hs => exact h.settle hs hc rfl rfl
  | push node _ hpt _ hroom hnew hn hm =>
    cases hpt
    exact h.push (hg hroom hnew) hn hm
  | idMapInsert node hpt =>
    cases hpt
    refine h.idMapInsert (fun hno => (hg hno).imp (fun hx => hx) (fun hx => ?_))
    simpa [Point.erasing] using hx
  | nodesErase node _ hpt =>
    cases hpt
    exact h.nodesErase
  | idMapErase node hpt =>
    cases hpt
    refine h.idMapErase (fun hmem n hn hid => ?_)
    simpa [Point.pending] using hg hmem n hn hid

section Order

variable {t₀ t t' : RoutingTable} {calls calls' : List UpdateCall} {us : List Update} {u : Update}

theorem OrderedBy.pass (h : OrderedBy t₀ us ⟨t, calls⟩) (hd : decided calls' = decided calls)
    (hn : t'.nodes.Perm t.nodes) (hk : ∀ id, Known ⟨t', calls'⟩ id → Known ⟨t, calls⟩ id) :
    OrderedBy t₀ us ⟨t', calls'⟩ := by
  refine ⟨?_, ?_, fun id hid => h.known id (hk id hid)⟩
  · rw [hd]
    exact h.perm
  · rw [h.nodes]
    exact Multiset.coe_eq_coe.mpr hn.symm

/-- A call that decides now comes last. -/
theorem OrderedBy.append (h : OrderedBy t₀ us ⟨t, calls⟩) (hd : decided calls' = u :: decided calls)
    (hn : u.effect t₀.localId (t.nodes : Multiset NodeInfo) = t'.nodes)
    (hk : ∀ id, Known ⟨t', calls'⟩ id → Known ⟨t, calls⟩ id ∨ ∃ n ∈ t'.nodes, n.nodeId = id) :
    OrderedBy t₀ (us ++ [u]) ⟨t', calls'⟩ := by
  have hlast : (us ++ [u]).foldl (fun s u => u.effect t₀.localId s) (t₀.nodes : Multiset NodeInfo) =
      t'.nodes := by
    rw [List.foldl_append, h.nodes]
    exact hn
  refine ⟨?_, hlast, fun id hid => ?_⟩
  · rw [hd]
    exact (List.perm_append_singleton u us).trans (h.perm.cons u)
  · rcases hk id hid with hold | hin
    · exact (h.known id hold).append u
    · apply visited_last
      rw [hlast]
      exact hin

/-- A call without effect comes where it has none. -/
theorem OrderedBy.insert (h : OrderedBy t₀ us ⟨t, calls⟩) (hd : decided calls' = u :: decided calls)
    (hs : SameMembers t t') (hk : ∀ id, Known ⟨t', calls'⟩ id → Known ⟨t, calls⟩ id)
    (hv : Visited (Update.effect t₀.localId) (t₀.nodes : Multiset NodeInfo) us
      (fun s => u.effect t₀.localId s = s)) : ∃ us', OrderedBy t₀ us' ⟨t', calls'⟩ := by
  obtain ⟨us', hperm, hfold, hvis⟩ := hv.insert
  refine ⟨us', ?_, ?_, fun id hid => hvis _ (h.known id (hk id hid))⟩
  · rw [hd]
    exact hperm.trans (h.perm.cons u)
  · rw [hfold, h.nodes]
    exact Multiset.coe_eq_coe.mpr hs.nodes.symm

theorem effect_addNode_of_not {localId : Bytes} {node : NodeInfo} {s : Multiset NodeInfo}
    (h : ¬ Takes localId node s) : (Update.addNode node).effect localId s = s := if_neg h

theorem known_of_pending {p : Point} {rest : List UpdateCall} {id : Bytes} (hp : p.pending = none)
    (hm : t'.nodeIdMap = t.nodeIdMap) {q : Point} {u' : Update}
    (h : Known ⟨t', ⟨u, p⟩ :: rest⟩ id) : Known ⟨t, ⟨u', q⟩ :: rest⟩ id := by
  simp only [Known, pendingIn_cons, hm, hp, reduceCtorEq, false_or] at h ⊢
  exact h.imp (fun hx => hx) (fun ⟨n, hn, hid⟩ => ⟨n, Or.inr hn, hid⟩)

theorem known_push {node : NodeInfo} {q : Point} {rest : List UpdateCall} {id : Bytes}
    (hn : t'.nodes.Perm (t.nodes ++ [node])) (hm : t'.nodeIdMap = t.nodeIdMap)
    (h : Known ⟨t', ⟨u, .idMapInsert node⟩ :: rest⟩ id) :
    Known ⟨t, ⟨u, q⟩ :: rest⟩ id ∨ ∃ n ∈ t'.nodes, n.nodeId = id := by
  simp only [Known, pendingIn_cons, hm, Point.pending, Option.some.injEq] at h ⊢
  rcases h with hk | ⟨n, rfl | hk, hid⟩
  · exact Or.inl (Or.inl hk)
  · exact Or.inr ⟨_, hn.mem_iff.mpr (by simp), hid⟩
  · exact Or.inl (Or.inr ⟨n, Or.inr hk, hid⟩)

/-- An insertion into the id map makes no id known that was not pending. -/
theorem known_idMapInsert {node : NodeInfo} {rest : List UpdateCall} {id : Bytes}
    (h : Known ⟨t.addIdMapBlock node, ⟨u, .hashMapInsert node⟩ :: rest⟩ id) :
    Known ⟨t, ⟨u, .idMapInsert node⟩ :: rest⟩ id := by
  simp only [Known, pendingIn_cons, Point.pending, addIdMapBlock, ExtTreeMap.mem_insertIfNew,
    reduceCtorEq, false_or, Option.some.injEq] at h ⊢
  rcases h with (hk | hk) | ⟨n, hk, hid⟩
  · exact Or.inr ⟨node, Or.inl rfl, LawfulEqCmp.eq_of_compare hk⟩
  · exact Or.inl hk
  · exact Or.inr ⟨n, Or.inr hk, hid⟩

theorem known_idMapErase {node : NodeInfo} {rest : List UpdateCall} {id : Bytes}
    (h : Known ⟨t.dropIdMapBlock node, ⟨u, .hashMapErase node⟩ :: rest⟩ id) :
    Known ⟨t, ⟨u, .idMapErase node⟩ :: rest⟩ id := by
  simp only [Known, pendingIn_cons, Point.pending, dropIdMapBlock, ExtTreeMap.mem_erase,
    reduceCtorEq, false_or] at h ⊢
  exact h.imp (fun hx => hx.2) (fun hx => hx)

end Order

theorem ordered_effect {t₀ t t' : RoutingTable} {c : UpdateCall} {p : Point} {rest : List UpdateCall}
    {us : List Update} (hid : t.localId = t₀.localId) (hg : Coordinated ⟨t, c :: rest⟩ c)
    (hin : InStep ⟨t, c :: rest⟩) (h : OrderedBy t₀ us ⟨t, c :: rest⟩) (he : Effect t c p t') :
    ∃ us', OrderedBy t₀ us' ⟨t', ⟨c.update, p⟩ :: rest⟩ := by
  obtain ⟨u, q⟩ := c
  have hdecided (p : Point) (hp : p.settled = true) (hq : q.settled = false) :
      decided (⟨u, p⟩ :: rest) = u :: decided (⟨u, q⟩ :: rest) := by
    rw [decided_cons, decided_cons, if_pos hp, if_neg (ne_true_of_eq_false hq)]
  have hsame (p : Point) (hp : p.settled = q.settled) :
      decided (⟨u, p⟩ :: rest) = decided (⟨u, q⟩ :: rest) := by
    rw [decided_cons, decided_cons, hp]
  cases he with
  | pass hs hp _ _ _ hm =>
    exact ⟨us, h.pass (hsame p hs) hm.nodes (fun id hk => known_of_pending hp hm.nodeIdMap hk)⟩
  | inert node hu hs hq hp _ hm =>
    cases hu
    refine ⟨_, h.append (hdecided p hs hq) (Multiset.coe_eq_coe.mpr hm.nodes.symm) (fun id hk => ?_)⟩
    exact Or.inl (known_of_pending hp hm.nodeIdMap hk)
  | known code node hu hq hold hm =>
    cases hu
    refine h.insert (hdecided _ rfl hq) hm (fun id hk => known_of_pending rfl hm.nodeIdMap hk) ?_
    by_cases hel : Eligible t.localId node
    · have hmap : node.nodeId ∈ t.nodeIdMap := ExtTreeMap.contains_iff_mem.mp (hold hel)
      refine (h.known node.nodeId (Or.inl hmap)).imp (fun s hs => effect_addNode_of_not ?_)
      rintro ⟨_, hnew, _⟩
      obtain ⟨n, hn, hsame⟩ := hs
      exact hnew n hn hsame
    · refine visited_last (effect_addNode_of_not (fun htakes => hel ?_))
      rw [hid]
      exact htakes.1
  | full code node hu hq hfull hm =>
    cases hu
    refine h.insert (hdecided _ rfl hq) hm (fun id hk => known_of_pending rfl hm.nodeIdMap hk) ?_
    apply visited_last
    rw [h.nodes]
    refine effect_addNode_of_not (fun htakes => ?_)
    have hroom := (room_iff t (placed t₀.localId node)).mpr htakes.2.2
    rw [← hid, hfull] at hroom
    cases hroom
  | push node hu hpt hel hroom hnew hn hm =>
    cases hu
    cases hpt
    have htakes : Takes t₀.localId node t.nodes := by
      rw [← hid]
      exact ⟨hel, hg hroom hnew, (room_iff t _).mp hroom⟩
    refine ⟨_, h.append (hdecided _ rfl rfl) ?_ (fun id hk => known_push hn hm hk)⟩
    rw [Update.effect, if_pos htakes, Multiset.cons_coe, Multiset.coe_eq_coe, ← hid]
    exact (List.perm_append_singleton _ _).symm.trans hn.symm
  | idMapInsert node hpt =>
    cases hpt
    exact ⟨us, h.pass (hsame _ rfl) (List.Perm.refl _) (fun id hk => known_idMapInsert hk)⟩
  | nodesErase node hu hpt =>
    cases hu
    cases hpt
    refine ⟨_, h.append (hdecided _ rfl rfl) ?_ (fun id hk => Or.inl (known_of_pending rfl rfl hk))⟩
    simp only [Update.effect, dropNodesBlock, eraseP_eq_filter hin.distinct, Multiset.filter_coe]
  | idMapErase node hpt =>
    cases hpt
    exact ⟨us, h.pass (hsame _ rfl) (List.Perm.refl _) (fun id hk => known_idMapErase hk)⟩

/-- One coordinated block keeps what a coordinated run relies on. -/
theorem linearized_block (P : Platform) {t₀ : RoutingTable} (before : List UpdateCall)
    (call : UpdateCall) (after : List UpdateCall) (t : RoutingTable)
    (hg : Coordinated ⟨t, before ++ call :: after⟩ call)
    (h : Linearized t₀ ⟨t, before ++ call :: after⟩) :
    Linearized t₀ ⟨(call.block P t).2, before ++ (call.block P t).1 :: after⟩ := by
  have hmiddle : (before ++ call :: after).Perm (call :: (before ++ after)) := List.perm_middle
  have hfront := h.perm hmiddle
  have hid : t.localId = t₀.localId := h.localId
  have hok : call.Ok t.localId := by
    rw [hid]
    exact h.calls call (by simp)
  have hg' : Coordinated ⟨t, call :: (before ++ after)⟩ call := by
    rw [Coordinated] at hg ⊢
    split at hg
    · exact hg
    · simpa only [erasingIn_perm hmiddle] using hg
    · simpa only [pendingIn_perm hmiddle] using hg
    · trivial
  have heff := block_effect P hok
  obtain ⟨us, hus⟩ := hfront.ordered
  have hcalls : ∀ c ∈ (call.block P t).1 :: (before ++ after), c.Ok t₀.localId := by
    intro c hc
    rcases List.mem_cons.mp hc with rfl | hc
    · rw [← hid]
      exact block_ok P hok
    · exact hfront.calls c (List.mem_cons_of_mem call hc)
  have hafter : Linearized t₀ ⟨(call.block P t).2, (call.block P t).1 :: (before ++ after)⟩ :=
    ⟨(block_localId P call.point t).trans hid, hcalls, inStep_effect hg' hfront.inStep heff,
      ordered_effect hid hg' hfront.inStep hus heff⟩
  exact hafter.perm List.perm_middle.symm

def Point.final : Point → Bool
  | .returned _ | .answered _ => true
  | _ => false

def Finished (c : Updates) : Prop := ∀ call ∈ c.threads, call.point.final = true

instance (c : Updates) : Decidable (Finished c) :=
  inferInstanceAs (Decidable (∀ call ∈ c.threads, call.point.final = true))

/-- The table is what some order of the calls produces: the same nodes and the
same id map, no id twice in the vector and none in the id map only. -/
structure Atomic (P : Platform) (t₀ : RoutingTable) (us : List Update) (t : RoutingTable) : Prop where
  order : ∃ order : List Update, order.Perm us ∧ (runAll P order t₀).nodes.Perm t.nodes ∧
    (runAll P order t₀).nodeIdMap = t.nodeIdMap
  noDuplicate : (t.nodes.map NodeInfo.nodeId).Nodup
  noGhost : ∀ id ∈ t.nodeIdMap, ∃ n ∈ t.nodes, n.nodeId = id

theorem Point.final_cases {p : Point} (h : p.final = true) :
    p.settled = true ∧ p.pending = none ∧ p.erasing = none := by
  cases p with
  | returned code => exact ⟨rfl, rfl, rfl⟩
  | answered b => exact ⟨rfl, rfl, rfl⟩
  | _ => cases h

theorem linearized_start {t₀ : RoutingTable} (h : t₀.Consistent) (us : List Update) :
    Linearized t₀ ⟨t₀, us.map Update.start⟩ := by
  have hnone (u : Update) : u.start.point.settled = false := by cases u <;> rfl
  have hpending (n : NodeInfo) : ¬ PendingIn (us.map Update.start) n := by
    rintro ⟨c, hc, hp⟩
    obtain ⟨u, _, rfl⟩ := List.mem_map.mp hc
    rw [Point.pending_eq_none (hnone u)] at hp
    cases hp
  have hdecided : decided (us.map Update.start) = [] := by
    rw [decided, List.filter_eq_nil_iff.mpr, List.map_nil]
    intro c hc
    obtain ⟨u, _, rfl⟩ := List.mem_map.mp hc
    simp [hnone u]
  refine ⟨rfl, ?_, ⟨h.nodup, ?_, ?_, ?_⟩, [], ⟨?_, rfl, ?_⟩⟩
  · intro c hc
    obtain ⟨u, _, rfl⟩ := List.mem_map.mp hc
    exact start_ok _ u
  · exact fun id n hm => ((h.index id n).mp hm).2
  · exact fun n hn => Or.inl ((h.index n.nodeId n).mpr ⟨hn, rfl⟩)
  · exact fun id n hm => Or.inl ((h.index id n).mp hm).1
  · rw [hdecided]
  · rintro id (hk | ⟨n, hn, _⟩)
    · exact visited_last ((h.mem_iff id).mp hk)
    · exact absurd hn (hpending n)

theorem run_updates (P : Platform) {c c' : Updates}
    (h : Config.Run (UpdateCall.block P) Coordinated c c') :
    c'.threads.map UpdateCall.update = c.threads.map UpdateCall.update := by
  refine Config.Run.induct
    (I := fun x => x.threads.map UpdateCall.update = c.threads.map UpdateCall.update) ?_ h rfl
  intro before call after t _ hi
  rw [← hi]
  simp [UpdateCall.block]

/-- Coordinated updates are atomic: whenever all calls have returned, the table
is what some order of the calls produces. -/
theorem coordinated_atomic {P : Platform} {t₀ : RoutingTable} (h₀ : Reachable P t₀) (us : List Update)
    {c : Updates} (hrun : Config.Run (UpdateCall.block P) Coordinated ⟨t₀, us.map Update.start⟩ c)
    (hdone : Finished c) : Atomic P t₀ us c.shared := by
  have hc₀ := h₀.consistent
  have hl : Linearized t₀ c := hrun.induct
    (fun before call after t hg hi => linearized_block P before call after t hg hi)
    (linearized_start hc₀ us)
  have hpending (n : NodeInfo) : ¬ PendingIn c.threads n := by
    rintro ⟨call, hcall, hp⟩
    rw [(Point.final_cases (hdone call hcall)).2.1] at hp
    cases hp
  have herasing (id : Bytes) : ¬ ErasingIn c.threads id := by
    rintro ⟨call, hcall, hp⟩
    rw [(Point.final_cases (hdone call hcall)).2.2] at hp
    cases hp
  have hindex : ∀ id n, c.shared.nodeIdMap[id]? = some n ↔ n ∈ c.shared.nodes ∧ n.nodeId = id := by
    intro id n
    constructor
    · exact fun hm => ⟨(hl.inStep.left id n hm).resolve_right (herasing id), hl.inStep.key id n hm⟩
    · rintro ⟨hn, rfl⟩
      rcases hl.inStep.entered n hn with hm | hp | ⟨_, he⟩
      · exact hm
      · exact absurd hp (hpending n)
      · exact absurd he (herasing n.nodeId)
  have hdecided : decided c.threads = us := by
    rw [decided, List.filter_eq_self.mpr (fun call hcall => (Point.final_cases (hdone call hcall)).1),
      run_updates P hrun, List.map_map]
    refine List.map_id'' (fun u => ?_) us
    cases u <;> rfl
  obtain ⟨order, ho⟩ := hl.ordered
  obtain ⟨hcons, hnodes⟩ := hc₀.runAll_effect P order
  have hperm : (runAll P order t₀).nodes.Perm c.shared.nodes :=
    Multiset.coe_eq_coe.mp (hnodes.trans ho.nodes)
  refine ⟨⟨order, ?_, hperm, nodeIdMap_eq hindex hcons.index hperm⟩,
    List.pairwise_map.mpr hl.inStep.distinct, ?_⟩
  · rw [← hdecided]
    exact ho.perm
  · intro id hid
    obtain ⟨n, hn⟩ := Option.isSome_iff_exists.mp (ExtTreeMap.mem_iff_isSome_getElem?.mp hid)
    exact ⟨n, (hindex id n).mp hn⟩

instance (calls : List UpdateCall) (node : NodeInfo) : Decidable (PendingIn calls node) :=
  inferInstanceAs (Decidable (∃ c ∈ calls, c.point.pending = some node))

instance (calls : List UpdateCall) (id : Bytes) : Decidable (ErasingIn calls id) :=
  inferInstanceAs (Decidable (∃ c ∈ calls, c.point.erasing = some id))

instance (c : Updates) (call : UpdateCall) : Decidable (Coordinated c call) :=
  match call with
  | ⟨_, .nodesBlock node⟩ => inferInstanceAs (Decidable (c.shared.newNodeReplaceOldNode node = true →
      c.shared.hasNode node = false → ∀ n ∈ c.shared.nodes, n.nodeId ≠ node.nodeId))
  | ⟨_, .idMapInsert node⟩ => inferInstanceAs (Decidable (node.nodeId ∉ c.shared.nodeIdMap →
      node ∈ c.shared.nodes ∨ ErasingIn c.threads node.nodeId))
  | ⟨_, .idMapErase node⟩ => inferInstanceAs (Decidable (node.nodeId ∈ c.shared.nodeIdMap →
      ∀ n ∈ c.shared.nodes, n.nodeId = node.nodeId → PendingIn c.threads n))
  | ⟨_, .hasNodeCheck _⟩ | ⟨_, .hashMapInsert _⟩ | ⟨_, .canAddCheck _⟩ | ⟨_, .canAddSort _⟩
  | ⟨_, .nodesErase _⟩ | ⟨_, .hashMapErase _⟩ | ⟨_, .dxipErase _⟩ | ⟨_, .resetSnapshot⟩
  | ⟨_, .copyNodes⟩ | ⟨_, .storeSnapshot _⟩ | ⟨_, .returned _⟩ | ⟨_, .answered _⟩ => isTrue trivial

/-- Calls on a new table, moved in the order of `places`. -/
def scheduled (us : List Update) (places : List ℕ) : Updates :=
  Config.schedule (UpdateCall.block .simple) places
    ⟨init (localEndingIn 0) 9, us.map Update.start⟩

theorem coordinated_atomic_two :
    Atomic .simple (init (localEndingIn 0) 9) [.addNode (nodeEndingIn 1), .dropNode (nodeEndingIn 1)]
      (scheduled [.addNode (nodeEndingIn 1), .dropNode (nodeEndingIn 1)]
        [0, 0, 0, 1, 0, 1, 0, 1, 0, 1, 0, 1, 1, 1]).shared :=
  coordinated_atomic (.init _ _) _ (Config.run_schedule (by decide +kernel)) (by decide +kernel)

/-- Two adds of one id that both look before either inserts: the id ends up twice
in the vector. -/
theorem interleaved_not_atomic :
    ¬ ∀ (P : Platform) (t₀ : RoutingTable), Reachable P t₀ →
      ∀ (us : List Update) (c : Updates), (∀ node, Update.canAddNode node ∉ us) →
      Config.Run (UpdateCall.block P) Config.free ⟨t₀, us.map Update.start⟩ c → Finished c →
      Atomic P t₀ us c.shared := by
  intro h
  have hallowed : Config.Allowed (UpdateCall.block .simple) Config.free
      [0, 1, 0, 1, 0, 1, 0, 1, 0, 1, 0, 1, 0, 1] ⟨init (localEndingIn 0) 9,
        [Update.addNode (nodeEndingIn 1), Update.addNode (nodeEndingIn 1)].map Update.start⟩ :=
    Config.allowed_free _ _
  have hrun := Config.run_schedule hallowed
  have hdup := (h _ _ (.init _ _) _ _ (by simp) hrun (by decide +kernel)).noDuplicate
  revert hdup
  decide +kernel

end RoutingTable
end XKad
