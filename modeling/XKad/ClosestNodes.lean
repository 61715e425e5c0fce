import XKad.TableInvariants

/-!
# The node closest to a target

On a reachable table the sorted queries find the node of least XOR distance.
From this follows who considers itself the destination of a message, and that
nodes which know each other agree on it.
-/
namespace XKad
open Std

namespace RoutingTable

/-- The first element of a sorted list that passes a test comes before all others that pass. -/
theorem find?_first {α : Type} {R : α → α → Prop} {p : α → Bool} {l : List α} (hl : l.Pairwise R) {a : α}
    (ha : l.find? p = some a) {b : α} (hb : b ∈ l) (hp : p b = true) : b = a ∨ R a b := by
  induction l with
  | nil => cases hb
  | cons x l ih =>
    obtain ⟨hx, hl⟩ := List.pairwise_cons.mp hl
    cases hpx : p x with
    | true =>
      rw [List.find?_cons_of_pos hpx] at ha
      cases ha
      rcases List.mem_cons.mp hb with rfl | hb
      · exact Or.inl rfl
      · exact Or.inr (hx b hb)
    | false =>
      rw [List.find?_cons_of_neg (by simp [hpx])] at ha
      rcases List.mem_cons.mp hb with rfl | hb
      · rw [hpx] at hp
        cases hp
      · exact ih hl ha hb

theorem distance_ne {nodes : List NodeInfo} (hids : nodes.Pairwise (fun a b => a.nodeId ≠ b.nodeId))
    (hlen : ∀ n ∈ nodes, n.nodeId.length = kNodeIdSize) (target : Bytes) :
    nodes.Pairwise (fun a b => xorDistance a.nodeId target ≠ xorDistance b.nodeId target) := by
  refine hids.imp_of_mem ?_
  intro a b ha hb hab heq
  exact hab (xorDistance_inj target (hlen a ha) (hlen b hb) heq)

theorem Consistent.distance_ne {t : RoutingTable} (h : t.Consistent) (target : Bytes) :
    t.nodes.Pairwise (fun a b => xorDistance a.nodeId target ≠ xorDistance b.nodeId target) :=
  RoutingTable.distance_ne h.nodup h.length target

/-- `GetClosestNodes` by id: the nearest nodes in order of distance, as many as
asked for, whatever the order of the vector before. The sort only permutes it. -/
theorem getClosestNodes_nearest (P : Platform) {t : RoutingTable}
    (hids : t.nodes.Pairwise (fun a b => a.nodeId ≠ b.nodeId))
    (hlen : ∀ n ∈ t.nodes, n.nodeId.length = kNodeIdSize) (target : Bytes) {number : UInt32}
    (hnumber : number.toNat < 2 ^ 31) :
    (t.getClosestNodes P target number false).1.length = min number.toNat t.nodes.length ∧
      (t.getClosestNodes P target number false).1.Subperm t.nodes ∧
      (t.getClosestNodes P target number false).1.Pairwise
        (fun a b => xorDistance a.nodeId target < xorDistance b.nodeId target) ∧
      (∀ n ∈ t.nodes, n ∉ (t.getClosestNodes P target number false).1 →
        ∀ m ∈ (t.getClosestNodes P target number false).1,
          xorDistance m.nodeId target < xorDistance n.nodeId target) ∧
      (t.getClosestNodes P target number false).2.nodes.Perm t.nodes ∧
      ∀ l, l.Perm t.nodes → ((t.withNodes l).getClosestNodes P target number false).1 =
        (t.getClosestNodes P target number false).1 := by
  by_cases hzero : number.toNat = 0
  · have hnumber : number = 0 := UInt32.toNat_inj.mp hzero
    subst hnumber
    simp [getClosestNodes]
  have hpos : 0 < number.toNat := Nat.pos_of_ne_zero hzero
  have hk : min number.toNat t.nodes.length ≤ t.nodes.length := min_le_right _ _
  have hne := distance_ne hids hlen target
  have hperm := partialSortNodes_perm P NodeInfo.nodeId target (min number.toNat t.nodes.length) t.nodes
  have hword : queryWord false = NodeInfo.nodeId := rfl
  rw [getClosestNodes_eq P target false t hpos hnumber, hword]
  dsimp only [withNodes_nodes]
  refine ⟨?_, (List.take_sublist _ _).subperm.trans hperm.subperm, ?_, ?_, hperm, ?_⟩
  · rw [partialSortNodes_eq]
    exact P.partialSort.sortBy_take_length hk
  · rw [partialSortNodes_eq]
    exact P.partialSort.sortBy_take_lt hne hk
  · intro n hn hout m hm
    rw [partialSortNodes_eq] at hout hm
    exact P.partialSort.sortBy_lt_of_notMem hne hk hm hn hout
  · intro l hl
    rw [getClosestNodes_eq P target false _ hpos hnumber, hword]
    dsimp only [withNodes_nodes]
    rw [hl.length_eq, partialSortNodes_eq, partialSortNodes_eq]
    exact P.partialSort.sortBy_take_eq_of_perm hne hl hk

def unsortedPair : RoutingTable := (init (localEndingIn 0) 9).withNodes [nodeEndingIn 2, nodeEndingIn 1]

theorem getClosestNodes_nearest_pair :
    (unsortedPair.getClosestNodes .simple (List.replicate 36 0) 1 false).1 = [nodeEndingIn 1] ∧
      ∀ l, l.Perm unsortedPair.nodes →
        ((unsortedPair.withNodes l).getClosestNodes .simple (List.replicate 36 0) 1 false).1 =
          (unsortedPair.getClosestNodes .simple (List.replicate 36 0) 1 false).1 :=
  ⟨by decide +kernel, (getClosestNodes_nearest .simple (t := unsortedPair) (by decide +kernel)
    (by decide +kernel) (List.replicate 36 0) (show (1 : UInt32).toNat < 2 ^ 31 by decide)).2.2.2.2.2⟩

theorem Consistent.sorted_all {t : RoutingTable} (h : t.Consistent) (P : Platform) (target : Bytes) :
    (partialSortNodes P NodeInfo.nodeId target t.nodes.length t.nodes).Pairwise
      (fun a b => xorDistance a.nodeId target < xorDistance b.nodeId target) := by
  rw [partialSortNodes_eq]
  have hs := P.partialSort.sortBy_take_lt (h.distance_ne target) (Nat.le_refl t.nodes.length)
  rwa [P.partialSort.sortBy_take_all rfl] at hs

theorem Reachable.length_le {P : Platform} {t : RoutingTable} (h : Reachable P t) :
    t.nodes.length ≤ kRoutingMaxNodesSize :=
  h.bucketed.length_le t.localNode.id_size

theorem Reachable.getClosestNode_eq {P : Platform} {t : RoutingTable} (h : Reachable P t)
    (target : Bytes) (exclude : Finset Bytes) :
    (t.getClosestNode P target true exclude false).1 =
      (partialSortNodes P NodeInfo.nodeId target t.nodes.length t.nodes).find?
        (fun n => decide (n.nodeId ∉ exclude)) := by
  rw [getClosestNode, getClosestNodes_all P target false h.length_le]
  dsimp only [Bool.false_eq_true, if_false]
  refine List.find?_congr (fun n hn => ?_)
  have hne := h.consistent.notLocal n ((partialSortNodes_perm P _ target _ t.nodes).mem_iff.mp hn)
  simp [hne]

theorem Reachable.getClosestNode_some {P : Platform} {t : RoutingTable} (h : Reachable P t)
    {target : Bytes} {exclude : Finset Bytes} {n : NodeInfo}
    (hn : (t.getClosestNode P target true exclude false).1 = some n) :
    n ∈ t.nodes ∧ n.nodeId ∉ exclude ∧ ∀ m ∈ t.nodes, m.nodeId ∉ exclude →
      xorDistance n.nodeId target ≤ xorDistance m.nodeId target := by
  have hperm := partialSortNodes_perm P NodeInfo.nodeId target t.nodes.length t.nodes
  rw [h.getClosestNode_eq] at hn
  refine ⟨hperm.mem_iff.mp (List.mem_of_find?_eq_some hn), ?_, ?_⟩
  · simpa using List.find?_some hn
  · intro m hm hex
    rcases find?_first (h.consistent.sorted_all P target) hn (hperm.mem_iff.mpr hm) (by simpa using hex)
      with rfl | hlt
    · exact Nat.le_refl _
    · exact hlt.le

theorem Reachable.getClosestNode_none {P : Platform} {t : RoutingTable} (h : Reachable P t)
    {target : Bytes} {exclude : Finset Bytes}
    (hn : (t.getClosestNode P target true exclude false).1 = none) :
    ∀ m ∈ t.nodes, m.nodeId ∈ exclude := by
  intro m hm
  rw [h.getClosestNode_eq, List.find?_eq_none] at hn
  have hperm := partialSortNodes_perm P NodeInfo.nodeId target t.nodes.length t.nodes
  simpa using hn m (hperm.mem_iff.mpr hm)

theorem getClosestNode_reorders (P : Platform) (target : Bytes) (notSelf : Bool)
    (exclude : Finset Bytes) (baseXip : Bool) (t : RoutingTable) :
    ∃ l, l.Perm t.nodes ∧ (t.getClosestNode P target notSelf exclude baseXip).2 = t.withNodes l :=
  getClosestNodes_reorders P target routingMaxNodesSize baseXip t

/-- The last part of both overloads of `ClosestToTarget`: the answer is yes exactly
when no node that is not excluded is as close to the target as the local node. -/
theorem Reachable.closestAnswer_iff {P : Platform} {t : RoutingTable} (h : Reachable P t)
    (target : Bytes) (exclude : Finset Bytes) :
    (match t.getClosestNode P target true exclude false with
      | (none, _) => true
      | (some node, t) =>
        decide (node.bucketIndex = kSelfBucketIndex) || closerToTarget t.localId node.nodeId target) = true ↔
      ∀ n ∈ t.nodes, n.nodeId ∉ exclude → xorDistance t.localId target < xorDistance n.nodeId target := by
  cases hc : t.getClosestNode P target true exclude false with
  | mk found t' =>
    cases found with
    | none =>
      refine iff_of_true rfl (fun n hn hex => ?_)
      exact absurd (h.getClosestNode_none (congrArg Prod.fst hc) n hn) hex
    | some node =>
      obtain ⟨hmem, hnex, hmin⟩ := h.getClosestNode_some (congrArg Prod.fst hc)
      have hbucket : node.bucketIndex ≠ kSelfBucketIndex := by
        have hb := (h.bucketed.bounds t.localNode.id_size hmem).1
        rw [kSelfBucketIndex]
        omega
      have hid : t'.localId = t.localId := by
        obtain ⟨l, _, hl'⟩ := getClosestNode_reorders P target true exclude false t
        rw [hc] at hl'
        rw [show t' = t.withNodes l from hl', withNodes_localId]
      dsimp only
      rw [decide_eq_false hbucket, Bool.false_or, closerToTarget_iff, hid]
      exact ⟨fun hlt n hn hex => hlt.trans_le (hmin n hn hex), fun hall => hall node hmem hnex⟩

theorem closestToTargetExclude_eq (P : Platform) {t : RoutingTable} (hne : t.nodes ≠ []) {target : Bytes}
    (ht : target.length = kNodeIdSize) (hself : target ≠ t.localId) (exclude : Finset Bytes)
    (closest : Bool) : (t.closestToTargetExclude P target exclude closest).1 = .kadSuccess ∧
      (t.closestToTargetExclude P target exclude closest).2.1 =
        match t.getClosestNode P target true exclude false with
        | (none, _) => true
        | (some node, t) =>
          decide (node.bucketIndex = kSelfBucketIndex) || closerToTarget t.localId node.nodeId target := by
  have hlen : t.nodes.length ≠ 0 := fun h0 => hne (List.length_eq_zero_iff.mp h0)
  rw [closestToTargetExclude, if_neg hself, if_neg hlen, if_neg (not_not.mpr ht)]
  cases t.getClosestNode P target true exclude false with
  | mk found t' => cases found <;> exact ⟨rfl, rfl⟩

/-- `ClosestToTarget` with an exclude set succeeds on a non-empty table and answers
whether every node not excluded is farther from the target than the local node. -/
theorem closestToTargetExclude_iff {P : Platform} {t : RoutingTable} (h : Reachable P t) (hne : t.nodes ≠ [])
    {target : Bytes} (ht : target.length = kNodeIdSize) (hself : target ≠ t.localId)
    (exclude : Finset Bytes) (closest : Bool) :
    (t.closestToTargetExclude P target exclude closest).1 = .kadSuccess ∧
      ((t.closestToTargetExclude P target exclude closest).2.1 = true ↔ ∀ n ∈ t.nodes,
        n.nodeId ∉ exclude → xorDistance t.localId target < xorDistance n.nodeId target) ∧
      ((∃ n ∈ t.nodes, n.nodeId = target) → target ∉ exclude →
        (t.closestToTargetExclude P target exclude closest).2.1 = false) ∧
      ((∀ n ∈ t.nodes, n.nodeId ∈ exclude) →
        (t.closestToTargetExclude P target exclude closest).2.1 = true) := by
  obtain ⟨hcode, hanswer⟩ := closestToTargetExclude_eq P hne ht hself exclude closest
  have hiff := h.closestAnswer_iff target exclude
  rw [← hanswer] at hiff
  refine ⟨hcode, hiff, ?_, ?_⟩
  · rintro ⟨n, hn, rfl⟩ hex
    rw [Bool.eq_false_iff]
    intro htrue
    have hlt := hiff.mp htrue n hn hex
    rw [xorDistance_self] at hlt
    exact absurd hlt (Nat.not_lt_zero _)
  · intro hall
    exact hiff.mpr (fun n hn hex => absurd (hall n hn) hex)

def knowing (self other : UInt8) : RoutingTable :=
  ((init (localEndingIn self) 9).addNode .simple (nodeEndingIn other)).2

theorem reachable_knowing (self other : UInt8) : Reachable .simple (knowing self other) :=
  (Reachable.init (localEndingIn self) 9).call (.addNode (nodeEndingIn other))

theorem closestToTargetExclude_iff_knowing :
    ((knowing 1 2).closestToTargetExclude .simple (List.replicate 36 0) ∅ false).1 = .kadSuccess ∧
      (((knowing 1 2).closestToTargetExclude .simple (List.replicate 36 0) ∅ false).2.1 = true ↔
        ∀ n ∈ (knowing 1 2).nodes, n.nodeId ∉ (∅ : Finset Bytes) →
          xorDistance (knowing 1 2).localId (List.replicate 36 0) <
            xorDistance n.nodeId (List.replicate 36 0)) := by
  have hzeros : (List.replicate 36 0 : Bytes).length = kNodeIdSize := rfl
  have h := closestToTargetExclude_iff (reachable_knowing 1 2) (by decide +kernel) hzeros
    (by decide +kernel) ∅ false
  exact ⟨h.1, h.2.1⟩

/-- The two overloads of `ClosestToTarget` agree, for an empty exclude set, exactly
on the tables that are not empty and on the local id. -/
theorem closestToTarget_overloads (P : Platform) (t : RoutingTable) (target : Bytes) (closest : Bool) :
    ((t.closestToTargetExclude P target ∅ closest).1 = (t.closestToTarget P target closest).1 ∧
        (t.closestToTargetExclude P target ∅ closest).2.1 = (t.closestToTarget P target closest).2.1) ↔
      t.nodes ≠ [] ∨ target = t.localId := by
  rw [closestToTargetExclude, closestToTarget]
  by_cases hself : target = t.localId
  · simp [hself]
  · by_cases hnil : t.nodes = []
    · simp [hself, hnil]
    · have hlen : t.nodes.length ≠ 0 := fun h0 => hnil (List.length_eq_zero_iff.mp h0)
      rw [if_neg hself, if_neg hself, if_neg hlen, if_neg hlen]
      exact iff_of_true ⟨rfl, rfl⟩ (Or.inl hnil)

/-- On the table `Init` leaves, the overloads disagree about every foreign id. -/
theorem not_closestToTarget_overloads : ∃ t, Reachable .simple t ∧ ∃ target : Bytes,
    target.length = kNodeIdSize ∧ (t.closestToTargetExclude .simple target ∅ false).1 = .kadFailed ∧
      (t.closestToTargetExclude .simple target ∅ false).2.1 = false ∧
      (t.closestToTarget .simple target false).1 = .kadSuccess ∧
      (t.closestToTarget .simple target false).2.1 = true :=
  ⟨init (localEndingIn 0) 9, .init _ _, (localEndingIn 1).id, by decide +kernel⟩

/-- A node answers that it is the destination exactly when no node of its table
is as close to the target as itself. -/
theorem Reachable.isDestination_iff {P : Platform} {t : RoutingTable} (h : Reachable P t)
    {target : Bytes} (ht : target.length = kNodeIdSize) :
    (t.isDestination P target true).1 = true ↔
      ∀ n ∈ t.nodes, xorDistance t.localId target < xorDistance n.nodeId target := by
  rw [isDestination]
  by_cases hself : target = t.localId
  · rw [if_pos hself]
    refine iff_of_true rfl (fun n hn => ?_)
    rw [hself, xorDistance_self]
    exact xorDistance_pos (h.consistent.length n hn) t.localNode.id_size (h.consistent.notLocal n hn)
  · rw [if_neg hself]
    rw [closestToTarget, if_neg hself]
    by_cases hnil : t.nodes.length = 0
    · rw [if_pos hnil]
      refine iff_of_true rfl (fun n hn => ?_)
      rw [List.length_eq_zero_iff.mp hnil] at hn
      cases hn
    · have hiff := h.closestAnswer_iff target ∅
      rw [if_neg hnil, if_neg (not_not.mpr ht)]
      simp only [Finset.notMem_empty, not_false_eq_true, forall_true_left] at hiff
      rw [← hiff]
      cases t.getClosestNode P target true ∅ false with
      | mk found t' => cases found <;> rfl

/-- A network of nodes with different ids whose tables hold all the other nodes. -/
structure CompleteNetwork (P : Platform) (net : List RoutingTable) : Prop where
  reachable : ∀ t ∈ net, Reachable P t
  distinct : (net.map localId).Nodup
  complete : ∀ t ∈ net, ∀ id, (∃ n ∈ t.nodes, n.nodeId = id) ↔
    ∃ t' ∈ net, t'.localId ≠ t.localId ∧ t'.localId = id

theorem CompleteNetwork.isDestination_iff {P : Platform} {net : List RoutingTable}
    (h : CompleteNetwork P net) {target : Bytes} (ht : target.length = kNodeIdSize) {t : RoutingTable}
    (hm : t ∈ net) : (t.isDestination P target true).1 = true ↔
      ∀ t' ∈ net, t'.localId ≠ t.localId → xorDistance t.localId target < xorDistance t'.localId target := by
  rw [(h.reachable t hm).isDestination_iff ht]
  constructor
  · intro hall t' hm' hne
    obtain ⟨n, hn, hid⟩ := (h.complete t hm t'.localId).mpr ⟨t', hm', hne, rfl⟩
    rw [← hid]
    exact hall n hn
  · intro hall n hn
    obtain ⟨t', hm', hne, hid⟩ := (h.complete t hm n.nodeId).mp ⟨n, hn, rfl⟩
    rw [← hid]
    exact hall t' hm' hne

/-- Two nodes in each other's tables never both take themselves for the
destination, and in a complete network exactly the closest node does. -/
theorem destination_agreement (P : Platform) (target : Bytes) (ht : target.length = kNodeIdSize) :
    (∀ t t', Reachable P t → Reachable P t' → t.localId ≠ t'.localId →
        (∃ n ∈ t.nodes, n.nodeId = t'.localId) → (∃ n ∈ t'.nodes, n.nodeId = t.localId) →
        ¬ ((t.isDestination P target true).1 = true ∧ (t'.isDestination P target true).1 = true)) ∧
      ∀ net, net ≠ [] → CompleteNetwork P net →
        ∃ t ∈ net, (∀ t' ∈ net, t' ≠ t → xorDistance t.localId target < xorDistance t'.localId target) ∧
          ∀ t' ∈ net, ((t'.isDestination P target true).1 = true ↔ t' = t) := by
  constructor
  · rintro t t' h h' _ ⟨n, hn, hid⟩ ⟨n', hn', hid'⟩ ⟨hyes, hyes'⟩
    have hlt := (h.isDestination_iff ht).mp hyes n hn
    have hgt := (h'.isDestination_iff ht).mp hyes' n' hn'
    rw [hid] at hlt
    rw [hid'] at hgt
    exact absurd hlt hgt.asymm
  · intro net hnil h
    have hinj {t t' : RoutingTable} (hm : t ∈ net) (hm' : t' ∈ net) (hid : t'.localId = t.localId) :
        t' = t := List.inj_on_of_nodup_map h.distinct hm' hm hid
    obtain ⟨t, hm, hmin⟩ : ∃ t ∈ net, ∀ t' ∈ net, xorDistance t.localId target ≤
        xorDistance t'.localId target :=
      Set.exists_min_image {t | t ∈ net} (fun t => xorDistance t.localId target)
        (List.finite_toSet net) (List.exists_mem_of_ne_nil net hnil)
    have hlt : ∀ t' ∈ net, t' ≠ t → xorDistance t.localId target < xorDistance t'.localId target := by
      intro t' hm' hne
      refine (hmin t' hm').lt_of_ne (fun heq => hne ?_)
      exact hinj hm hm' (xorDistance_inj target t.localNode.id_size t'.localNode.id_size heq).symm
    refine ⟨t, hm, hlt, fun t' hm' => ?_⟩
    rw [h.isDestination_iff ht hm']
    constructor
    · intro hall
      by_contra hne
      have hid : t.localId ≠ t'.localId := fun hid => hne (hinj hm hm' hid.symm)
      exact absurd (hall t hm hid) (hlt t' hm' hne).asymm
    · rintro rfl t'' hm'' hne
      exact hlt t'' hm'' (fun heq => hne (congrArg localId heq))

theorem destination_agreement_pair :
    CompleteNetwork .simple [knowing 1 2, knowing 2 1] ∧
      ∃ t ∈ [knowing 1 2, knowing 2 1],
        (∀ t' ∈ [knowing 1 2, knowing 2 1], t' ≠ t → xorDistance t.localId (List.replicate 36 0) <
          xorDistance t'.localId (List.replicate 36 0)) ∧
        ∀ t' ∈ [knowing 1 2, knowing 2 1],
          ((t'.isDestination .simple (List.replicate 36 0) true).1 = true ↔ t' = t) := by
  have hnet : CompleteNetwork .simple [knowing 1 2, knowing 2 1] := by
    refine ⟨?_, by decide +kernel, ?_⟩
    · intro t ht
      rcases List.mem_pair.mp ht with rfl | rfl
      · exact reachable_knowing 1 2
      · exact reachable_knowing 2 1
    · have hids : ∀ t ∈ [knowing 1 2, knowing 2 1], t.nodes.map NodeInfo.nodeId =
          ([knowing 1 2, knowing 2 1].filter (fun t' => t'.localId ≠ t.localId)).map localId := by
        decide +kernel
      intro t ht id
      rw [← List.mem_map, hids t ht, List.mem_map]
      simp only [List.mem_filter, decide_eq_true_eq, and_assoc]
  exact ⟨hnet, (destination_agreement .simple (List.replicate 36 0) (by decide)).2 _ (by simp) hnet⟩

end RoutingTable
end XKad
