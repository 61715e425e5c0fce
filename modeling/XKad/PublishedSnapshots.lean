import XKad.LinearizedUpdates

/-!
# The snapshot for lock-free readers

`AddNode` and `DropNode` end by copying `nodes_` under its lock and assigning the
copy to `no_lock_for_use_nodes_` without one. Between the two another call may change
the nodes and publish first, and the older copy overwrites the newer one.
-/
namespace XKad
open Std

namespace RoutingTable

/-- The call has changed the vector, or is a drop past its first block, and its copy
is still to be published. -/
def Point.publishing : Point → Bool
  | .idMapInsert _ | .hashMapInsert _ | .idMapErase _ | .hashMapErase _ | .dxipErase _
  | .resetSnapshot | .copyNodes | .storeSnapshot _ => true
  | _ => false

def Update.record : Update → NodeInfo
  | .addNode node | .canAddNode node | .dropNode node => node

def publishers (calls : List UpdateCall) : ℕ := calls.countP (fun c => c.point.publishing)

/-- The vector handed to lock-free readers has exactly the nodes of the table. -/
def SnapshotCurrent (t : RoutingTable) : Prop :=
  ∃ copy, t.getUnLockNodes = some copy ∧ ∀ n, n ∈ copy ↔ n ∈ t.nodes

/-- A copy is published only while another call has still to publish one, or if it
has exactly the nodes of the table. -/
def PublishesCurrent (c : Updates) (call : UpdateCall) : Prop :=
  match call.point with
  | .storeSnapshot copy => 1 < publishers c.threads ∨ ∀ n, n ∈ copy ↔ n ∈ c.shared.nodes
  | _ => True

def Idle (c : Updates) : Prop :=
  ∀ call ∈ c.threads, call = call.update.start ∨ (∃ code, call.point = .returned code) ∨
    ∃ b, call.point = .answered b

theorem block_publishing (P : Platform) (p : Point) (t : RoutingTable) :
    (p.block P t).1.publishing = true ∨ (∃ copy, p = .storeSnapshot copy) ∨
      (p.publishing = false ∧ ((p.block P t).1 = .returned .kadSuccess → p = .returned .kadSuccess) ∧
        (p.block P t).1.publishing = false ∧ (p.block P t).2.nodes.Perm t.nodes ∧
        (p.block P t).2.getUnLockNodes = t.getUnLockNodes) := by
  cases p with
  | hasNodeCheck node =>
    refine Or.inr (Or.inr ?_)
    dsimp only [Point.block]
    split_ifs <;> simp [Point.publishing]
  | nodesBlock node =>
    obtain ⟨l, hl, ⟨_, he⟩ | ⟨_, _, he⟩ | ⟨_, _, he⟩⟩ := addNodesBlock_cases P node t
    · refine Or.inr (Or.inr ⟨rfl, ?_⟩)
      rw [Point.block, he]
      exact ⟨by simp, rfl, hl, rfl⟩
    · refine Or.inr (Or.inr ⟨rfl, ?_⟩)
      rw [Point.block, he]
      exact ⟨by simp, rfl, hl, rfl⟩
    · rw [Point.block, he]
      exact Or.inl rfl
  | canAddCheck node =>
    refine Or.inr (Or.inr ?_)
    obtain ⟨hb, _⟩ | ⟨node', hb, _⟩ := canAddCheck_cases P node t
    · rw [hb]
      exact ⟨rfl, by simp, rfl, List.Perm.refl _, rfl⟩
    · rw [hb]
      exact ⟨rfl, by simp, rfl, List.Perm.refl _, rfl⟩
  | canAddSort node =>
    obtain ⟨l, hl, hs⟩ := sortNodesBy_reorders P NodeInfo.nodeId t.localId t.nodes.length t
    refine Or.inr (Or.inr ⟨rfl, by simp [Point.block], rfl, ?_⟩)
    dsimp only [Point.block, sortNodesByTargetXid]
    rw [hs]
    exact ⟨hl, rfl⟩
  | nodesErase node => exact Or.inl rfl
  | idMapInsert node => exact Or.inl rfl
  | hashMapInsert node => exact Or.inl rfl
  | idMapErase node => exact Or.inl rfl
  | hashMapErase node => exact Or.inl rfl
  | dxipErase node => exact Or.inl rfl
  | resetSnapshot => exact Or.inl rfl
  | copyNodes => exact Or.inl rfl
  | storeSnapshot copy => exact Or.inr (Or.inl ⟨copy, rfl⟩)
  | returned code => exact Or.inr (Or.inr ⟨rfl, id, rfl, List.Perm.refl _, rfl⟩)
  | answered b => exact Or.inr (Or.inr ⟨rfl, by simp [Point.block], rfl, List.Perm.refl _, rfl⟩)

theorem publishers_middle (before : List UpdateCall) (call : UpdateCall) (after : List UpdateCall) :
    publishers (before ++ call :: after) =
      publishers before + publishers after + if call.point.publishing then 1 else 0 := by
  rw [publishers, List.countP_append, List.countP_cons]
  simp only [publishers]
  omega

/-- What holds between the blocks: a call has still to publish, no call has succeeded
yet, or the snapshot is current. -/
def SnapshotKept (c : Updates) : Prop :=
  0 < publishers c.threads ∨ (∀ call ∈ c.threads, call.point ≠ .returned .kadSuccess) ∨
    SnapshotCurrent c.shared

theorem SnapshotCurrent.of_perm {t t' : RoutingTable} (h : SnapshotCurrent t) (hn : t'.nodes.Perm t.nodes)
    (hs : t'.getUnLockNodes = t.getUnLockNodes) : SnapshotCurrent t' := by
  obtain ⟨copy, hcopy, hmem⟩ := h
  exact ⟨copy, hs.trans hcopy, fun n => (hmem n).trans hn.mem_iff.symm⟩

theorem snapshotKept_block (P : Platform) (before : List UpdateCall) (call : UpdateCall)
    (after : List UpdateCall) (t : RoutingTable)
    (hg : PublishesCurrent ⟨t, before ++ call :: after⟩ call)
    (h : SnapshotKept ⟨t, before ++ call :: after⟩) :
    SnapshotKept ⟨(call.block P t).2, before ++ (call.block P t).1 :: after⟩ := by
  obtain ⟨u, p⟩ := call
  rcases block_publishing P p t with hp | ⟨copy, rfl⟩ | ⟨hwas, hsucc, hnot, hn, hs⟩
  · refine Or.inl ?_
    dsimp only
    rw [publishers_middle, UpdateCall.block, if_pos hp]
    omega
  · rcases hg with hmore | hcurrent
    · -- another call has still to publish
      refine Or.inl ?_
      dsimp only at hmore ⊢
      rw [publishers_middle] at hmore ⊢
      simp only [Point.publishing, if_true] at hmore
      omega
    · exact Or.inr (Or.inr ⟨copy, rfl, hcurrent⟩)
  · rcases h with hmore | hnone | hcurrent
    · refine Or.inl ?_
      dsimp only at hmore ⊢
      rw [publishers_middle] at hmore ⊢
      simp only [hwas, Bool.false_eq_true, if_false] at hmore
      omega
    · refine Or.inr (Or.inl ?_)
      intro call hcall
      dsimp only at hcall hnone
      simp only [List.mem_append, List.mem_cons] at hcall
      rcases hcall with hcall | rfl | hcall
      · exact hnone call (by simp [hcall])
      · intro hdone
        exact hnone ⟨u, p⟩ (by simp) (hsucc hdone)
      · exact hnone call (by simp [hcall])
    · exact Or.inr (Or.inr (hcurrent.of_perm hn hs))

/-- When no call is under way and one has succeeded, the snapshot is current, in
every run that publishes no old copy last. -/
theorem snapshot_current {P : Platform} {t₀ : RoutingTable} {us : List Update} {c : Updates}
    (hrun : Config.Run (UpdateCall.block P) PublishesCurrent ⟨t₀, us.map Update.start⟩ c)
    (hidle : Idle c) (hsucc : ∃ call ∈ c.threads, call.point = .returned .kadSuccess) :
    c.shared.SnapshotCurrent := by
  have hstart : SnapshotKept ⟨t₀, us.map Update.start⟩ := by
    refine Or.inr (Or.inl (fun call hcall => ?_))
    obtain ⟨u, _, rfl⟩ := List.mem_map.mp hcall
    cases u <;> simp [Update.start]
  have hkept : SnapshotKept c := hrun.induct
    (fun before call after t hg hi => snapshotKept_block P before call after t hg hi) hstart
  rcases hkept with hmore | hnone | hcurrent
  · obtain ⟨call, hcall, hp⟩ := List.countP_pos_iff.mp hmore
    rcases hidle call hcall with hc | ⟨code, hc⟩ | ⟨b, hc⟩
    · rw [hc] at hp
      cases hu : call.update <;> simp [hu, Update.start, Point.publishing] at hp
    · simp [hc, Point.publishing] at hp
    · simp [hc, Point.publishing] at hp
  · obtain ⟨call, hcall, hdone⟩ := hsucc
    exact absurd hdone (hnone call hcall)
  · exact hcurrent

theorem Finished.idle {c : Updates} (h : Finished c) : Idle c := by
  intro call hcall
  have hfinal := h call hcall
  cases hp : call.point with
  | returned code => exact Or.inr (Or.inl ⟨code, rfl⟩)
  | answered b => exact Or.inr (Or.inr ⟨b, rfl⟩)
  | _ => simp [hp, Point.final] at hfinal

instance (c : Updates) (call : UpdateCall) : Decidable (PublishesCurrent c call) :=
  match call with
  | ⟨_, .storeSnapshot copy⟩ =>
    decidable_of_iff
      (1 < publishers c.threads ∨ (∀ n ∈ copy, n ∈ c.shared.nodes) ∧ ∀ n ∈ c.shared.nodes, n ∈ copy)
      (or_congr_right ⟨fun h n => ⟨h.1 n, h.2 n⟩, fun h => ⟨fun n => (h n).mp, fun n => (h n).mpr⟩⟩)
  | ⟨_, .hasNodeCheck _⟩ | ⟨_, .nodesBlock _⟩ | ⟨_, .idMapInsert _⟩ | ⟨_, .hashMapInsert _⟩
  | ⟨_, .canAddCheck _⟩ | ⟨_, .canAddSort _⟩ | ⟨_, .nodesErase _⟩ | ⟨_, .idMapErase _⟩
  | ⟨_, .hashMapErase _⟩ | ⟨_, .dxipErase _⟩ | ⟨_, .resetSnapshot⟩ | ⟨_, .copyNodes⟩
  | ⟨_, .returned _⟩ | ⟨_, .answered _⟩ => isTrue trivial

deriving instance DecidableEq for Point

/-- Both calls copy, and the call with the newer copy publishes last. -/
theorem snapshot_current_two :
    (scheduled [.addNode (nodeEndingIn 1), .addNode (nodeEndingIn 2)]
      [0, 0, 0, 0, 0, 0, 1, 1, 1, 1, 1, 1, 0, 1]).shared.SnapshotCurrent :=
  snapshot_current (Config.run_schedule (by decide +kernel)) (Finished.idle (by decide +kernel))
    (by decide +kernel)

/-- Adds of two ids: the first call copies, the second adds its node, copies and
publishes, and then the first publishes its older copy. -/
theorem snapshot_not_current :
    ¬ ∀ (P : Platform) (t₀ : RoutingTable), Reachable P t₀ →
      ∀ (us : List Update) (c : Updates), (∀ node, Update.canAddNode node ∉ us) →
      us.Pairwise (fun u v => u.record.nodeId ≠ v.record.nodeId) →
      Config.Run (UpdateCall.block P) Config.free ⟨t₀, us.map Update.start⟩ c → Idle c →
      (∃ call ∈ c.threads, call.point = .returned .kadSuccess) → c.shared.SnapshotCurrent := by
  intro h
  let us := [Update.addNode (nodeEndingIn 1), Update.addNode (nodeEndingIn 2)]
  let c := scheduled us [0, 0, 0, 0, 0, 0, 1, 1, 1, 1, 1, 1, 1, 0]
  have hrun : Config.Run (UpdateCall.block .simple) Config.free ⟨init (localEndingIn 0) 9, us.map Update.start⟩ c :=
    Config.run_schedule (Config.allowed_free _ _)
  have hfinished : Finished c := by decide +kernel
  have hsucc : ∃ call ∈ c.threads, call.point = .returned .kadSuccess := by decide +kernel
  obtain ⟨copy, hcopy, hmem⟩ := h _ _ (.init _ _) us c (by simp [us]) (by decide +kernel) hrun hfinished.idle hsucc
  have hold : c.shared.getUnLockNodes = some [placed (localEndingIn 0).id (nodeEndingIn 1)] := by
    decide +kernel
  rw [hold] at hcopy
  cases hcopy
  have hin := (hmem (placed (localEndingIn 0).id (nodeEndingIn 2))).mpr (by decide +kernel)
  revert hin
  decide +kernel

end RoutingTable
end XKad
