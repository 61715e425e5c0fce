import XKad.Interleavings
import XKad.TableInvariants
import XKad.TreeMaps

/-!
# Granted dynamic xips

`AddDxip` and `DropDxip` write the map from nodes to dynamic xips and the map back.
An `AddDxip` for a node that had another dynamic xip leaves that one reported, and a
`DropDxip` of one of two nodes with the same dynamic xip ends its report.
-/
namespace XKad
open Std

inductive DxipOp where
  | addDxip (nodeId dxip : Bytes)
  | dropDxip (nodeId : Bytes)

namespace LocalNodeInfo

/-- A dynamic xip is reported exactly if some node maps to it. -/
def ReportsMapped (l : LocalNodeInfo) : Prop :=
  ∀ dxip, l.hasDynamicXip dxip = true ↔ ∃ nodeId : Bytes, l.nodeDxipMap[nodeId]? = some dxip

variable {l : LocalNodeInfo}

theorem reportsMapped_iff : l.ReportsMapped ↔ Mirrors l.nodeDxipMap l.dxipNodeMap := by
  simp only [ReportsMapped, Mirrors, hasDynamicXip, ExtTreeMap.contains_iff_mem]

theorem reportsMapped_empty (hnode : l.nodeDxipMap = ∅) (hdxip : l.dxipNodeMap = ∅) : l.ReportsMapped := by
  rw [reportsMapped_iff, hnode, hdxip]
  exact Mirrors.empty

theorem dropDxip_none {nodeId : Bytes} (h : l.nodeDxipMap[nodeId]? = none) : l.dropDxip nodeId = l := by
  simp only [dropDxip, h]

theorem dropDxip_some {nodeId dxip : Bytes} (h : l.nodeDxipMap[nodeId]? = some dxip) :
    l.dropDxip nodeId =
      { l with nodeDxipMap := l.nodeDxipMap.erase nodeId, dxipNodeMap := l.dxipNodeMap.erase dxip } := by
  simp only [dropDxip, h]

theorem dropDxip_unmapped (l : LocalNodeInfo) (nodeId : Bytes) :
    (l.dropDxip nodeId).nodeDxipMap[nodeId]? = none := by
  cases h : l.nodeDxipMap[nodeId]? with
  | none => rw [dropDxip_none h, h]
  | some dxip =>
    rw [dropDxip_some h]
    exact ExtTreeMap.getElem?_erase_self

end LocalNodeInfo

namespace DxipOp
open LocalNodeInfo

def run : DxipOp → LocalNodeInfo → LocalNodeInfo
  | addDxip nodeId dxip, l => l.addDxip nodeId dxip
  | dropDxip nodeId, l => l.dropDxip nodeId

/-- A node that is added has no dynamic xip yet, has this one, or shares the one it
has; a node that is dropped shares the one it has with no other node. -/
def Separate : DxipOp → LocalNodeInfo → Prop
  | addDxip nodeId dxip, l => ∀ old, l.nodeDxipMap[nodeId]? = some old →
      old = dxip ∨ ∃ other, other ≠ nodeId ∧ l.nodeDxipMap[other]? = some old
  | dropDxip nodeId, l => ∀ dxip, l.nodeDxipMap[nodeId]? = some dxip →
      ∀ other, l.nodeDxipMap[other]? = some dxip → other = nodeId

variable {l : LocalNodeInfo}

/-- One call keeps the reports right exactly if it is separate. -/
theorem reportsMapped_run_iff (op : DxipOp) (l : LocalNodeInfo) (h : l.ReportsMapped) :
    (op.run l).ReportsMapped ↔ op.Separate l := by
  rw [reportsMapped_iff] at h ⊢
  cases op with
  | addDxip nodeId dxip => exact h.insert_iff nodeId dxip
  | dropDxip nodeId =>
    cases hn : l.nodeDxipMap[nodeId]? with
    | none =>
      rw [run, dropDxip_none hn]
      refine iff_of_true h (fun dxip hd => ?_)
      rw [hn] at hd
      cases hd
    | some dxip =>
      rw [run, dropDxip_some hn, Separate, h.erase_iff hn]
      constructor
      · intro honly d hd
        obtain rfl := Option.some.inj (hn.symm.trans hd)
        exact honly
      · intro honly
        exact honly dxip hn

theorem added_of_mapped (hnode : l.nodeDxipMap = ∅) {nodeId dxip : Bytes} (ops : List DxipOp)
    (hmap : (follow run ops l).nodeDxipMap[nodeId]? = some dxip) : addDxip nodeId dxip ∈ ops := by
  induction ops using List.reverseRecOn with
  | nil =>
    rw [follow_nil, hnode] at hmap
    cases hmap
  | append_singleton ops op ih =>
    rw [follow_append, follow_cons, follow_nil] at hmap
    cases op with
    | addDxip n d =>
      rcases getElem?_insert_iff.mp hmap with ⟨rfl, rfl⟩ | ⟨_, hold⟩
      · exact List.mem_append_right _ List.mem_cons_self
      · exact List.mem_append_left _ (ih hold)
    | dropDxip n =>
      refine List.mem_append_left _ (ih ?_)
      rw [run] at hmap
      cases hn : (follow run ops l).nodeDxipMap[n]? with
      | none => rwa [dropDxip_none hn] at hmap
      | some d =>
        rw [dropDxip_some hn] at hmap
        exact (getElem?_erase_iff.mp hmap).2

/-- After the call `op`, which follows `done`: the reports are right, and a drop has
ended the report of every dynamic xip that no other node was given. -/
structure Faithful (done : List DxipOp) (op : DxipOp) (l : LocalNodeInfo) : Prop where
  reports : l.ReportsMapped
  dropped : ∀ nodeId, op = dropDxip nodeId → ∀ dxip,
    (∀ other, addDxip other dxip ∈ done → other = nodeId) → l.hasDynamicXip dxip = false

theorem faithful_of_reportsMapped (hnode : l.nodeDxipMap = ∅) {done : List DxipOp} {op : DxipOp}
    (h : (op.run (follow run done l)).ReportsMapped) : Faithful done op (op.run (follow run done l)) := by
  refine ⟨h, ?_⟩
  rintro nodeId rfl dxip honly
  rw [Bool.eq_false_iff]
  intro hreported
  obtain ⟨other, hother⟩ := (h dxip).mp hreported
  have hadded : addDxip other dxip ∈ done ++ [dropDxip nodeId] := by
    apply added_of_mapped hnode
    rw [follow_append]
    exact hother
  rcases List.mem_append.mp hadded with hdone | hlast
  · obtain rfl := honly other hdone
    rw [run, dropDxip_unmapped] at hother
    cases hother
  · cases List.mem_singleton.mp hlast

/-- The reports are right after every call of a sequence exactly if every call is
separate in the state it meets. -/
theorem faithful_iff_separate (hnode : l.nodeDxipMap = ∅) (hdxip : l.dxipNodeMap = ∅) (ops : List DxipOp) :
    (∀ done op todo, ops = done ++ op :: todo → Faithful done op (op.run (follow run done l))) ↔
      Along run Separate ops l := by
  rw [← along_invariant_iff reportsMapped_run_iff (reportsMapped_empty hnode hdxip), along_iff_forall]
  constructor
  · exact fun h done op todo heq => (h done op todo heq).reports
  · exact fun h done op todo heq => faithful_of_reportsMapped hnode (h done op todo heq)

theorem faithful_iff_separate_granted :
    (∀ done op todo, [addDxip [1] [7], addDxip [2] [8], dropDxip [1]] = done ++ op :: todo →
        Faithful done op (op.run (follow run done (RoutingTable.localEndingIn 0)))) ↔
      Along run Separate [addDxip [1] [7], addDxip [2] [8], dropDxip [1]] (RoutingTable.localEndingIn 0) :=
  faithful_iff_separate rfl rfl _

/-- A node that joins again is given a new dynamic xip; the first one stays reported, also when the node
is dropped. -/
theorem not_faithful_rejoined : ¬ ∀ l : LocalNodeInfo, l.nodeDxipMap = ∅ → l.dxipNodeMap = ∅ →
    ∀ (ops done : List DxipOp) (op : DxipOp) (todo : List DxipOp), ops = done ++ op :: todo →
      Faithful done op (op.run (follow run done l)) := by
  intro hall
  have hfaithful := hall (RoutingTable.localEndingIn 0) rfl rfl _ [addDxip [1] [7], addDxip [1] [8]]
    (dropDxip [1]) [] rfl
  have hreported : ((dropDxip [1]).run (follow run [addDxip [1] [7], addDxip [1] [8]]
      (RoutingTable.localEndingIn 0))).hasDynamicXip [7] = true := by
    decide +kernel
  rw [hfaithful.dropped [1] rfl [7] (by simp)] at hreported
  cases hreported

end DxipOp
end XKad
