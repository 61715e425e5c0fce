import XKad.DroppedNodes
import XKad.Rejoins

/-!
# Nodes that are cut off

A node that loses all its neighbours is taken out of the joined state by the next call of
`Rejoin`. One answer to one of the requests its threads then send brings it back.
-/
namespace XKad
open Std RoutingTable

section Runs

variable {κ : Type} [DecidableEq κ] {P : Platform}

/-- The transport reports a failed endpoint, or another thread than `k` moves. -/
def JoinEvent.OnlyLoses (k : κ) : JoinEvent κ → Prop
  | .table e => ∃ ip port, e = .op (.onHeartbeatFailed ip port)
  | .multiJoin k' _ => k' ≠ k
  | .rejoin k' => k' ≠ k
  | .advance k' _ => k' ≠ k
  | .collect k' _ => k' ≠ k
  | .expire k' => k' ≠ k
  | .leave k' => k' ≠ k

theorem JoinEvent.OnlyLoses.point {e : JoinEvent κ} {k : κ} (he : e.OnlyLoses k) (h : JoinHost κ) :
    (e.run P h).point k = h.point k := by
  have hmove {k' : κ} (hk : k' ≠ k) (h : JoinHost κ) (p : JoinPoint) : (h.move k' p).point k = h.point k := by
    rw [JoinHost.move_point, if_neg hk.symm]
  cases e with
  | table e => rfl
  | multiJoin k' endpoints =>
    rw [run]
    split
    · exact hmove he h _
    · rfl
  | rejoin k' =>
    rw [run]
    split
    · rw [JoinHost.rejoin]
      split_ifs
      · rfl
      · rfl
      · rfl
      · exact hmove he _ _
    · rfl
  | advance k' mid => exact hmove he h _
  | collect k' cache => exact hmove he h _
  | expire k' => exact hmove he h _
  | leave k' => exact hmove he h _

/-- The nodes of the other table that are still there, with the same local endpoints. -/
structure RoutingTable.Shrinks (t t' : RoutingTable) : Prop where
  nodes : t'.nodes.Sublist t.nodes
  isVirtual : ∀ n, IsVirtual t'.localNode n ↔ IsVirtual t.localNode n

theorem RoutingTable.shrinks_onHeartbeatFailed (ip : Bytes) (port : UInt16) (t : RoutingTable) :
    Shrinks t (t.onHeartbeatFailed ip port) := by
  have hloop (ns : List NodeInfo) (t : RoutingTable) : Shrinks t (ns.foldl (fun t n => t.dropNode n) t) := by
    induction ns generalizing t with
    | nil => exact ⟨List.Sublist.refl _, fun _ => Iff.rfl⟩
    | cons n ns ih =>
      have hvirtual (n' : NodeInfo) : IsVirtual (t.dropNode n).localNode n' ↔ IsVirtual t.localNode n' := by
        change IsVirtual (t.localNode.dropDxip n.nodeId) n' ↔ _
        rw [LocalNodeInfo.dropDxip]
        split <;> exact Iff.rfl
      exact ⟨(ih _).nodes.trans List.eraseP_sublist, fun n' => ((ih _).isVirtual n').trans (hvirtual n')⟩
  exact hloop _ t

theorem JoinEvent.OnlyLoses.shrinks {e : JoinEvent κ} {k : κ} (he : e.OnlyLoses k) (h : JoinHost κ) :
    h.table.Shrinks (e.run P h).table := by
  rcases e.table_run (P := P) h with heq | ⟨e', rfl, _⟩ | ⟨_, heq⟩
  · rw [heq]
    exact ⟨List.Sublist.refl _, fun _ => Iff.rfl⟩
  · obtain ⟨ip, port, rfl⟩ := he
    exact shrinks_onHeartbeatFailed ip port h.table
  · rw [heq]
    refine ⟨?_, fun n => by rw [lookForNeighbours_localNode]⟩
    rcases h.table.lookForNeighbours_cases with hl | hl
    · rw [hl]
    · rw [hl]
      exact List.Sublist.refl _

/-- Reports of failed endpoints, whatever other threads do meanwhile: nothing comes into
the table, and no node of a failed endpoint is left. -/
theorem losing_follow {l : LocalNodeInfo} {h : JoinHost κ} (hs : JoinHost.Sound P l h) {k : κ}
    {es : List (JoinEvent κ)} (hes : ∀ e ∈ es, e.OnlyLoses k) :
    (follow (JoinEvent.run P) es h).point k = h.point k ∧ h.table.Shrinks (follow (JoinEvent.run P) es h).table ∧
      ∀ ip port, .table (.op (.onHeartbeatFailed ip port)) ∈ es →
        ∀ n ∈ (follow (JoinEvent.run P) es h).table.nodes, ¬ AtEndpoint ip port n := by
  induction es generalizing h with
  | nil => exact ⟨rfl, ⟨List.Sublist.refl _, fun _ => Iff.rfl⟩, by simp⟩
  | cons e es ih =>
    obtain ⟨he, hrest⟩ := List.forall_mem_cons.mp hes
    obtain ⟨hpoint, hshrinks, hgone⟩ := ih (hs.step e) hrest
    have hfirst := he.shrinks (P := P) h
    refine ⟨hpoint.trans (he.point h), ?_, ?_⟩
    · exact ⟨hshrinks.nodes.trans hfirst.nodes, fun n => (hshrinks.isVirtual n).trans (hfirst.isVirtual n)⟩
    · intro ip port hmem
      rcases List.mem_cons.mp hmem with rfl | hmem
      · intro n hn
        have hleft : n ∈ (h.table.onHeartbeatFailed ip port).nodes := hshrinks.nodes.subset hn
        rw [hs.reachable.consistent.onHeartbeatFailed_nodes, List.mem_filter, decide_eq_true_iff] at hleft
        exact hleft.2
      · exact hgone ip port hmem

theorem afterJoin_of_joined {l : LocalNodeInfo} {port : UInt16} {done : List (JoinEvent κ)}
    (hjoined : (JoinHost.after P l port done).table.joined = true) (todo : List (JoinEvent κ)) :
    (JoinHost.after P l port (done ++ todo)).afterJoin = true := by
  have hs := JoinHost.Sound.after P l port done
  have hstep (e : JoinEvent κ) (h : JoinHost κ) (hi : JoinHost.Sound P l h ∧ h.afterJoin = true) :
      JoinHost.Sound P l (e.run P h) ∧ (e.run P h).afterJoin = true :=
    ⟨hi.1.step e, (e.afterJoin_run hi.1.afterJoin).1 hi.2⟩
  rw [JoinHost.after_append]
  exact (follow_invariant hstep ⟨hs, hs.afterJoin hjoined⟩ todo).2

theorem lookForNeighbours_of_virtual {t : RoutingTable} (hvirtual : ∀ n ∈ t.nodes, IsVirtual t.localNode n)
    (hfew : t.nodes.length ≤ 5) : t.lookForNeighbours = t.setUnJoin := by
  rw [lookForNeighbours]
  split_ifs
  · rfl
  · rfl

/-- `Rejoin` notices that a node is cut off. If a node, not the first one, has joined at
some time, and the transport reports the endpoint of each of its neighbours on other
hosts as failed, in whatever order and whatever other threads do meanwhile, then the next
thread that calls `Rejoin` finds the node unjoined and goes on to read the endpoints; the
node has at most five virtual nodes in its table. -/
theorem rejoin_notices {l : LocalNodeInfo} (hfirst : l.firstNode = false) (port : UInt16)
    (done todo : List (JoinEvent κ)) (hjoined : (JoinHost.after P l port done).table.joined = true) {k : κ}
    (houtside : (JoinHost.after P l port (done ++ todo)).point k = .outside) {losing : List (JoinEvent κ)}
    (hlosing : ∀ e ∈ losing, e.OnlyLoses k)
    (hfailed : ∀ n ∈ (JoinHost.after P l port (done ++ todo)).table.nodes,
      ¬ IsVirtual (JoinHost.after P l port (done ++ todo)).table.localNode n →
        .table (.op (.onHeartbeatFailed n.publicIp n.publicPort)) ∈ losing)
    (hfew : (JoinHost.after P l port (done ++ todo)).table.nodes.countP
      (fun n => IsVirtual (JoinHost.after P l port (done ++ todo)).table.localNode n) ≤ 5) (mid : UInt32) :
    (JoinHost.after P l port (done ++ todo ++ losing ++ [.rejoin k, .advance k mid])).table.joined = false ∧
      (JoinHost.after P l port (done ++ todo ++ losing ++ [.rejoin k, .advance k mid])).point k = .collecting := by
  set h := JoinHost.after P l port (done ++ todo) with hh
  obtain ⟨hpoint, hshrinks, hgone⟩ := losing_follow (JoinHost.Sound.after P l port (done ++ todo)) hlosing
  rw [← hh, ← JoinHost.after_append] at hpoint hshrinks hgone
  have hs := JoinHost.Sound.after P l port (done ++ todo ++ losing)
  have hafter : (JoinHost.after P l port (done ++ todo ++ losing)).afterJoin = true := by
    rw [List.append_assoc]
    exact afterJoin_of_joined hjoined (todo ++ losing)
  rw [JoinHost.after_append]
  set h' := JoinHost.after P l port (done ++ todo ++ losing)
  have hvirtual : ∀ n ∈ h'.table.nodes, IsVirtual h'.table.localNode n := by
    intro n hn
    by_contra hother
    rw [hshrinks.isVirtual] at hother
    exact hgone n.publicIp n.publicPort (hfailed n (hshrinks.nodes.subset hn) hother) n hn ⟨rfl, rfl⟩
  have hlength : h'.table.nodes.length ≤ 5 := by
    have hall : h'.table.nodes.countP (fun n => IsVirtual h.table.localNode n) = h'.table.nodes.length :=
      List.countP_eq_length.mpr (fun n hn => decide_eq_true ((hshrinks.isVirtual n).mp (hvirtual n hn)))
    rw [← hall]
    exact hshrinks.nodes.countP_le.trans hfew
  have hlook := lookForNeighbours_of_virtual hvirtual hlength
  have hnotFirst : ¬ h'.table.localNode.firstNode = true := by simp [hs.firstNode, hfirst]
  have hrejoin : (JoinEvent.rejoin k).run P h' = { h' with table := h'.table.setUnJoin }.move k .looked := by
    rw [JoinEvent.run, hpoint, houtside]
    dsimp only
    rw [JoinHost.rejoin, if_neg (by simp [hs.destroy]), if_neg hnotFirst, if_neg (by simp [hafter]), hlook]
  rw [follow_cons, follow_cons, follow_nil, hrejoin]
  refine ⟨rfl, ?_⟩
  rw [JoinEvent.run, JoinHost.move_point, if_pos rfl, JoinHost.move_point, if_pos rfl]
  rfl

/-- The node has joined; then the endpoint of its neighbour fails. -/
theorem rejoin_notices_lost :
    (JoinHost.after .simple (localEndingIn 0) 9 [.table (.call welcome),
        .table (.op (.onHeartbeatFailed [50] 9000)), .rejoin (), .advance () 1]).table.joined = false ∧
      (JoinHost.after .simple (localEndingIn 0) 9 [.table (.call welcome),
        .table (.op (.onHeartbeatFailed [50] 9000)), .rejoin (), .advance () 1]).point () = .collecting := by
  have hlosing : ∀ e ∈ ([.table (.op (.onHeartbeatFailed [50] 9000))] : List (JoinEvent Unit)), e.OnlyLoses () := by
    intro e he
    rw [List.mem_singleton.mp he]
    exact ⟨[50], 9000, rfl⟩
  apply rejoin_notices (P := .simple) (l := localEndingIn 0) rfl 9 [.table (.call welcome)] [] (by decide +kernel)
    (k := ()) rfl hlosing
  · have hseen : ∀ n ∈ (JoinHost.after .simple (localEndingIn 0) 9
        ([.table (.call welcome)] : List (JoinEvent Unit))).table.nodes, n.publicIp = [50] ∧ n.publicPort = 9000 := by
      decide +kernel
    intro n hn _
    rw [(hseen n hn).1, (hseen n hn).2]
    exact List.mem_singleton_self _
  · decide +kernel

end Runs
end XKad
