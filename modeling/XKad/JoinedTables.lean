import XKad.HandlerEffects
import XKad.Interleavings

/-!
# Joining with a neighbour

Two handlers set `joined_`. `HandleBootstrapJoinResponse` does so only after
`AddNode` found a place for the sender or had found one before, `HandleHandshake`
whatever `AddNode` said. `BringsNeighbour` is the condition under which a call that
joins leaves a node in the table.
-/
namespace XKad
open Std

namespace RoutingTable

/-- Nothing the table says about the local node differs. -/
structure SameLocal (t t' : RoutingTable) : Prop where
  localNode : t'.localNode = t.localNode
  joined : t'.joined = t.joined

namespace SameLocal

variable {t t' t'' : RoutingTable}

theorem refl (t : RoutingTable) : SameLocal t t := ⟨rfl, rfl⟩

theorem trans (h : SameLocal t t') (h' : SameLocal t' t'') : SameLocal t t'' :=
  ⟨h'.localNode.trans h.localNode, h'.joined.trans h.joined⟩

theorem of_reorders (h : ∃ l, l.Perm t.nodes ∧ t' = t.withNodes l) : SameLocal t t' := by
  obtain ⟨l, _, rfl⟩ := h
  exact ⟨rfl, rfl⟩

theorem addNode (P : Platform) (node : NodeInfo) (t : RoutingTable) : SameLocal t (t.addNode P node).2 := by
  obtain ⟨l, _, ⟨_, code, _, he⟩ | ⟨_, he⟩⟩ := addNode_cases P node t
  · rw [he]
    exact ⟨rfl, rfl⟩
  · rw [he]
    exact ⟨rfl, rfl⟩

theorem canAddNode (P : Platform) (node : NodeInfo) (t : RoutingTable) :
    SameLocal t (t.canAddNode P node).2 :=
  .of_reorders (canAddNode_reorders P node t)

end SameLocal

section Handlers

variable (P : Platform) (mid : UInt32) (m : RoutingMessage) (packet : XPacket) (t : RoutingTable)

theorem sameLocal_handleConnectRequest : SameLocal t (t.handleConnectRequest P m).2 := by
  rcases handleConnectRequest_cases P m t with hsorts | ⟨d, hd⟩
  · exact .of_reorders hsorts
  · rw [hd]
    exact ⟨rfl, rfl⟩

theorem sameLocal_admitRequester (node : NodeInfo) : SameLocal t (t.admitRequester P node) := by
  rw [admitRequester]
  split
  · have hcan := SameLocal.canAddNode P node t
    split <;> rename_i heq <;> rw [heq] at hcan
    · exact hcan.trans (.addNode P node _)
    · exact hcan
  · exact .refl t

theorem sameLocal_handleFindNodesRequest : SameLocal t (t.handleFindNodesRequest P mid m packet).2 := by
  by_cases hdes : m.desNodeId = t.localId
  · cases hdata : m.data with
    | findNodesRequest r =>
      rw [handleFindNodesRequest_table P mid m packet t hdes hdata]
      exact (sameLocal_admitRequester P t (nodeOfPb P r.srcNodeinfo)).trans (.of_reorders (replyNodes_reorders P _ r))
    | _ =>
      rw [handleFindNodesRequest, if_neg (not_not.mpr hdes), hdata]
      exact .refl t
  · rw [handleFindNodesRequest, if_pos hdes]
    exact .refl t

theorem sameLocal_handleFoundNode (mid : Bytes → UInt32) (n : PbNodeInfo) :
    SameLocal t (t.handleFoundNode P mid m packet n).2 := by
  have hcan := SameLocal.canAddNode P (foundNode P m n) t
  dsimp only [handleFoundNode]
  split <;> rename_i heq <;> rw [heq] at hcan
  · exact hcan
  · split_ifs
    · exact hcan.trans (.addNode P _ _)
    · exact hcan
    · exact hcan
    · exact hcan.trans (.addNode P _ _)
    · exact hcan.trans ⟨rfl, rfl⟩

theorem sameLocal_handleFoundNodes (mid : Bytes → UInt32) (ns : List PbNodeInfo) :
    SameLocal t (t.handleFoundNodes P mid m packet ns).2 := by
  induction ns generalizing t with
  | nil => exact .refl t
  | cons n ns ih => exact (sameLocal_handleFoundNode P m packet t mid n).trans (ih _)

theorem sameLocal_handleFindNodesResponse (mid : Bytes → UInt32) :
    SameLocal t (t.handleFindNodesResponse P mid m packet).2 := by
  rw [handleFindNodesResponse]
  split
  · exact .refl t
  · cases m.data with
    | findNodesResponse r => exact sameLocal_handleFoundNodes P m packet t mid r.nodes
    | _ => exact .refl t

theorem sameLocal_sendBootstrapJoinResponse :
    SameLocal t (t.sendBootstrapJoinResponse P mid m packet).2 := by
  dsimp only [sendBootstrapJoinResponse]
  split
  · exact .refl t
  · split_ifs <;> exact ⟨rfl, rfl⟩

theorem sameLocal_handleBootstrapJoinRequest :
    SameLocal t (t.handleBootstrapJoinRequest P mid m packet).2 := by
  cases hdata : m.data with
  | bootstrapJoinRequest r =>
    have hsend := sameLocal_sendBootstrapJoinResponse P mid m packet t
    rw [handleBootstrapJoinRequest_table P mid m packet t hdata]
    split
    · exact hsend.trans (.addNode P _ _)
    · exact hsend
  | _ =>
    rw [handleBootstrapJoinRequest, hdata]
    exact .refl t

theorem addNode_nodes_ne_nil (node : NodeInfo) :
    (t.addNode P node).2.nodes ≠ [] ↔ t.nodes ≠ [] ∨ t.Accepts node := by
  obtain ⟨l, hl, ⟨hr, code, _, he⟩ | ⟨ha, he⟩⟩ := addNode_cases P node t
  · rw [he, or_iff_left hr]
    refine not_congr ⟨fun h => ?_, fun h => ?_⟩
    · exact List.nil_perm.mp ((show l = [] from h) ▸ hl)
    · exact List.perm_nil.mp (h ▸ hl)
  · rw [he]
    exact iff_of_true (by simp) (Or.inr ha)

/-- A bootstrap node that `AddNode` took, now or before, is a neighbour. -/
theorem addNode_knows {t : RoutingTable} (h : t.Consistent) (node : NodeInfo)
    (hret : (t.addNode P node).1 = .kadSuccess ∨ (t.addNode P node).1 = .kadNodeHasAdded) :
    (t.addNode P node).2.nodes ≠ [] := by
  rw [addNode_nodes_ne_nil]
  rcases hret with hret | hret
  · obtain ⟨l, _, ⟨_, code, hcode, he⟩ | ⟨ha, _⟩⟩ := addNode_cases P node t
    · rw [he] at hret
      exact absurd hret hcode
    · exact Or.inr ha
  · obtain ⟨n, hn, _⟩ := (h.hasNode_iff node).mp (addNode_kadNodeHasAdded hret)
    exact Or.inl (List.ne_nil_of_mem hn)

/-- `HandleBootstrapJoinResponse` joins with a neighbour only. -/
theorem joins_handleBootstrapJoinResponse (h : t.Consistent) (mid : Bytes → UInt32) (draws : List UInt32)
    (hj : t.joined = false) (hj' : (t.handleBootstrapJoinResponse P mid draws m packet).2.joined = true) :
    (t.handleBootstrapJoinResponse P mid draws m packet).2.nodes ≠ [] := by
  rw [handleBootstrapJoinResponse, isDestination_direct] at hj' ⊢
  by_cases hdes : m.desNodeId = t.localId
  · rw [decide_eq_true hdes] at hj' ⊢
    cases hdata : m.data with
    | bootstrapJoinResponse r =>
      rw [hdata] at hj'
      dsimp only at hj' ⊢
      have hlearn : (t.learnEndpoint m r).Consistent := (Keeps.learnEndpoint m r t).changes.consistent h
      have hknows := addNode_knows P hlearn (bootstrapNode P m packet r)
      split_ifs at hj' ⊢ with hstatus hret
      · exact absurd (hj'.symm.trans hj) (by decide)
      · -- `AddNode` refused the sender
        have hkept := (SameLocal.addNode P (bootstrapNode P m packet r) (t.learnEndpoint m r)).joined
        exact absurd (hj'.symm.trans (hkept.trans hj)) (by decide)
      · have hnodes := (keeps_joinAndSearch P
          (((t.learnEndpoint m r).addNode P (bootstrapNode P m packet r)).2.pushBootstrapNode
            (bootstrapNode P m packet r)) mid draws r.bootstrapId packet.fromIp packet.fromPort).nodes
        intro hnil
        apply hknows
        · by_contra hno
          exact hret (not_or.mp hno)
        · exact (hnodes.symm.trans (List.Perm.of_eq hnil)).eq_nil
    | _ =>
      rw [hdata] at hj'
      exact absurd (hj'.symm.trans hj) (by decide)
  · rw [decide_eq_false hdes] at hj'
    exact absurd (hj'.symm.trans hj) (by decide)

/-- `HandleHandshake` joins on every response that reaches its destination. -/
theorem joins_handleHandshake (hj : t.joined = false) {h : Handshake} (hdes : m.desNodeId = t.localId)
    (hdata : m.data = .handshake h) (hres : h.type = kHandshakeResponse) :
    (t.handleHandshake P mid m packet).2.joined = true ∧
      ((t.handleHandshake P mid m packet).2.nodes ≠ [] ↔ t.nodes ≠ [] ∨
        (m.isClientMsg = false ∧ t.Accepts (markSameVlan packet (handshakeNode P m packet h)))) := by
  set node := handshakeNode P m packet h with hnode
  set u : RoutingTable :=
    { t with detection := t.detection.removeDetection P node.publicIp node.publicPort } with hu
  have hremove : SameLocal t u := ⟨rfl, rfl⟩
  -- whatever table `AddNode` leaves, `SetJoin` joins it and keeps its nodes
  have hset {v : RoutingTable} (hv : SameLocal t v) :
      (if !v.joined then (v.setJoin m.srcNodeId h.publicIp (toPort h.publicPort)).2 else v).joined = true ∧
        (if !v.joined then (v.setJoin m.srcNodeId h.publicIp (toPort h.publicPort)).2 else v).nodes =
          v.nodes := by
    have hjv : v.joined = false := hv.joined.trans hj
    simp [setJoin, hjv]
  rw [handleHandshake, isDestination_direct, decide_eq_true hdes, hdata]
  dsimp only
  rw [if_pos hres, ← hnode, ← hu]
  cases hclient : m.isClientMsg with
  | false =>
    obtain ⟨hjoined, hnodes⟩ := hset (hremove.trans (.addNode P (markSameVlan packet node) u))
    refine ⟨hjoined, ?_⟩
    rw [Bool.not_false, if_pos rfl, hnodes, addNode_nodes_ne_nil,
      (Keeps.detection _ t).accepts_iff (markSameVlan packet node), show u.nodes = t.nodes from rfl]
    simp
  | true =>
    obtain ⟨hjoined, hnodes⟩ := hset hremove
    refine ⟨hjoined, ?_⟩
    rw [Bool.not_true, if_neg Bool.false_ne_true, hnodes]
    simp [hu]

theorem sameJoined_handleHandshake (hother : ∀ h, m.data = .handshake h →
    h.type = kHandshakeResponse → m.desNodeId ≠ t.localId) :
    (t.handleHandshake P mid m packet).2.joined = t.joined := by
  by_cases hdes : m.desNodeId = t.localId
  · cases hdata : m.data with
    | handshake h =>
      have hres : h.type ≠ kHandshakeResponse := fun hres => hother h hdata hres hdes
      obtain ⟨d, hd⟩ := handleHandshake_requested P mid m packet t hdes hdata hres
      rw [hd]
      exact (SameLocal.canAddNode P (handshakeNode P m packet h) t).joined
    | _ => rw [handleHandshake, isDestination_direct, decide_eq_true hdes, hdata]
  · rw [handleHandshake, isDestination_direct, decide_eq_false hdes]

end Handlers

end RoutingTable

namespace HandlerCall
open RoutingTable

/-- If the call joins the table, the table has a node afterwards. -/
def JoinsKnowing (P : Platform) (c : HandlerCall) (t : RoutingTable) : Prop :=
  t.joined = false → (c.run P t).2.joined = true → (c.run P t).2.nodes ≠ []

/-- A handshake response to a node not yet joined meets a table that has a node, or
`AddNode` is called with a record that passes its tests. -/
def BringsNeighbour (P : Platform) (c : HandlerCall) (t : RoutingTable) : Prop :=
  c.handler = .handleHandshake → t.joined = false → ∀ h, c.message.desNodeId = t.localId →
    c.message.data = .handshake h → h.type = kHandshakeResponse → t.nodes ≠ [] ∨
      (c.message.isClientMsg = false ∧
        t.Accepts (markSameVlan c.packet (handshakeNode P c.message c.packet h)))

theorem joinsKnowing_iff {P : Platform} {t : RoutingTable} (h : t.Consistent) (c : HandlerCall) :
    c.JoinsKnowing P t ↔ c.BringsNeighbour P t := by
  have hsame (hs : (c.run P t).2.joined = t.joined) : c.JoinsKnowing P t := by
    intro hj hj'
    rw [hs, hj] at hj'
    cases hj'
  have hother (hne : c.handler ≠ .handleHandshake) : c.BringsNeighbour P t := fun he => absurd he hne
  obtain ⟨handler, m, packet, mid, draws⟩ := c
  cases handler with
  | handleConnectRequest =>
    exact iff_of_true (hsame (sameLocal_handleConnectRequest P m t).joined) (hother (by simp))
  | handleHandshake =>
    by_cases hresponse : ∃ h, m.data = .handshake h ∧ h.type = kHandshakeResponse ∧ m.desNodeId = t.localId
    · obtain ⟨h, hdata, hres, hdes⟩ := hresponse
      constructor
      · intro hknows _ hj h' _ hdata' _
        obtain ⟨hjoined, hnodes⟩ := joins_handleHandshake P (mid m.srcNodeId) m packet t hj hdes
          hdata hres
        rw [hdata] at hdata'
        cases hdata'
        exact hnodes.mp (hknows hj hjoined)
      · intro hbrings hj _
        have hnodes := (joins_handleHandshake P (mid m.srcNodeId) m packet t hj hdes hdata hres).2
        exact hnodes.mpr (hbrings rfl hj h hdes hdata hres)
    · refine iff_of_true (hsame ?_) ?_
      · exact sameJoined_handleHandshake P (mid m.srcNodeId) m packet t
          (fun h hdata hres hdes => hresponse ⟨h, hdata, hres, hdes⟩)
      · exact fun _ _ h hdes hdata hres => absurd ⟨h, hdata, hres, hdes⟩ hresponse
  | handleBootstrapJoinRequest =>
    exact iff_of_true (hsame (sameLocal_handleBootstrapJoinRequest P _ m packet t).joined)
      (hother (by simp))
  | handleBootstrapJoinResponse =>
    exact iff_of_true (joins_handleBootstrapJoinResponse P m packet t h mid draws)
      (hother (by simp))
  | handleFindNodesRequest =>
    exact iff_of_true (hsame (sameLocal_handleFindNodesRequest P _ m packet t).joined)
      (hother (by simp))
  | handleFindNodesResponse =>
    exact iff_of_true (hsame (sameLocal_handleFindNodesResponse P m packet t mid).joined)
      (hother (by simp))

def next (P : Platform) (c : HandlerCall) (t : RoutingTable) : RoutingTable := (c.run P t).2

/-- In a run of the handlers every call that joins leaves a node in the table exactly
if every handshake response that joins brings a neighbour or finds one. -/
theorem run_joinsKnowing {P : Platform} {t : RoutingTable} (h : Reachable P t) (cs : List HandlerCall) :
    Along (next P) (JoinsKnowing P) cs t ↔ Along (next P) (BringsNeighbour P) cs t :=
  along_congr (I := Consistent) (fun c _ hc => (handlerCall_evolves P c _).changes.consistent hc)
    (fun c _ hc => joinsKnowing_iff hc c) h.consistent cs

def responseFrom (b : UInt8) (natType : Int32) : HandlerCall where
  handler := .handleHandshake
  message := {
    desNodeId := (localEndingIn 0).id
    srcNodeId := (localEndingIn b).id
    data := .handshake { type := kHandshakeResponse, natType := natType, xid := [b] } }
  packet := ⟨[50], 9000⟩

theorem run_joinsKnowing_public :
    ((responseFrom 1 kNatTypePublic).run .simple (init (localEndingIn 0) 9)).2.joined = true ∧
      (Along (next .simple) (JoinsKnowing .simple) [responseFrom 1 kNatTypePublic]
          (init (localEndingIn 0) 9) ↔
        Along (next .simple) (BringsNeighbour .simple) [responseFrom 1 kNatTypePublic]
          (init (localEndingIn 0) 9)) :=
  ⟨by decide +kernel, run_joinsKnowing (.init _ _) _⟩

/-- The response of a node of unknown NAT type joins an empty table and leaves it empty. -/
theorem not_run_joinsKnowing : ∃ t, Reachable .simple t ∧ t.joined = false ∧
    ((responseFrom 1 kNatTypeUnknown).run .simple t).2.joined = true ∧
    ((responseFrom 1 kNatTypeUnknown).run .simple t).2.nodes = [] ∧
    ¬ Along (next .simple) (JoinsKnowing .simple) [responseFrom 1 kNatTypeUnknown] t := by
  have hjoined : ((responseFrom 1 kNatTypeUnknown).run .simple
      (init (localEndingIn 0) 9)).2.joined = true := by decide +kernel
  have hnodes : ((responseFrom 1 kNatTypeUnknown).run .simple
      (init (localEndingIn 0) 9)).2.nodes = [] := by decide +kernel
  exact ⟨_, .init (localEndingIn 0) 9, by decide, hjoined, hnodes, fun h => h.1 (by decide) hjoined hnodes⟩

end HandlerCall
end XKad
