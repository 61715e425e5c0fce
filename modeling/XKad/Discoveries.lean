import XKad.CoveredTables
import XKad.Descents
import XKad.GenuineRecords

/-!
# Discoveries

`FindNeighbours` asks neighbours for theirs. A neighbour with a short table lists every
node the filter of the request leaves, and the public ones among them go into the
table that asked, if their buckets have room. In a small network of public nodes the
knowledge of the nodes is squared in every round of questions and answers.
-/
namespace XKad

namespace RoutingTable

section Answers

variable {P : Platform} {t t' : RoutingTable} {n : NodeInfo}

theorem Evolves.mem {os : List (RoutingTable × NodeInfo)} (h : Evolves os t t') (hn : n ∈ t.nodes) :
    n ∈ t'.nodes :=
  h.induct (I := fun s => n ∈ s.nodes) (fun _ _ hk hs => hk.nodes.mem_iff.mpr hs)
    (fun _ _ _ _ _ _ hu => List.mem_append_left _ hu) hn

theorem Evolves.length_le {os : List (RoutingTable × NodeInfo)} (h : Evolves os t t') :
    t.nodes.length ≤ t'.nodes.length := by
  refine h.induct (I := fun s => t.nodes.length ≤ s.nodes.length) ?_ ?_ (Nat.le_refl _)
  · intro s s' hk hs
    rwa [hk.nodes.length_eq]
  · intro s u node _ _ _ hu
    rw [inserted_nodes, List.length_append]
    exact hu.trans (Nat.le_add_right _ _)

/-- A node that is no client lists, if its table is short, every node but the target and
those in the filter. -/
theorem listed_of_short {r : FindClosestNodesRequest} (hclient : t.localNode.clientMode = false)
    (hcount : r.count = routingMaxNodesSize) (hshort : t.nodes.length ≤ 15) (hn : n ∈ t.nodes)
    (htarget : n.nodeId ≠ r.targetId) (hfilter : P.bloomContain (requestFilter P r) n.nodeId = false) :
    ∃ nodes, (t.replyNodes P r).1 = some nodes ∧ pbOfNode n ∈ nodes := by
  have hmax : r.count.toNat + 1 = kRoutingMaxNodesSize + 1 := by
    rw [hcount]
    decide
  have hall : min (r.count.toNat + 1) t.nodes.length = t.nodes.length := by
    rw [hmax]
    exact min_eq_right (hshort.trans (by decide))
  have hsorted := partialSortNodes_perm P NodeInfo.nodeId r.targetId t.nodes.length t.nodes
  obtain ⟨own, hown⟩ : ∃ own, ownEntry (P.bloomContain (requestFilter P r)) t = some own := by
    rw [← Option.ne_none_iff_exists', Ne, ownEntry_eq_none]
    exact fun hstops => Bool.false_ne_true (hclient.symm.trans hstops.1)
  have hlength := length_ownEntry_le hown
  rw [replyNodes_eq P r t (by rw [hmax]; decide), hall, List.take_of_length_le hsorted.length_eq.le, hown]
  refine ⟨_, rfl, ?_⟩
  rw [listNodes_eq _ _ _ _ (hlength.trans (by decide))]
  apply List.mem_append_right
  apply List.mem_map_of_mem
  rw [List.take_of_length_le]
  · exact mem_kept.mpr ⟨hsorted.mem_iff.mpr hn, htarget, hfilter⟩
  · have hkept := (List.length_filter_le (fun n => decide (n.nodeId ≠ r.targetId) &&
      !P.bloomContain (requestFilter P r) n.nodeId)
      (partialSortNodes P NodeInfo.nodeId r.targetId t.nodes.length t.nodes))
    rw [hsorted.length_eq] at hkept
    omega

theorem answer_lists {mid : UInt32} {m : RoutingMessage} {packet : XPacket} {r : FindClosestNodesRequest}
    (hclient : t.localNode.clientMode = false) (hdes : m.desNodeId = t.localId) (hdata : m.data = .findNodesRequest r)
    (hcount : r.count = routingMaxNodesSize)
    (hshort : (t.handleFindNodesRequest P mid m packet).2.nodes.length ≤ 15) (hn : n ∈ t.nodes)
    (htarget : n.nodeId ≠ r.targetId) (hfilter : P.bloomContain (requestFilter P r) n.nodeId = false) :
    ∃ o ∈ (t.handleFindNodesRequest P mid m packet).1, ∃ nodes, pbOfNode n ∈ nodes ∧
      o.message.desNodeId = m.srcNodeId ∧ o.message.data = .findNodesResponse ⟨nodes⟩ := by
  set t₁ := t.admitRequester P (nodeOfPb P r.srcNodeinfo) with ht₁
  obtain ⟨l, hl, hreorders⟩ := replyNodes_reorders P t₁ r
  rw [handleFindNodesRequest_table P mid m packet t hdes hdata, ← ht₁, hreorders, withNodes_nodes,
    hl.length_eq] at hshort
  have hclient₁ : t₁.localNode.clientMode = false := by rw [ht₁, admitRequester_localNode, hclient]
  obtain ⟨nodes, hnodes, hlisted⟩ := listed_of_short (P := P) hclient₁ hcount hshort
    ((evolves_admitRequester P t _).mem hn) htarget hfilter
  obtain ⟨o, ho, _, hdes', hdata'⟩ := sentNodes_of_ne_nil (List.ne_nil_of_mem hlisted) m mid packet
    (t₁.replyNodes P r).2.localNode
  rw [handleFindNodesRequest_sent P hdes hdata, ← ht₁, hnodes, ho]
  exact ⟨o, List.mem_singleton_self _, nodes, hlisted, hdes', hdata'⟩

/-- A listed public node makes a record that is offered without a handshake. -/
theorem foundRecord_public {m : RoutingMessage} {a : PbNodeInfo} (hpublic : a.natType = kNatTypePublic)
    (hvalid : validNode (foundNode P m a) = true) (hlocal : a.id ≠ t.localId) :
    ∃ node, foundRecord P m t a = some node ∧ node.nodeId = a.id ∧ t.Offerable node := by
  have hnat : (foundNode P m a).natType ≠ kNatTypeUnknown := by
    rw [show (foundNode P m a).natType = kNatTypePublic from hpublic]
    decide
  dsimp only [foundRecord]
  split_ifs with hown habnormal hdirect
  · exact ⟨_, rfl, rfl, hnat, hlocal, hvalid⟩
  · rw [show (foundNode P m a).natType = kNatTypePublic from hpublic] at habnormal
    exact absurd habnormal.2 (by decide)
  · exact ⟨_, rfl, rfl, hnat, hlocal, hvalid⟩
  · exact absurd (Or.inl hpublic) hdirect

theorem foundOffers_public {mid : Bytes → UInt32} {m : RoutingMessage} {packet : XPacket} {a : PbNodeInfo}
    {listed : List PbNodeInfo} (ha : a ∈ listed) (hpublic : a.natType = kNatTypePublic)
    (hvalid : validNode (foundNode P m a) = true) (hlocal : a.id ≠ t.localId) :
    ∃ o ∈ foundOffers P m packet mid listed t, o.2.nodeId = a.id ∧ o.1.Offerable o.2 := by
  induction listed generalizing t with
  | nil => cases ha
  | cons b listed ih =>
    rcases List.mem_cons.mp ha with rfl | hin
    · obtain ⟨node, hrecord, hid, hnode⟩ := foundRecord_public hpublic hvalid hlocal
      refine ⟨(t, node), ?_, hid, hnode⟩
      rw [foundOffers, hrecord]
      exact List.mem_append_left _ (List.mem_singleton_self _)
    · have hkept := (evolves_handleFoundNode P m packet t mid b).changes.localId
      obtain ⟨o, ho, hid, hnode⟩ := ih hin (by rw [hkept]; exact hlocal)
      exact ⟨o, List.mem_append_right _ ho, hid, hnode⟩

/-- A listed public node is known in the end or has a full bucket. -/
theorem settled_handleFoundNodes (hc : t.Consistent) {mid : Bytes → UInt32} {m : RoutingMessage}
    {packet : XPacket} {a : PbNodeInfo} {listed : List PbNodeInfo} (ha : a ∈ listed)
    (hpublic : a.natType = kNatTypePublic) (hvalid : validNode (foundNode P m a) = true) (hlocal : a.id ≠ t.localId) :
    (t.handleFoundNodes P mid m packet listed).2.Settled a.id := by
  obtain ⟨o, ho, hid, hnode⟩ := foundOffers_public ha hpublic hvalid hlocal
  rw [← hid]
  exact (evolves_handleFoundNodes P m packet t mid listed).settled_of_offer hc ho hnode

theorem answer_settles (hc : t.Consistent) {c : HandlerCall} {listed : List PbNodeInfo}
    (hh : c.handler = .handleFindNodesResponse) (hdes : c.message.desNodeId = t.localId)
    (hdata : c.message.data = .findNodesResponse ⟨listed⟩) (ha : pbOfNode n ∈ listed)
    (hpublic : n.natType = kNatTypePublic) (hvalid : validNode n = true) (hlocal : n.nodeId ≠ t.localId) :
    (c.run P t).2.Settled n.nodeId := by
  have hfound : validNode (foundNode P c.message (pbOfNode n)) = true := by
    obtain ⟨hlen, hip, hport⟩ := (validNode_iff n).mp hvalid
    refine (validNode_iff _).mpr ⟨hlen, hip, ?_⟩
    rwa [foundNode, nodeOfPb, pbOfNode, toPort_ofPort]
  rw [HandlerCall.run, hh]
  dsimp only
  rw [handleFindNodesResponse, if_neg (not_not.mpr hdes), hdata]
  exact settled_handleFoundNodes hc ha hpublic hfound hlocal

def filterOf (P : Platform) (nodes : List NodeInfo) : P.Bloom :=
  requestFilter P { bloomfilter := getExistsNodesBloomfilter P nodes }

/-- `FindNeighbours` of a node that is no client asks for all nodes near its own, and sends
a filter over nodes it knows. -/
theorem findNeighbours_asks {mid : Bytes → UInt32} {draws : List UInt32} {o : Outgoing}
    (ho : o ∈ ((LocalAction.findNeighbours mid draws).run P t).1) :
    t.localNode.clientMode = false ∧ o.message.type = .kadFindNodesRequest ∧ o.message.srcNodeId = t.localId ∧
      ∃ r nodes, o.message.data = .findNodesRequest r ∧ r.targetId = t.localId ∧ r.count = routingMaxNodesSize ∧
        requestFilter P r = filterOf P nodes ∧ ∀ n ∈ nodes, n ∈ t.nodes := by
  have hsent : o ∈ (t.findNeighbours P mid draws).1.getD [] := ho
  rw [findNeighbours] at hsent
  split at hsent
  · cases hsent
  · obtain ⟨l, hl, hs⟩ := sortNodesBy_reorders P NodeInfo.nodeId t.localId (intOfUInt32 routingMaxNodesSize) t
    dsimp only [sortNodesByTargetXid] at hsent
    rw [hs] at hsent
    obtain ⟨_, _, xip, node, hxip, rfl⟩ := findClosestNodes_sent hsent
    have hclient : t.localNode.clientMode = false := by
      cases hmode : t.localNode.clientMode with
      | false => rfl
      | true =>
        rw [show (t.withNodes l).localNode.xipString = none from LocalNodeInfo.xipString_eq_none.mpr hmode] at hxip
        cases hxip
    rw [sendDataToNode_message, setVersion_data, setVersion_srcNodeId, setVersion_type]
    exact ⟨hclient, rfl, rfl, _, _, rfl, rfl, rfl, rfl, fun n hn => hl.mem_iff.mp (List.mem_of_mem_take hn)⟩

end Answers
end RoutingTable

open RoutingTable

variable {ι : Type}

/-- Node `i` has node `j` in its table. -/
def Network.Knows (D : Deployment ι) (N : Network ι) (i j : ι) : Prop :=
  ∃ n ∈ (N.table i).nodes, n.nodeId = (D.localNode j).id

/-- A failed heartbeat removes nodes, the other actions do not. -/
def LocalAction.drops : LocalAction → Bool
  | .onHeartbeatFailed _ _ => true
  | _ => false

/-- The filter of a request over nodes of the network holds no other node of the network. -/
def Deployment.ExactFilters (P : Platform) (D : Deployment ι) : Prop :=
  ∀ nodes : List NodeInfo, (∀ n ∈ nodes, ∃ j, n.nodeId = (D.localNode j).id) →
    ∀ k, P.bloomContain (filterOf P nodes) (D.localNode k).id = true → ∃ n ∈ nodes, n.nodeId = (D.localNode k).id

variable [DecidableEq ι] {P : Platform} {D : Deployment ι}

/-- The network goes on from `N` without a failed heartbeat, and no node reads a list
that has a node at its own endpoint. -/
inductive Network.Grows (P : Platform) (N : Network ι) : Network ι → Prop where
  | refl : Network.Grows P N N
  | act {M : Network ι} (h : Network.Grows P N M) (i : ι) (a : LocalAction) (ha : a.drops = false) :
      Network.Grows P N (M.after i (a.run P (M.table i)))
  | deliver {M : Network ι} (h : Network.Grows P N M) (i : ι) (c : HandlerCall) {o : Outgoing}
      (ho : o ∈ M.sent) (hm : c.message = o.message) (hh : o.message.type.handler = some c.handler)
      (hok : c.EndpointsApart (M.table i)) : Network.Grows P N (M.after i (c.run P (M.table i)))

namespace Network.Grows

variable {N M M' : Network ι} {i j k : ι}

theorem trans (h : Grows P N M) (h' : Grows P M M') : Grows P N M' := by
  induction h' with
  | refl => exact h
  | act _ i a ha ih => exact ih.act i a ha
  | deliver _ i c ho hm hh hok ih => exact ih.deliver i c ho hm hh hok

theorem run (h : Grows P N M) (hN : NetworkRun P D HandlerCall.EndpointsApart N) :
    NetworkRun P D HandlerCall.EndpointsApart M := by
  induction h with
  | refl => exact hN
  | act _ i a _ ih => exact ih.act i a
  | deliver _ i c ho hm hh hok ih => exact ih.deliver i c ho hm hh hok

theorem evolves (h : Grows P N M) (i : ι) : ∃ os, Evolves os (N.table i) (M.table i) := by
  induction h with
  | refl => exact ⟨[], .keep (.refl _)⟩
  | @act M _ j a ha ih =>
    by_cases hj : i = j
    · subst hj
      obtain ⟨os, hos⟩ := ih
      have hkeep : Keeps (M.table i) (a.run P (M.table i)).2 := by
        cases a with
        | bootstrap => exact .refl _
        | sendFindClosestNodes => exact .refl _
        | findNeighbours mid draws => exact keeps_findNeighbours P _ mid draws
        | doTetection mid => exact .detection _ _
        | onHeartbeatFailed => cases ha
      exact ⟨os ++ [], by simpa [Network.after] using hos.append (.keep hkeep)⟩
    · simpa [Network.after, hj] using ih
  | @deliver M _ j c _ _ _ _ _ ih =>
    by_cases hj : i = j
    · subst hj
      obtain ⟨os, hos⟩ := ih
      exact ⟨_, by simpa [Network.after] using hos.append (handlerCall_evolves P c (M.table i))⟩
    · simpa [Network.after, hj] using ih

theorem knows (h : Grows P N M) (hk : N.Knows D i j) : M.Knows D i j :=
  (h.evolves i).choose_spec.known hk

theorem settled (h : Grows P N M) {id : Bytes} (hs : (N.table i).Settled id) : (M.table i).Settled id :=
  (h.evolves i).choose_spec.settled hs

theorem sent (h : Grows P N M) {o : Outgoing} (ho : o ∈ N.sent) : o ∈ M.sent := by
  induction h with
  | refl => exact ho
  | act _ _ _ _ ih => exact List.mem_append_left _ ih
  | deliver _ _ _ _ _ _ _ ih => exact List.mem_append_left _ ih

theorem length_le (h : Grows P N M) (i : ι) : (N.table i).nodes.length ≤ (M.table i).nodes.length :=
  (h.evolves i).choose_spec.length_le

end Network.Grows

/-- Between `N` and `N'` the timer of `i` asked `j` for its neighbours, `j` got the
question, and whatever `j` answered reached `i`. -/
inductive Network.Exchanged (P : Platform) (D : Deployment ι) (i j : ι) (N N' : Network ι) : Prop where
  | exchanged {N₁ N₂ : Network ι} {mid : Bytes → UInt32} {draws : List UInt32} {o : Outgoing} {c : HandlerCall}
      (before : N.Grows P N₁)
      (asked : o ∈ ((LocalAction.findNeighbours mid draws).run P (N₁.table i)).1)
      (toward : o.message.desNodeId = (D.localNode j).id)
      (underway : (N₁.after i ((LocalAction.findNeighbours mid draws).run P (N₁.table i))).Grows P N₂)
      (handler : c.handler = .handleFindNodesRequest) (message : c.message = o.message)
      (answered : (N₂.after j (c.run P (N₂.table j))).Grows P N')
      (reached : ∀ o' ∈ (c.run P (N₂.table j)).1, ∃ (N₃ : Network ι) (c' : HandlerCall),
        c'.handler = .handleFindNodesResponse ∧ c'.message = o'.message ∧
        (N₂.after j (c.run P (N₂.table j))).Grows P N₃ ∧ (N₃.after i (c'.run P (N₃.table i))).Grows P N')

/-- Each node has asked every node it knew, and got the answers. -/
structure Network.Round (P : Platform) (D : Deployment ι) (N N' : Network ι) : Prop where
  grows : N.Grows P N'
  exchanges : ∀ i j, N.Knows D i j → Network.Exchanged P D i j N N'

theorem knows_of_filter (hD : D.ExactFilters P) {N : Network ι} (hrun : NetworkRun P D HandlerCall.EndpointsApart N)
    {i k : ι} {nodes : List NodeInfo} (hnodes : ∀ n ∈ nodes, n ∈ (N.table i).nodes)
    (hcontain : P.bloomContain (filterOf P nodes) (D.localNode k).id = true) : N.Knows D i k := by
  have hmembers : ∀ n ∈ nodes, ∃ j, n.nodeId = (D.localNode j).id := by
    intro n hn
    obtain ⟨l, hid, _⟩ := (GenuineNetwork.run hrun).nodes i n (hnodes n hn)
    exact ⟨l, hid.symm⟩
  obtain ⟨n, hn, hid⟩ := hD nodes hmembers k hcontain
  exact ⟨n, hnodes n hn, hid⟩

theorem public_of_knows {N : Network ι} (hrun : NetworkRun P D HandlerCall.EndpointsApart N) {j k : ι}
    (hknows : N.Knows D j k) (hpublic : (D.localNode k).natType = kNatTypePublic) :
    ∃ n ∈ (N.table j).nodes, n.nodeId = (D.localNode k).id ∧ n.natType = kNatTypePublic ∧ validNode n = true := by
  obtain ⟨n, hn, hid⟩ := hknows
  have hc := (networkRun_reachable hrun j).consistent
  refine ⟨n, hn, hid, ?_, (validNode_iff n).mpr ⟨hc.length n hn, hc.ip n hn, hc.port n hn⟩⟩
  obtain ⟨l, hid', _, hnat⟩ := (GenuineNetwork.run hrun).nodes j n hn
  obtain rfl : l = k := D.distinct (hid'.trans hid)
  rw [← hnat, hpublic]

theorem Network.Exchanged.asker {N N' : Network ι} (hrun : NetworkRun P D HandlerCall.EndpointsApart N) {i j : ι}
    (h : Network.Exchanged P D i j N N') : (D.localNode i).clientMode = false := by
  obtain ⟨before, asked, _⟩ := h
  rw [← networkRun_clientMode (before.run hrun) i]
  exact (findNeighbours_asks asked).1

/-- A node settles the public nodes its neighbour knows, unless the neighbour is a client
or knows more than fit into an answer. -/
theorem exchanged_settles (hD : D.ExactFilters P) {N N' : Network ι}
    (hrun : NetworkRun P D HandlerCall.EndpointsApart N) {i j k : ι} (h : Network.Exchanged P D i j N N')
    (hclient : (D.localNode j).clientMode = false) (hshort : (N'.table j).nodes.length ≤ 15)
    (hknows : N.Knows D j k) (hne : k ≠ i) (hpublic : (D.localNode k).natType = kNatTypePublic) :
    (N'.table i).Settled (D.localNode k).id := by
  obtain @⟨N₁, N₂, mid, draws, o, c, before, asked, toward, underway, handler, message, answered, reached⟩ := h
  have hrun₁ := before.run hrun
  obtain ⟨_, htype, hsrc, r, nodes, hdata, htarget, hcount, hfilter, hnodes⟩ := findNeighbours_asks asked
  have hasked : N₁.Grows P N₂ := (Network.Grows.refl.act i (.findNeighbours mid draws) rfl).trans underway
  have hrun₂ := hasked.run hrun₁
  have hsent : o ∈ N₂.sent := underway.sent (List.mem_append_right _ asked)
  have hgot : N₂.Grows P (N₂.after j (c.run P (N₂.table j))) := by
    refine .deliver .refl j c hsent message (by rw [htype, handler]; rfl) (fun r' hr' => ?_)
    rw [message, hdata] at hr'
    cases hr'
  by_cases hcontain : P.bloomContain (requestFilter P r) (D.localNode k).id = true
  · -- the filter holds the node: it was known when the question was asked
    rw [hfilter] at hcontain
    exact Or.inl ((hasked.trans (hgot.trans answered)).knows (knows_of_filter hD hrun₁ hnodes hcontain))
  · obtain ⟨n, hn, hid, hnat, hvalid⟩ := public_of_knows hrun₂ ((before.trans hasked).knows hknows) hpublic
    have hcall : c.run P (N₂.table j) =
        (N₂.table j).handleFindNodesRequest P (c.mid c.message.srcNodeId) c.message c.packet := by
      rw [HandlerCall.run, handler]
    have hlength : (c.run P (N₂.table j)).2.nodes.length ≤ 15 := by
      have hle := answered.length_le j
      simp only [Network.after, Function.update_self] at hle
      exact hle.trans hshort
    have hother : n.nodeId ≠ (D.localNode i).id := fun he => hne (D.distinct (hid.symm.trans he))
    have hi := networkRun_localId hrun₁ i
    obtain ⟨o', ho', listed, hlisted, hdes', hdata'⟩ : ∃ o' ∈ (c.run P (N₂.table j)).1, ∃ listed,
        pbOfNode n ∈ listed ∧ o'.message.desNodeId = c.message.srcNodeId ∧
          o'.message.data = .findNodesResponse ⟨listed⟩ := by
      rw [hcall] at hlength ⊢
      refine answer_lists ((networkRun_clientMode hrun₂ j).trans hclient) ?_ (message ▸ hdata) hcount hlength hn ?_ ?_
      · rw [message, toward, networkRun_localId hrun₂]
      · rwa [htarget, hi]
      · rw [hid]
        exact Bool.eq_false_iff.mpr hcontain
    obtain ⟨N₃, c', handler', message', hgrows, hlast⟩ := reached o' ho'
    have hrun₃ := (hgot.trans hgrows).run hrun₂
    have hi₃ := networkRun_localId hrun₃ i
    apply hlast.settled
    rw [← hid]
    simp only [Network.after, Function.update_self]
    refine answer_settles (networkRun_reachable hrun₃ i).consistent handler' ?_ (message' ▸ hdata') hlisted hnat
      hvalid ?_
    · rw [message', hdes', message, hsrc, hi, hi₃]
    · rwa [hi₃]

section Rounds

variable [Fintype ι]

/-- The other nodes that share a bucket of `i` with `k`. -/
def Deployment.bucket (D : Deployment ι) (i k : ι) : Finset ι :=
  Finset.univ.filter (fun j => j ≠ i ∧
    (xorDistance (D.localNode i).id (D.localNode j).id).size = (xorDistance (D.localNode i).id (D.localNode k).id).size)

/-- The network fits into the answer to a question, and every bucket has room for its nodes. -/
structure Deployment.Roomy (D : Deployment ι) : Prop where
  size : Fintype.card ι ≤ 16
  bucket : ∀ i k, (D.bucket i k).card ≤ kKadParamK

variable {N : Network ι} {i k : ι}

omit [Fintype ι] in
theorem length_le_card (hrun : NetworkRun P D HandlerCall.EndpointsApart N) {l : List NodeInfo}
    (hl : l.Sublist (N.table i).nodes) {S : Finset ι}
    (hS : ∀ n ∈ l, ∀ j, n.nodeId = (D.localNode j).id → j ∈ S) : l.length ≤ S.card := by
  have hc := (networkRun_reachable hrun i).consistent
  have hnodup : (l.map NodeInfo.nodeId).Nodup := List.pairwise_map.mpr (hc.nodup.sublist hl)
  rw [← List.length_map (f := NodeInfo.nodeId), ← List.toFinset_card_of_nodup hnodup,
    ← Finset.card_image_of_injective S D.distinct]
  apply Finset.card_le_card
  intro id hid
  obtain ⟨n, hn, rfl⟩ := List.mem_map.mp (List.mem_toFinset.mp hid)
  obtain ⟨j, hj, _⟩ := (GenuineNetwork.run hrun).nodes i n (hl.subset hn)
  exact Finset.mem_image.mpr ⟨j, hS n hn j hj.symm, hj⟩

theorem Deployment.Roomy.length_le (hD : D.Roomy) (hrun : NetworkRun P D HandlerCall.EndpointsApart N) (i : ι) :
    (N.table i).nodes.length ≤ 15 := by
  have hle := length_le_card hrun (List.Sublist.refl (N.table i).nodes) (S := Finset.univ.erase i) (by
    intro n hn j hj
    refine Finset.mem_erase.mpr ⟨?_, Finset.mem_univ j⟩
    rintro rfl
    exact (networkRun_reachable hrun j).consistent.notLocal n hn (hj.trans (networkRun_localId hrun j).symm))
  rw [Finset.card_erase_of_mem (Finset.mem_univ i), Finset.card_univ] at hle
  have hsize := hD.size
  omega

theorem Deployment.Roomy.knows_of_settled (hD : D.Roomy) (hrun : NetworkRun P D HandlerCall.EndpointsApart N)
    (hne : k ≠ i) (hs : (N.table i).Settled (D.localNode k).id) : N.Knows D i k := by
  obtain hknown | hfull := hs
  · exact hknown
  · by_contra hunknown
    have hi := networkRun_localId hrun i
    have hb := (networkRun_reachable hrun i).bucketed
    rw [Full, List.countP_eq_length_filter, hi] at hfull
    have hle := length_le_card hrun (List.filter_sublist (l := (N.table i).nodes)
      (p := fun n => n.bucketIndex = ((xorDistance (D.localNode i).id (D.localNode k).id).size : ℤ)))
      (S := (D.bucket i k).erase k) (by
        intro n hn j hj
        obtain ⟨hin, hbucket⟩ := List.mem_filter.mp hn
        have hbucket := of_decide_eq_true hbucket
        rw [hb.bucket n hin, hi, hj, Nat.cast_inj] at hbucket
        refine Finset.mem_erase.mpr ⟨?_, Finset.mem_filter.mpr ⟨Finset.mem_univ j, ?_, hbucket⟩⟩
        · intro hjk
          exact hunknown ⟨n, hin, hjk ▸ hj⟩
        · intro hji
          exact hb.notLocal n hin (hj.trans (hji ▸ hi.symm)))
    have hmem : k ∈ D.bucket i k := Finset.mem_filter.mpr ⟨Finset.mem_univ k, hne, rfl⟩
    have hroom := hD.bucket i k
    have hpos := Finset.card_pos.mpr ⟨k, hmem⟩
    rw [Finset.card_erase_of_mem hmem] at hle
    omega

/-- After a round each node knows what the nodes it knew have known. -/
theorem Deployment.Roomy.squares (hD : D.Roomy) (hexact : D.ExactFilters P)
    (hpublic : ∀ i, (D.localNode i).natType = kNatTypePublic) {N N' : Network ι}
    (hrun : NetworkRun P D HandlerCall.EndpointsApart N) (hround : Network.Round P D N N') {i j k : ι}
    (hij : i = j ∨ N.Knows D i j) (hjk : j = k ∨ N.Knows D j k) : i = k ∨ N'.Knows D i k := by
  by_cases hik : i = k
  · exact Or.inl hik
  · right
    rcases hij with rfl | hij
    · exact hround.grows.knows (hjk.resolve_left hik)
    · rcases hjk with rfl | hjk
      · exact hround.grows.knows hij
      · have hafter := hround.grows.run hrun
        apply hD.knows_of_settled hafter (Ne.symm hik)
        exact exchanged_settles hexact hrun (hround.exchanges i j hij) ((hround.exchanges j k hjk).asker hrun)
          (hD.length_le hafter j) hjk (Ne.symm hik) (hpublic k)

omit [Fintype ι] in
theorem rounds_run {N : ℕ → Network ι} {r : ℕ} (hrun : NetworkRun P D HandlerCall.EndpointsApart (N 0))
    (hrounds : ∀ q < r, Network.Round P D (N q) (N (q + 1))) :
    ∀ q ≤ r, NetworkRun P D HandlerCall.EndpointsApart (N q) := by
  intro q hq
  induction q with
  | zero => exact hrun
  | succ q ih => exact (hrounds q (by omega)).grows.run (ih (by omega))

theorem Deployment.Roomy.spans (hD : D.Roomy) (hexact : D.ExactFilters P)
    (hpublic : ∀ i, (D.localNode i).natType = kNatTypePublic) {N : ℕ → Network ι} {r : ℕ}
    (hrun : NetworkRun P D HandlerCall.EndpointsApart (N 0))
    (hrounds : ∀ q < r, Network.Round P D (N q) (N (q + 1))) {i k : ι}
    (hsteps : Steps (fun i j => i = j ∨ (N 0).Knows D i j) (2 ^ r) i k) : i = k ∨ (N r).Knows D i k := by
  have hsquare : ∀ q < r, ∀ i j k, (i = j ∨ (N q).Knows D i j) → (j = k ∨ (N q).Knows D j k) →
      i = k ∨ (N (q + 1)).Knows D i k :=
    fun q hq i j k hij hjk => hD.squares hexact hpublic (rounds_run hrun hrounds q hq.le) (hrounds q hq) hij hjk
  exact doubling_spans (R := fun q i j => i = j ∨ (N q).Knows D i j) hsquare hsteps

/-- In a network of public nodes that fits into one answer, whose nodes ask all they
know in every round, each node knows after `r` rounds every node that was within `2 ^ r`
steps of knowledge before. -/
theorem rounds_spread (hD : D.Roomy) (hexact : D.ExactFilters P)
    (hpublic : ∀ i, (D.localNode i).natType = kNatTypePublic) {N : ℕ → Network ι} {r : ℕ}
    (hrun : NetworkRun P D HandlerCall.EndpointsApart (N 0))
    (hrounds : ∀ q < r, Network.Round P D (N q) (N (q + 1))) {i k : ι} (hne : i ≠ k)
    (hsteps : Steps (fun i j => i = j ∨ (N 0).Knows D i j) (2 ^ r) i k) : (N r).Knows D i k :=
  (hD.spans hexact hpublic hrun hrounds hsteps).resolve_left hne

/-- If every node of such a network is within `2 ^ r` steps of the node nearest to a
target, then after `r` rounds, and in every later state, that node and no other takes
itself for the destination of the target. -/
theorem rounds_agree (hD : D.Roomy) (hexact : D.ExactFilters P)
    (hpublic : ∀ i, (D.localNode i).natType = kNatTypePublic) {N : ℕ → Network ι} {r : ℕ}
    (hrun : NetworkRun P D HandlerCall.EndpointsApart (N 0))
    (hrounds : ∀ q < r, Network.Round P D (N q) (N (q + 1))) {target : Bytes} (ht : target.length = kNodeIdSize)
    {k : ι} (hnearest : ∀ j, j ≠ k → xorDistance (D.localNode k).id target < xorDistance (D.localNode j).id target)
    (hsteps : ∀ i, i ≠ k → Steps (fun i j => i = j ∨ (N 0).Knows D i j) (2 ^ r) i k) {M : Network ι}
    (hlater : (N r).Grows P M) (i : ι) : ((M.table i).isDestination P target true).1 = true ↔ i = k := by
  have hlast := hlater.run (rounds_run hrun hrounds r (Nat.le_refl r))
  rw [(networkRun_reachable hlast i).isDestination_iff ht, networkRun_localId hlast i]
  constructor
  · intro hall
    by_contra hne
    have hspan := hD.spans hexact hpublic hrun hrounds (hsteps i hne)
    obtain ⟨n, hn, hid⟩ := hlater.knows (hspan.resolve_left hne)
    have hlt := hall n hn
    rw [hid] at hlt
    exact absurd (hnearest i hne) hlt.asymm
  · rintro rfl n hn
    obtain ⟨j, hid, _⟩ := (GenuineNetwork.run hlast).nodes i n hn
    rw [← hid]
    apply hnearest
    rintro rfl
    exact (networkRun_reachable hlast j).consistent.notLocal n hn (hid.symm.trans (networkRun_localId hlast j).symm)

end Rounds

section Samples

def threePublic : Deployment (Fin 3) where
  localNode i := { localEndingIn (UInt8.ofNat i) with natType := kNatTypePublic }
  port _ := 9000
  distinct := by decide +kernel

def callOf (handler : Handler) (out : List Outgoing) : HandlerCall where
  handler := handler
  message := (out.map Outgoing.message).headD {}
  packet := ⟨[50], 9000⟩

def bootstrapOf (N : Network (Fin 3)) (i : Fin 3) : List Outgoing × RoutingTable :=
  (LocalAction.bootstrap 1 [49] 9000 0).run .simple (N.table i)

def searchOf (N : Network (Fin 3)) (i : Fin 3) : List Outgoing × RoutingTable :=
  (LocalAction.findNeighbours (fun _ => 2) []).run .simple (N.table i)

def handled (N : Network (Fin 3)) (i : Fin 3) (c : HandlerCall) : List Outgoing × RoutingTable :=
  c.run .simple (N.table i)

theorem callOf_message (handler : Handler) (out : List Outgoing) (hone : out.length = 1) :
    ∃ o, out = [o] ∧ (callOf handler out).message = o.message := by
  obtain ⟨o, rfl⟩ := List.length_eq_one_iff.mp hone
  exact ⟨o, rfl, rfl⟩

theorem Network.Grows.delivered {N M : Network (Fin 3)} {i j : Fin 3} {handler : Handler}
    {result : List Outgoing × RoutingTable} (hgrows : N.Grows .simple (M.after j result)) (hone : result.1.length = 1)
    (htype : (callOf handler result.1).message.type.handler = some handler)
    (hok : (callOf handler result.1).EndpointsApart ((M.after j result).table i)) :
    N.Grows .simple ((M.after j result).after i (handled (M.after j result) i (callOf handler result.1))) := by
  obtain ⟨o, ho, hmessage⟩ := callOf_message handler result.1 hone
  refine .deliver hgrows i _ (o := o) ?_ hmessage (by rw [← hmessage, htype]; rfl) hok
  apply List.mem_append_right
  rw [ho]
  exact List.mem_singleton_self o

def oneKnown : Network (Fin 3) :=
  let N := Network.start threePublic
  let N' := N.after 1 (bootstrapOf N 1)
  N'.after 0 (handled N' 0 (callOf .handleBootstrapJoinRequest (bootstrapOf N 1).1))

def chain : Network (Fin 3) :=
  let N' := oneKnown.after 2 (bootstrapOf oneKnown 2)
  N'.after 1 (handled N' 1 (callOf .handleBootstrapJoinRequest (bootstrapOf oneKnown 2).1))

instance (D : Deployment (Fin 3)) (N : Network (Fin 3)) (i j : Fin 3) : Decidable (N.Knows D i j) :=
  inferInstanceAs (Decidable (∃ n ∈ (N.table i).nodes, _))

theorem chain_knows : ∀ i j, chain.Knows threePublic i j ↔ (i = 0 ∧ j = 1) ∨ (i = 1 ∧ j = 2) := by
  decide +kernel

theorem networkRun_chain : NetworkRun .simple threePublic HandlerCall.EndpointsApart chain := by
  have hone : (Network.start threePublic).Grows .simple oneKnown :=
    .delivered (.act .refl 1 (.bootstrap 1 [49] 9000 0) rfl) (by decide +kernel) (by decide +kernel)
      (by decide +kernel)
  have hchain : oneKnown.Grows .simple chain :=
    .delivered (.act .refl 2 (.bootstrap 1 [49] 9000 0) rfl) (by decide +kernel) (by decide +kernel)
      (by decide +kernel)
  exact (hone.trans hchain).run .start

def askedLast : Network (Fin 3) := chain.after 1 (searchOf chain 1)

def answeredLast : Network (Fin 3) :=
  askedLast.after 2 (handled askedLast 2 (callOf .handleFindNodesRequest (searchOf chain 1).1))

def askedFirst : Network (Fin 3) := answeredLast.after 0 (searchOf answeredLast 0)

def requestCall : HandlerCall := callOf .handleFindNodesRequest (searchOf answeredLast 0).1

def answeredFirst : Network (Fin 3) := askedFirst.after 1 (handled askedFirst 1 requestCall)

def spread : Network (Fin 3) :=
  answeredFirst.after 0 (handled answeredFirst 0
    (callOf .handleFindNodesResponse (handled askedFirst 1 requestCall).1))

theorem grows_answeredLast : chain.Grows .simple answeredLast :=
  .delivered (.act .refl 1 (.findNeighbours (fun _ => 2) []) rfl) (by decide +kernel) (by decide +kernel)
    (by decide +kernel)

theorem grows_answeredFirst : answeredLast.Grows .simple answeredFirst :=
  .delivered (.act .refl 0 (.findNeighbours (fun _ => 2) []) rfl) (by decide +kernel) (by decide +kernel)
    (by decide +kernel)

theorem grows_spread : answeredFirst.Grows .simple spread := by
  have hanswer : answeredFirst.Grows .simple (askedFirst.after 1 (handled askedFirst 1 requestCall)) := .refl
  exact .delivered hanswer (by decide +kernel) (by decide +kernel) (by decide +kernel)

/-- The second node gets no answer, the first hears of the third. -/
theorem round_spread : Network.Round .simple threePublic chain spread where
  grows := grows_answeredLast.trans (grows_answeredFirst.trans grows_spread)
  exchanges i j h := by
    rcases (chain_knows i j).mp h with ⟨rfl, rfl⟩ | ⟨rfl, rfl⟩
    · obtain ⟨o, ho, hmessage⟩ := callOf_message .handleFindNodesRequest (searchOf answeredLast 0).1
        (by decide +kernel)
      have hasked : o ∈ ((LocalAction.findNeighbours (fun _ => 2) []).run .simple (answeredLast.table 0)).1 :=
        ho ▸ List.mem_singleton_self o
      have hunderway : (answeredLast.after 0 (searchOf answeredLast 0)).Grows .simple askedFirst := .refl
      refine .exchanged grows_answeredLast hasked (by rw [← hmessage]; decide +kernel) hunderway rfl hmessage
        grows_spread (fun o' ho' => ?_)
      obtain ⟨answer, hanswer, hresponse⟩ := callOf_message .handleFindNodesResponse
        (handled askedFirst 1 requestCall).1 (by decide +kernel)
      have he : o' = answer := List.mem_singleton.mp (hanswer ▸ ho')
      exact ⟨answeredFirst, _, rfl, hresponse.trans (congrArg Outgoing.message he.symm), .refl, .refl⟩
    · obtain ⟨o, ho, hmessage⟩ := callOf_message .handleFindNodesRequest (searchOf chain 1).1
        (by decide +kernel)
      have hasked : o ∈ ((LocalAction.findNeighbours (fun _ => 2) []).run .simple (chain.table 1)).1 :=
        ho ▸ List.mem_singleton_self o
      have hunderway : (chain.after 1 (searchOf chain 1)).Grows .simple askedLast := .refl
      refine .exchanged .refl hasked (by rw [← hmessage]; decide +kernel) hunderway rfl hmessage
        (grows_answeredFirst.trans grows_spread) (fun o' ho' => ?_)
      have hnone : (handled askedLast 2 (callOf .handleFindNodesRequest (searchOf chain 1).1)).1.length = 0 := by
        decide +kernel
      rw [List.length_eq_zero_iff] at hnone
      exact absurd (hnone ▸ ho') List.not_mem_nil

theorem roomy_threePublic : threePublic.Roomy where
  size := by decide
  bucket i k := (Finset.card_le_univ _).trans (by decide)

theorem bloomContain_filterOf {nodes : List NodeInfo} {id : Bytes}
    (h : Platform.simple.bloomContain (filterOf .simple nodes) id = true) :
    ∃ n ∈ nodes, Platform.simple.xhash64 n.nodeId = Platform.simple.xhash64 id := by
  let hash : Bytes → UInt64 := Platform.simple.xhash64
  have hfold (ns : List NodeInfo) (b : List UInt64) :
      ∀ x ∈ ns.foldl (fun b n => hash n.nodeId :: b) b, x ∈ b ∨ ∃ n ∈ ns, hash n.nodeId = x := by
    induction ns generalizing b with
    | nil => exact fun x hx => Or.inl hx
    | cons n ns ih =>
      intro x hx
      obtain hin | ⟨n', hn', he⟩ := ih _ x hx
      · obtain rfl | hin := List.mem_cons.mp hin
        · exact Or.inr ⟨n, List.mem_cons_self, rfl⟩
        · exact Or.inl hin
      · exact Or.inr ⟨n', List.mem_cons_of_mem _ hn', he⟩
  have hmem : hash id ∈ nodes.foldl (fun b n => hash n.nodeId :: b) [] := by
    rw [filterOf, requestFilter] at h
    split at h
    · exact absurd (List.elem_iff.mp h) List.not_mem_nil
    · exact List.elem_iff.mp h
  exact (hfold nodes [] _ hmem).resolve_left List.not_mem_nil

theorem exactFilters_threePublic : threePublic.ExactFilters .simple := by
  have hhash : ∀ j k : Fin 3, Platform.simple.xhash64 (threePublic.localNode j).id =
      Platform.simple.xhash64 (threePublic.localNode k).id → j = k := by
    decide +kernel
  intro nodes hnodes k hk
  obtain ⟨n, hn, he⟩ := bloomContain_filterOf hk
  obtain ⟨j, hid⟩ := hnodes n hn
  rw [hid] at he
  obtain rfl := hhash j k he
  exact ⟨n, hn, hid⟩

/-- The first node did not know the third, which was two steps away. -/
theorem rounds_spread_three : ¬ chain.Knows threePublic 0 2 ∧ spread.Knows threePublic 0 2 := by
  refine ⟨by decide +kernel, ?_⟩
  let N : ℕ → Network (Fin 3) := fun q => if q = 0 then chain else spread
  have hrounds : ∀ q < 1, Network.Round .simple threePublic (N q) (N (q + 1)) := by
    intro q hq
    obtain rfl : q = 0 := by omega
    exact round_spread
  have hknows (i j : Fin 3) := (chain_knows i j).mpr
  exact rounds_spread (N := N) (r := 1) roomy_threePublic exactFilters_threePublic (by decide) networkRun_chain hrounds
    (by decide) ⟨1, Or.inr (hknows 0 1 (by decide)), 2, Or.inr (hknows 1 2 (by decide)), rfl⟩

/-- The first node took itself for the destination of the third one's id, and does not after the round. -/
theorem rounds_agree_three : ((chain.table 0).isDestination .simple (threePublic.localNode 2).id true).1 = true ∧
    ∀ i, ((spread.table i).isDestination .simple (threePublic.localNode 2).id true).1 = true ↔ i = 2 := by
  refine ⟨by decide +kernel, fun i => ?_⟩
  let N : ℕ → Network (Fin 3) := fun q => if q = 0 then chain else spread
  have hrounds : ∀ q < 1, Network.Round .simple threePublic (N q) (N (q + 1)) := by
    intro q hq
    obtain rfl : q = 0 := by omega
    exact round_spread
  have hknows (i j : Fin 3) := (chain_knows i j).mpr
  refine rounds_agree (N := N) (r := 1) roomy_threePublic exactFilters_threePublic (by decide) networkRun_chain
    hrounds rfl (by decide +kernel) ?_ .refl i
  intro i hi
  fin_cases i
  · exact ⟨1, Or.inr (hknows 0 1 (by decide)), 2, Or.inr (hknows 1 2 (by decide)), rfl⟩
  · exact ⟨1, Or.inl rfl, 2, Or.inr (hknows 1 2 (by decide)), rfl⟩
  · exact absurd rfl hi

end Samples
end XKad
