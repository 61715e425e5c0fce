import XKad.ClientIsolation
import XKad.Descents
import XKad.FindNodesReplies
import XKad.TreeMaps

/-!
# What the messages of a network lead to

Every handler answers a message by messages that lead to less: a join request by one
response, that by a search of a few nodes, a search by a reply of at most 16 nodes, a
listed node by a connect request, and that by one relayed copy with one more hop. If
no message is delivered twice, what nodes start on their own bounds all deliveries.
-/
namespace XKad
open Std

namespace RoutingTable

/-- The deliveries a find-nodes request can lead to among so many nodes, its own included. -/
def searchDeliveries (size : ℕ) : ℕ := 1 + (1 + 16 * (size + 1))

/-- The deliveries a join response can lead to. -/
def joinedDeliveries (size : ℕ) : ℕ := 1 + (kKadParamAlpha + kKadParamAlphaRandom) * searchDeliveries size

/-- The deliveries a message can lead to among the nodes `ids`, its own included. -/
def deliveries (ids : Finset Bytes) (m : RoutingMessage) : ℕ :=
  match m.type with
  | .kadConnectRequest => (ids \ m.hopNodes.toFinset).card + 1
  | .kadHandshake =>
    match m.data with
    | .handshake h => if h.type = kHandshakeResponse then 1 else 2
    | _ => 1
  | .kadFindNodesResponse =>
    match m.data with
    | .findNodesResponse r => 1 + r.nodes.length * (ids.card + 1)
    | _ => 1
  | .kadFindNodesRequest => searchDeliveries ids.card
  | .kadBootstrapJoinResponse => joinedDeliveries ids.card
  | .kadBootstrapJoinRequest => 1 + joinedDeliveries ids.card
  | .none | .kadDropNodeRequest => 1

def deliveriesOf (ids : Finset Bytes) (sent : List Outgoing) : ℕ :=
  (sent.map (fun o => deliveries ids o.message)).sum

section Weights
variable {ids : Finset Bytes} {m : RoutingMessage}

theorem deliveries_pos : 0 < deliveries ids m := by
  rw [deliveries]
  split
  · exact Nat.succ_pos _
  · split
    · split <;> decide
    · decide
  · split
    · exact Nat.lt_of_lt_of_le Nat.zero_lt_one (Nat.le_add_right _ _)
    · decide
  · exact Nat.lt_of_lt_of_le Nat.zero_lt_one (Nat.le_add_right _ _)
  · exact Nat.lt_of_lt_of_le Nat.zero_lt_one (Nat.le_add_right _ _)
  · exact Nat.lt_of_lt_of_le Nat.zero_lt_one (Nat.le_add_right _ _)
  · decide
  · decide

@[simp] theorem deliveriesOf_nil : deliveriesOf ids [] = 0 := rfl

@[simp] theorem deliveriesOf_singleton (o : Outgoing) : deliveriesOf ids [o] = deliveries ids o.message := by
  simp [deliveriesOf]

theorem deliveriesOf_append (sent sent' : List Outgoing) :
    deliveriesOf ids (sent ++ sent') = deliveriesOf ids sent + deliveriesOf ids sent' := by
  simp [deliveriesOf]

theorem deliveriesOf_le {sent : List Outgoing} {c : ℕ} (h : ∀ o ∈ sent, deliveries ids o.message ≤ c) :
    deliveriesOf ids sent ≤ sent.length * c := by
  rw [deliveriesOf, ← List.length_map (f := fun o => deliveries ids o.message)]
  apply List.sum_le_card_nsmul
  intro k hk
  obtain ⟨o, ho, rfl⟩ := List.mem_map.mp hk
  exact h o ho

end Weights

section Searches
variable (P : Platform) (t : RoutingTable)

theorem findClosestNodesMessage_type (mid : UInt32) (nodeId : Bytes) (count : UInt32) (nodes : List NodeInfo)
    (service : UInt64) (xip : Bytes) (node : NodeInfo) :
    (sendDataToNode (t.findClosestNodesMessage P mid nodeId count nodes service xip) node).message.type =
      .kadFindNodesRequest := by
  rw [sendDataToNode_message, setVersion_type]
  rfl

/-- The loop inserts only while the set is too small. -/
theorem size_drawAlphaNodes {nodes : List NodeInfo} {query query' : ExtTreeSet Bytes} {draws : List UInt32}
    (h : query.size ≤ kKadParamAlpha + kKadParamAlphaRandom) (hq : drawAlphaNodes nodes query draws = some query') :
    query'.size ≤ kKadParamAlpha + kKadParamAlphaRandom := by
  induction draws generalizing query with
  | nil =>
    rw [drawAlphaNodes] at hq
    split at hq
    · cases hq
    · cases hq
      exact h
  | cons draw draws ih =>
    rw [drawAlphaNodes] at hq
    split at hq
    · rename_i hroom
      dsimp only at hq
      split at hq
      · cases hq
      · split at hq
        · exact ih h hq
        · apply ih _ hq
          exact ExtTreeSet.size_insert_le.trans hroom
    · cases hq
      exact h

theorem size_getClosestAlphaNodes {draws : List UInt32} {query : ExtTreeSet Bytes} {t' : RoutingTable}
    (h : t.getClosestAlphaNodes P draws = (some query, t')) :
    query.size ≤ kKadParamAlpha + kKadParamAlphaRandom := by
  have hfill (l : List NodeInfo) : (l.foldl (fun q n => q.insert n.nodeId) (∅ : ExtTreeSet Bytes)).size ≤ l.length := by
    have hle := size_foldl_insert_le NodeInfo.nodeId l (∅ : ExtTreeSet Bytes)
    rwa [ExtTreeSet.size_empty, Nat.zero_add] at hle
  rw [getClosestAlphaNodes] at h
  split at h
  · rename_i hsmall
    cases h
    exact (hfill t.nodes).trans hsmall
  · have hquery := congrArg Prod.fst h
    apply size_drawAlphaNodes _ hquery
    apply (hfill _).trans
    rw [List.length_take]
    have hcount : (t.sortNodesByTargetXid P t.localId kKadParamAlpha).1 ≤ kKadParamAlpha := by
      rw [sortNodesByTargetXid, sortNodesBy]
      split
      · exact Int.natCast_nonneg _
      · exact min_le_left _ _
    have hle := Int.toNat_le_toNat hcount
    rw [Int.toNat_natCast] at hle
    omega

/-- A search asks a few nodes by one request each. -/
theorem length_findClosestNodes (mid : Bytes → UInt32) (draws : List UInt32) (attempts : ℤ) (count : UInt32)
    (nodes : List NodeInfo) : ((t.findClosestNodes P mid draws attempts count nodes).1.getD []).length ≤
      kKadParamAlpha + kKadParamAlphaRandom := by
  dsimp only [findClosestNodes]
  split_ifs
  · exact Nat.zero_le _
  · exact (length_sendFindClosestNodes _ _ _ _ _).trans (by decide)
  · split
    · exact Nat.zero_le _
    · rename_i query t' hquery
      have hsize := size_getClosestAlphaNodes P t hquery
      have hsum := List.sum_le_card_nsmul
        (query.toList.map (fun id =>
          (((t'.sendFindClosestNodes P (mid id) id count nodes t'.localNode.serviceType).map
            Prod.snd).getD []).length)) 1 (by
        intro k hk
        obtain ⟨id, _, rfl⟩ := List.mem_map.mp hk
        exact length_sendFindClosestNodes _ _ _ _ _)
      rw [List.length_map, ExtTreeSet.length_toList, smul_eq_mul, Nat.mul_one] at hsum
      dsimp only
      rw [askNodes_eq]
      split
      · exact Nat.zero_le _
      · dsimp only [Option.getD_some]
        rw [List.length_flatMap]
        exact hsum.trans hsize

theorem findClosestNodes_type (mid : Bytes → UInt32) (draws : List UInt32) (attempts : ℤ) (count : UInt32)
    (nodes : List NodeInfo) : ∀ o ∈ (t.findClosestNodes P mid draws attempts count nodes).1.getD [],
      o.message.type = .kadFindNodesRequest := by
  intro o ho
  obtain ⟨_, _, _, _, _, rfl⟩ := findClosestNodes_sent ho
  exact findClosestNodesMessage_type P t _ _ _ _ _ _ _

theorem deliveriesOf_findClosestNodes (ids : Finset Bytes) (mid : Bytes → UInt32) (draws : List UInt32)
    (attempts : ℤ) (count : UInt32) (nodes : List NodeInfo) :
    deliveriesOf ids ((t.findClosestNodes P mid draws attempts count nodes).1.getD []) ≤
      (kKadParamAlpha + kKadParamAlphaRandom) * searchDeliveries ids.card := by
  have hsearch : ∀ o ∈ (t.findClosestNodes P mid draws attempts count nodes).1.getD [],
      deliveries ids o.message ≤ searchDeliveries ids.card := by
    intro o ho
    rw [deliveries, findClosestNodes_type P t mid draws attempts count nodes o ho]
  apply (deliveriesOf_le hsearch).trans
  exact Nat.mul_le_mul_right _ (length_findClosestNodes P t mid draws attempts count nodes)

end Searches

section Handlers
variable (P : Platform) (ids : Finset Bytes) (m : RoutingMessage) (packet : XPacket) (mid : Bytes → UInt32)
  (t : RoutingTable)

theorem deliveriesOf_handleConnectRequest (hid : t.localId ∈ ids) (hm : m.type = .kadConnectRequest) :
    deliveriesOf ids (t.handleConnectRequest P m).1 < deliveries ids m := by
  rcases handleConnectRequest_sends P m t with he | he
  · rw [he, deliveriesOf_nil]
    exact deliveries_pos
  · rw [he]
    obtain he | ⟨node, hnext, he⟩ := sendToClosestNode_cases P m t
    · rw [he, deliveriesOf_nil]
      exact deliveries_pos
    · have hnodup := (nextHop_some hnext).1
      have hnew : t.localId ∉ m.hopNodes := by
        intro hin
        exact List.disjoint_of_nodup_append hnodup hin (List.mem_singleton_self _)
      have hhops : (withHop m t.localId).hopNodes.toFinset = insert t.localId m.hopNodes.toFinset := by
        rw [withHop, List.toFinset_append, Finset.union_comm]
        rfl
      have hlt : (ids \ insert t.localId m.hopNodes.toFinset).card < (ids \ m.hopNodes.toFinset).card := by
        apply Finset.card_lt_card
        refine ⟨Finset.sdiff_subset_sdiff (Finset.Subset.refl _) (Finset.subset_insert _ _), fun hsub => ?_⟩
        have hin := hsub (Finset.mem_sdiff.mpr ⟨hid, fun hin => hnew (List.mem_toFinset.mp hin)⟩)
        exact (Finset.mem_sdiff.mp hin).2 (Finset.mem_insert_self _ _)
      have htype : (withHop m t.localId).type = .kadConnectRequest := hm
      rw [he, deliveriesOf_singleton, sendDataToNode_message, deliveries, deliveries, setVersion_type,
        setVersion_hopNodes, htype, hm, hhops]
      exact Nat.succ_lt_succ hlt

theorem deliveriesOf_handleHandshake (mid : UInt32) (hm : m.type = .kadHandshake) :
    deliveriesOf ids (t.handleHandshake P mid m packet).1 < deliveries ids m := by
  rcases handleHandshake_cases P mid m packet t with hnil | ⟨_, ⟨h, hdata, hres⟩, xip, _, hone⟩
  · rw [hnil]
    exact deliveries_pos
  · have hsent : deliveries ids m = 2 := by
      rw [deliveries, hm, hdata]
      exact if_neg hres
    rw [hone, hsent, deliveriesOf_singleton, sendData, deliveries, setVersion_type, setVersion_data]
    exact Nat.lt_succ_self 1

theorem deliveriesOf_handleBootstrapJoinRequest (mid : UInt32) (hm : m.type = .kadBootstrapJoinRequest) :
    deliveriesOf ids (t.handleBootstrapJoinRequest P mid m packet).1 < deliveries ids m := by
  rcases handleBootstrapJoinRequest_cases P mid m packet t with hnil | ⟨xip, dxip, _, _, hone⟩
  · rw [hnil]
    exact deliveries_pos
  · have hsent : deliveries ids m = 1 + joinedDeliveries ids.card := by rw [deliveries, hm]
    have hanswer : deliveries ids (setVersion (t.joinResponseMessage mid m packet xip dxip)) =
        joinedDeliveries ids.card := by
      rw [deliveries, setVersion_type]
      rfl
    rw [hone, hsent, deliveriesOf_singleton, sendData, hanswer]
    omega

theorem deliveriesOf_handleBootstrapJoinResponse (mid : Bytes → UInt32) (draws : List UInt32)
    (hm : m.type = .kadBootstrapJoinResponse) :
    deliveriesOf ids ((t.handleBootstrapJoinResponse P mid draws m packet).1.getD []) < deliveries ids m := by
  rw [handleBootstrapJoinResponse, isDestination_direct]
  by_cases hdes : m.desNodeId = t.localId
  · rw [decide_eq_true hdes]
    cases m.data with
    | bootstrapJoinResponse r =>
      dsimp only
      split_ifs
      · exact deliveries_pos
      · exact deliveries_pos
      · split
        · exact deliveries_pos
        · have hsent : deliveries ids m = joinedDeliveries ids.card := by rw [deliveries, hm]
          rw [hsent, joinedDeliveries, Nat.lt_one_add_iff]
          exact deliveriesOf_findClosestNodes P _ ids mid draws _ _ _
    | _ => exact deliveries_pos
  · rw [decide_eq_false hdes]
    exact deliveries_pos

theorem length_listNodes (target : Bytes) (contain : Bytes → Bool) (ns : List NodeInfo) {listed : List PbNodeInfo}
    (h : listed.length ≤ 16) : (listNodes target contain ns listed).length ≤ 16 := by
  rw [listNodes_eq target contain ns listed h, List.length_append, List.length_map, List.length_take]
  omega

theorem length_replyNodes (r : FindClosestNodesRequest) {nodes : List PbNodeInfo}
    (h : (t.replyNodes P r).1 = some nodes) : nodes.length ≤ 16 := by
  dsimp only [replyNodes] at h
  obtain ⟨own, hown, rfl⟩ := Option.map_eq_some_iff.mp h
  have hone : own.length ≤ 1 := length_ownEntry_le hown
  exact length_listNodes _ _ _ (hone.trans (by decide))

theorem deliveriesOf_handleFindNodesRequest (mid : UInt32) (hm : m.type = .kadFindNodesRequest) :
    deliveriesOf ids (t.handleFindNodesRequest P mid m packet).1 < deliveries ids m := by
  have hsent : deliveries ids m = searchDeliveries ids.card := by rw [deliveries, hm]
  rw [handleFindNodesRequest]
  split_ifs
  · exact deliveries_pos
  · cases m.data with
    | findNodesRequest r =>
      dsimp only
      split <;> rename_i heq
      · exact deliveries_pos
      · split_ifs
        · exact deliveries_pos
        · have hlength := length_replyNodes P (t.admitRequester P (nodeOfPb P r.srcNodeinfo)) r (congrArg Prod.fst heq)
          have hle := Nat.mul_le_mul_right (ids.card + 1) hlength
          rw [hsent, deliveriesOf_singleton, sendData, deliveries, setVersion_type, setVersion_data, searchDeliveries]
          dsimp only
          omega
    | _ => exact deliveries_pos

section ConnectRequests
variable (id relayId : Bytes) (serviceType : UInt64) (mid : UInt32)

theorem connectRequestMessage_type :
    (t.connectRequestMessage mid id relayId serviceType).type = .kadConnectRequest := by
  dsimp only [connectRequestMessage]
  split <;> rfl

theorem connectRequestMessage_hopNodes :
    (t.connectRequestMessage mid id relayId serviceType).hopNodes = [] := by
  dsimp only [connectRequestMessage]
  split <;> rfl

end ConnectRequests

theorem deliveriesOf_handleFoundNode (n : PbNodeInfo) :
    deliveriesOf ids (t.handleFoundNode P mid m packet n).1 ≤ ids.card + 1 := by
  dsimp only [handleFoundNode]
  split
  · exact Nat.zero_le _
  · split_ifs
    · exact Nat.zero_le _
    · exact Nat.zero_le _
    · exact Nat.zero_le _
    · exact Nat.zero_le _
    · rw [sendConnectRequest]
      split
      · exact Nat.zero_le _
      · rw [deliveriesOf_singleton, sendData, deliveries, setVersion_type, setVersion_hopNodes,
          connectRequestMessage_type, connectRequestMessage_hopNodes]
        exact Nat.succ_le_succ (Finset.card_le_card Finset.sdiff_subset)

theorem deliveriesOf_handleFoundNodes (ns : List PbNodeInfo) :
    deliveriesOf ids (t.handleFoundNodes P mid m packet ns).1 ≤ ns.length * (ids.card + 1) := by
  induction ns generalizing t with
  | nil => exact Nat.zero_le _
  | cons n ns ih =>
    have hfirst := deliveriesOf_handleFoundNode P ids m packet mid t n
    have hrest := ih (t.handleFoundNode P mid m packet n).2
    rw [handleFoundNodes, deliveriesOf_append, List.length_cons, Nat.succ_mul]
    omega

theorem deliveriesOf_handleFindNodesResponse (hm : m.type = .kadFindNodesResponse) :
    deliveriesOf ids (t.handleFindNodesResponse P mid m packet).1 < deliveries ids m := by
  rw [handleFindNodesResponse]
  split_ifs
  · exact deliveries_pos
  · cases hdata : m.data with
    | findNodesResponse r =>
      have hsent : deliveries ids m = 1 + r.nodes.length * (ids.card + 1) := by rw [deliveries, hm, hdata]
      rw [hsent, Nat.lt_one_add_iff]
      exact deliveriesOf_handleFoundNodes P ids m packet mid t r.nodes
    | _ => exact deliveries_pos

end Handlers

/-- Whatever the table, a handled message leads to more deliveries than the messages
sent for it. -/
theorem deliveriesOf_handlerCall (P : Platform) {ids : Finset Bytes} {c : HandlerCall} {t : RoutingTable}
    (hid : t.localId ∈ ids) (hc : c.message.type.handler = some c.handler) :
    deliveriesOf ids (c.run P t).1 < deliveries ids c.message := by
  obtain ⟨handler, m, packet, mid, draws⟩ := c
  dsimp only at hc
  rw [HandlerCall.run]
  cases hm : m.type with
  | none =>
    rw [hm] at hc
    cases hc
  | kadDropNodeRequest =>
    rw [hm] at hc
    cases hc
  | kadConnectRequest =>
    rw [hm] at hc
    cases hc
    exact deliveriesOf_handleConnectRequest P ids m t hid hm
  | kadHandshake =>
    rw [hm] at hc
    cases hc
    exact deliveriesOf_handleHandshake P ids m packet t _ hm
  | kadBootstrapJoinRequest =>
    rw [hm] at hc
    cases hc
    exact deliveriesOf_handleBootstrapJoinRequest P ids m packet t _ hm
  | kadBootstrapJoinResponse =>
    rw [hm] at hc
    cases hc
    exact deliveriesOf_handleBootstrapJoinResponse P ids m packet t mid draws hm
  | kadFindNodesRequest =>
    rw [hm] at hc
    cases hc
    exact deliveriesOf_handleFindNodesRequest P ids m packet t _ hm
  | kadFindNodesResponse =>
    rw [hm] at hc
    cases hc
    exact deliveriesOf_handleFindNodesResponse P ids m packet mid t hm

/-- Each message a node starts on its own leads to at most as many deliveries as a join. -/
theorem deliveries_localAction (P : Platform) (ids : Finset Bytes) (a : LocalAction) (t : RoutingTable) :
    ∀ o ∈ (a.run P t).1, deliveries ids o.message ≤ 1 + joinedDeliveries ids.card := by
  have hsearch : searchDeliveries ids.card ≤ 1 + joinedDeliveries ids.card := by
    dsimp only [joinedDeliveries, kKadParamAlpha, kKadParamAlphaRandom]
    omega
  cases a with
  | bootstrap mid peerIp peerPort service =>
    intro o ho
    rw [deliveries, bootstrap_type o ho]
  | sendFindClosestNodes mid nodeId count nodes service =>
    intro o ho
    obtain ⟨_, _, _, rfl⟩ := sendFindClosestNodes_sent ho
    rw [deliveries, findClosestNodesMessage_type P t mid nodeId count nodes service]
    exact hsearch
  | findNeighbours mid draws =>
    intro o ho
    dsimp only [LocalAction.run, findNeighbours] at ho
    split at ho
    · cases ho
    · rw [deliveries, findClosestNodes_type P _ mid draws _ _ _ o ho]
      exact hsearch
  | doTetection mid =>
    intro o ho
    dsimp only [LocalAction.run, NodeDetectionManager.doTetection] at ho
    split at ho
    · cases ho
    · obtain ⟨e, _, ho⟩ := List.mem_flatMap.mp ho
      split at ho
      · rw [NodeDetectionManager.handshake] at ho
        split at ho
        · cases ho
        · rw [List.mem_singleton.mp ho]
          exact (show (2 : ℕ) ≤ searchDeliveries ids.card by rw [searchDeliveries]; omega).trans hsearch
      · cases ho
  | onHeartbeatFailed ip port =>
    intro o ho
    cases ho

end RoutingTable

open RoutingTable

section Networks
variable {ι : Type} [DecidableEq ι] (P : Platform)

/-- A node acts on its own and leaves its table. -/
def Acts (table : ι → RoutingTable) (sent : List Outgoing) (table' : ι → RoutingTable) : Prop :=
  ∃ i a, (LocalAction.run P (table i) a).1 = sent ∧
    Function.update table i (LocalAction.run P (table i) a).2 = table'

/-- A message in flight reaches some node, under any source endpoint, and is handled. -/
def Takes (table : ι → RoutingTable) (o : Outgoing) (sent : List Outgoing) (table' : ι → RoutingTable) : Prop :=
  ∃ i, ∃ c : HandlerCall, c.message = o.message ∧ o.message.type.handler = some c.handler ∧
    (c.run P (table i)).1 = sent ∧ Function.update table i (c.run P (table i)).2 = table'

/-- The runs of a network that delivers no message twice. What is never delivered is lost. -/
abbrev OnceRun (D : Deployment ι) (n : ℕ) (begun : List Outgoing) (table : ι → RoutingTable)
    (flight : Multiset Outgoing) : Prop :=
  Cascade (Acts P) (Takes P) (fun i => RoutingTable.init (D.localNode i) (D.port i)) n begun table flight

def Deployed (D : Deployment ι) (table : ι → RoutingTable) : Prop := ∀ i, (table i).localId = (D.localNode i).id

variable {P} {D : Deployment ι}

theorem Deployed.update {table : ι → RoutingTable} (h : Deployed D table) {i : ι} {t : RoutingTable}
    (ht : t.localId = (table i).localId) : Deployed D (Function.update table i t) := by
  intro j
  by_cases hj : j = i
  · subst hj
    rw [Function.update_self, ht, h]
  · rw [Function.update_of_ne hj, h]

theorem Deployed.acts {table table' : ι → RoutingTable} {sent : List Outgoing} (h : Deployed D table)
    (ha : Acts P table sent table') : Deployed D table' := by
  obtain ⟨i, a, -, rfl⟩ := ha
  exact h.update (KeepsOut.action ∅ P a (table i)).localId

variable [Fintype ι]

def Deployment.ids (D : Deployment ι) : Finset Bytes := Finset.univ.image (fun i => (D.localNode i).id)

theorem Deployed.takes {table table' : ι → RoutingTable} {o : Outgoing} {sent : List Outgoing}
    (h : Deployed D table) (ht : Takes P table o sent table') :
    Deployed D table' ∧ deliveriesOf D.ids sent <
      deliveries D.ids o.message := by
  obtain ⟨i, c, hm, hh, rfl, rfl⟩ := ht
  rw [← hm] at hh ⊢
  refine ⟨h.update (handlerCall_evolves P c (table i)).changes.localId, ?_⟩
  apply deliveriesOf_handlerCall P _ hh
  rw [h i]
  exact Finset.mem_image_of_mem _ (Finset.mem_univ i)

/-- No storms: in a network that delivers no message twice, the messages delivered and
those in flight are at most a fixed multiple of the messages the nodes started on their
own, a multiple linear in the number of nodes. -/
theorem onceRun_deliveries_le {n : ℕ} {begun : List Outgoing} {table : ι → RoutingTable}
    {flight : Multiset Outgoing} (h : OnceRun P D n begun table flight) :
    n + flight.card ≤ begun.length * (1 + joinedDeliveries (Fintype.card ι)) := by
  have hstart : Deployed D (fun i => RoutingTable.init (D.localNode i) (D.port i)) := fun i => init_localId _ _
  have hweighed := (h.invariant (fun _ _ _ hi ht => hi.acts ht) (fun _ _ _ _ hi ht => hi.takes ht) hstart).2
  have hbegun := h.begun_all (fun _ _ _ ht o ho => by
    obtain ⟨i, a, rfl, -⟩ := ht
    exact deliveries_localAction P D.ids a _ o ho)
  have hflight : flight.card ≤ (flight.map (fun o => deliveries D.ids o.message)).sum := by
    have hone : ∀ k ∈ flight.map (fun o => deliveries D.ids o.message), 1 ≤ k := by
      intro k hk
      obtain ⟨o, _, rfl⟩ := Multiset.mem_map.mp hk
      exact deliveries_pos
    have hle := Multiset.card_nsmul_le_sum hone
    rwa [Multiset.card_map, smul_eq_mul, Nat.mul_one] at hle
  have hsize : D.ids.card = Fintype.card ι :=
    Finset.card_image_of_injective _ D.distinct
  have hle := deliveriesOf_le hbegun
  rw [hsize] at hle
  exact (Nat.add_le_add_left hflight n).trans (hweighed.trans hle)

end Networks

section Samples

/-- A node joins at another one, which answers the request. -/
theorem onceRun_deliveries_le_joining :
    let N := Network.start (nodesAndClient kNatTypeUnknown)
    1 + ((joinDelivery (N.table .first)).run .simple ((N.joining .first).table .second)).1.length ≤
      (N.joining .first).sent.length * (1 + joinedDeliveries (Fintype.card Host)) := by
  intro N
  have hbegun : OnceRun .simple (nodesAndClient kNatTypeUnknown) 0 (N.joining .first).sent (N.joining .first).table
      (N.joining .first).sent := by
    rw [← Multiset.zero_add ((N.joining .first).sent : Multiset Outgoing)]
    exact .begin .start ⟨.first, .bootstrap 1 [49] 9000 0, rfl, rfl⟩
  have htaken : OnceRun .simple (nodesAndClient kNatTypeUnknown) 1 (N.joining .first).sent
      (N.joinedAt .first .second).table
      (0 + ((joinDelivery (N.table .first)).run .simple ((N.joining .first).table .second)).1) :=
    .use hbegun ⟨.second, joinDelivery (N.table .first), rfl, rfl, rfl, rfl⟩
  have hle := onceRun_deliveries_le htaken
  rwa [Multiset.zero_add, Multiset.coe_card] at hle

end Samples
end XKad
