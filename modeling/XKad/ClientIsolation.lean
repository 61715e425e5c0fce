import XKad.HandlerEffects
import XKad.MessageRelay

/-!
# Clients and the tables of other nodes

A network of routing tables in which every message ever handed to the transport
may arrive anywhere and any number of times. A handshake response made by a client
is flagged, and `HandleHandshake` tests the flag. The other ways into a table are
open to clients: `Bootstrap` does not set the flag that `HandleBootstrapJoinRequest`
tests, and the two remaining handlers test nothing.
-/
namespace XKad
open Std

/-- The nodes of a network with the arguments of their `Init`. -/
structure Deployment (ι : Type) where
  localNode : ι → LocalNodeInfo
  port : ι → UInt16
  distinct : Function.Injective (fun i => (localNode i).id)

/-- The tables of all nodes and all messages sent so far. -/
structure Network (ι : Type) where
  table : ι → RoutingTable
  sent : List Outgoing

/-- What a node does on its own: the senders of the claims of membership, the timer
of the detection manager and a failed heartbeat. -/
inductive LocalAction where
  | bootstrap (mid : UInt32) (peerIp : Bytes) (peerPort : UInt16) (desServiceType : UInt64)
  | sendFindClosestNodes (mid : UInt32) (nodeId : Bytes) (count : UInt32) (nodes : List NodeInfo)
      (desServiceType : UInt64)
  | findNeighbours (mid : Bytes → UInt32) (draws : List UInt32)
  | doTetection (mid : Bytes → UInt32)
  | onHeartbeatFailed (ip : Bytes) (port : UInt16)

def LocalAction.run (P : Platform) (t : RoutingTable) : LocalAction → List Outgoing × RoutingTable
  | .bootstrap mid peerIp peerPort desServiceType => (t.bootstrap mid peerIp peerPort desServiceType, t)
  | .sendFindClosestNodes mid nodeId count nodes desServiceType =>
    (((t.sendFindClosestNodes P mid nodeId count nodes desServiceType).map Prod.snd).getD [], t)
  | .findNeighbours mid draws =>
    let (sent, t) := t.findNeighbours P mid draws
    (sent.getD [], t)
  | .doTetection mid =>
    let (sent, detection) := t.detection.doTetection t.localNode mid
    (sent, { t with detection := detection })
  | .onHeartbeatFailed ip port => ([], t.onHeartbeatFailed ip port)

namespace Network

variable {ι : Type} [DecidableEq ι]

/-- All nodes right after `Init`. -/
def start (D : Deployment ι) : Network ι where
  table i := RoutingTable.init (D.localNode i) (D.port i)
  sent := []

/-- Node `i` has sent the messages and left the table of `result`. -/
def after (N : Network ι) (i : ι) (result : List Outgoing × RoutingTable) : Network ι where
  table := Function.update N.table i result.2
  sent := N.sent ++ result.1

end Network

/-- The runs of the network. A message once sent may be delivered at any time to any
node, with any source endpoint, and stays for further deliveries; a message that is
never delivered is lost. Every delivery meets the condition `ok`. -/
inductive NetworkRun {ι : Type} [DecidableEq ι] (P : Platform) (D : Deployment ι)
    (ok : HandlerCall → RoutingTable → Prop) : Network ι → Prop where
  | start : NetworkRun P D ok (Network.start D)
  | act {N : Network ι} (h : NetworkRun P D ok N) (i : ι) (a : LocalAction) :
      NetworkRun P D ok (N.after i (a.run P (N.table i)))
  | deliver {N : Network ι} (h : NetworkRun P D ok N) (i : ι) (c : HandlerCall) {o : Outgoing}
      (ho : o ∈ N.sent) (hm : c.message = o.message) (hh : o.message.type.handler = some c.handler)
      (hok : ok c (N.table i)) : NetworkRun P D ok (N.after i (c.run P (N.table i)))

def Deployment.clientIds {ι : Type} (D : Deployment ι) : Set Bytes :=
  {id | ∃ i, (D.localNode i).clientMode = true ∧ (D.localNode i).id = id}

/-- Of the records a call offers, `AddNode` accepts none that names a client; a
handshake need not be looked at. -/
def HandlerCall.RefusesClients (P : Platform) (clients : Set Bytes) (c : HandlerCall) (t : RoutingTable) :
    Prop :=
  c.handler ≠ .handleHandshake → ∀ o ∈ c.offers P t, o.2.nodeId ∈ clients → ¬ o.1.Accepts o.2

namespace RoutingTable

/-- The handshake responses among the messages come from the node of `t`, and are
flagged if it is a client. -/
def ResponsesFlagged (t : RoutingTable) (sent : List Outgoing) : Prop :=
  ∀ o ∈ sent, ∀ h, o.message.data = .handshake h → h.type = kHandshakeResponse →
    o.message.srcNodeId = t.localId ∧ (t.localNode.clientMode = true → o.message.isClientMsg = true)

theorem ResponsesFlagged.nil (t : RoutingTable) : ResponsesFlagged t [] := by simp [ResponsesFlagged]

theorem ResponsesFlagged.of_data {t : RoutingTable} {sent : List Outgoing}
    (h : ∀ o ∈ sent, ∀ r, o.message.data ≠ .handshake r) : ResponsesFlagged t sent :=
  fun o ho r hr => absurd hr (h o ho r)

section Senders

variable (P : Platform) (mid : UInt32) (m : RoutingMessage) (packet : XPacket) (t : RoutingTable)

theorem bootstrap_type {mid : UInt32} {t : RoutingTable} {peerIp : Bytes} {peerPort : UInt16}
    {desServiceType : UInt64} (o : Outgoing) (ho : o ∈ t.bootstrap mid peerIp peerPort desServiceType) :
    o.message.type = .kadBootstrapJoinRequest := by
  rw [List.mem_singleton.mp ho, sendData, setVersion_type]
  split <;> rfl

theorem flagged_bootstrap (peerIp : Bytes) (peerPort : UInt16) (desServiceType : UInt64) :
    ResponsesFlagged t (t.bootstrap mid peerIp peerPort desServiceType) := by
  apply ResponsesFlagged.of_data
  intro o ho r
  rw [List.mem_singleton.mp ho, sendData, setVersion_data]
  exact MessageData.noConfusion

theorem findClosestNodesMessage_data (nodeId : Bytes) (count : UInt32) (nodes : List NodeInfo)
    (service : UInt64) (xip : Bytes) (node : NodeInfo) (r : Handshake) :
    (sendDataToNode (t.findClosestNodesMessage P mid nodeId count nodes service xip) node).message.data ≠
      .handshake r := by
  rw [sendDataToNode_message, setVersion_data]
  exact MessageData.noConfusion

theorem findClosestNodes_data (mid : Bytes → UInt32) (draws : List UInt32) (attempts : ℤ) (count : UInt32)
    (nodes : List NodeInfo) :
    ∀ o ∈ (t.findClosestNodes P mid draws attempts count nodes).1.getD [], ∀ r,
      o.message.data ≠ .handshake r := by
  intro o ho r
  obtain ⟨_, _, _, _, _, rfl⟩ := findClosestNodes_sent ho
  exact findClosestNodesMessage_data P _ t _ _ _ _ _ _ r

theorem flagged_findNeighbours (mid : Bytes → UInt32) (draws : List UInt32) :
    ResponsesFlagged t ((t.findNeighbours P mid draws).1.getD []) := by
  apply ResponsesFlagged.of_data
  rw [findNeighbours]
  split
  · simp
  · exact findClosestNodes_data P _ mid draws _ _ _

theorem handshake_data (l : LocalNodeInfo) (node : NodeInfo) (d : NodeDetectionManager) :
    ∀ o ∈ d.handshake l mid node, ∃ h, o.message.data = .handshake h ∧ h.type = kHandshakeRequest := by
  rw [NodeDetectionManager.handshake]
  split
  · simp
  · intro o ho
    rw [List.mem_singleton.mp ho]
    exact ⟨_, rfl, rfl⟩

theorem flagged_doTetection (l : LocalNodeInfo) (mid : Bytes → UInt32) (d : NodeDetectionManager) :
    ResponsesFlagged t (d.doTetection l mid).1 := by
  rw [NodeDetectionManager.doTetection]
  split
  · exact .nil t
  · intro o ho h hdata hres
    obtain ⟨e, _, ho⟩ := List.mem_flatMap.mp ho
    split at ho
    · obtain ⟨g, hg, hreq⟩ := handshake_data (mid e.1) l e.2 d o ho
      rw [hg] at hdata
      cases hdata
      rw [hreq] at hres
      exact absurd hres (by decide)
    · cases ho

theorem flagged_handleConnectRequest : ResponsesFlagged t (t.handleConnectRequest P m).1 := by
  apply ResponsesFlagged.of_data
  intro o ho r
  cases hparse : connectRequestOf m.data with
  | none =>
    simp [handleConnectRequest, hparse] at ho
  | some q =>
    have hm : m.data ≠ .handshake r := by
      intro hm
      rw [hm] at hparse
      cases hparse
    rcases handleConnectRequest_sends P m t with he | he
    · rw [he] at ho
      cases ho
    · rw [he] at ho
      obtain he | ⟨node, _, he⟩ := sendToClosestNode_cases P m t
      · rw [he] at ho
        cases ho
      · rw [he, List.mem_singleton] at ho
        rw [ho, sendDataToNode_message, setVersion_data]
        exact hm

theorem flagged_handleHandshake : ResponsesFlagged t (t.handleHandshake P mid m packet).1 := by
  rcases handleHandshake_cases P mid m packet t with hnil | ⟨hdes, _, xip, _, hone⟩
  · rw [hnil]
    exact .nil t
  · intro o ho g _ _
    rw [hone] at ho
    rw [List.mem_singleton.mp ho, sendData, setVersion_srcNodeId, RoutingMessage.isClientMsg, setVersion_clientMsg]
    refine ⟨hdes, fun hclient => ?_⟩
    simp [handshakeResponse, hclient]

theorem flagged_handleBootstrapJoinRequest :
    ResponsesFlagged t (t.handleBootstrapJoinRequest P mid m packet).1 := by
  rcases handleBootstrapJoinRequest_cases P mid m packet t with hnil | ⟨xip, dxip, _, _, hone⟩
  · rw [hnil]
    exact .nil t
  · apply ResponsesFlagged.of_data
    intro o ho r
    rw [hone] at ho
    rw [List.mem_singleton.mp ho, sendData, setVersion_data]
    exact MessageData.noConfusion

theorem flagged_handleBootstrapJoinResponse (mid : Bytes → UInt32) (draws : List UInt32) :
    ResponsesFlagged t ((t.handleBootstrapJoinResponse P mid draws m packet).1.getD []) := by
  apply ResponsesFlagged.of_data
  rw [handleBootstrapJoinResponse, isDestination_direct]
  by_cases hdes : m.desNodeId = t.localId
  · rw [decide_eq_true hdes]
    cases m.data with
    | bootstrapJoinResponse r =>
      dsimp only
      split_ifs
      · simp
      · simp
      · split
        · simp
        · exact findClosestNodes_data P _ mid draws _ _ _
    | _ => simp
  · rw [decide_eq_false hdes]
    simp

theorem flagged_handleFindNodesRequest : ResponsesFlagged t (t.handleFindNodesRequest P mid m packet).1 := by
  apply ResponsesFlagged.of_data
  rw [handleFindNodesRequest]
  by_cases hdes : m.desNodeId = t.localId
  · rw [if_neg (not_not.mpr hdes)]
    cases m.data with
    | findNodesRequest r =>
      dsimp only
      split
      · simp
      · split_ifs
        · simp
        · intro o ho r
          rw [List.mem_singleton.mp ho, sendData, setVersion_data]
          exact MessageData.noConfusion
    | _ => simp
  · rw [if_pos hdes]
    simp

theorem sendConnectRequest_data (relayId ip : Bytes) (port : UInt16) (id : Bytes) (serviceType : UInt64) :
    ∀ o ∈ t.sendConnectRequest mid relayId ip port id serviceType, ∀ r, o.message.data ≠ .handshake r := by
  rw [sendConnectRequest]
  split
  · simp
  · intro o ho r
    rw [List.mem_singleton.mp ho, sendData, setVersion_data]
    exact MessageData.noConfusion

theorem handleFoundNode_data (mid : Bytes → UInt32) (n : PbNodeInfo) :
    ∀ o ∈ (t.handleFoundNode P mid m packet n).1, ∀ r, o.message.data ≠ .handshake r := by
  dsimp only [handleFoundNode]
  split
  · simp
  · split_ifs
    · simp
    · simp
    · simp
    · simp
    · exact sendConnectRequest_data _ _ _ _ _ _ _

theorem handleFoundNodes_data (mid : Bytes → UInt32) (ns : List PbNodeInfo) :
    ∀ o ∈ (t.handleFoundNodes P mid m packet ns).1, ∀ r, o.message.data ≠ .handshake r := by
  induction ns generalizing t with
  | nil => simp [handleFoundNodes]
  | cons n ns ih =>
    intro o ho
    rcases List.mem_append.mp ho with ho | ho
    · exact handleFoundNode_data P m packet t mid n o ho
    · exact ih _ o ho

theorem flagged_handleFindNodesResponse (mid : Bytes → UInt32) :
    ResponsesFlagged t (t.handleFindNodesResponse P mid m packet).1 := by
  apply ResponsesFlagged.of_data
  rw [handleFindNodesResponse]
  by_cases hdes : m.desNodeId = t.localId
  · rw [if_neg (not_not.mpr hdes)]
    cases m.data with
    | findNodesResponse r => exact handleFoundNodes_data P m packet t mid r.nodes
    | _ => simp
  · rw [if_pos hdes]
    simp

theorem flagged_action (a : LocalAction) : ResponsesFlagged t (a.run P t).1 := by
  cases a with
  | bootstrap mid peerIp peerPort service => exact flagged_bootstrap mid t peerIp peerPort service
  | sendFindClosestNodes mid nodeId count nodes service =>
    refine .of_data (fun o ho r => ?_)
    obtain ⟨_, _, _, rfl⟩ := sendFindClosestNodes_sent ho
    exact findClosestNodesMessage_data P mid t nodeId count nodes service _ _ r
  | findNeighbours mid draws => exact flagged_findNeighbours P t mid draws
  | doTetection mid => exact flagged_doTetection t t.localNode mid t.detection
  | onHeartbeatFailed ip port => exact .nil t

theorem flagged_call (c : HandlerCall) : ResponsesFlagged t (c.run P t).1 := by
  rw [HandlerCall.run]
  cases c.handler with
  | handleConnectRequest => exact flagged_handleConnectRequest P c.message t
  | handleHandshake => exact flagged_handleHandshake P _ c.message c.packet t
  | handleBootstrapJoinRequest => exact flagged_handleBootstrapJoinRequest P _ c.message c.packet t
  | handleBootstrapJoinResponse =>
    exact flagged_handleBootstrapJoinResponse P c.message c.packet t c.mid c.draws
  | handleFindNodesRequest => exact flagged_handleFindNodesRequest P _ c.message c.packet t
  | handleFindNodesResponse => exact flagged_handleFindNodesResponse P c.message c.packet t c.mid

end Senders

theorem handshakeOffers_mem {P : Platform} {m : RoutingMessage} {packet : XPacket} {t : RoutingTable}
    {o : RoutingTable × NodeInfo} (ho : o ∈ handshakeOffers P m packet t) :
    o.2.nodeId = m.srcNodeId ∧ m.isClientMsg = false ∧
      ∃ h, m.data = .handshake h ∧ h.type = kHandshakeResponse := by
  rw [handshakeOffers] at ho
  split at ho
  · cases ho
  · split at ho
    · rename_i h hdata
      split at ho
      · rename_i hcond
        rw [List.mem_singleton.mp ho]
        exact ⟨by simp [handshakeNode], by simpa using hcond.2, h, hdata, hcond.1⟩
      · cases ho
    · cases ho

/-- A step that brings no node of `clients` into the table and keeps its identity. -/
structure KeepsOut (clients : Set Bytes) (t t' : RoutingTable) : Prop where
  localId : t'.localId = t.localId
  clientMode : t'.localNode.clientMode = t.localNode.clientMode
  nodes : (∀ n ∈ t.nodes, n.nodeId ∉ clients) → ∀ n ∈ t'.nodes, n.nodeId ∉ clients

namespace KeepsOut

variable {clients : Set Bytes} {t t' t'' : RoutingTable}

theorem of_keeps (h : Keeps t t') : KeepsOut clients t t' where
  localId := h.localId
  clientMode := h.clientMode
  nodes ht n hn := ht n (h.nodes.mem_iff.mp hn)

theorem trans (h : KeepsOut clients t t') (h' : KeepsOut clients t' t'') : KeepsOut clients t t'' where
  localId := h'.localId.trans h.localId
  clientMode := h'.clientMode.trans h.clientMode
  nodes ht := h'.nodes (h.nodes ht)

theorem drop (clients : Set Bytes) (node : NodeInfo) (t : RoutingTable) :
    KeepsOut clients t (t.dropNode node) where
  localId := dropNode_localId t node
  clientMode := (LocalNodeInfo.sameIdentity_dropDxip t.localNode node.nodeId).clientMode
  nodes ht n hn := ht n (List.mem_of_mem_eraseP hn)

theorem dropAll (clients : Set Bytes) (ns : List NodeInfo) (t : RoutingTable) :
    KeepsOut clients t (ns.foldl (fun t n => t.dropNode n) t) := by
  induction ns generalizing t with
  | nil => exact .of_keeps (.refl t)
  | cons n ns ih => exact (drop clients n t).trans (ih _)

theorem action (clients : Set Bytes) (P : Platform) (a : LocalAction) (t : RoutingTable) :
    KeepsOut clients t (a.run P t).2 := by
  cases a with
  | bootstrap => exact .of_keeps (.refl t)
  | sendFindClosestNodes => exact .of_keeps (.refl t)
  | findNeighbours mid draws => exact .of_keeps (keeps_findNeighbours P t mid draws)
  | doTetection mid => exact .of_keeps (.detection _ t)
  | onHeartbeatFailed ip port => exact dropAll clients _ t

/-- A call that offers no record of a client which `AddNode` accepts. -/
theorem evolves {os : List (RoutingTable × NodeInfo)} (h : Evolves os t t')
    (hos : ∀ o ∈ os, o.2.nodeId ∈ clients → ¬ o.1.Accepts o.2) : KeepsOut clients t t' := by
  refine h.induct (I := KeepsOut clients t) (fun s s' hk hs => hs.trans (of_keeps hk)) ?_
    (.of_keeps (.refl t))
  intro s u node ho hacc _ hu
  refine ⟨hu.localId, hu.clientMode, fun ht n hn => ?_⟩
  rcases List.mem_append.mp hn with hn | hn
  · exact hu.nodes ht n hn
  · rw [List.mem_singleton.mp hn]
    exact fun hin => hos _ ho hin hacc

end KeepsOut

end RoutingTable

/-- The invariant of the network: tables keep the identity of their nodes, the
handshake responses sent by clients are flagged, and no table holds a client. -/
structure ClientsApart {ι : Type} (D : Deployment ι) (N : Network ι) : Prop where
  localId : ∀ i, (N.table i).localId = (D.localNode i).id
  clientMode : ∀ i, (N.table i).localNode.clientMode = (D.localNode i).clientMode
  flagged : ∀ o ∈ N.sent, ∀ h, o.message.data = .handshake h → h.type = kHandshakeResponse →
    o.message.srcNodeId ∈ D.clientIds → o.message.isClientMsg = true
  nodes : ∀ i, ∀ n ∈ (N.table i).nodes, n.nodeId ∉ D.clientIds

namespace ClientsApart
open RoutingTable

variable {ι : Type} {D : Deployment ι} {N : Network ι}

theorem start (D : Deployment ι) : ClientsApart D (Network.start D) where
  localId i := init_localId _ _
  clientMode i := init_clientMode _ _
  flagged o ho := by cases ho
  nodes i n hn := by cases hn

variable [DecidableEq ι]

/-- Any step of a node that keeps clients out and sends no unflagged response. -/
theorem after (h : ClientsApart D N) (i : ι) {result : List Outgoing × RoutingTable}
    (hout : KeepsOut D.clientIds (N.table i) result.2) (hsent : ResponsesFlagged (N.table i) result.1) :
    ClientsApart D (N.after i result) := by
  have htable (j : ι) : (N.after i result).table j = if j = i then result.2 else N.table j := by
    by_cases hj : j = i
    · subst hj
      simp [Network.after]
    · simp [Network.after, hj]
  refine ⟨?_, ?_, ?_, ?_⟩
  · intro j
    rw [htable]
    split
    · rename_i hj
      rw [hout.localId, hj, h.localId]
    · exact h.localId j
  · intro j
    rw [htable]
    split
    · rename_i hj
      rw [hout.clientMode, hj, h.clientMode]
    · exact h.clientMode j
  · intro o ho g hg hres hclient
    rcases List.mem_append.mp ho with ho | ho
    · exact h.flagged o ho g hg hres hclient
    · obtain ⟨hsrc, hflag⟩ := hsent o ho g hg hres
      obtain ⟨k, hk, hid⟩ := hclient
      -- ids are distinct, so the sender is the client
      have hik : k = i := D.distinct (hid.trans (hsrc.trans (h.localId i)))
      apply hflag
      rw [h.clientMode, ← hik, hk]
  · intro j n hn
    rw [htable] at hn
    split at hn
    · exact hout.nodes (h.nodes i) n hn
    · exact h.nodes j n hn

/-- A handshake is safe because of the flag, the other calls by the condition. -/
theorem call (h : ClientsApart D N) {P : Platform} (i : ι) {c : HandlerCall} {o : Outgoing} (ho : o ∈ N.sent)
    (hm : c.message = o.message) (hok : c.RefusesClients P D.clientIds (N.table i)) :
    ClientsApart D (N.after i (c.run P (N.table i))) := by
  refine h.after i (.evolves (handlerCall_evolves P c _) ?_) (flagged_call P _ c)
  intro r hr hclient
  by_cases hc : c.handler = .handleHandshake
  · have hmem : r ∈ handshakeOffers P c.message c.packet (N.table i) := by
      simpa [HandlerCall.offers, hc] using hr
    obtain ⟨hsrc, hunflagged, g, hg, hres⟩ := handshakeOffers_mem hmem
    rw [hm] at hsrc hunflagged hg
    have hflagged := h.flagged o ho g hg hres (hsrc ▸ hclient)
    rw [hunflagged] at hflagged
    cases hflagged
  · exact hok hc r hr hclient

end ClientsApart

/-- No client is in the table of another node. -/
def ClientFree {ι : Type} (D : Deployment ι) (N : Network ι) : Prop :=
  ∀ i j, i ≠ j → (D.localNode i).clientMode = true → ∀ n ∈ (N.table j).nodes, n.nodeId ≠ (D.localNode i).id

namespace ClientsApart

variable {ι : Type} {D : Deployment ι} {N : Network ι}

theorem clientFree (h : ClientsApart D N) : ClientFree D N :=
  fun i j _ hclient n hn hid => h.nodes j n hn ⟨i, hclient, hid.symm⟩

variable [DecidableEq ι]

theorem call_iff (h : ClientsApart D N) {P : Platform} (i : ι) {c : HandlerCall} {o : Outgoing}
    (ho : o ∈ N.sent) (hm : c.message = o.message) :
    ClientFree D (N.after i (c.run P (N.table i))) ↔ c.RefusesClients P D.clientIds (N.table i) := by
  constructor
  · rintro hfree _ r hr ⟨k, hclient, hid⟩ hacc
    obtain ⟨hne, n, hn, hnode⟩ := (handlerCall_evolves P c (N.table i)).mem_of_accepts hr hacc
    have hki : k ≠ i := by
      rintro rfl
      exact hne (hid.symm.trans (h.localId k).symm)
    apply hfree k i hki hclient n
    · simpa [Network.after] using hn
    · exact hnode.trans hid.symm
  · exact fun hok => (h.call i ho hm hok).clientFree

end ClientsApart

/-- In a run in which no delivery outside of handshakes offers an acceptable record of a
client, no client comes into the table of another node; the first delivery that does
brings one in. -/
theorem networkRun_clientFree {ι : Type} [DecidableEq ι] {P : Platform} {D : Deployment ι} {N : Network ι}
    (h : NetworkRun P D (HandlerCall.RefusesClients P D.clientIds) N) :
    ClientFree D N ∧ ∀ i (c : HandlerCall), ∀ o ∈ N.sent, c.message = o.message →
      (ClientFree D (N.after i (c.run P (N.table i))) ↔ c.RefusesClients P D.clientIds (N.table i)) := by
  have hapart : ClientsApart D N := by
    induction h with
    | start => exact .start D
    | act _ i a ih =>
      exact ih.after i (.action D.clientIds P a _) (RoutingTable.flagged_action P _ a)
    | deliver _ i c ho hm _ hok ih => exact ih.call i ho hm hok
  exact ⟨hapart.clientFree, fun i c o ho hm => hapart.call_iff i ho hm⟩

section Samples
open RoutingTable

def joinDelivery (t : RoutingTable) : HandlerCall where
  handler := .handleBootstrapJoinRequest
  message := ((t.bootstrap 1 [49] 9000 0).map Outgoing.message).headD {}
  packet := ⟨[50], 9000⟩

section Joining
variable {ι : Type} [DecidableEq ι]

def Network.joining (N : Network ι) (i : ι) : Network ι :=
  N.after i ((LocalAction.bootstrap 1 [49] 9000 0).run .simple (N.table i))

def Network.joinedAt (N : Network ι) (i j : ι) : Network ι :=
  (N.joining i).after j ((joinDelivery (N.table i)).run .simple ((N.joining i).table j))

theorem NetworkRun.joinedAt {D : Deployment ι} {ok : HandlerCall → RoutingTable → Prop} {N : Network ι}
    (h : NetworkRun .simple D ok N) (i j : ι) (hok : ok (joinDelivery (N.table i)) ((N.joining i).table j)) :
    NetworkRun .simple D ok (N.joinedAt i j) := by
  refine .deliver (h.act i _) j (joinDelivery (N.table i)) (List.mem_append_right _ (List.mem_singleton_self _)) rfl
    ?_ hok
  rw [bootstrap_type _ (List.mem_singleton_self _)]
  rfl

end Joining

inductive Host
  | first
  | second
  | client
  deriving DecidableEq

instance : Fintype Host where
  elems := {.first, .second, .client}
  complete i := by cases i <;> decide

def Host.lastByte : Host → UInt8
  | first => 0
  | second => 1
  | client => 2

/-- Two public nodes, and a client of the given NAT type. -/
def nodesAndClient (natType : Int32) : Deployment Host where
  localNode i := { localEndingIn i.lastByte with
    clientMode := i = .client
    natType := if i = .client then natType else kNatTypePublic }
  port _ := 9000
  distinct := show Function.Injective (fun i : Host => (localEndingIn i.lastByte).id) by decide +kernel

/-- The first node and then the client join at the second node. -/
def joined (natType : Int32) : Network Host :=
  ((Network.start (nodesAndClient natType)).joinedAt .first .second).joinedAt .client .second

/-- The client does not know its NAT type yet, so the node does not add it. -/
theorem networkRun_clientFree_joined : ((joined kNatTypeUnknown).table .second).nodes.length = 1 ∧
    ClientFree (nodesAndClient kNatTypeUnknown) (joined kNatTypeUnknown) ∧
    ∀ i (c : HandlerCall), ∀ o ∈ (joined kNatTypeUnknown).sent, c.message = o.message →
      (ClientFree (nodesAndClient kNatTypeUnknown)
          ((joined kNatTypeUnknown).after i (c.run .simple ((joined kNatTypeUnknown).table i))) ↔
        c.RefusesClients .simple (nodesAndClient kNatTypeUnknown).clientIds
          ((joined kNatTypeUnknown).table i)) := by
  refine ⟨by decide +kernel, networkRun_clientFree (P := .simple) (D := nodesAndClient kNatTypeUnknown)
    (.joinedAt (.joinedAt .start Host.first Host.second ?_) Host.client Host.second ?_)⟩
  · have hnode : ∀ o ∈ (joinDelivery ((Network.start (nodesAndClient kNatTypeUnknown)).table .first)).offers .simple
        (((Network.start (nodesAndClient kNatTypeUnknown)).joining .first).table .second),
        o.2.nodeId = (localEndingIn 0).id := by
      decide +kernel
    rintro _ o ho ⟨i, hi, hid⟩
    rw [hnode o ho] at hid
    cases i with
    | first => cases hi
    | second => cases hi
    | client => exact absurd hid (by decide)
  · have hunknown : ∀ o ∈
        (joinDelivery (((Network.start (nodesAndClient kNatTypeUnknown)).joinedAt .first .second).table .client)).offers
          .simple ((((Network.start (nodesAndClient kNatTypeUnknown)).joinedAt .first .second).joining .client).table
            .second),
        o.2.natType = kNatTypeUnknown := by
      decide +kernel
    exact fun _ o ho _ hacc => hacc.natType (hunknown o ho)

/-- The request of a client of known NAT type is not flagged, and the node adds it. -/
theorem networkRun_not_clientFree : ∃ N, NetworkRun .simple (nodesAndClient kNatTypeConeNormal) (fun _ _ => True) N ∧
    ¬ ClientFree (nodesAndClient kNatTypeConeNormal) N := by
  have hrun : NetworkRun .simple (nodesAndClient kNatTypeConeNormal) (fun _ _ => True) (joined kNatTypeConeNormal) :=
    .joinedAt (.joinedAt .start Host.first Host.second trivial) Host.client Host.second trivial
  have hclient : ∃ n ∈ ((joined kNatTypeConeNormal).table .second).nodes,
      n.nodeId = ((nodesAndClient kNatTypeConeNormal).localNode .client).id := by
    decide +kernel
  obtain ⟨n, hn, hid⟩ := hclient
  exact ⟨_, hrun, fun hfree => hfree .client .second (by decide) rfl n hn hid⟩

end Samples
end XKad
