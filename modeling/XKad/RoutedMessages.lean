import XKad.CoveredTables
import XKad.Descents
import XKad.MessageRelay
import XKad.NextHops

/-!
# Messages on their way through a covering network

A connect request goes from node to node through `HandleConnectRequest`. At every node
that is not the destination the bucket of the destination is occupied, so that the
nearest node of the table shares a longer prefix with it; a hop is never met again.
Tables may be others at every hop.
-/
namespace XKad

namespace RoutingTable

/-- A node that can relay: it has joined, knows only nodes of the network, each
behind an endpoint of its own at which the transport finds it. -/
structure Relays (ids : Finset Bytes) (host : Bytes → UInt16 → Option Bytes) (t : RoutingTable) : Prop where
  online : t.localNode.firstNode = true ∨ t.joined = true
  members : ∀ n ∈ t.nodes, n.nodeId ∈ ids
  elsewhere : ∀ n ∈ t.nodes, ¬ (n.publicIp = t.localNode.publicIp ∧ n.publicPort = t.localNode.publicPort)
  addressed : ∀ n ∈ t.nodes, ∀ m, host (sendDataToNode m n).toIp (sendDataToNode m n).toPort = some n.nodeId

/-- What the handling of a connect request hands to the next node. -/
def forward (P : Platform) (host : Bytes → UInt16 → Option Bytes) (table : Bytes → RoutingTable)
    (s : Bytes × RoutingMessage) : Option (Bytes × RoutingMessage) :=
  match ((table s.1).handleConnectRequest P s.2).1 with
  | [o] => (host o.toIp o.toPort).map (fun id => (id, o.message))
  | _ => none

/-- The message `m` with the hops and the version tag it got under way. -/
def underWay (m : RoutingMessage) (hops : List Bytes) (v : Option String) : RoutingMessage :=
  { m with hopNodes := hops, versionTag := v }

/-- The state of a request under way: the hops are farther from the destination than
the node it has reached. -/
structure Approaches (ids : Finset Bytes) (m : RoutingMessage) (s : Bytes × RoutingMessage) : Prop where
  member : s.1 ∈ ids
  message : ∃ hops v, s.2 = underWay m hops v ∧ hops.Nodup ∧
    ∀ hop ∈ hops, (xorDistance s.1 m.desNodeId).size < (xorDistance hop m.desNodeId).size

variable {P : Platform} {ids : Finset Bytes} {host : Bytes → UInt16 → Option Bytes} {t : RoutingTable}
  {m : RoutingMessage}

/-- The nearest usable node of a table in which the bucket of the destination is
occupied shares more bits with the destination than the local node. -/
theorem Reachable.nextHop_approaches (h : Reachable P t) (hrel : Relays ids host t)
    (hlen : m.desNodeId.length = kNodeIdSize) (hdes : t.localId ≠ m.desNodeId) (hocc : t.Occupied m.desNodeId)
    (hnodup : m.hopNodes.Nodup)
    (hfar : ∀ hop ∈ m.hopNodes, (xorDistance t.localId m.desNodeId).size ≤ (xorDistance hop m.desNodeId).size) :
    ∃ n ∈ t.nodes, (t.nextHop P m).1 = some n ∧
      (xorDistance n.nodeId m.desNodeId).size < (xorDistance t.localId m.desNodeId).size := by
  have hne : idValue t.localId ≠ idValue m.desNodeId :=
    fun heq => hdes (idValue_inj t.localNode.id_size hlen heq)
  have hlow (s : Bytes) : idValue m.desNodeId ^^^ idValue m.desNodeId ≤ xorDistance s m.desNodeId := by
    rw [Nat.xor_self]
    exact Nat.zero_le _
  obtain ⟨v, hv, hbucket⟩ := hocc
  have hcloser : (xorDistance v.nodeId m.desNodeId).size < (xorDistance t.localId m.desNodeId).size :=
    size_xor_lt_of_between hne hbucket (hlow _) (Nat.le_refl _)
  have husable : t.Usable m v := by
    refine ⟨fun hhop => ?_, h.consistent.notLocal v hv, hrel.elsewhere v hv⟩
    have hle := hfar v.nodeId hhop
    omega
  obtain ⟨n, hn⟩ := Option.ne_none_iff_exists'.mp
    (fun hnone => (h.nextHop_none hnodup).mp hnone v hv husable)
  have hnearest := h.nextHop_nearest hnodup hn
  exact ⟨n, hnearest.mem, hn, size_xor_lt_of_between hne hbucket (hlow _) (hnearest.least v hv husable)⟩

theorem handleConnectRequest_relays (hdata : (connectRequestOf m.data).isSome) (hdes : m.desNodeId ≠ t.localId)
    (hrel : Relays ids host t) {n : NodeInfo} (hn : (t.nextHop P (withHop m t.localId)).1 = some n) :
    (t.handleConnectRequest P m).1 = [sendDataToNode (withHop m t.localId) n] := by
  obtain ⟨r, hr⟩ := Option.isSome_iff_exists.mp hdata
  have honline : ¬ ((!t.localNode.firstNode && !t.joined) = true) := by
    rcases hrel.online with hfirst | hjoined
    · simp [hfirst]
    · simp [hjoined]
  rw [handleConnectRequest, hr, isDestination_direct, decide_eq_false hdes]
  dsimp only
  rw [sendToClosestNode, if_neg hdes, if_neg honline, if_pos rfl,
    show ({ m with hopNodes := m.hopNodes ++ [t.localId] } : RoutingMessage) = withHop m t.localId from rfl,
    recursiveSend_eq, hn]
  rfl

theorem forward_approaches {table : Bytes → RoutingTable} {s : Bytes × RoutingMessage}
    (hdata : (connectRequestOf m.data).isSome) (hlen : m.desNodeId.length = kNodeIdSize)
    (hlocal : (table s.1).localId = s.1) (h : Reachable P (table s.1)) (hrel : Relays ids host (table s.1))
    (hocc : (table s.1).Occupied m.desNodeId) (hs : Approaches ids m s) (hgoal : s.1 ≠ m.desNodeId) :
    ∃ s', forward P host table s = some s' ∧ Approaches ids m s' ∧
      (xorDistance s'.1 m.desNodeId).size < (xorDistance s.1 m.desNodeId).size := by
  obtain ⟨id, sent⟩ := s
  obtain ⟨hmember, hops, v, rfl, hnodup, hfar⟩ := hs
  dsimp only at *
  have hnot : id ∉ hops := fun hin => absurd (hfar id hin) (Nat.lt_irrefl _)
  have hnodup' : (withHop (underWay m hops v) (table id).localId).hopNodes.Nodup := by
    rw [hlocal]
    exact List.nodup_append.mpr ⟨hnodup, List.nodup_singleton id,
      fun a ha b hb heq => hnot (List.mem_singleton.mp hb ▸ heq ▸ ha)⟩
  have hfar' : ∀ hop ∈ (withHop (underWay m hops v) (table id).localId).hopNodes,
      (xorDistance (table id).localId m.desNodeId).size ≤ (xorDistance hop m.desNodeId).size := by
    rw [hlocal]
    intro hop hin
    rcases List.mem_append.mp hin with hin | hin
    · exact (hfar hop hin).le
    · rw [List.mem_singleton.mp hin]
  obtain ⟨n, hn, hhop, hcloser⟩ := h.nextHop_approaches hrel
    (m := withHop (underWay m hops v) (table id).localId) hlen
    (by rw [hlocal]; exact hgoal) hocc hnodup' hfar'
  have hsend := handleConnectRequest_relays (m := underWay m hops v) hdata
    (by rw [hlocal]; exact hgoal.symm) hrel hhop
  obtain ⟨v', hv'⟩ := setVersion_eq (withHop (underWay m hops v) (table id).localId)
  rw [hlocal] at hcloser
  refine ⟨(n.nodeId, underWay m (hops ++ [id]) v'), ?_, ⟨hrel.members n hn, hops ++ [id], v', rfl, ?_, ?_⟩, hcloser⟩
  · rw [forward, hsend]
    dsimp only
    rw [hrel.addressed n hn, sendDataToNode_message, hv', hlocal]
    rfl
  · rw [hlocal] at hnodup'
    exact hnodup'
  · rw [hlocal] at hfar'
    intro hop hin
    exact Nat.lt_of_lt_of_le hcloser (hfar' hop hin)

/-- The request has reached its destination, unchanged but for its hops and version
tag, in at most as many hops as the two ids have bits from the first difference on. -/
def ArrivesAt (P : Platform) (host : Bytes → UInt16 → Option Bytes) (table : ℕ → Bytes → RoutingTable)
    (src : Bytes) (m : RoutingMessage) (k : ℕ) (hops : List Bytes) (v : Option String) : Prop :=
  k ≤ (xorDistance src m.desNodeId).size ∧
    walk (fun k => forward P host (table k)) (src, m) k = some (m.desNodeId, underWay m hops v)

structure RelayNetwork (P : Platform) (ids : Finset Bytes) (host : Bytes → UInt16 → Option Bytes)
    (table : ℕ → Bytes → RoutingTable) : Prop where
  localId : ∀ k, ∀ id ∈ ids, (table k id).localId = id
  reachable : ∀ k, ∀ id ∈ ids, Reachable P (table k id)
  relays : ∀ k, ∀ id ∈ ids, Relays ids host (table k id)

theorem RelayNetwork.arrives {table : ℕ → Bytes → RoutingTable} (h : RelayNetwork P ids host table)
    (hcovers : ∀ k, ∀ id ∈ ids, (table k id).Covers ids) {src : Bytes} (hsrc : src ∈ ids)
    (hdes : m.desNodeId ∈ ids) (hhops : m.hopNodes = []) (hdata : (connectRequestOf m.data).isSome) :
    ∃ k hops v, ArrivesAt P host table src m k hops v := by
  have hlen : m.desNodeId.length = kNodeIdSize := by
    rw [← h.localId 0 _ hdes]
    exact (table 0 m.desNodeId).localNode.id_size
  have hstart : Approaches ids m (src, m) := by
    refine ⟨hsrc, [], m.versionTag, ?_, List.nodup_nil, by simp⟩
    rw [underWay, ← hhops]
  have hocc (k : ℕ) {s : Bytes × RoutingMessage} (hs : s.1 ∈ ids) (hgoal : s.1 ≠ m.desNodeId) :
      (table k s.1).Occupied m.desNodeId := by
    apply hcovers k _ hs _ hdes
    rw [h.localId k _ hs]
    exact hgoal.symm
  have hstep (k : ℕ) (s : Bytes × RoutingMessage) (hs : Approaches ids m s) (hgoal : ¬ s.1 = m.desNodeId) :
      ∃ s', forward P host (table k) s = some s' ∧ Approaches ids m s' ∧
        (xorDistance s'.1 m.desNodeId).size < (xorDistance s.1 m.desNodeId).size :=
    forward_approaches hdata hlen (h.localId k _ hs.member) (h.reachable k _ hs.member)
      (h.relays k _ hs.member) (hocc k hs.member hgoal) hs hgoal
  obtain ⟨k, hk, s, hwalk, ⟨_, hops, v, hmsg, _⟩, hgoal⟩ := walk_reaches hstep hstart
  refine ⟨k, hops, v, hk, ?_⟩
  rw [hwalk, ← hgoal, ← hmsg]

/-- The table of a node that was once offered a record of `id` and has dropped nothing since. -/
def OfferedSince (P : Platform) (t : RoutingTable) (id : Bytes) : Prop :=
  ∃ s e after, Reachable P s ∧ (∀ e' ∈ e :: after, TableEvent.drops e' = false) ∧
    t = TableEvent.runAll P (e :: after) s ∧ ∃ o ∈ e.offers P s, o.1.Offerable o.2 ∧ o.2.nodeId = id

theorem OfferedSince.occupied {id : Bytes} (h : OfferedSince P t id) : t.Occupied id := by
  obtain ⟨s, e, after, hs, hdrops, rfl, o, ho, hnode, rfl⟩ := h
  exact (TableEvent.settled_of_offer hs hdrops ho hnode).occupied (TableEvent.reachable_runAll hs _).bucketed

/-- Buckets hold `kKadParamK` nodes, so a node does not come to know all it is offered.
Yet wherever every node was once offered every other one and has dropped nothing since,
a connect request reaches its destination in as few hops. -/
theorem connectRequest_arrives_offered {table : ℕ → Bytes → RoutingTable} (h : RelayNetwork P ids host table)
    (hoffered : ∀ k, ∀ id ∈ ids, ∀ id' ∈ ids, id' ≠ id → OfferedSince P (table k id) id')
    {src : Bytes} (hsrc : src ∈ ids) (hdes : m.desNodeId ∈ ids) (hhops : m.hopNodes = [])
    (hdata : (connectRequestOf m.data).isSome) : ∃ k hops v, ArrivesAt P host table src m k hops v := by
  apply h.arrives _ hsrc hdes hhops hdata
  intro k id hid id' hid' hne
  rw [h.localId k id hid] at hne
  exact (hoffered k id hid id' hid' hne).occupied

section Samples

def endpointHost (ip : Bytes) (port : UInt16) : Option Bytes :=
  if port = 9000 then some (List.replicate 35 0 ++ ip) else none

def threeIds : Finset Bytes := (threeNodes.map localId).toFinset

/-- The table of a sample network by the id of its node, the same at every hop. -/
def tableAmong (net : List RoutingTable) (id : Bytes) : RoutingTable :=
  (net.find? (fun t => t.localId = id)).getD (meeting 0 [])

theorem addressed_of_host {n : NodeInfo} (hvlan : n.sameVlan = false)
    (hhost : endpointHost n.publicIp n.publicPort = some n.nodeId) (m : RoutingMessage) :
    endpointHost (sendDataToNode m n).toIp (sendDataToNode m n).toPort = some n.nodeId := by
  rw [sendDataToNode, hvlan]
  exact hhost

theorem relays_of_all {net : List RoutingTable} {ids : Finset Bytes}
    (hall : ∀ id ∈ ids, (tableAmong net id).joined = true ∧ ∀ n ∈ (tableAmong net id).nodes, n.nodeId ∈ ids ∧
      n.publicIp ≠ (tableAmong net id).localNode.publicIp ∧ n.sameVlan = false ∧
        endpointHost n.publicIp n.publicPort = some n.nodeId) :
    ∀ id ∈ ids, Relays ids endpointHost (tableAmong net id) := by
  intro id hid
  obtain ⟨hjoined, hnodes⟩ := hall id hid
  refine ⟨Or.inr hjoined, fun n hn => (hnodes n hn).1, fun n hn heq => (hnodes n hn).2.1 heq.1, ?_⟩
  exact fun n hn => addressed_of_host (hnodes n hn).2.2.1 (hnodes n hn).2.2.2

theorem reachable_tableAmong {net : List RoutingTable} (h : ∀ t ∈ net, Reachable .simple t) (id : Bytes) :
    Reachable .simple (tableAmong net id) := by
  rw [tableAmong]
  cases hfind : net.find? (fun t => t.localId = id) with
  | none => exact reachable_meeting 0 []
  | some t => exact h t (List.mem_of_find?_eq_some hfind)

/-- The request of the first node for the last one, which it does not know. -/
def requestForLast : RoutingMessage where
  srcNodeId := (localEndingIn 0).id
  desNodeId := (localEndingIn 5).id
  data := .connectRequest { publicIp := [0], publicPort := 9000, natType := kNatTypeConeNormal }

def metNodes : List RoutingTable := [meeting 0 [4, 5], meeting 4 [0, 5], meeting 5 [0, 4]]

theorem offeredSince_meeting {self b : UInt8} {others : List UInt8} (hb : b ∈ others)
    (hne : (nodeAt b).nodeId ≠ (localEndingIn self).id) :
    OfferedSince .simple (meeting self others) (nodeAt b).nodeId := by
  obtain ⟨before, after, rfl⟩ := List.append_of_mem hb
  have hadds (bs : List UInt8) : ∀ e ∈ bs.map (fun b => TableEvent.op (.addNode (nodeAt b))), e.drops = false := by
    simp [TableEvent.drops]
  refine ⟨meeting self before, .op (.addNode (nodeAt b)), after.map (fun b => .op (.addNode (nodeAt b))),
    reachable_meeting self before, hadds (b :: after), ?_, _, List.mem_singleton_self _, ⟨?_, ?_, rfl⟩, rfl⟩
  · rw [meeting, List.map_append, TableEvent.runAll_append]
    rfl
  · exact (by decide : kNatTypePublic ≠ kNatTypeUnknown)
  · rw [show (meeting self before).localId = (localEndingIn self).id from
      TableEvent.localId_runAll (hadds before)]
    exact hne

theorem relayNetwork_metNodes : RelayNetwork .simple threeIds endpointHost (fun _ => tableAmong metNodes) where
  localId _ := by decide +kernel
  reachable _ id _ := reachable_tableAmong (by simp [metNodes, reachable_meeting]) id
  relays _ := relays_of_all (by decide +kernel)

theorem offeredSince_metNodes : ∀ id ∈ threeIds, ∀ id' ∈ threeIds, id' ≠ id →
    OfferedSince .simple (tableAmong metNodes id) id' := by
  have hids : threeIds = {(nodeAt 0).nodeId, (nodeAt 4).nodeId, (nodeAt 5).nodeId} := by decide +kernel
  have h (self b : UInt8) (others : List UInt8) (hb : b ∈ others) (hne : (nodeAt b).nodeId ≠ (localEndingIn self).id)
      (htable : tableAmong metNodes (nodeAt self).nodeId = meeting self others) :
      OfferedSince .simple (tableAmong metNodes (nodeAt self).nodeId) (nodeAt b).nodeId := by
    rw [htable]
    exact offeredSince_meeting hb hne
  rw [hids]
  simp only [Finset.mem_insert, Finset.mem_singleton]
  rintro id (rfl | rfl | rfl) id' (rfl | rfl | rfl) hne
  · exact absurd rfl hne
  · exact h 0 4 [4, 5] (by decide) (by decide) rfl
  · exact h 0 5 [4, 5] (by decide) (by decide) rfl
  · exact h 4 0 [0, 5] (by decide) (by decide) rfl
  · exact absurd rfl hne
  · exact h 4 5 [0, 5] (by decide) (by decide) rfl
  · exact h 5 0 [0, 4] (by decide) (by decide) rfl
  · exact h 5 4 [0, 4] (by decide) (by decide) rfl
  · exact absurd rfl hne

theorem connectRequest_arrives_offered_three : ∃ k hops v,
    ArrivesAt .simple endpointHost (fun _ => tableAmong metNodes) (localEndingIn 0).id requestForLast k hops v :=
  connectRequest_arrives_offered relayNetwork_metNodes (fun _ => offeredSince_metNodes) (by decide +kernel)
    (by decide +kernel) rfl rfl

end Samples
end RoutingTable
end XKad
