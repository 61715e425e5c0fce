import XKad.TableInvariants
import XKad.MessageHandlers

/-!
# Relaying towards the closest node

A message travels from node to node through `SendToClosestNode`, which appends
the sender to the hop list; `RecursiveSend` refuses a list with a repeated hop
and never chooses a node of the list. Tables are arbitrary and may differ from
step to step, so nothing is assumed about where a copy arrives.
-/
namespace XKad

namespace RoutingTable

/-- The message `SendToClosestNode` hands to `RecursiveSend`. -/
def withHop (m : RoutingMessage) (id : Bytes) : RoutingMessage := { m with hopNodes := m.hopNodes ++ [id] }

theorem nextHop_some {P : Platform} {m : RoutingMessage} {t : RoutingTable} {node : NodeInfo}
    (h : (t.nextHop P m).1 = some node) :
    m.hopNodes.Nodup ∧ node.nodeId ∉ m.hopNodes ∧ node.nodeId ≠ t.localId := by
  rw [nextHop, excludeHops_empty] at h
  by_cases hnodup : m.hopNodes.Nodup
  · rw [if_pos hnodup] at h
    obtain ⟨l, _, hl⟩ := getClosestNodes_reorders P m.desNodeId routingMaxNodesSize false t
    have hready := (List.mem_filter.mp (List.mem_of_mem_head? h)).2
    rw [hl] at hready
    simp only [Bool.and_eq_true, Bool.not_eq_true', beq_eq_false_iff_ne, decide_eq_false_iff_not,
      withNodes_localId] at hready
    obtain ⟨⟨hself, _⟩, hnot⟩ := hready
    exact ⟨hnodup, fun hin => hnot (List.mem_toFinset.mpr hin), hself⟩
  · rw [if_neg hnodup] at h
    cases h

/-- All that `SendToClosestNode` with hop recording can send. -/
theorem sendToClosestNode_cases (P : Platform) (m : RoutingMessage) (t : RoutingTable) :
    (t.sendToClosestNode P m true).1 = [] ∨
      ∃ node, (t.nextHop P (withHop m t.localId)).1 = some node ∧
        (t.sendToClosestNode P m true).1 = [sendDataToNode (withHop m t.localId) node] := by
  rw [sendToClosestNode]
  split_ifs with hdes hjoin hhop
  · exact Or.inl rfl
  · exact Or.inl rfl
  · rw [show ({ m with hopNodes := m.hopNodes ++ [t.localId] } : RoutingMessage) = withHop m t.localId
      from rfl, recursiveSend]
    split <;> rename_i heq
    · exact Or.inl rfl
    · exact Or.inr ⟨_, congrArg Prod.fst heq, rfl⟩
  · exact absurd rfl hhop

theorem handleConnectRequest_sends (P : Platform) (m : RoutingMessage) (t : RoutingTable) :
    (t.handleConnectRequest P m).1 = [] ∨
      (t.handleConnectRequest P m).1 = (t.sendToClosestNode P m true).1 := by
  rw [handleConnectRequest, isDestination_direct]
  dsimp only
  split
  · exact Or.inl rfl
  · by_cases h : m.desNodeId = t.localId
    · rw [decide_eq_true h]
      dsimp only
      split_ifs <;> exact Or.inl rfl
    · rw [decide_eq_false h]
      exact Or.inr rfl

/-- A copy handed to the transport, with the node its sender has chosen. -/
structure SentCopy where
  sender : Bytes
  nextHop : Option NodeInfo
  packet : Outgoing

def relayed (P : Platform) (m : RoutingMessage) (t : RoutingTable) : List SentCopy :=
  (t.sendToClosestNode P m true).1.map (SentCopy.mk t.localId (t.nextHop P (withHop m t.localId)).1)

/-- The copies not yet delivered or lost, and all copies ever sent. -/
structure RelayState where
  inFlight : List RoutingMessage
  sent : List SentCopy

/-- One step of the network: a copy reaches some node, whatever its table then is,
which sends what `SendToClosestNode` sends; or the copy is lost. -/
inductive RelayStep (P : Platform) (ids : Finset Bytes) : RelayState → RelayState → Prop where
  | relay (before after : List RoutingMessage) (sent : List SentCopy) (m : RoutingMessage)
      (t : RoutingTable) (hid : t.localId ∈ ids) :
      RelayStep P ids ⟨before ++ m :: after, sent⟩
        ⟨before ++ (t.relayed P m).map (fun c => c.packet.message) ++ after, sent ++ t.relayed P m⟩
  | lose (before after : List RoutingMessage) (sent : List SentCopy) (m : RoutingMessage) :
      RelayStep P ids ⟨before ++ m :: after, sent⟩ ⟨before ++ after, sent⟩

abbrev RelayRun (P : Platform) (ids : Finset Bytes) (m : RoutingMessage) (s : RelayState) : Prop :=
  Relation.ReflTransGen (RelayStep P ids) ⟨[m], []⟩ s

/-- The hop list of a sent copy: no hop twice, the sender last. The packet goes to the
next hop, which is neither the sender nor a hop. -/
structure LoopFree (c : SentCopy) : Prop where
  nodup : c.packet.message.hopNodes.Nodup
  last : c.packet.message.hopNodes.getLast? = some c.sender
  nextHop : ∃ node, c.nextHop = some node ∧ c.packet.AddressedTo node ∧
    node.nodeId ≠ c.sender ∧ node.nodeId ∉ c.packet.message.hopNodes

theorem relayed_cases (P : Platform) (m : RoutingMessage) (t : RoutingTable) : t.relayed P m = [] ∨
    ∃ c, t.relayed P m = [c] ∧ LoopFree c ∧ c.packet.message = setVersion (withHop m t.localId) := by
  rw [relayed]
  rcases sendToClosestNode_cases P m t with hnil | ⟨node, hnode, hone⟩
  · rw [hnil]
    exact Or.inl rfl
  · rw [hone, hnode]
    obtain ⟨hnodup, hnot, hself⟩ := nextHop_some hnode
    have hmessage := sendDataToNode_message (withHop m t.localId) node
    have hhops : (sendDataToNode (withHop m t.localId) node).message.hopNodes =
        (withHop m t.localId).hopNodes := by
      rw [hmessage, setVersion_hopNodes]
    refine Or.inr ⟨⟨t.localId, some node, sendDataToNode (withHop m t.localId) node⟩, rfl, ⟨?_, ?_, ?_⟩, hmessage⟩
    · dsimp only
      rwa [hhops]
    · dsimp only
      rw [hhops]
      exact List.getLast?_concat
    · refine ⟨node, rfl, sendDataToNode_addressedTo _ node, hself, ?_⟩
      dsimp only
      rwa [hhops]

/-- What relaying keeps: a single copy whose hop list is as long as the log. -/
structure RelayInvariant (ids : Finset Bytes) (s : RelayState) : Prop where
  single : s.inFlight = [] ∨ ∃ m, s.inFlight = [m] ∧ m.hopNodes.length = s.sent.length ∧
    ∀ hop ∈ m.hopNodes, hop ∈ ids
  loopFree : ∀ c ∈ s.sent, LoopFree c
  bounded : s.sent.length ≤ ids.card

theorem RelayInvariant.alone {ids : Finset Bytes} {before after : List RoutingMessage} {m : RoutingMessage}
    {sent : List SentCopy} (h : RelayInvariant ids ⟨before ++ m :: after, sent⟩) :
    before = [] ∧ after = [] ∧ m.hopNodes.length = sent.length ∧ ∀ hop ∈ m.hopNodes, hop ∈ ids := by
  rcases h.single with hnil | ⟨m', hm', hlen, hnet⟩
  · simp at hnil
  · rw [List.append_eq_singleton_iff] at hm'
    rcases hm' with ⟨rfl, hm'⟩ | ⟨_, hm'⟩
    · cases hm'
      exact ⟨rfl, rfl, hlen, hnet⟩
    · cases hm'

theorem length_le_card {ids : Finset Bytes} {hops : List Bytes} (hnodup : hops.Nodup)
    (hnet : ∀ hop ∈ hops, hop ∈ ids) : hops.length ≤ ids.card := by
  have hsub : hops.toFinset ⊆ ids := fun id hin => hnet id (List.mem_toFinset.mp hin)
  have hcard := Finset.card_le_card hsub
  rwa [List.toFinset_card_of_nodup hnodup] at hcard

theorem relayInvariant_step {P : Platform} {ids : Finset Bytes} {s s' : RelayState}
    (hs : RelayStep P ids s s') (h : RelayInvariant ids s) : RelayInvariant ids s' := by
  cases hs with
  | relay before after sent m t hid =>
    obtain ⟨rfl, rfl, hlen, hnet⟩ := h.alone
    rcases relayed_cases P m t with hnil | ⟨c, hone, hfree, hmessage⟩
    · simp only [hnil, List.map_nil, List.append_nil]
      exact ⟨Or.inl rfl, h.loopFree, h.bounded⟩
    · rw [hone]
      have hhops : c.packet.message.hopNodes = m.hopNodes ++ [t.localId] := by
        rw [hmessage, setVersion_hopNodes, withHop]
      have hnet' : ∀ hop ∈ c.packet.message.hopNodes, hop ∈ ids := by
        intro hop hh
        rw [hhops, List.mem_append, List.mem_singleton] at hh
        rcases hh with hh | rfl
        · exact hnet hop hh
        · exact hid
      have hlen' : c.packet.message.hopNodes.length = (sent ++ [c]).length := by
        rw [hhops, List.length_append, List.length_append, hlen, List.length_singleton, List.length_singleton]
      refine ⟨Or.inr ⟨c.packet.message, rfl, hlen', hnet'⟩, ?_, ?_⟩
      · intro c' hc
        rcases List.mem_append.mp hc with hc | hc
        · exact h.loopFree c' hc
        · rw [List.mem_singleton.mp hc]
          exact hfree
      · rw [← hlen']
        exact length_le_card hfree.nodup hnet'
  | lose before after sent m =>
    obtain ⟨rfl, rfl, _⟩ := h.alone
    exact ⟨Or.inl rfl, h.loopFree, h.bounded⟩

/-- Relaying is loop free and sends a message at most once per node of the network. -/
theorem relay_loopFree {P : Platform} {ids : Finset Bytes} {m : RoutingMessage} {s : RelayState}
    (hm : m.hopNodes = []) (hrun : RelayRun P ids m s) :
    (∀ c ∈ s.sent, c.packet.message.hopNodes.Nodup ∧
        c.packet.message.hopNodes.getLast? = some c.sender ∧
        ∃ node, c.nextHop = some node ∧ c.packet.AddressedTo node ∧
          node.nodeId ≠ c.sender ∧ node.nodeId ∉ c.packet.message.hopNodes) ∧
      s.sent.length ≤ ids.card := by
  have hinv : RelayInvariant ids s := by
    induction hrun with
    | refl => exact ⟨Or.inr ⟨m, rfl, by simp [hm], by simp [hm]⟩, by simp, by simp⟩
    | tail _ hs ih => exact relayInvariant_step hs ih
  exact ⟨fun c hc => ⟨(hinv.loopFree c hc).nodup, (hinv.loopFree c hc).last, (hinv.loopFree c hc).nextHop⟩,
    hinv.bounded⟩

theorem relayed_of_ne_nil {P : Platform} {m : RoutingMessage} {t : RoutingTable}
    (h : (t.sendToClosestNode P m true).1 ≠ []) :
    ∃ c, t.relayed P m = [c] ∧ c.packet.message = setVersion (withHop m t.localId) := by
  rcases relayed_cases P m t with hnil | ⟨c, hone, _, hmessage⟩
  · exact absurd (List.map_eq_nil_iff.mp hnil) h
  · exact ⟨c, hone, hmessage⟩

def joinedKnowing (self other : UInt8) : RoutingTable :=
  { ((init (localEndingIn self) 9).addNode .simple (nodeEndingIn other)).2 with joined := true }

/-- A message for an id that is not in the network. -/
def strayMessage : RoutingMessage where
  desNodeId := (localEndingIn 7).id

theorem relay_loopFree_two :
    ∃ s : RelayState, s.sent.length = 2 ∧
      (∀ c ∈ s.sent, c.packet.message.hopNodes.Nodup ∧
        c.packet.message.hopNodes.getLast? = some c.sender ∧
        ∃ node, c.nextHop = some node ∧ c.packet.AddressedTo node ∧
          node.nodeId ≠ c.sender ∧ node.nodeId ∉ c.packet.message.hopNodes) ∧
      s.sent.length ≤ ({(localEndingIn 1).id, (localEndingIn 2).id} : Finset Bytes).card := by
  have hid₁ : (joinedKnowing 1 2).localId ∈
      ({(localEndingIn 1).id, (localEndingIn 2).id} : Finset Bytes) := by decide +kernel
  have hid₂ : (joinedKnowing 2 3).localId ∈
      ({(localEndingIn 1).id, (localEndingIn 2).id} : Finset Bytes) := by decide +kernel
  obtain ⟨c₁, hone₁, hmessage₁⟩ := relayed_of_ne_nil (P := .simple) (m := strayMessage)
    (t := joinedKnowing 1 2) (by decide +kernel)
  obtain ⟨c₂, hone₂, _⟩ := relayed_of_ne_nil (P := .simple)
    (m := setVersion (withHop strayMessage (joinedKnowing 1 2).localId)) (t := joinedKnowing 2 3) (by decide +kernel)
  have h₁ := RelayStep.relay (P := .simple) [] [] [] strayMessage (joinedKnowing 1 2) hid₁
  have h₂ := RelayStep.relay (P := .simple) [] [] [c₁] c₁.packet.message (joinedKnowing 2 3) hid₂
  rw [hone₁] at h₁
  rw [hmessage₁, hone₂, ← hmessage₁] at h₂
  exact ⟨⟨[c₂.packet.message], [c₁, c₂]⟩, rfl, relay_loopFree (m := strayMessage) rfl (.tail (.single h₁) h₂)⟩

end RoutingTable
end XKad
