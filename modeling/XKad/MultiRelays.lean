import XKad.ClientRelays

/-!
# Replies along a chain of relays

A reply to a request that passed several relays lists their hops. `CheckAndSendMultiRelay`
writes the last hop into the destination of the reply before it knows where to send it,
and `SmartSendReply` goes on with the message as it was left.
-/
namespace XKad
open Std

structure RelayHopInfo where
  relayEntryId : Bytes := []
  relayExitId : Bytes := []
  serviceType : UInt64 := 0
  deriving DecidableEq

/-- A `RoutingMessage` with its fields for a chain of relays. -/
structure MultiRelayMessage extends RoutingMessage where
  multiRelay : Option Bool := none
  isRoot : Option Bool := none
  relayHopInfo : List RelayHopInfo := []
  deriving DecidableEq

structure MultiRelayOutgoing where
  message : MultiRelayMessage
  toIp : Bytes
  toPort : UInt16
  deriving DecidableEq

namespace MultiRelayMessage

def towards (m : MultiRelayMessage) (hop : RelayHopInfo) : MultiRelayMessage :=
  { m with desNodeId := hop.relayEntryId, desServiceType := hop.serviceType }

def versioned (m : MultiRelayMessage) : MultiRelayMessage :=
  { m with toRoutingMessage := setVersion m.toRoutingMessage }

theorem towards_eq_iff {m : MultiRelayMessage} {hop : RelayHopInfo} :
    m.towards hop = m ↔ hop.relayEntryId = m.desNodeId ∧ hop.serviceType = m.desServiceType := by
  constructor
  · intro h
    exact ⟨congrArg (fun m => m.desNodeId) h, congrArg (fun m => m.desServiceType) h⟩
  · rintro ⟨hid, hservice⟩
    rw [towards, hid, hservice]

end MultiRelayMessage

namespace RoutingTable

def checkAndSendMultiRelay (c : ClientNodeManager) (m : MultiRelayMessage) (t : RoutingTable) :
    RelayEffect MultiRelayMessage MultiRelayOutgoing :=
  if m.multiRelay ≠ some true then ⟨.kKadFailed, m, []⟩
  else if m.isRoot = some true then ⟨.kKadFailed, m, []⟩
  else if m.desNodeId ≠ t.localId then ⟨.kKadFailed, m, []⟩
  else
    match m.relayHopInfo.getLast? with
    | none => ⟨.kKadFailed, m, []⟩
    | some lastRelayHop =>
      let m := m.towards lastRelayHop
      match c.findClientNode lastRelayHop.relayExitId with
      | none =>
        if !t.localNode.firstNode then ⟨.kKadFailed, m, []⟩
        -- the first node has no relay below it and answers to itself
        else ⟨.kKadSuccess, m.versioned, [⟨m.versioned, t.localNode.localIp, t.localNode.localPort⟩]⟩
      | some client =>
        ⟨.kKadSuccess, m.versioned, [⟨m.versioned, client.publicIp, client.publicPort⟩]⟩

/-- `SendToClosestNode` of a message with relay fields, which it does not read. -/
def sendReplyToClosestNode (P : Platform) (m : MultiRelayMessage) (addHop : Bool) (t : RoutingTable) :
    List MultiRelayOutgoing × RoutingTable :=
  let (sent, t) := t.sendToClosestNode P m.toRoutingMessage addHop
  (sent.map (fun o => ⟨{ m with toRoutingMessage := o.message }, o.toIp, o.toPort⟩), t)

def smartSendReplyAddHop (P : Platform) (c : ClientNodeManager) (m : MultiRelayMessage) (addHop : Bool)
    (t : RoutingTable) : List MultiRelayOutgoing × RoutingTable :=
  let relayed := t.checkAndSendMultiRelay c m
  if relayed.code ≠ .kKadSuccess then
    let (sent, t) := t.sendReplyToClosestNode P relayed.message addHop
    (relayed.sent ++ sent, t)
  else (relayed.sent, t)

/-- `SmartSendReply`; the `SendToClosestNode` it calls adds a hop. -/
def smartSendReply (P : Platform) (c : ClientNodeManager) (m : MultiRelayMessage) (t : RoutingTable) :
    List MultiRelayOutgoing × RoutingTable :=
  t.smartSendReplyAddHop P c m true

/-- The reply has arrived at the node that `hop` names, with a way to go. -/
structure AtHop (m : MultiRelayMessage) (t : RoutingTable) (hop : RelayHopInfo) : Prop where
  multiRelay : m.multiRelay = some true
  isRoot : m.isRoot ≠ some true
  desNodeId : m.desNodeId = t.localId
  last : m.relayHopInfo.getLast? = some hop

/-- The reply is at `hop`, and the node does not know the exit of the hop. -/
structure ExitUnknown (c : ClientNodeManager) (m : MultiRelayMessage) (t : RoutingTable) (hop : RelayHopInfo) :
    Prop extends AtHop m t hop where
  client : c.findClientNode hop.relayExitId = none
  firstNode : t.localNode.firstNode = false

variable {P : Platform} {c : ClientNodeManager} {m : MultiRelayMessage} {t : RoutingTable}

theorem checkAndSendMultiRelay_cases (c : ClientNodeManager) (m : MultiRelayMessage) (t : RoutingTable) :
    (t.checkAndSendMultiRelay c m = ⟨.kKadFailed, m, []⟩ ∧ ∀ hop, ¬ AtHop m t hop) ∨
      (∃ hop, ExitUnknown c m t hop ∧ t.checkAndSendMultiRelay c m = ⟨.kKadFailed, m.towards hop, []⟩) ∨
      (t.checkAndSendMultiRelay c m).code = .kKadSuccess ∧ ∀ hop, ¬ ExitUnknown c m t hop := by
  rw [checkAndSendMultiRelay]
  by_cases hrelay : m.multiRelay ≠ some true
  · exact Or.inl ⟨if_pos hrelay, fun hop h => hrelay h.multiRelay⟩
  by_cases hroot : m.isRoot = some true
  · exact Or.inl ⟨by rw [if_neg hrelay, if_pos hroot], fun hop h => h.isRoot hroot⟩
  by_cases hdes : m.desNodeId ≠ t.localId
  · exact Or.inl ⟨by rw [if_neg hrelay, if_neg hroot, if_pos hdes], fun hop h => hdes h.desNodeId⟩
  rw [if_neg hrelay, if_neg hroot, if_neg hdes]
  cases hlast : m.relayHopInfo.getLast? with
  | none =>
    refine Or.inl ⟨rfl, fun hop h => ?_⟩
    rw [h.last] at hlast
    cases hlast
  | some hop =>
    have honly : ∀ hop', AtHop m t hop' → hop' = hop := by
      intro hop' h
      exact Option.some.inj (h.last.symm.trans hlast)
    dsimp only
    cases hclient : c.findClientNode hop.relayExitId with
    | some client =>
      refine Or.inr (Or.inr ⟨rfl, fun hop' h => ?_⟩)
      obtain rfl := honly hop' h.toAtHop
      rw [h.client] at hclient
      cases hclient
    | none =>
      cases hfirst : t.localNode.firstNode with
      | true =>
        refine Or.inr (Or.inr ⟨rfl, fun hop' h => ?_⟩)
        rw [h.firstNode] at hfirst
        cases hfirst
      | false =>
        have hat : AtHop m t hop := ⟨not_not.mp hrelay, hroot, not_not.mp hdes, hlast⟩
        exact Or.inr (Or.inl ⟨hop, ⟨hat, hclient, hfirst⟩, rfl⟩)

/-- A failure leaves the reply as it was, sends nothing, and the fallback of both
overloads of `SmartSendReply` routes the reply itself. -/
structure FailsUnchanged (P : Platform) (c : ClientNodeManager) (m : MultiRelayMessage) (t : RoutingTable) :
    Prop where
  message : (t.checkAndSendMultiRelay c m).message = m
  sent : (t.checkAndSendMultiRelay c m).sent = []
  fallback : t.smartSendReply P c m = t.sendReplyToClosestNode P m true
  fallbackAddHop : ∀ addHop, t.smartSendReplyAddHop P c m addHop = t.sendReplyToClosestNode P m addHop

theorem FailsUnchanged.of_eq (P : Platform) (h : t.checkAndSendMultiRelay c m = ⟨.kKadFailed, m, []⟩) :
    FailsUnchanged P c m t := by
  have haddHop : ∀ addHop, t.smartSendReplyAddHop P c m addHop = t.sendReplyToClosestNode P m addHop := by
    intro addHop
    rw [smartSendReplyAddHop, h]
    simp
  exact ⟨by rw [h], by rw [h], haddHop true, haddHop⟩

/-- A failing `CheckAndSendMultiRelay` leaves the reply alone exactly unless the reply
is at a hop whose exit is unknown and whose entry is another destination. -/
theorem checkAndSendMultiRelay_failsUnchanged_iff (P : Platform) (c : ClientNodeManager)
    (m : MultiRelayMessage) (t : RoutingTable) :
    ((t.checkAndSendMultiRelay c m).code = .kKadFailed → FailsUnchanged P c m t) ↔
      ∀ hop, ExitUnknown c m t hop → hop.relayEntryId = m.desNodeId ∧ hop.serviceType = m.desServiceType := by
  rcases checkAndSendMultiRelay_cases c m t with ⟨heq, hnone⟩ | ⟨hop, hhop, heq⟩ | ⟨hcode, hnone⟩
  · constructor
    · intro _ hop h
      exact absurd h.toAtHop (hnone hop)
    · intro _ _
      exact FailsUnchanged.of_eq P heq
  · constructor
    · intro h hop' hhop'
      obtain rfl : hop = hop' := Option.some.inj (hhop.last.symm.trans hhop'.last)
      have hmessage := (h (by rw [heq])).message
      rw [heq] at hmessage
      exact MultiRelayMessage.towards_eq_iff.mp hmessage
    · intro h _
      rw [MultiRelayMessage.towards_eq_iff.mpr (h hop hhop)] at heq
      exact FailsUnchanged.of_eq P heq
  · constructor
    · intro _ hop h
      exact absurd h (hnone hop)
    · intro _ hfailed
      rw [hcode] at hfailed
      cases hfailed

def lostReply : MultiRelayMessage where
  desNodeId := KadMessageHandler.relayTable.localId
  multiRelay := some true
  relayHopInfo := [⟨[1], [2], 7⟩]

/-- The relay fails, and the destination of the reply is not the one it had. -/
theorem lostReply_redirected :
    (KadMessageHandler.relayTable.checkAndSendMultiRelay {} lostReply).code = .kKadFailed ∧
      (KadMessageHandler.relayTable.checkAndSendMultiRelay {} lostReply).message.desNodeId = [1] ∧
      (KadMessageHandler.relayTable.checkAndSendMultiRelay {} lostReply).message.desServiceType = 7 ∧
      ¬ FailsUnchanged .simple {} lostReply KadMessageHandler.relayTable := by
  refine ⟨by decide +kernel, by decide +kernel, by decide +kernel, fun h => ?_⟩
  have hid := congrArg (fun m => m.desNodeId) h.message
  revert hid
  decide +kernel

end RoutingTable
end XKad
