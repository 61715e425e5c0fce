import XKad.ClosestNodes
import XKad.MessageHandlers

/-!
# The next hop of a message

`RecursiveSend` looks at the whole table in order of the distance from the
destination and takes the first node it may use.
-/
namespace XKad

namespace RoutingTable

/-- `RecursiveSend` may send `m` to `n`: no hop of the message, and neither this
node nor one behind its public endpoint. -/
structure Usable (t : RoutingTable) (m : RoutingMessage) (n : NodeInfo) : Prop where
  notHop : n.nodeId ∉ m.hopNodes
  notLocal : n.nodeId ≠ t.localId
  elsewhere : ¬ (n.publicIp = t.localNode.publicIp ∧ n.publicPort = t.localNode.publicPort)

/-- The usable node of the table that is nearest to the destination of `m`. -/
structure NearestUsable (t : RoutingTable) (m : RoutingMessage) (n : NodeInfo) : Prop where
  mem : n ∈ t.nodes
  usable : t.Usable m n
  least : ∀ n' ∈ t.nodes, t.Usable m n' → xorDistance n.nodeId m.desNodeId ≤ xorDistance n'.nodeId m.desNodeId

/-- A single packet is sent: the message with its version tag, to the endpoint of `n`. -/
def SendsOnceTo (m : RoutingMessage) (n : NodeInfo) (sent : List Outgoing) : Prop :=
  ∃ o, sent = [o] ∧ o.message = setVersion m ∧ o.AddressedTo n

theorem sendsOnceTo_sendDataToNode (m : RoutingMessage) (n : NodeInfo) : SendsOnceTo m n [sendDataToNode m n] :=
  ⟨sendDataToNode m n, rfl, sendDataToNode_message m n, sendDataToNode_addressedTo m n⟩

instance (t : RoutingTable) (m : RoutingMessage) (n : NodeInfo) : Decidable (t.Usable m n) :=
  decidable_of_iff (n.nodeId ∉ m.hopNodes ∧ n.nodeId ≠ t.localId ∧
      ¬ (n.publicIp = t.localNode.publicIp ∧ n.publicPort = t.localNode.publicPort))
    ⟨fun h => ⟨h.1, h.2.1, h.2.2⟩, fun h => ⟨h.notHop, h.notLocal, h.elsewhere⟩⟩

variable {P : Platform} {t : RoutingTable} {m : RoutingMessage}

theorem recursiveSend_eq (P : Platform) (m : RoutingMessage) (t : RoutingTable) :
    (t.recursiveSend P m).1 = (t.nextHop P m).1.toList.map (sendDataToNode m) := by
  rw [recursiveSend]
  split <;> rename_i heq <;> rw [heq] <;> rfl

/-- A hop list without repetition: the choice is the first usable node of the sorted table. -/
theorem Reachable.nextHop_eq (h : Reachable P t) (hnodup : m.hopNodes.Nodup) :
    (t.nextHop P m).1 = (partialSortNodes P NodeInfo.nodeId m.desNodeId t.nodes.length t.nodes).find?
      (fun n => decide (t.Usable m n)) := by
  rw [nextHop, excludeHops_empty, if_pos hnodup]
  dsimp only
  rw [getClosestNodes_all P m.desNodeId false h.length_le, List.head?_filter]
  refine List.find?_congr (fun n _ => ?_)
  rw [Bool.eq_iff_iff]
  simp only [Bool.and_eq_true, Bool.not_eq_true', beq_eq_false_iff_ne, Bool.and_eq_false_iff,
    decide_eq_false_iff_not, decide_eq_true_eq, List.mem_toFinset, withNodes_localId]
  constructor
  · rintro ⟨⟨hself, hend⟩, hhop⟩
    exact ⟨hhop, hself, fun hc => hend.elim (fun hip => hip hc.1) (fun hport => hport hc.2)⟩
  · rintro ⟨hhop, hself, hend⟩
    exact ⟨⟨hself, not_and_or.mp hend⟩, hhop⟩

theorem Reachable.nextHop_nearest (h : Reachable P t) (hnodup : m.hopNodes.Nodup) {n : NodeInfo}
    (hn : (t.nextHop P m).1 = some n) : t.NearestUsable m n := by
  have hperm := partialSortNodes_perm P NodeInfo.nodeId m.desNodeId t.nodes.length t.nodes
  rw [h.nextHop_eq hnodup] at hn
  refine ⟨hperm.mem_iff.mp (List.mem_of_find?_eq_some hn), by simpa using List.find?_some hn, ?_⟩
  intro n' hn' husable
  rcases find?_first (h.consistent.sorted_all P m.desNodeId) hn (hperm.mem_iff.mpr hn') (by simpa using husable)
    with rfl | hlt
  · exact Nat.le_refl _
  · exact hlt.le

theorem Reachable.nextHop_none (h : Reachable P t) (hnodup : m.hopNodes.Nodup) :
    (t.nextHop P m).1 = none ↔ ∀ n ∈ t.nodes, ¬ t.Usable m n := by
  have hperm := partialSortNodes_perm P NodeInfo.nodeId m.desNodeId t.nodes.length t.nodes
  rw [h.nextHop_eq hnodup, List.find?_eq_none]
  simp only [hperm.mem_iff, decide_eq_true_eq]

theorem Reachable.nearestUsable_unique (h : Reachable P t) {a b : NodeInfo} (ha : t.NearestUsable m a)
    (hb : t.NearestUsable m b) : a = b := by
  apply h.consistent.eq_of_nodeId ha.mem hb.mem
  apply xorDistance_inj m.desNodeId (h.consistent.length a ha.mem) (h.consistent.length b hb.mem)
  exact Nat.le_antisymm (ha.least b hb.mem hb.usable) (hb.least a ha.mem ha.usable)

/-- `RecursiveSend` sends at most once: nothing if a hop is repeated or no node of
the table may be used, and otherwise to the nearest node that may be used, which is
the destination itself if that is one. -/
theorem recursiveSend_nearest (h : Reachable P t) (m : RoutingMessage) :
    (t.recursiveSend P m).1.length ≤ 1 ∧
      (¬ m.hopNodes.Nodup → (t.recursiveSend P m).1 = []) ∧
      (m.hopNodes.Nodup →
        ((t.recursiveSend P m).1 = [] ↔ ∀ n ∈ t.nodes, ¬ t.Usable m n) ∧
        ((∃ n ∈ t.nodes, t.Usable m n) →
          ∃ n, t.NearestUsable m n ∧ SendsOnceTo m n (t.recursiveSend P m).1) ∧
        ∀ n ∈ t.nodes, t.Usable m n → n.nodeId = m.desNodeId → SendsOnceTo m n (t.recursiveSend P m).1) := by
  rw [recursiveSend_eq]
  refine ⟨?_, ?_, ?_⟩
  · cases (t.nextHop P m).1 <;> simp
  · intro hrepeated
    rw [nextHop, excludeHops_empty, if_neg hrepeated]
    rfl
  · intro hnodup
    have hnone := h.nextHop_none hnodup
    have hsome : (∃ n ∈ t.nodes, t.Usable m n) →
        ∃ n, t.NearestUsable m n ∧ (t.nextHop P m).1 = some n := by
      rintro ⟨n, hn, husable⟩
      cases hhop : (t.nextHop P m).1 with
      | none => exact absurd husable (hnone.mp hhop n hn)
      | some n' => exact ⟨n', h.nextHop_nearest hnodup hhop, rfl⟩
    refine ⟨?_, ?_, ?_⟩
    · rw [← hnone]
      cases (t.nextHop P m).1 <;> simp
    · intro hexists
      obtain ⟨n, hnearest, hhop⟩ := hsome hexists
      rw [hhop]
      exact ⟨n, hnearest, sendsOnceTo_sendDataToNode m n⟩
    · intro n hn husable hdes
      obtain ⟨n', hnearest, hhop⟩ := hsome ⟨n, hn, husable⟩
      have hself : t.NearestUsable m n := by
        refine ⟨hn, husable, fun n'' _ _ => ?_⟩
        rw [hdes, xorDistance_self]
        exact Nat.zero_le _
      rw [hhop, h.nearestUsable_unique hnearest hself]
      exact sendsOnceTo_sendDataToNode m n

/-- A message for an unknown node that has passed the nearest known one. -/
def passedMessage : RoutingMessage where
  desNodeId := (localEndingIn 2).id
  hopNodes := [(localEndingIn 3).id]

theorem recursiveSend_nearest_passed :
    (meetingThree.recursiveSend .simple passedMessage).1.length ≤ 1 ∧
      ((meetingThree.recursiveSend .simple passedMessage).1 = [] ↔
        ∀ n ∈ meetingThree.nodes, ¬ meetingThree.Usable passedMessage n) ∧
      ∃ n, meetingThree.NearestUsable passedMessage n ∧
        SendsOnceTo passedMessage n (meetingThree.recursiveSend .simple passedMessage).1 := by
  obtain ⟨hone, _, hnodup⟩ := recursiveSend_nearest reachable_meetingThree passedMessage
  obtain ⟨hnone, hsome, _⟩ := hnodup (by decide)
  exact ⟨hone, hnone, hsome (by decide +kernel)⟩

end RoutingTable
end XKad
