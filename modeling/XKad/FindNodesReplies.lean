import XKad.ClosestNodes
import XKad.MessageHandlers

/-!
# Replies to find-nodes requests

The reply of `HandleFindNodesRequest` in terms of the table: the loop over the
closest nodes is a filter cut at sixteen entries, behind the local entry.
-/
namespace XKad
open Std

namespace RoutingTable

/-- The loop over the closest nodes keeps those that pass both tests, up to sixteen entries. -/
theorem listNodes_eq (target : Bytes) (contain : Bytes → Bool) (ns : List NodeInfo)
    (listed : List PbNodeInfo) (h : listed.length ≤ 16) : listNodes target contain ns listed =
      listed ++ ((ns.filter (fun n => decide (n.nodeId ≠ target) && !contain n.nodeId)).take
        (16 - listed.length)).map pbOfNode := by
  induction ns generalizing listed with
  | nil => simp [listNodes]
  | cons n ns ih =>
    rw [listNodes]
    split_ifs with htarget hcontain hfull
    · rw [ih listed h, List.filter_cons_of_neg (by simp [htarget])]
    · rw [ih listed h, List.filter_cons_of_neg (by simp [hcontain])]
    · rw [show 16 - listed.length = 0 by omega]
      simp
    · rw [ih (listed ++ [pbOfNode n]) (by simp; omega), List.filter_cons_of_pos (by simp [htarget, hcontain]),
        show 16 - listed.length = 16 - (listed ++ [pbOfNode n]).length + 1 by simp; omega]
      simp

theorem changes_admitRequester (P : Platform) (node : NodeInfo) (t : RoutingTable) :
    Changes t (t.admitRequester P node) := by
  rw [admitRequester]
  split
  · have hcan := changes_of_reorders (canAddNode_reorders P node t)
    split <;> rename_i heq <;> rw [heq] at hcan
    · exact hcan.trans (changes_addNode P node _)
    · exact hcan
  · exact .refl

theorem Reachable.admitRequester {P : Platform} {t : RoutingTable} (h : Reachable P t) (node : NodeInfo) :
    Reachable P (t.admitRequester P node) := by
  rw [RoutingTable.admitRequester]
  split
  · have hcan : Reachable P (t.canAddNode P node).2 := h.call (.canAddNode node)
    split <;> rename_i heq <;> rw [heq] at hcan
    · exact hcan.call (.addNode node)
    · exact hcan
  · exact h

/-- The local node may list itself: it is the first node or knows its endpoint. -/
def Listable (l : LocalNodeInfo) : Prop := l.firstNode = true ∨ (l.publicIp ≠ [] ∧ l.publicPort ≠ 0)

/-- The handler comes to its own entry, but a client cannot read its xip. -/
def StopsAtXip (contain : Bytes → Bool) (t : RoutingTable) : Prop :=
  t.localNode.clientMode = true ∧ Listable t.localNode ∧ contain t.localId = false

theorem localEntry_listable {l : LocalNodeInfo} (h : Listable l) :
    ∃ e : Bytes → PbNodeInfo, localEntry l = l.xipString.map (fun xip => [e xip]) ∧ ∀ xip, (e xip).id = l.id := by
  rw [localEntry]
  split_ifs with hfirst hpublic
  · exact ⟨_, rfl, fun _ => rfl⟩
  · exact ⟨_, rfl, fun _ => rfl⟩
  · rcases h with h | ⟨hip, hport⟩
    · exact absurd h hfirst
    · have hpos : 0 < l.publicPort := UInt16.pos_iff_ne_zero.mpr hport
      simp [hip, hpos] at hpublic

theorem localEntry_eq_nil {l : LocalNodeInfo} (h : ¬ Listable l) : localEntry l = some [] := by
  rw [localEntry]
  split_ifs with hfirst hpublic
  · exact absurd (Or.inl hfirst) h
  · simp only [Bool.and_eq_true, Bool.not_eq_true', List.isEmpty_eq_false_iff, decide_eq_true_eq] at hpublic
    exact absurd (Or.inr ⟨hpublic.1, UInt16.pos_iff_ne_zero.mp hpublic.2⟩) h
  · rfl

/-- What a reply lists, with `own` for the local node and `others` for the table nodes `t` has. -/
structure ReplyOf (target : Bytes) (contain : Bytes → Bool) (count : ℕ) (t : RoutingTable)
    (own : List PbNodeInfo) (others : List NodeInfo) : Prop where
  atMost : (own ++ others.map pbOfNode).length ≤ 16
  distinct : ((own ++ others.map pbOfNode).map PbNodeInfo.id).Nodup
  unfiltered : ∀ e ∈ own ++ others.map pbOfNode, contain e.id = false
  notTarget : ∀ e ∈ own ++ others.map pbOfNode, e.id ≠ target
  ownListed : Listable t.localNode → contain t.localId = false → own.map PbNodeInfo.id = [t.localId]
  ownLeftOut : ¬ (Listable t.localNode ∧ contain t.localId = false) → own = []
  members : ∀ n ∈ others, n ∈ t.nodes
  increasing : others.Pairwise (fun a b => xorDistance a.nodeId target < xorDistance b.nodeId target)
  leftOut : ∀ n ∈ t.nodes, n ∉ others → n.nodeId = target ∨ contain n.nodeId = true ∨
    count ≤ (t.nodes.filter (fun m => xorDistance m.nodeId target < xorDistance n.nodeId target)).length ∨
    ((own ++ others.map pbOfNode).length = 16 ∧
      ∀ m ∈ others, xorDistance m.nodeId target < xorDistance n.nodeId target)

section Reply

variable {t : RoutingTable} {target : Bytes} {contain : Bytes → Bool} {count : ℕ}

def kept (target : Bytes) (contain : Bytes → Bool) (ns : List NodeInfo) : List NodeInfo :=
  ns.filter (fun n => decide (n.nodeId ≠ target) && !contain n.nodeId)

theorem mem_kept {ns : List NodeInfo} {n : NodeInfo} :
    n ∈ kept target contain ns ↔ n ∈ ns ∧ n.nodeId ≠ target ∧ contain n.nodeId = false := by
  simp [kept]

theorem Consistent.count_of_notMem (h : t.Consistent) (P : Platform) {n : NodeInfo}
    (hn : n ∈ t.nodes) (hnot : n ∉ (partialSortNodes P NodeInfo.nodeId target
      (min count t.nodes.length) t.nodes).take (min count t.nodes.length)) :
    count ≤ (t.nodes.filter (fun m => xorDistance m.nodeId target < xorDistance n.nodeId target)).length := by
  rw [partialSortNodes_eq] at hnot
  have hmin := P.partialSort.sortBy_count_of_notMem (h.distance_ne target)
    (Nat.min_le_right count t.nodes.length) hn hnot
  have hlt : (t.nodes.filter (fun m => xorDistance m.nodeId target <
      xorDistance n.nodeId target)).length < t.nodes.length := by
    refine List.length_filter_lt_length_iff_exists.mpr ⟨n, hn, ?_⟩
    simp
  omega

theorem after_take_of_notMem {α : Type} {r : α → α → Prop} {l : List α} (hl : l.Pairwise r) {k : ℕ} {a : α}
    (ha : a ∈ l) (hnot : a ∉ l.take k) : (l.take k).length = k ∧ ∀ b ∈ l.take k, r b a := by
  have hlong : k < l.length := by
    by_contra hle
    rw [List.take_of_length_le (by omega)] at hnot
    exact hnot ha
  refine ⟨by rw [List.length_take]; omega, fun b hb => ?_⟩
  rw [← List.take_append_drop k l] at ha hl
  exact (List.pairwise_append.mp hl).2.2 b hb a ((List.mem_append.mp ha).resolve_left hnot)

theorem nodup_of_increasing {ns : List NodeInfo}
    (h : ns.Pairwise (fun a b => xorDistance a.nodeId target < xorDistance b.nodeId target)) :
    (ns.map NodeInfo.nodeId).Nodup := by
  apply List.pairwise_map.mpr
  apply h.imp
  intro a b hab heq
  rw [heq] at hab
  exact absurd hab (Nat.lt_irrefl _)

variable {own : List PbNodeInfo} {others : List NodeInfo}

theorem ReplyOf.ne_nil (h : ReplyOf target contain count t own others) (hlistable : Listable t.localNode)
    (hfilter : contain t.localId = false) : own ++ others.map pbOfNode ≠ [] := by
  intro hnil
  have hlisted := h.ownListed hlistable hfilter
  rw [(List.append_eq_nil_iff.mp hnil).1] at hlisted
  cases hlisted

theorem own_length_le (hown : own = [] ∨ own.map PbNodeInfo.id = [t.localId]) : own.length ≤ 1 := by
  rcases hown with hnil | hid
  · simp [hnil]
  · have hlen := congrArg List.length hid
    rw [List.length_map, List.length_singleton] at hlen
    omega

theorem reply_tested {q : Bytes → Prop} (hown : own = [] ∨ own.map PbNodeInfo.id = [t.localId] ∧ q t.localId)
    (hothers : ∀ n ∈ others, q n.nodeId) : ∀ e ∈ own ++ others.map pbOfNode, q e.id := by
  intro e he
  rcases List.mem_append.mp he with he | he
  · rcases hown with hnil | ⟨hid, hlocal⟩
    · rw [hnil] at he
      cases he
    · have hmap := List.mem_map_of_mem (f := PbNodeInfo.id) he
      rw [hid] at hmap
      rwa [List.mem_singleton.mp hmap]
  · obtain ⟨n, hn, rfl⟩ := List.mem_map.mp he
    exact hothers n hn

theorem reply_nodup (hown : own = [] ∨ own.map PbNodeInfo.id = [t.localId])
    (hdistinct : (others.map NodeInfo.nodeId).Nodup) (hlocal : ∀ n ∈ others, n.nodeId ≠ t.localId) :
    ((own ++ others.map pbOfNode).map PbNodeInfo.id).Nodup := by
  rw [List.map_append, List.map_map]
  rcases hown with hnil | hid
  · rw [hnil]
    exact hdistinct
  · rw [hid]
    refine List.nodup_cons.mpr ⟨?_, hdistinct⟩
    intro hin
    obtain ⟨n, hn, hloc⟩ := List.mem_map.mp hin
    exact hlocal n hn hloc

theorem Consistent.replyOf (h : t.Consistent) (P : Platform) (htarget : target ≠ t.localId)
    {own : List PbNodeInfo}
    (hown : Listable t.localNode → contain t.localId = false → own.map PbNodeInfo.id = [t.localId])
    (hout : ¬ (Listable t.localNode ∧ contain t.localId = false) → own = []) :
    ReplyOf target contain count t own ((kept target contain ((partialSortNodes P NodeInfo.nodeId target
      (min count t.nodes.length) t.nodes).take (min count t.nodes.length))).take (16 - own.length)) := by
  set closest := (partialSortNodes P NodeInfo.nodeId target (min count t.nodes.length) t.nodes).take
    (min count t.nodes.length) with hclosest
  set others := (kept target contain closest).take (16 - own.length) with hothers
  have hsorted : closest.Pairwise (fun a b => xorDistance a.nodeId target < xorDistance b.nodeId target) := by
    rw [hclosest, partialSortNodes_eq]
    exact P.partialSort.sortBy_take_lt (h.distance_ne target) (Nat.min_le_right _ _)
  have hkept : (kept target contain closest).Pairwise
      (fun a b => xorDistance a.nodeId target < xorDistance b.nodeId target) :=
    hsorted.sublist List.filter_sublist
  have hincreasing : others.Pairwise (fun a b => xorDistance a.nodeId target < xorDistance b.nodeId target) :=
    hkept.sublist (List.take_sublist _ _)
  have hmem : ∀ n ∈ others, n ∈ t.nodes ∧ n.nodeId ≠ target ∧ contain n.nodeId = false := by
    intro n hn
    obtain ⟨hc, hkeep⟩ := mem_kept.mp (List.mem_of_mem_take hn)
    have hperm := partialSortNodes_perm P NodeInfo.nodeId target (min count t.nodes.length) t.nodes
    exact ⟨hperm.mem_iff.mp (List.mem_of_mem_take hc), hkeep⟩
  have hcases : own = [] ∨ own.map PbNodeInfo.id = [t.localId] ∧ contain t.localId = false := by
    by_cases hl : Listable t.localNode ∧ contain t.localId = false
    · exact Or.inr ⟨hown hl.1 hl.2, hl.2⟩
    · exact Or.inl (hout hl)
  have hid : own = [] ∨ own.map PbNodeInfo.id = [t.localId] := hcases.imp_right And.left
  have hlength : (own ++ others.map pbOfNode).length ≤ 16 := by
    have hownlen := own_length_le hid
    have hlen : others.length ≤ 16 - own.length := List.length_take_le _ _
    rw [List.length_append, List.length_map]
    omega
  have hforeign : ∀ e ∈ own ++ others.map pbOfNode, e.id ≠ target :=
    reply_tested (q := fun id => id ≠ target) (hid.imp_right (fun heq => ⟨heq, htarget.symm⟩))
      (fun n hn => (hmem n hn).2.1)
  have hunfiltered : ∀ e ∈ own ++ others.map pbOfNode, contain e.id = false :=
    reply_tested (q := fun id => contain id = false) hcases (fun n hn => (hmem n hn).2.2)
  refine ⟨hlength, reply_nodup hid (nodup_of_increasing hincreasing) (fun n hn => h.notLocal n (hmem n hn).1),
    hunfiltered, hforeign, hown, hout, fun n hn => (hmem n hn).1, hincreasing, ?_⟩
  intro n hn hnot
  by_cases htar : n.nodeId = target
  · exact Or.inl htar
  by_cases hcon : contain n.nodeId = true
  · exact Or.inr (Or.inl hcon)
  by_cases hcl : n ∈ closest
  · -- it passed all tests, so it was cut off behind sixteen nearer ones
    have hk : n ∈ kept target contain closest := mem_kept.mpr ⟨hcl, htar, by simpa using hcon⟩
    obtain ⟨hfull, hnearer⟩ := after_take_of_notMem hkept hk hnot
    have hownlen := own_length_le hid
    refine Or.inr (Or.inr (Or.inr ⟨?_, hnearer⟩))
    rw [List.length_append, List.length_map, hothers, hfull]
    omega
  · exact Or.inr (Or.inr (Or.inl (h.count_of_notMem P hn hcl)))

end Reply

/-- The local entry as the handler computes it. -/
def ownEntry (contain : Bytes → Bool) (t : RoutingTable) : Option (List PbNodeInfo) :=
  if contain t.localId then some [] else localEntry t.localNode

section OwnEntry
variable {contain : Bytes → Bool} {t : RoutingTable} {own : List PbNodeInfo}

theorem ownEntry_eq_none : ownEntry contain t = none ↔ StopsAtXip contain t := by
  rw [ownEntry, StopsAtXip]
  split_ifs with hc
  · simp [hc]
  · by_cases hl : Listable t.localNode
    · obtain ⟨e, he, _⟩ := localEntry_listable hl
      rw [he, Option.map_eq_none_iff, LocalNodeInfo.xipString_eq_none]
      simp [hl, hc]
    · rw [localEntry_eq_nil hl]
      simp [hl]

theorem ownEntry_listed (hown : ownEntry contain t = some own) (hl : Listable t.localNode)
    (hc : contain t.localId = false) : own.map PbNodeInfo.id = [t.localId] := by
  obtain ⟨e, he, hid⟩ := localEntry_listable hl
  rw [ownEntry, hc, if_neg Bool.false_ne_true, he] at hown
  obtain ⟨xip, _, rfl⟩ := Option.map_eq_some_iff.mp hown
  rw [List.map_singleton, hid]
  rfl

theorem ownEntry_leftOut (hown : ownEntry contain t = some own)
    (h : ¬ (Listable t.localNode ∧ contain t.localId = false)) : own = [] := by
  rw [ownEntry] at hown
  split_ifs at hown with hc
  · exact (Option.some.inj hown).symm
  · rw [localEntry_eq_nil (fun hl => h ⟨hl, by simpa using hc⟩)] at hown
    exact (Option.some.inj hown).symm

theorem length_ownEntry_le (hown : ownEntry contain t = some own) : own.length ≤ 1 := by
  by_cases hl : Listable t.localNode ∧ contain t.localId = false
  · have hlen := congrArg List.length (ownEntry_listed hown hl.1 hl.2)
    rw [List.length_map, List.length_singleton] at hlen
    exact hlen.le
  · rw [ownEntry_leftOut hown hl]
    exact Nat.zero_le _

end OwnEntry

theorem replyNodes_eq (P : Platform) (r : FindClosestNodesRequest) (t : RoutingTable)
    (hcount : r.count.toNat + 1 < 2 ^ 31) : (t.replyNodes P r).1 =
      (ownEntry (P.bloomContain (requestFilter P r)) t).map
        (listNodes r.targetId (P.bloomContain (requestFilter P r))
          ((partialSortNodes P NodeInfo.nodeId r.targetId (min (r.count.toNat + 1) t.nodes.length)
            t.nodes).take (min (r.count.toNat + 1) t.nodes.length))) := by
  have hnumber : (r.count + 1).toNat = r.count.toNat + 1 := by
    rw [UInt32.toNat_add]
    simp
    omega
  rw [replyNodes, getClosestNodes_eq P r.targetId false t (by omega) (by omega), hnumber]
  rfl

def sentNodes (nodes : Option (List PbNodeInfo)) (m : RoutingMessage) (mid : UInt32) (packet : XPacket)
    (l : LocalNodeInfo) : List Outgoing :=
  match nodes with
  | none | some [] => []
  | some nodes => [sendData { setFreqMessage l mid {} with
      desNodeId := m.srcNodeId
      type := .kadFindNodesResponse
      id := m.id
      data := .findNodesResponse ⟨nodes⟩ } packet.fromIp packet.fromPort]

/-- What `HandleFindNodesRequest` sends: the nodes for the admitted table, if there are any. -/
theorem handleFindNodesRequest_sent (P : Platform) {t : RoutingTable} {m : RoutingMessage}
    {r : FindClosestNodesRequest} (hdes : m.desNodeId = t.localId) (hdata : m.data = .findNodesRequest r)
    (mid : UInt32) (packet : XPacket) : (t.handleFindNodesRequest P mid m packet).1 =
      sentNodes ((t.admitRequester P (nodeOfPb P r.srcNodeinfo)).replyNodes P r).1 m mid packet
        ((t.admitRequester P (nodeOfPb P r.srcNodeinfo)).replyNodes P r).2.localNode := by
  rw [handleFindNodesRequest, if_neg (not_not.mpr hdes), hdata]
  dsimp only
  generalize (t.admitRequester P (nodeOfPb P r.srcNodeinfo)).replyNodes P r = answer
  obtain ⟨_ | _ | ⟨e, es⟩, t'⟩ := answer <;> rfl

theorem sentNodes_of_ne_nil {nodes : List PbNodeInfo} (h : nodes ≠ []) (m : RoutingMessage) (mid : UInt32)
    (packet : XPacket) (l : LocalNodeInfo) : ∃ o, sentNodes (some nodes) m mid packet l = [o] ∧
      (o.toIp, o.toPort) = (packet.fromIp, packet.fromPort) ∧ o.message.desNodeId = m.srcNodeId ∧
      o.message.data = .findNodesResponse ⟨nodes⟩ := by
  cases nodes with
  | nil => exact absurd rfl h
  | cons e es => exact ⟨_, rfl, rfl, by rw [sendData, setVersion_desNodeId], by rw [sendData, setVersion_data]⟩

/-- The reply of `HandleFindNodesRequest` lists what it should and goes to the node that
asked, and nothing is sent exactly if it lists nothing. -/
def RepliesTo (P : Platform) (t : RoutingTable) (m : RoutingMessage) (r : FindClosestNodesRequest) (mid : UInt32)
    (packet : XPacket) : Prop :=
  ∃ own others, ReplyOf r.targetId (P.bloomContain (requestFilter P r)) (r.count.toNat + 1)
      (t.admitRequester P (nodeOfPb P r.srcNodeinfo)) own others ∧
    (own ++ others.map pbOfNode = [] → (t.handleFindNodesRequest P mid m packet).1 = []) ∧
    (own ++ others.map pbOfNode ≠ [] → ∃ o, (t.handleFindNodesRequest P mid m packet).1 = [o] ∧
      (o.toIp, o.toPort) = (packet.fromIp, packet.fromPort) ∧ o.message.desNodeId = m.srcNodeId ∧
      o.message.data = .findNodesResponse ⟨own ++ others.map pbOfNode⟩)

theorem admitRequester_localNode (P : Platform) (node : NodeInfo) (t : RoutingTable) :
    (t.admitRequester P node).localNode = t.localNode := by
  obtain ⟨l, _, hl⟩ := canAddNode_reorders P node t
  have hadd (u : RoutingTable) : (u.addNode P node).2.localNode = u.localNode := by
    obtain ⟨_, _, ⟨_, _, _, he⟩ | ⟨_, he⟩⟩ := addNode_cases P node u
    · rw [he]
      rfl
    · rw [he, inserted_localNode]
      rfl
  rw [admitRequester]
  split
  · split <;> rename_i heq <;> rw [heq] at hl <;> subst hl
    · exact hadd _
    · rfl
  · rfl

theorem stopsAtXip_admitRequester (P : Platform) (contain : Bytes → Bool) (node : NodeInfo) (t : RoutingTable) :
    StopsAtXip contain (t.admitRequester P node) ↔ StopsAtXip contain t := by
  rw [StopsAtXip, StopsAtXip, localId, localId, admitRequester_localNode]

/-- The reply to a find-nodes request for another id: the handler replies as it should
if and only if it does not have to read the xip of a client. -/
theorem findNodes_reply {P : Platform} {t : RoutingTable} (h : Reachable P t) {m : RoutingMessage}
    {r : FindClosestNodesRequest} (hdes : m.desNodeId = t.localId) (hdata : m.data = .findNodesRequest r)
    (htarget : r.targetId ≠ t.localId)
    (hcount : r.count.toNat + 1 < 2 ^ 31) (mid : UInt32) (packet : XPacket) :
    RepliesTo P t m r mid packet ↔ ¬ StopsAtXip (P.bloomContain (requestFilter P r)) t := by
  rw [← stopsAtXip_admitRequester P _ (nodeOfPb P r.srcNodeinfo), RepliesTo,
    handleFindNodesRequest_sent P hdes hdata mid packet, replyNodes_eq P r _ hcount]
  set t₁ := t.admitRequester P (nodeOfPb P r.srcNodeinfo) with ht₁
  set contain := P.bloomContain (requestFilter P r)
  constructor
  · rintro ⟨own, others, hreply, _, hsent⟩ hstops
    obtain ⟨o, ho, _⟩ := hsent (hreply.ne_nil hstops.2.1 hstops.2.2)
    rw [ownEntry_eq_none.mpr hstops] at ho
    cases ho
  · intro hreads
    have hc₁ : t₁.Consistent := (h.admitRequester _).consistent
    have htarget₁ : r.targetId ≠ t₁.localId := by
      rw [(changes_admitRequester P _ t).localId]
      exact htarget
    cases hown : ownEntry contain t₁ with
    | none => exact absurd (ownEntry_eq_none.mp hown) hreads
    | some own =>
      have hreply : ReplyOf r.targetId contain (r.count.toNat + 1) t₁ own _ :=
        hc₁.replyOf P htarget₁ (ownEntry_listed hown) (ownEntry_leftOut hown)
      have hlength : own.length ≤ 16 := by
        have hle := hreply.atMost
        rw [List.length_append] at hle
        omega
      refine ⟨own, _, hreply, ?_, ?_⟩ <;> rw [Option.map_some, listNodes_eq _ _ _ _ hlength]
      · intro hnil
        rw [kept] at hnil
        rw [hnil]
        rfl
      · intro hne
        exact sentNodes_of_ne_nil hne m mid packet (t₁.replyNodes P r).2.localNode

def firstKnowingThree : RoutingTable :=
  (TableOp.addNode (nodeEndingIn 8)).run .simple ((TableOp.addNode (nodeEndingIn 4)).run .simple
    ((TableOp.addNode (nodeEndingIn 2)).run .simple (init { localEndingIn 1 with firstNode := true } 9)))

theorem reachable_firstKnowingThree : Reachable .simple firstKnowingThree :=
  (((Reachable.init _ _).call _).call _).call _

/-- A search for an id by a node that knows the node ending in 4. -/
def searchWithoutFour : FindClosestNodesRequest where
  count := 2
  targetId := (localEndingIn 7).id
  bloomfilter := [4]

def searchMessage : RoutingMessage where
  desNodeId := (localEndingIn 1).id
  data := .findNodesRequest searchWithoutFour

/-- Of the three nearest nodes one is in the filter; the node lists itself first. -/
theorem findNodes_reply_searching :
    ((firstKnowingThree.admitRequester .simple (nodeOfPb .simple searchWithoutFour.srcNodeinfo)).replyNodes
        .simple searchWithoutFour).1.map (List.map PbNodeInfo.id) =
      some [(localEndingIn 1).id, (nodeEndingIn 2).nodeId, (nodeEndingIn 8).nodeId] ∧
    RepliesTo .simple firstKnowingThree searchMessage searchWithoutFour 0 ⟨[49], 9000⟩ :=
  ⟨by decide +kernel, (findNodes_reply reachable_firstKnowingThree (m := searchMessage) (by decide +kernel) rfl
    (by decide +kernel) (by decide) 0 ⟨[49], 9000⟩).mpr (fun h => absurd h.1 (by decide +kernel))⟩

/-- A client that has learned its endpoint and knows one other node. -/
def clientAtEndpoint : RoutingTable :=
  (TableOp.addNode (nodeEndingIn 2)).run .simple
    (init { localEndingIn 1 with clientMode := true, publicIp := [51], publicPort := 9000 } 9)

/-- The client is asked for nodes and sends none. -/
theorem not_findNodes_reply : ¬ ∀ (P : Platform) (t : RoutingTable) (m : RoutingMessage)
    (r : FindClosestNodesRequest), Reachable P t → m.desNodeId = t.localId → m.data = .findNodesRequest r →
      r.targetId.length = kNodeIdSize → r.targetId ≠ t.localId → r.count.toNat + 1 < 2 ^ 31 →
      ∀ (mid : UInt32) (packet : XPacket), RepliesTo P t m r mid packet := by
  intro h
  have hreach : Reachable .simple clientAtEndpoint := (Reachable.init _ _).call _
  have hreplies := h .simple clientAtEndpoint searchMessage searchWithoutFour hreach (by decide +kernel) rfl
    (by decide +kernel) (by decide +kernel) (by decide) 0 ⟨[49], 9000⟩
  obtain ⟨own, others, hreply, _, hsent⟩ := hreplies
  obtain ⟨o, ho, _⟩ := hsent (hreply.ne_nil (Or.inr (by decide +kernel)) (by decide +kernel))
  have hnone : (clientAtEndpoint.handleFindNodesRequest .simple 0 searchMessage ⟨[49], 9000⟩).1 = [] := by
    decide +kernel
  rw [hnone] at ho
  cases ho

end RoutingTable
end XKad
