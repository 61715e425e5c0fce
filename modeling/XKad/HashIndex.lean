import XKad.HandlerEffects

/-!
# The hash index

`node_hash_map_` is keyed by the hash of the xid while membership goes by node id.
The index matches the nodes as long as every accepted record brings an xid that
neither the local node nor a node of the table has; the rewritten xid of
`HandleFindNodesResponse` breaks it.
-/
namespace XKad
open Std

namespace RoutingTable

/-- The hash map holds the local node and the nodes of the table, each of them once. -/
structure HashAgreement (t : RoutingTable) : Prop where
  localEntry : ∃ n, t.nodeHashMap[t.localNode.hash64]? = some n ∧ n.nodeId = t.localId
  once : ∀ n ∈ t.nodes, ∃! h : UInt64, t.nodeHashMap[h]? = some n
  nothingElse : ∀ (h : UInt64) n, t.nodeHashMap[h]? = some n →
    n ∈ t.nodes ∨ (h = t.localNode.hash64 ∧ n.nodeId = t.localId)
  size : t.nodeHashMap.size = t.nodes.length + 1
  selfIndex : t.getSelfIndex ≠ -1

end RoutingTable

/-- The xids a message carries for the records made of it. -/
def MessageData.xids : MessageData → List Bytes
  | .findNodesRequest r => [r.srcNodeinfo.xid]
  | .findNodesResponse r => r.nodes.map PbNodeInfo.xid
  | .bootstrapJoinRequest r => [r.xid]
  | .bootstrapJoinResponse r => [r.xid]
  | .handshake h => [h.xid]
  | _ => []

/-- The tables reached from `Init` by handler calls with messages whose xids are
in `X` and by failed heartbeats; every handler call meets the condition `ok`. -/
inductive Handled (P : Platform) (X : Set Bytes) (ok : HandlerCall → RoutingTable → Prop)
    (l : LocalNodeInfo) (port : UInt16) : RoutingTable → Prop where
  | init : Handled P X ok l port (RoutingTable.init l port)
  | call {t : RoutingTable} (h : Handled P X ok l port t) (c : HandlerCall)
      (xids : ∀ x ∈ c.message.data.xids, x ∈ X) (hok : ok c t) : Handled P X ok l port (c.run P t).2
  | heartbeatFailed {t : RoutingTable} (h : Handled P X ok l port t) (ip : Bytes) (p : UInt16) :
      Handled P X ok l port (t.onHeartbeatFailed ip p)

namespace RoutingTable

/-- The record brings an xid that neither the local node nor a node of the table has. -/
def FreshXid (t : RoutingTable) (node : NodeInfo) : Prop :=
  node.xid ≠ t.localNode.xid ∧ ∀ n ∈ t.nodes, node.xid ≠ n.xid

instance (t : RoutingTable) (node : NodeInfo) : Decidable (t.FreshXid node) :=
  inferInstanceAs (Decidable (_ ∧ _))

end RoutingTable

namespace HandlerCall

/-- Every record the call offers and `AddNode` accepts has an xid of its own. -/
def FreshXids (P : Platform) (c : HandlerCall) (t : RoutingTable) : Prop :=
  ∀ o ∈ c.offers P t, o.1.Accepts o.2 → o.1.FreshXid o.2

instance (P : Platform) (c : HandlerCall) (t : RoutingTable) : Decidable (c.FreshXids P t) :=
  inferInstanceAs (Decidable (∀ o ∈ c.offers P t, _))

end HandlerCall

namespace RoutingTable

/-- The hash of an offered record is that of its xid, which comes from the message
or is the local one. -/
structure Hashed (P : Platform) (xids : List Bytes) (o : RoutingTable × NodeInfo) : Prop where
  hash : o.2.hash64 = P.xhash64 o.2.xid
  xid : o.2.xid ∈ xids ∨ o.2.xid = o.1.localNode.xid

theorem foundRecord_hashed {P : Platform} {m : RoutingMessage} {t : RoutingTable} {n : PbNodeInfo}
    {node : NodeInfo} (h : foundRecord P m t n = some node) : Hashed P [n.xid] (t, node) := by
  dsimp only [foundRecord] at h
  split_ifs at h
  · cases h
    exact ⟨rfl, Or.inr rfl⟩
  · cases h
    exact ⟨rfl, Or.inl (List.mem_singleton_self _)⟩

theorem foundOffers_hashed (P : Platform) (m : RoutingMessage) (packet : XPacket) (mid : Bytes → UInt32)
    (ns : List PbNodeInfo) (t : RoutingTable) :
    ∀ o ∈ foundOffers P m packet mid ns t, Hashed P (ns.map PbNodeInfo.xid) o := by
  induction ns generalizing t with
  | nil => simp [foundOffers]
  | cons n ns ih =>
    intro o ho
    rcases List.mem_append.mp ho with ho | ho
    · rw [Option.mem_toList, Option.map_eq_some_iff] at ho
      obtain ⟨node, hf, rfl⟩ := ho
      obtain ⟨hash, hx | hx⟩ := foundRecord_hashed hf
      · exact ⟨hash, Or.inl (by simpa using Or.inl (List.mem_singleton.mp hx))⟩
      · exact ⟨hash, Or.inr hx⟩
    · obtain ⟨hash, hx | hx⟩ := ih _ o ho
      · exact ⟨hash, Or.inl (List.mem_cons_of_mem _ hx)⟩
      · exact ⟨hash, Or.inr hx⟩

theorem hashed_singleton {P : Platform} (t : RoutingTable) (node : NodeInfo)
    (hash : node.hash64 = P.xhash64 node.xid) : ∀ o ∈ [(t, node)], Hashed P [node.xid] o := by
  intro o ho
  rw [List.mem_singleton.mp ho]
  exact ⟨hash, Or.inl (List.mem_singleton_self _)⟩

theorem hashed_nil (P : Platform) (xids : List Bytes) :
    ∀ o ∈ ([] : List (RoutingTable × NodeInfo)), Hashed P xids o := by
  simp

section Offers

variable (P : Platform) (m : RoutingMessage) (packet : XPacket) (t : RoutingTable)

theorem handshakeOffers_hashed : ∀ o ∈ handshakeOffers P m packet t, Hashed P m.data.xids o := by
  rw [handshakeOffers]
  split_ifs
  · exact hashed_nil P _
  · cases m.data with
    | handshake h =>
      have hrecord := hashed_singleton (P := P) t (markSameVlan packet (handshakeNode P m packet h))
        (by simp [handshakeNode])
      rw [markSameVlan_xid] at hrecord
      dsimp only
      split_ifs
      · exact hrecord
      · exact hashed_nil P _
    | _ => exact hashed_nil P _

theorem joinRequestOffers_hashed : ∀ o ∈ joinRequestOffers P m packet t, Hashed P m.data.xids o := by
  rw [joinRequestOffers]
  cases m.data with
  | bootstrapJoinRequest r =>
    dsimp only
    split_ifs
    · exact hashed_singleton t (joinNode P m packet r) rfl
    · exact hashed_nil P _
  | _ => exact hashed_nil P _

theorem joinResponseOffers_hashed : ∀ o ∈ joinResponseOffers P m packet t, Hashed P m.data.xids o := by
  rw [joinResponseOffers]
  by_cases hdes : m.desNodeId = t.localId
  · rw [if_neg (not_not.mpr hdes)]
    cases m.data with
    | bootstrapJoinResponse r =>
      dsimp only
      split_ifs
      · exact hashed_nil P _
      · exact hashed_singleton t (bootstrapNode P m packet r) rfl
    | _ => exact hashed_nil P _
  · rw [if_pos hdes]
    exact hashed_nil P _

theorem findNodesRequestOffers_hashed : ∀ o ∈ findNodesRequestOffers P m t, Hashed P m.data.xids o := by
  rw [findNodesRequestOffers]
  split_ifs
  · exact hashed_nil P _
  · cases m.data with
    | findNodesRequest r =>
      dsimp only
      split_ifs
      · exact hashed_singleton t (nodeOfPb P r.srcNodeinfo) rfl
      · exact hashed_nil P _
    | _ => exact hashed_nil P _

theorem findNodesResponseOffers_hashed (mid : Bytes → UInt32) :
    ∀ o ∈ findNodesResponseOffers P m packet t mid, Hashed P m.data.xids o := by
  rw [findNodesResponseOffers]
  split_ifs
  · exact hashed_nil P _
  · cases m.data with
    | findNodesResponse r => exact foundOffers_hashed P m packet mid r.nodes t
    | _ => exact hashed_nil P _

end Offers

theorem offers_hashed (P : Platform) (c : HandlerCall) (t : RoutingTable) :
    ∀ o ∈ c.offers P t, Hashed P c.message.data.xids o := by
  rw [HandlerCall.offers]
  cases c.handler with
  | handleConnectRequest => exact hashed_nil P _
  | handleHandshake => exact handshakeOffers_hashed P _ _ t
  | handleBootstrapJoinRequest => exact joinRequestOffers_hashed P _ _ t
  | handleBootstrapJoinResponse => exact joinResponseOffers_hashed P _ _ t
  | handleFindNodesRequest => exact findNodesRequestOffers_hashed P _ t
  | handleFindNodesResponse => exact findNodesResponseOffers_hashed P _ _ t _

/-- The invariant: hashes are those of the xids, and the map holds exactly one
entry for the local node and for each node of the table. -/
structure HashIndexed (P : Platform) (X : Set Bytes) (t : RoutingTable) : Prop where
  consistent : t.Consistent
  localHash : t.localNode.hash64 = P.xhash64 t.localNode.xid
  localXid : t.localNode.xid ∈ X
  hash : ∀ n ∈ t.nodes, n.hash64 = P.xhash64 n.xid
  xid : ∀ n ∈ t.nodes, n.xid ∈ X
  entries : ∃ self : NodeInfo, self.nodeId = t.localId ∧ ∀ (h : UInt64) n,
    t.nodeHashMap[h]? = some n ↔ (n = self ∧ h = t.localNode.hash64) ∨ (n ∈ t.nodes ∧ h = n.hash64)

namespace HashIndexed

variable {P : Platform} {X : Set Bytes} {t t' : RoutingTable}

theorem keeps (h : HashIndexed P X t) (hk : Keeps t t') : HashIndexed P X t' where
  consistent := hk.changes.consistent h.consistent
  localHash := by rw [hk.hash64, hk.xid]; exact h.localHash
  localXid := by rw [hk.xid]; exact h.localXid
  hash n hn := h.hash n (hk.nodes.mem_iff.mp hn)
  xid n hn := h.xid n (hk.nodes.mem_iff.mp hn)
  entries := by
    rw [hk.nodeHashMap, hk.localId, hk.hash64]
    simpa only [hk.nodes.mem_iff] using h.entries

theorem notMem (h : HashIndexed P X t) (hinj : Set.InjOn P.xhash64 X) {node : NodeInfo} (hx : node.xid ∈ X)
    (hfresh : t.FreshXid node) : P.xhash64 node.xid ∉ t.nodeHashMap := by
  obtain ⟨self, _, hentries⟩ := h.entries
  obtain ⟨hlocal, hnodes⟩ := hfresh
  intro hin
  obtain ⟨n, hn⟩ := Option.isSome_iff_exists.mp (ExtTreeMap.mem_iff_isSome_getElem?.mp hin)
  rcases (hentries _ n).mp hn with ⟨_, he⟩ | ⟨hm, he⟩
  · rw [h.localHash] at he
    exact hlocal (hinj hx h.localXid he)
  · rw [h.hash n hm] at he
    exact hnodes n hm (hinj hx (h.xid n hm) he)

theorem insert (h : HashIndexed P X t) (hinj : Set.InjOn P.xhash64 X) {node : NodeInfo}
    (hacc : t.Accepts node) (hhash : node.hash64 = P.xhash64 node.xid) (hx : node.xid ∈ X)
    (hfresh : t.FreshXid node) :
    HashIndexed P X (t.inserted (placed t.localId node)) := by
  have hmem (n : NodeInfo) : n ∈ (t.inserted (placed t.localId node)).nodes ↔
      n ∈ t.nodes ∨ n = placed t.localId node := by
    rw [inserted_nodes, List.mem_append, List.mem_singleton]
  have hnot := h.notMem hinj hx hfresh
  refine ⟨h.consistent.insert hacc.admissible hacc.new, h.localHash, h.localXid, forall_mem_inserted h.hash hhash,
    forall_mem_inserted h.xid hx, ?_⟩
  · obtain ⟨self, hself, hentries⟩ := h.entries
    refine ⟨self, hself, fun k n => ?_⟩
    have hins : (t.inserted (placed t.localId node)).nodeHashMap =
        t.nodeHashMap.insertIfNew node.hash64 (placed t.localId node) := rfl
    rw [hins, getElem?_insertIfNew_iff, hmem, or_and_right, ← or_assoc, inserted_localNode, ← hentries k n]
    constructor
    · rintro (⟨hk, _, rfl⟩ | hold)
      · exact Or.inr ⟨rfl, hk⟩
      · exact Or.inl hold
    · rintro (hold | ⟨rfl, hk⟩)
      · exact Or.inr hold
      · rw [← hhash] at hnot
        exact Or.inl ⟨hk, hnot, rfl⟩

theorem eq_of_hash64 (h : HashIndexed P X t) {a b : NodeInfo} (ha : a ∈ t.nodes) (hb : b ∈ t.nodes)
    (he : a.hash64 = b.hash64) : a = b := by
  obtain ⟨self, _, hentries⟩ := h.entries
  have hga := (hentries a.hash64 a).mpr (Or.inr ⟨ha, rfl⟩)
  have hgb := (hentries b.hash64 b).mpr (Or.inr ⟨hb, rfl⟩)
  rw [he, hgb] at hga
  exact (Option.some.inj hga).symm

theorem hash64_ne_local (h : HashIndexed P X t) {n : NodeInfo} (hn : n ∈ t.nodes) :
    n.hash64 ≠ t.localNode.hash64 := by
  obtain ⟨self, hself, hentries⟩ := h.entries
  intro he
  have hgn := (hentries n.hash64 n).mpr (Or.inr ⟨hn, rfl⟩)
  have hgs := (hentries t.localNode.hash64 self).mpr (Or.inl ⟨rfl, rfl⟩)
  rw [he, hgs] at hgn
  cases hgn
  exact h.consistent.notLocal _ hn hself

theorem drop (h : HashIndexed P X t) {node : NodeInfo} (hm : node ∈ t.nodes) :
    HashIndexed P X (t.dropNode node) := by
  have hnodes : (t.dropNode node).nodes = t.nodes.filter (fun n => n.nodeId ≠ node.nodeId) :=
    eraseP_eq_filter h.consistent.nodup node.nodeId
  have hmem {n : NodeInfo} : n ∈ (t.dropNode node).nodes ↔ n ∈ t.nodes ∧ n.nodeId ≠ node.nodeId := by
    rw [hnodes]
    simp
  have hsame := LocalNodeInfo.sameIdentity_dropDxip t.localNode node.nodeId
  have hhash : (t.dropNode node).localNode.hash64 = t.localNode.hash64 := hsame.hash64
  have hxid : (t.dropNode node).localNode.xid = t.localNode.xid := hsame.xid
  refine ⟨h.consistent.drop node, ?_, ?_, fun n hn => h.hash n (hmem.mp hn).1,
    fun n hn => h.xid n (hmem.mp hn).1, ?_⟩
  · rw [hhash, hxid]
    exact h.localHash
  · rw [hxid]
    exact h.localXid
  · obtain ⟨self, hself, hentries⟩ := h.entries
    refine ⟨self, hself.trans (dropNode_localId t node).symm, fun k n => ?_⟩
    have herase : (t.dropNode node).nodeHashMap = t.nodeHashMap.erase node.hash64 := rfl
    rw [herase, getElem?_erase_iff, hhash, hmem, hentries]
    constructor
    · rintro ⟨hk, he | ⟨hn, he⟩⟩
      · exact Or.inl he
      · refine Or.inr ⟨⟨hn, fun hid => hk ?_⟩, he⟩
        rw [he, h.consistent.eq_of_nodeId hn hm hid]
    · rintro (⟨he, rfl⟩ | ⟨⟨hn, hne⟩, rfl⟩)
      · exact ⟨(h.hash64_ne_local hm).symm, Or.inl ⟨he, rfl⟩⟩
      · exact ⟨fun hk => hne (congrArg NodeInfo.nodeId (h.eq_of_hash64 hn hm hk)), Or.inr ⟨hn, rfl⟩⟩

theorem dropAll {ns : List NodeInfo} (h : HashIndexed P X t)
    (hids : ns.Pairwise (fun a b => a.nodeId ≠ b.nodeId)) (hm : ∀ n ∈ ns, n ∈ t.nodes) :
    HashIndexed P X (ns.foldl (fun t n => t.dropNode n) t) := by
  induction ns generalizing t with
  | nil => exact h
  | cons n ns ih =>
    obtain ⟨hn, hns⟩ := List.pairwise_cons.mp hids
    apply ih (h.drop (hm n List.mem_cons_self)) hns
    intro a ha
    rw [dropNode_nodes, eraseP_eq_filter h.consistent.nodup]
    exact List.mem_filter.mpr ⟨hm a (List.mem_cons_of_mem _ ha), by simpa using (hn a ha).symm⟩

theorem onHeartbeatFailed (h : HashIndexed P X t) (ip : Bytes) (port : UInt16) :
    HashIndexed P X (t.onHeartbeatFailed ip port) :=
  h.dropAll (h.consistent.nodup.sublist List.filter_sublist) (fun _ hn => List.mem_of_mem_filter hn)

theorem init_nodeHashMap (l : LocalNodeInfo) (port : UInt16) : ∃ self : NodeInfo, self.nodeId = l.id ∧
    (RoutingTable.init l port).nodeHashMap = (∅ : ExtTreeMap UInt64 NodeInfo).insertIfNew l.hash64 self := by
  dsimp only [RoutingTable.init]
  split <;> exact ⟨_, rfl, rfl⟩

theorem init {l : LocalNodeInfo} (hl : l.hash64 = P.xhash64 l.xid) (hx : l.xid ∈ X) (port : UInt16) :
    HashIndexed P X (RoutingTable.init l port) := by
  refine ⟨consistent_init l port, ?_, ?_, ?_, ?_, ?_⟩
  · rw [init_hash64, init_xid]
    exact hl
  · rw [init_xid]
    exact hx
  · simp
  · simp
  · obtain ⟨self, hself, hmap⟩ := init_nodeHashMap l port
    refine ⟨self, hself.trans (init_localId l port).symm, fun k n => ?_⟩
    rw [hmap, init_nodes, init_hash64, ExtTreeMap.getElem?_insertIfNew]
    by_cases hk : l.hash64 = k
    · simp [hk, eq_comm]
    · simp [hk, Ne.symm hk]

theorem mem_nodeHashMap (h : HashIndexed P X t) (k : UInt64) :
    k ∈ t.nodeHashMap ↔ k ∈ t.localNode.hash64 :: t.nodes.map NodeInfo.hash64 := by
  obtain ⟨self, _, hentries⟩ := h.entries
  rw [ExtTreeMap.mem_iff_isSome_getElem?, Option.isSome_iff_exists, List.mem_cons, List.mem_map]
  constructor
  · rintro ⟨n, hn⟩
    rcases (hentries k n).mp hn with ⟨_, he⟩ | ⟨hm, he⟩
    · exact Or.inl he
    · exact Or.inr ⟨n, hm, he.symm⟩
  · rintro (he | ⟨n, hm, he⟩)
    · exact ⟨self, (hentries k self).mpr (Or.inl ⟨rfl, he⟩)⟩
    · exact ⟨n, (hentries k n).mpr (Or.inr ⟨hm, he.symm⟩)⟩

theorem size_nodeHashMap (h : HashIndexed P X t) : t.nodeHashMap.size = t.nodes.length + 1 := by
  have hnodup : (t.localNode.hash64 :: t.nodes.map NodeInfo.hash64).Nodup := by
    refine List.nodup_cons.mpr ⟨?_, ?_⟩
    · intro hin
      obtain ⟨n, hn, he⟩ := List.mem_map.mp hin
      exact h.hash64_ne_local hn he
    · refine List.pairwise_map.mpr (h.consistent.nodup.imp_of_mem ?_)
      intro a b ha hb hne he
      exact hne (congrArg NodeInfo.nodeId (h.eq_of_hash64 ha hb he))
  rw [size_eq_length t.nodeHashMap hnodup h.mem_nodeHashMap, List.length_cons, List.length_map]

theorem agreement (h : HashIndexed P X t) : t.HashAgreement := by
  obtain ⟨self, hself, hentries⟩ := h.entries
  have hlocal := (hentries t.localNode.hash64 self).mpr (Or.inl ⟨rfl, rfl⟩)
  refine ⟨⟨self, hlocal, hself⟩, ?_, ?_, h.size_nodeHashMap, ?_⟩
  · intro n hn
    refine ⟨n.hash64, (hentries _ n).mpr (Or.inr ⟨hn, rfl⟩), fun k hk => ?_⟩
    rcases (hentries k n).mp hk with ⟨rfl, _⟩ | ⟨_, he⟩
    · exact absurd hself (h.consistent.notLocal _ hn)
    · exact he
  · intro k n hk
    rcases (hentries k n).mp hk with ⟨rfl, he⟩ | ⟨hn, _⟩
    · exact Or.inr ⟨he, hself⟩
    · exact Or.inl hn
  · have hin : t.nodeHashMap.contains t.localNode.hash64 = true :=
      ExtTreeMap.contains_iff_mem.mpr ((h.mem_nodeHashMap _).mpr List.mem_cons_self)
    rw [getSelfIndex, if_pos hin]
    omega

end HashIndexed

theorem Keeps.freshXid_iff {t t' : RoutingTable} (hk : Keeps t t') (node : NodeInfo) :
    t'.FreshXid node ↔ t.FreshXid node := by
  simp only [FreshXid, hk.xid, hk.nodes.mem_iff]

/-- Too few entries: a node of the table or the local node has none. -/
def Short (t : RoutingTable) : Prop := t.nodeHashMap.size ≤ t.nodes.length

theorem Short.keeps {t t' : RoutingTable} (h : Short t) (hk : Keeps t t') : Short t' := by
  rw [Short, hk.nodeHashMap, hk.nodes.length_eq]
  exact h

theorem Short.inserted {t : RoutingTable} (h : Short t) (node : NodeInfo) : Short (t.inserted node) := by
  have hle : (t.inserted node).nodeHashMap.size ≤ t.nodeHashMap.size + 1 := ExtTreeMap.size_insertIfNew_le
  rw [Short] at h ⊢
  rw [inserted_nodes, List.length_append, List.length_singleton]
  omega

/-- The map ignores a record with a known xid. -/
theorem HashIndexed.short {P : Platform} {X : Set Bytes} {t : RoutingTable} (h : HashIndexed P X t)
    {node : NodeInfo} (hhash : node.hash64 = P.xhash64 node.xid) (hknown : ¬ t.FreshXid node) (id : Bytes) :
    Short (t.inserted (placed id node)) := by
  have hin : node.hash64 ∈ t.nodeHashMap := by
    rw [h.mem_nodeHashMap, hhash, List.mem_cons, List.mem_map]
    by_cases hlocal : node.xid = t.localNode.xid
    · exact Or.inl (hlocal ▸ h.localHash.symm)
    · have hnodes : ¬ ∀ n ∈ t.nodes, node.xid ≠ n.xid := fun hall => hknown ⟨hlocal, hall⟩
      push Not at hnodes
      obtain ⟨n, hn, hx⟩ := hnodes
      exact Or.inr ⟨n, hn, by rw [h.hash n hn, hx]⟩
  have hsize : (t.inserted (placed id node)).nodeHashMap.size = t.nodeHashMap.size := by
    have hins : (t.inserted (placed id node)).nodeHashMap =
      t.nodeHashMap.insertIfNew node.hash64 (placed id node) := rfl
    rw [hins, ExtTreeMap.size_insertIfNew, if_pos hin]
  rw [Short, hsize, h.size_nodeHashMap, inserted_nodes, List.length_append, List.length_singleton]

section Evolution

variable {P : Platform} {X : Set Bytes} {t t' : RoutingTable} {os : List (RoutingTable × NodeInfo)}
  {xids : List Bytes}

theorem Evolves.short (h : Evolves os t t') (hs : Short t) : Short t' :=
  h.induct (fun _ _ hk hs => hs.keeps hk) (fun _ _ _ _ _ _ hs => hs.inserted _) hs

theorem Evolves.hashIndexed (h : Evolves os t t') (hinj : Set.InjOn P.xhash64 X)
    (hos : ∀ o ∈ os, Hashed P xids o) (hx : ∀ x ∈ xids, x ∈ X)
    (hfresh : ∀ o ∈ os, o.1.Accepts o.2 → o.1.FreshXid o.2) (hi : HashIndexed P X t) :
    HashIndexed P X t' := by
  refine h.induct (I := HashIndexed P X) (fun s s' hk hs => hs.keeps hk) ?_ hi
  intro s u node ho hacc hk hu
  obtain ⟨hhash, hxid⟩ := hos _ ho
  have hnew := hfresh _ ho hacc
  rw [← hk.localId]
  refine hu.insert hinj ((hk.accepts_iff node).mpr hacc) hhash ?_ ((hk.freshXid_iff node).mpr hnew)
  exact hxid.elim (hx _) (fun he => absurd he hnew.1)

/-- One accepted record with a known xid leaves too few entries. -/
theorem Evolves.short_of_known (h : Evolves os t t') (hinj : Set.InjOn P.xhash64 X)
    (hos : ∀ o ∈ os, Hashed P xids o) (hx : ∀ x ∈ xids, x ∈ X)
    (hknown : ¬ ∀ o ∈ os, o.1.Accepts o.2 → o.1.FreshXid o.2) (hi : HashIndexed P X t) : Short t' := by
  induction h with
  | keep _ => exact absurd (by simp) hknown
  | @offer t t' node h =>
    cases h with
    | refused hr _ => exact absurd (by simp [hr]) hknown
    | added ha hu hk =>
      have hnot : ¬ t.FreshXid node := fun hf => hknown (by simpa using fun _ => hf)
      have hhash := (hos _ (List.mem_singleton_self _)).hash
      exact ((hi.keeps hu).short hhash (fun hf => hnot ((hu.freshXid_iff node).mp hf)) _).keeps hk
  | @append as bs t t' t'' h h' ih ih' =>
    have has : ∀ o ∈ as, Hashed P xids o := fun o ho => hos o (List.mem_append_left _ ho)
    have hbs : ∀ o ∈ bs, Hashed P xids o := fun o ho => hos o (List.mem_append_right _ ho)
    by_cases hfirst : ∀ o ∈ as, o.1.Accepts o.2 → o.1.FreshXid o.2
    · refine ih' hbs (fun hsecond => hknown ?_) (h.hashIndexed hinj has hx hfirst hi)
      exact fun o ho => (List.mem_append.mp ho).elim (hfirst o) (hsecond o)
    · exact h'.short (ih has hfirst hi)

/-- From a table whose index matches, a handler call keeps the agreement exactly if
it brings fresh xids. -/
theorem HashIndexed.call_iff (h : HashIndexed P X t) (hinj : Set.InjOn P.xhash64 X) {c : HandlerCall}
    (hx : ∀ x ∈ c.message.data.xids, x ∈ X) : (c.run P t).2.HashAgreement ↔ c.FreshXids P t := by
  have hev := handlerCall_evolves P c t
  constructor
  · intro hagree
    by_contra hknown
    have hshort := hev.short_of_known hinj (offers_hashed P c t) hx hknown h
    have hsize := hagree.size
    rw [Short] at hshort
    omega
  · intro hfresh
    exact (hev.hashIndexed hinj (offers_hashed P c t) hx hfresh h).agreement

end Evolution

/-- In a run whose handler calls all bring fresh xids the hash map agrees with the
nodes in every state, and the first call that does not breaks the agreement. -/
theorem handled_hashAgreement {P : Platform} {X : Set Bytes} (hinj : Set.InjOn P.xhash64 X)
    {l : LocalNodeInfo} (hl : l.hash64 = P.xhash64 l.xid) (hx : l.xid ∈ X) {port : UInt16}
    {t : RoutingTable} (h : Handled P X (HandlerCall.FreshXids P) l port t) :
    t.HashAgreement ∧ ∀ c : HandlerCall, (∀ x ∈ c.message.data.xids, x ∈ X) →
      ((c.run P t).2.HashAgreement ↔ c.FreshXids P t) := by
  have hindexed : HashIndexed P X t := by
    induction h with
    | init => exact .init hl hx port
    | call _ c hxids hfresh ih =>
      exact (handlerCall_evolves P c _).hashIndexed hinj (offers_hashed P c _) hxids hfresh ih
    | heartbeatFailed _ ip p ih => exact ih.onHeartbeatFailed ip p
  exact ⟨hindexed.agreement, fun c hxids => hindexed.call_iff hinj hxids⟩

/-- The first node, whose endpoint is its local one. -/
def firstLocal : LocalNodeInfo := { localEndingIn 0 with firstNode := true, localIp := [49] }

/-- A find-nodes response to the first node that lists the public node `n`. -/
def listingResponse (n : NodeInfo) : HandlerCall where
  handler := .handleFindNodesResponse
  message := { desNodeId := firstLocal.id, data := .findNodesResponse ⟨[pbOfNode n]⟩ }
  packet := ⟨[51], 9000⟩

theorem injOn_bytes : Set.InjOn Platform.simple.xhash64 {[0], [5]} := by
  rintro x (rfl | rfl) y (rfl | rfl) h
  · rfl
  · exact absurd h (by decide)
  · exact absurd h (by decide)
  · rfl

theorem handled_hashAgreement_listing :
    ((listingResponse { nodeEndingIn 5 with publicIp := [50] }).run .simple (init firstLocal 9000)).2.HashAgreement ∧
      ∀ c : HandlerCall, (∀ x ∈ c.message.data.xids, x ∈ ({[0], [5]} : Set Bytes)) →
        ((c.run .simple ((listingResponse { nodeEndingIn 5 with publicIp := [50] }).run .simple
            (init firstLocal 9000)).2).2.HashAgreement ↔
          c.FreshXids .simple ((listingResponse { nodeEndingIn 5 with publicIp := [50] }).run .simple
            (init firstLocal 9000)).2) :=
  handled_hashAgreement (P := .simple) injOn_bytes (l := firstLocal) rfl (Or.inl rfl)
    (.call .init (listingResponse { nodeEndingIn 5 with publicIp := [50] })
      (fun x hx => Or.inr (List.mem_singleton.mp hx)) (by decide +kernel))

/-- A response lists a node behind the local endpoint. It gets the local xid, so
the map ignores it, and its removal takes the local entry away. -/
theorem handled_not_hashAgreement : ∃ X, Set.InjOn Platform.simple.xhash64 X ∧ firstLocal.xid ∈ X ∧
    firstLocal.hash64 = Platform.simple.xhash64 firstLocal.xid ∧
    ∃ t, Handled .simple X (fun _ _ => True) firstLocal 9000 t ∧ t.getSelfIndex = -1 ∧ ¬ t.HashAgreement := by
  have hrun : Handled .simple {[0], [5]} (fun _ _ => True) firstLocal 9000
      (((listingResponse (nodeEndingIn 5)).run .simple (init firstLocal 9000)).2.onHeartbeatFailed [49] 9000) :=
    .heartbeatFailed (.call .init (listingResponse (nodeEndingIn 5))
      (fun x hx => Or.inr (List.mem_singleton.mp hx)) trivial) _ _
  have hself : (((listingResponse (nodeEndingIn 5)).run .simple (init firstLocal 9000)).2.onHeartbeatFailed
      [49] 9000).getSelfIndex = -1 := by
    decide +kernel
  exact ⟨_, injOn_bytes, Or.inl rfl, rfl, _, hrun, hself, fun h => h.selfIndex hself⟩

end RoutingTable
end XKad
