import XKad.Interleavings
import XKad.JoinAnswers

/-!
# Joining again

`MultiJoin` asks every endpoint it was given to let the node join, waits, and starts
over until the node is joined. `Rejoin`, which a timer calls, takes a node without
neighbours out of the joined state and calls `MultiJoin` with the cached endpoints and
those of `bootstrap_nodes_`. Messages are handled meanwhile by other threads.
-/
namespace XKad
open Std

def kJoinRetryTimes : ℕ := 5

abbrev Endpoint := Bytes × UInt16

/-- `std::set<std::pair<std::string, uint16_t>>`. -/
abbrev EndpointSet := ExtTreeSet Endpoint (@lexOrd Bytes UInt16 _ _).compare

namespace RoutingTable

def setUnJoin (t : RoutingTable) : RoutingTable := { t with joined := false }

/-- The node has the endpoints of the local node: a virtual node of the same host. -/
def IsVirtual (l : LocalNodeInfo) (n : NodeInfo) : Prop :=
  n.publicIp = l.publicIp ∧ n.publicPort = l.publicPort ∧ n.localIp = l.localIp ∧ n.localPort = l.localPort

instance (l : LocalNodeInfo) (n : NodeInfo) : Decidable (IsVirtual l n) := inferInstanceAs (Decidable (_ ∧ _))

/-- The look of `Rejoin` at `nodes_`. -/
def lookForNeighbours (t : RoutingTable) : RoutingTable :=
  if t.nodes.isEmpty then t.setUnJoin
  else if t.nodes.length ≤ 5 then
    if ∀ n ∈ t.nodes, IsVirtual t.localNode n then t.setUnJoin else t
  else t

/-- The set `Rejoin` fills from the cache and from `bootstrap_nodes_`. -/
def rejoinEndpoints (cache : EndpointSet) (t : RoutingTable) : EndpointSet :=
  t.bootstrapNodes.foldl (fun es n => es.insert (n.publicIp, n.publicPort)) cache

end RoutingTable

/-- `wait_time` after a round, with `retried_times` counted up. -/
def nextWait (retriedTimes : ℕ) (waitTime : UInt32) : UInt32 :=
  if kJoinRetryTimes < retriedTimes then
    if 128 < waitTime * 2 then 128 else waitTime * 2
  else waitTime

/-- Where a thread stands in `Rejoin` and in `MultiJoin`: after the look at `nodes_`; after
it found the node unjoined; before the test of `MultiJoin`; in a round, with the endpoints
still to be asked; waiting for `bootstrap_cond_`; and woken, before it looks at `joined_`
once more. `out` lists the messages sent. -/
inductive JoinPoint where
  | outside
  | looked
  | collecting
  | entering (endpoints : EndpointSet)
  | sending (endpoints : EndpointSet) (rest : List Endpoint) (retriedTimes : ℕ) (waitTime : UInt32)
      (out : List Outgoing)
  | waiting (endpoints : EndpointSet) (retriedTimes : ℕ) (waitTime : UInt32) (out : List Outgoing)
  | woken (endpoints : EndpointSet) (retriedTimes : ℕ) (waitTime : UInt32) (out : List Outgoing)
  | returned (code : KadCode)

/-- A routing table with `after_join_` and the threads that may join. -/
structure JoinHost (κ : Type) where
  table : RoutingTable
  afterJoin : Bool := false
  point : κ → JoinPoint := fun _ => .outside

/-- What happens to the host: a call or a message of another thread; a call of `MultiJoin`
or `Rejoin`; the next step of a call; the reading of the endpoints by `Rejoin`, with what
the cache holds; the end of a wait; and the return. -/
inductive JoinEvent (κ : Type) where
  | table (e : TableEvent)
  | multiJoin (k : κ) (endpoints : EndpointSet)
  | rejoin (k : κ)
  | advance (k : κ) (mid : UInt32)
  | collect (k : κ) (cache : EndpointSet)
  | expire (k : κ)
  | leave (k : κ)

namespace JoinPoint

def retry (endpoints : EndpointSet) (retriedTimes : ℕ) (waitTime : UInt32) (out : List Outgoing) : JoinPoint :=
  .sending endpoints endpoints.toList (retriedTimes + 1) (nextWait (retriedTimes + 1) waitTime) out

/-- The next step; a waiting thread tests its condition. -/
def advance (mid : UInt32) (t : RoutingTable) : JoinPoint → JoinPoint
  | .looked => if t.joined then .outside else .collecting
  | .entering endpoints =>
    if t.joined then .returned .kadFailed else .sending endpoints endpoints.toList 0 4 []
  | .sending endpoints (e :: rest) retriedTimes waitTime out =>
    .sending endpoints rest retriedTimes waitTime (out ++ t.bootstrap mid e.1 e.2 t.localNode.serviceType)
  | .sending endpoints [] retriedTimes waitTime out => .waiting endpoints retriedTimes waitTime out
  | .waiting endpoints retriedTimes waitTime out =>
    if t.joined then .woken endpoints retriedTimes waitTime out else .waiting endpoints retriedTimes waitTime out
  | .woken endpoints retriedTimes waitTime out =>
    if t.joined then .returned .kadSuccess else retry endpoints retriedTimes waitTime out
  | p => p

def collect (cache : EndpointSet) (t : RoutingTable) : JoinPoint → JoinPoint
  | .collecting => .entering (t.rejoinEndpoints cache)
  | p => p

/-- `wait_for` returns after `wait_time` seconds. -/
def expire (t : RoutingTable) : JoinPoint → JoinPoint
  | .waiting endpoints retriedTimes waitTime out =>
    if t.joined then .woken endpoints retriedTimes waitTime out else retry endpoints retriedTimes waitTime out
  | p => p

def leave : JoinPoint → JoinPoint
  | .returned _ => .outside
  | p => p

def sent : JoinPoint → List Outgoing
  | .sending _ _ _ _ out => out
  | .waiting _ _ _ out => out
  | .woken _ _ _ out => out
  | _ => []

end JoinPoint

namespace JoinHost

variable {κ : Type} [DecidableEq κ]

def init (l : LocalNodeInfo) (port : UInt16) : JoinHost κ where
  table := RoutingTable.init l port

def move (h : JoinHost κ) (k : κ) (p : JoinPoint) : JoinHost κ := { h with point := Function.update h.point k p }

/-- `Rejoin` up to its look at `nodes_`. -/
def rejoin (k : κ) (h : JoinHost κ) : JoinHost κ :=
  if h.table.destroy then h
  else if h.table.localNode.firstNode then h
  else if !h.afterJoin then h
  else { h with table := h.table.lookForNeighbours }.move k .looked

end JoinHost

namespace JoinEvent

variable {κ : Type} [DecidableEq κ]

/-- The host after an event; a thread calls nothing before it has returned. -/
def run (P : Platform) : JoinEvent κ → JoinHost κ → JoinHost κ
  | .table e, h =>
    -- `SetJoin` sets `after_join_` where it sets `joined_`
    { h with
      table := e.run P h.table
      afterJoin := h.afterJoin || (!h.table.joined && (e.run P h.table).joined) }
  | .multiJoin k endpoints, h =>
    match h.point k with
    | .outside => h.move k (.entering endpoints)
    | _ => h
  | .rejoin k, h =>
    match h.point k with
    | .outside => h.rejoin k
    | _ => h
  | .advance k mid, h => h.move k ((h.point k).advance mid h.table)
  | .collect k cache, h => h.move k ((h.point k).collect cache h.table)
  | .expire k, h => h.move k ((h.point k).expire h.table)
  | .leave k, h => h.move k (h.point k).leave

end JoinEvent

def JoinHost.after {κ : Type} [DecidableEq κ] (P : Platform) (l : LocalNodeInfo) (port : UInt16)
    (es : List (JoinEvent κ)) : JoinHost κ :=
  follow (JoinEvent.run P) es (JoinHost.init l port)

theorem JoinHost.after_append {κ : Type} [DecidableEq κ] (P : Platform) (l : LocalNodeInfo) (port : UInt16)
    (es es' : List (JoinEvent κ)) :
    JoinHost.after P l port (es ++ es') = follow (JoinEvent.run P) es' (JoinHost.after P l port es) :=
  follow_append es es' _

open RoutingTable

def asked (out : List Outgoing) : List Endpoint := out.map (fun o => (o.toIp, o.toPort))

theorem asked_bootstrap (mid : UInt32) (e : Endpoint) (service : UInt64) (t : RoutingTable) :
    asked (t.bootstrap mid e.1 e.2 service) = [e] := rfl

def waitTime (retriedTimes : ℕ) : ℕ := min 128 (4 * 2 ^ (retriedTimes - kJoinRetryTimes))

theorem nextWait_waitTime {r : ℕ} {w : UInt32} (h : w.toNat = waitTime r) :
    (nextWait (r + 1) w).toNat = waitTime (r + 1) := by
  have hle : w.toNat ≤ 128 := h ▸ min_le_left _ _
  have hdouble : (w * 2).toNat = w.toNat * 2 := by
    rw [UInt32.toNat_mul]
    exact Nat.mod_eq_of_lt (by simp; omega)
  rw [nextWait]
  by_cases hr : kJoinRetryTimes < r + 1
  · have hpow : 2 ^ (r + 1 - kJoinRetryTimes) = 2 ^ (r - kJoinRetryTimes) * 2 := by
      rw [← Nat.pow_succ]
      congr 1
      omega
    rw [if_pos hr, waitTime, hpow]
    rw [waitTime] at h
    split
    · rename_i hlt
      rw [UInt32.lt_iff_toNat_lt, hdouble] at hlt
      have h128 : (128 : UInt32).toNat = 128 := rfl
      omega
    · rename_i hlt
      rw [UInt32.lt_iff_toNat_lt, hdouble] at hlt
      have h128 : (128 : UInt32).toNat = 128 := rfl
      omega
  · have hzero : r - kJoinRetryTimes = r + 1 - kJoinRetryTimes := by omega
    rw [if_neg hr, h, waitTime, waitTime, hzero]

/-- After `r` rounds and the requests to `done`: every round asked all endpoints. -/
structure Rounds (id : Bytes) (endpoints : EndpointSet) (r : ℕ) (done : List Endpoint) (w : UInt32)
    (out : List Outgoing) : Prop where
  asked : asked out = (List.replicate r endpoints.toList).flatten ++ done
  wait : w.toNat = waitTime r
  requests : ∀ o ∈ out, IsJoinRequest id o.message

namespace Rounds

variable {id : Bytes} {endpoints : EndpointSet} {r : ℕ} {done : List Endpoint} {w : UInt32} {out : List Outgoing}

theorem first (id : Bytes) (endpoints : EndpointSet) : Rounds id endpoints 0 [] 4 [] := ⟨rfl, rfl, by simp⟩

theorem ask (h : Rounds id endpoints r done w out) (mid : UInt32) (e : Endpoint)
    {t : RoutingTable} (ht : t.localId = id) (service : UInt64) :
    Rounds id endpoints r (done ++ [e]) w (out ++ t.bootstrap mid e.1 e.2 service) where
  asked := by
    rw [XKad.asked, List.map_append, ← XKad.asked, h.asked, ← XKad.asked, asked_bootstrap, List.append_assoc]
  wait := h.wait
  requests o ho := by
    rcases List.mem_append.mp ho with ho | ho
    · exact h.requests o ho
    · exact ht ▸ isJoinRequest_bootstrap mid _ _ service t o ho

theorem retry (h : Rounds id endpoints r endpoints.toList w out) :
    Rounds id endpoints (r + 1) [] (nextWait (r + 1) w) out where
  asked := by
    rw [h.asked, List.replicate_succ', List.flatten_append]
    simp
  wait := nextWait_waitTime h.wait
  requests := h.requests

theorem count (h : Rounds id endpoints r endpoints.toList w out) (e : Endpoint) :
    (XKad.asked out).count e = if e ∈ endpoints then r + 1 else 0 := by
  have hnodup : endpoints.toList.Nodup :=
    endpoints.distinct_toList.imp (fun hne heq => hne (by rw [heq]; exact ReflCmp.compare_self))
  rw [h.asked, List.count_append, List.count_flatten, List.map_replicate, List.sum_replicate, smul_eq_mul,
    hnodup.count]
  by_cases he : e ∈ endpoints
  · simp [he]
  · simp [he]

end Rounds

namespace JoinPoint

/-- What holds of a thread that joins the node `id`. -/
def Sound (id : Bytes) : JoinPoint → Prop
  | .sending endpoints rest r w out => ∃ done, done ++ rest = endpoints.toList ∧ Rounds id endpoints r done w out
  | .waiting endpoints r w out => Rounds id endpoints r endpoints.toList w out
  | .woken endpoints r w out => Rounds id endpoints r endpoints.toList w out
  | _ => True

def Asks (endpoints : EndpointSet) : JoinPoint → Prop
  | .entering es => es = endpoints
  | .sending es _ _ _ _ => es = endpoints
  | .waiting es _ _ _ => es = endpoints
  | _ => False

/-- All that can happen to a thread while the table is `t`. -/
inductive Moves (t : RoutingTable) : JoinPoint → JoinPoint → Prop where
  | stay (p : JoinPoint) : Moves t p p
  | multiJoin (endpoints : EndpointSet) : Moves t .outside (.entering endpoints)
  | rejoin : Moves t .outside .looked
  | advance (p : JoinPoint) (mid : UInt32) : Moves t p (p.advance mid t)
  | collect (p : JoinPoint) (cache : EndpointSet) : Moves t p (p.collect cache t)
  | expire (p : JoinPoint) : Moves t p (p.expire t)
  | leave (p : JoinPoint) : Moves t p p.leave

variable {t : RoutingTable} {p p' : JoinPoint}

theorem Sound.requests {id : Bytes} (h : p.Sound id) : ∀ o ∈ p.sent, IsJoinRequest id o.message := by
  cases p with
  | sending endpoints rest r w out =>
    obtain ⟨done, _, hrounds⟩ := h
    exact hrounds.requests
  | waiting endpoints r w out => exact Rounds.requests h
  | woken endpoints r w out => exact Rounds.requests h
  | _ => simp [JoinPoint.sent]

theorem Sound.retry {id : Bytes} {endpoints : EndpointSet} {r : ℕ} {w : UInt32} {out : List Outgoing}
    (h : Rounds id endpoints r endpoints.toList w out) : (JoinPoint.retry endpoints r w out).Sound id :=
  ⟨[], rfl, h.retry⟩

theorem Sound.advance {id : Bytes} (h : p.Sound id) (ht : t.localId = id) (mid : UInt32) :
    (p.advance mid t).Sound id := by
  cases p with
  | outside => trivial
  | looked =>
    rw [JoinPoint.advance]
    split <;> trivial
  | collecting => trivial
  | entering endpoints =>
    rw [JoinPoint.advance]
    split
    · trivial
    · exact ⟨[], rfl, .first id endpoints⟩
  | sending endpoints rest r w out =>
    obtain ⟨done, hdone, hrounds⟩ := h
    cases rest with
    | nil =>
      rw [List.append_nil] at hdone
      subst hdone
      exact hrounds
    | cons e rest => exact ⟨done ++ [e], by simpa using hdone, hrounds.ask mid e ht _⟩
  | waiting endpoints r w out =>
    rw [JoinPoint.advance]
    split <;> exact h
  | woken endpoints r w out =>
    rw [JoinPoint.advance]
    split
    · trivial
    · exact .retry h
  | returned code => trivial

theorem Sound.moves {id : Bytes} (hm : Moves t p p') (ht : t.localId = id) (h : p.Sound id) : p'.Sound id := by
  cases hm with
  | stay => exact h
  | multiJoin => trivial
  | rejoin => trivial
  | advance _ mid => exact h.advance ht mid
  | collect _ cache => cases p <;> exact h
  | expire =>
    cases p with
    | waiting endpoints r w out =>
      rw [JoinPoint.expire]
      split
      · exact h
      · exact .retry h
    | _ => exact h
  | leave => cases p <;> exact h

theorem Asks.moves {endpoints : EndpointSet} (hm : Moves t p p') (hj : t.joined = false) (h : p.Asks endpoints) :
    p'.Asks endpoints := by
  have hnot : ¬ t.joined = true := by simp [hj]
  cases p with
  | entering es =>
    cases hm with
    | advance _ mid =>
      rw [JoinPoint.advance, if_neg hnot]
      exact h
    | _ => exact h
  | sending es rest r w out =>
    cases hm with
    | advance _ mid => cases rest <;> exact h
    | _ => exact h
  | waiting es r w out =>
    cases hm with
    | advance _ mid =>
      rw [JoinPoint.advance, if_neg hnot]
      exact h
    | expire =>
      rw [JoinPoint.expire, if_neg hnot]
      exact h
    | _ => exact h
  | _ => exact h.elim

end JoinPoint

section Runs

variable {κ : Type} [DecidableEq κ] {P : Platform}

@[simp] theorem JoinHost.move_point (h : JoinHost κ) (k k' : κ) (p : JoinPoint) :
    (h.move k p).point k' = if k' = k then p else h.point k' :=
  Function.update_apply h.point k p k'

namespace JoinEvent

theorem moves_run (e : JoinEvent κ) (h : JoinHost κ) (k : κ) :
    JoinPoint.Moves h.table (h.point k) ((e.run P h).point k) := by
  have hmove (k' : κ) {p : JoinPoint} (hp : JoinPoint.Moves h.table (h.point k') p) :
      JoinPoint.Moves h.table (h.point k) ((h.move k' p).point k) := by
    rw [JoinHost.move_point]
    split
    · rename_i heq
      exact heq ▸ hp
    · exact .stay _
  cases e with
  | table e => exact .stay _
  | multiJoin k' endpoints =>
    rw [run]
    split
    · rename_i hout
      exact hmove k' (hout ▸ .multiJoin endpoints)
    · exact .stay _
  | rejoin k' =>
    rw [run]
    split
    · rename_i hout
      rw [JoinHost.rejoin]
      split_ifs
      · exact .stay _
      · exact .stay _
      · exact .stay _
      · exact hmove k' (hout ▸ .rejoin)
    · exact .stay _
  | advance k' mid => exact hmove k' (.advance _ mid)
  | collect k' cache => exact hmove k' (.collect _ cache)
  | expire k' => exact hmove k' (.expire _)
  | leave k' => exact hmove k' (.leave _)

/-- The table after an event is the one before, or that of a call or a message, or that
of a look of `Rejoin`. -/
theorem table_run (e : JoinEvent κ) (h : JoinHost κ) : (e.run P h).table = h.table ∨
    (∃ e', e = .table e' ∧ (e.run P h).table = e'.run P h.table) ∨
      ((∃ k, e = .rejoin k) ∧ (e.run P h).table = h.table.lookForNeighbours) := by
  cases e with
  | table e => exact Or.inr (Or.inl ⟨e, rfl, rfl⟩)
  | multiJoin k endpoints =>
    left
    rw [run]
    split <;> rfl
  | rejoin k =>
    rw [run]
    split
    · rw [JoinHost.rejoin]
      split_ifs
      · exact Or.inl rfl
      · exact Or.inl rfl
      · exact Or.inl rfl
      · exact Or.inr (Or.inr ⟨⟨k, rfl⟩, rfl⟩)
    · exact Or.inl rfl
  | advance k mid => exact Or.inl rfl
  | collect k cache => exact Or.inl rfl
  | expire k => exact Or.inl rfl
  | leave k => exact Or.inl rfl

end JoinEvent

section LookForNeighbours

variable (t : RoutingTable)

/-- `Rejoin` changes `joined_` and nothing else. -/
theorem RoutingTable.lookForNeighbours_cases : t.lookForNeighbours = t ∨ t.lookForNeighbours = t.setUnJoin := by
  rw [lookForNeighbours]
  split_ifs
  · exact Or.inr rfl
  · exact Or.inr rfl
  · exact Or.inl rfl
  · exact Or.inl rfl

@[simp] theorem RoutingTable.lookForNeighbours_localNode : t.lookForNeighbours.localNode = t.localNode := by
  rcases t.lookForNeighbours_cases with h | h
  · rw [h]
  · rw [h]
    rfl

@[simp] theorem RoutingTable.lookForNeighbours_bootstrapNodes :
    t.lookForNeighbours.bootstrapNodes = t.bootstrapNodes := by
  rcases t.lookForNeighbours_cases with h | h
  · rw [h]
  · rw [h]
    rfl

@[simp] theorem RoutingTable.lookForNeighbours_destroy : t.lookForNeighbours.destroy = t.destroy := by
  rcases t.lookForNeighbours_cases with h | h
  · rw [h]
  · rw [h]
    rfl

variable {t}

theorem RoutingTable.joined_of_lookForNeighbours (hj : t.lookForNeighbours.joined = true) : t.joined = true := by
  rcases t.lookForNeighbours_cases with h | h
  · rwa [h] at hj
  · rw [h] at hj
    cases hj

theorem RoutingTable.Reachable.lookForNeighbours (h : Reachable P t) : Reachable P t.lookForNeighbours := by
  rcases t.lookForNeighbours_cases with hl | hl
  · rw [hl]
    exact h
  · rw [hl]
    exact h.other ⟨rfl, rfl, rfl, rfl, rfl⟩

end LookForNeighbours

/-- `after_join_` is never taken back, and set whenever the node joins. -/
theorem JoinEvent.afterJoin_run (e : JoinEvent κ) {h : JoinHost κ}
    (hj : h.table.joined = true → h.afterJoin = true) :
    (h.afterJoin = true → (e.run P h).afterJoin = true) ∧
      ((e.run P h).table.joined = true → (e.run P h).afterJoin = true) := by
  cases e with
  | table e =>
    refine ⟨fun ha => by simp [run, ha], fun hj' => ?_⟩
    dsimp only [run] at hj' ⊢
    rw [hj']
    cases hbefore : h.table.joined with
    | true => simp [hj hbefore]
    | false => simp
  | multiJoin k endpoints =>
    rw [run]
    split <;> exact ⟨id, hj⟩
  | rejoin k =>
    rw [run]
    split
    · rw [JoinHost.rejoin]
      split_ifs
      · exact ⟨id, hj⟩
      · exact ⟨id, hj⟩
      · exact ⟨id, hj⟩
      · exact ⟨id, fun hj' => hj (joined_of_lookForNeighbours hj')⟩
    · exact ⟨id, hj⟩
  | advance k mid => exact ⟨id, hj⟩
  | collect k cache => exact ⟨id, hj⟩
  | expire k => exact ⟨id, hj⟩
  | leave k => exact ⟨id, hj⟩

/-- What every host reached in a run satisfies. -/
structure JoinHost.Sound (P : Platform) (l : LocalNodeInfo) (h : JoinHost κ) : Prop where
  reachable : Reachable P h.table
  localId : h.table.localId = l.id
  firstNode : h.table.localNode.firstNode = l.firstNode
  destroy : h.table.destroy = false
  afterJoin : h.table.joined = true → h.afterJoin = true
  points : ∀ k, (h.point k).Sound l.id

namespace JoinHost.Sound

variable {l : LocalNodeInfo} {h : JoinHost κ}

omit [DecidableEq κ] in
theorem init (P : Platform) (l : LocalNodeInfo) (port : UInt16) : Sound P l (JoinHost.init l port : JoinHost κ) where
  reachable := .init l port
  localId := init_localId l port
  firstNode := by
    dsimp only [JoinHost.init, RoutingTable.init]
    split <;> rfl
  destroy := rfl
  afterJoin hj := by cases hj
  points _ := trivial

theorem step (hs : Sound P l h) (e : JoinEvent κ) : Sound P l (e.run P h) := by
  have hafter := (e.afterJoin_run (P := P) hs.afterJoin).2
  have hpoints (k : κ) : ((e.run P h).point k).Sound l.id := (hs.points k).moves (e.moves_run h k) hs.localId
  rcases e.table_run (P := P) h with he | ⟨e', _, he⟩ | ⟨_, he⟩
  · refine ⟨?_, ?_, ?_, ?_, hafter, hpoints⟩ <;> rw [he]
    · exact hs.reachable
    · exact hs.localId
    · exact hs.firstNode
    · exact hs.destroy
  · have honward := Onward.event P e' h.table
    refine ⟨?_, ?_, ?_, ?_, hafter, hpoints⟩ <;> rw [he]
    · exact TableEvent.reachable_run hs.reachable e'
    · exact honward.localId.trans hs.localId
    · exact honward.firstNode.trans hs.firstNode
    · exact honward.destroy.trans hs.destroy
  · refine ⟨?_, ?_, ?_, ?_, hafter, hpoints⟩ <;> rw [he]
    · exact hs.reachable.lookForNeighbours
    · rw [RoutingTable.localId, lookForNeighbours_localNode]
      exact hs.localId
    · rw [lookForNeighbours_localNode]
      exact hs.firstNode
    · rw [lookForNeighbours_destroy]
      exact hs.destroy

theorem after (P : Platform) (l : LocalNodeInfo) (port : UInt16) (es : List (JoinEvent κ)) :
    Sound P l (JoinHost.after P l port es) :=
  follow_invariant (fun e _ hs => hs.step e) (init P l port) es

end JoinHost.Sound

theorem RoutingTable.mem_rejoinEndpoints {cache : EndpointSet} {t : RoutingTable} {e : Endpoint} :
    e ∈ t.rejoinEndpoints cache ↔ e ∈ cache ∨ ∃ n ∈ t.bootstrapNodes, (n.publicIp, n.publicPort) = e := by
  have hloop (ns : List NodeInfo) (es : EndpointSet) :
      e ∈ ns.foldl (fun es n => es.insert (n.publicIp, n.publicPort)) es ↔
        e ∈ es ∨ ∃ n ∈ ns, (n.publicIp, n.publicPort) = e := by
    induction ns generalizing es with
    | nil => simp
    | cons n ns ih =>
      rw [List.foldl_cons, ih, ExtTreeSet.mem_insert, LawfulEqCmp.compare_eq_iff_eq, List.exists_mem_cons_iff]
      tauto
  exact hloop t.bootstrapNodes cache

/-- The event brings a join response from the endpoint, and it is taken. -/
def JoinEvent.HearsFrom (P : Platform) (source : Endpoint) (e : JoinEvent κ) (h : JoinHost κ) : Prop :=
  ∃ c : HandlerCall, e = .table (.call c) ∧ c.handler = .handleBootstrapJoinResponse ∧
    TakesJoinResponse P h.table c.message ∧ (c.packet.fromIp, c.packet.fromPort) = source

omit [DecidableEq κ] in
theorem JoinEvent.hearsFrom_iff {e : JoinEvent κ} {h : JoinHost κ} {source : Endpoint} :
    e.HearsFrom P source h ↔ ∃ e', e = .table e' ∧
      ∃ n ∈ e'.pushes P h.table, (n.publicIp, n.publicPort) = source := by
  constructor
  · rintro ⟨c, rfl, hc, ⟨hdes, hstatus, r, hdata⟩, hsource⟩
    exact ⟨_, rfl, _, TableEvent.mem_pushes.mpr ⟨hc, hdes, hstatus, r, hdata, rfl⟩, hsource⟩
  · rintro ⟨o | c, rfl, n, hn, hsource⟩
    · cases hn
    · obtain ⟨hc, hdes, hstatus, r, hdata, rfl⟩ := TableEvent.mem_pushes.mp hn
      exact ⟨c, rfl, hc, ⟨hdes, hstatus, r, hdata⟩, hsource⟩

/-- An event adds no bootstrap node but one it hears from, and removes none. -/
theorem JoinEvent.remembers_run (e : JoinEvent κ) (h : JoinHost κ) (source : Endpoint) :
    (∃ n ∈ (e.run P h).table.bootstrapNodes, (n.publicIp, n.publicPort) = source) ↔
      (∃ n ∈ h.table.bootstrapNodes, (n.publicIp, n.publicPort) = source) ∨ e.HearsFrom P source h := by
  rw [hearsFrom_iff]
  by_cases hevent : ∃ e', e = .table e'
  · obtain ⟨e', rfl⟩ := hevent
    have hpushed := (Onward.event P e' h.table).bootstrapNodes
    rw [show ((JoinEvent.table e').run P h).table = e'.run P h.table from rfl, hpushed]
    constructor
    · rintro ⟨n, hn, hsource⟩
      rcases List.mem_append.mp hn with hn | hn
      · exact Or.inl ⟨n, hn, hsource⟩
      · exact Or.inr ⟨e', rfl, n, hn, hsource⟩
    · rintro (⟨n, hn, hsource⟩ | ⟨e'', heq, n, hn, hsource⟩)
      · exact ⟨n, List.mem_append_left _ hn, hsource⟩
      · cases heq
        exact ⟨n, List.mem_append_right _ hn, hsource⟩
  · have hsame : (e.run P h).table.bootstrapNodes = h.table.bootstrapNodes := by
      rcases e.table_run (P := P) h with he | ⟨e', heq, _⟩ | ⟨_, he⟩
      · rw [he]
      · exact absurd ⟨e', heq⟩ hevent
      · rw [he, lookForNeighbours_bootstrapNodes]
    rw [hsame, or_iff_left (fun hears => hevent (hears.imp (fun _ => And.left)))]

/-- The endpoint of a bootstrap node is one a join response was taken from, and none of
these is forgotten. -/
theorem remembers_after (l : LocalNodeInfo) (port : UInt16) (es : List (JoinEvent κ)) (source : Endpoint) :
    (∃ n ∈ (JoinHost.after P l port es).table.bootstrapNodes, (n.publicIp, n.publicPort) = source) ↔
      ∃ done e todo, es = done ++ e :: todo ∧ e.HearsFrom P source (JoinHost.after P l port done) := by
  induction es using List.reverseRecOn with
  | nil =>
    constructor
    · rintro ⟨n, hn, _⟩
      cases hn
    · rintro ⟨done, e, todo, heq, _⟩
      simp at heq
  | append_singleton es e ih =>
    rw [JoinHost.after_append]
    change (∃ n ∈ (e.run P (JoinHost.after P l port es)).table.bootstrapNodes, _) ↔ _
    rw [e.remembers_run, ih]
    constructor
    · rintro (⟨done, e', todo, rfl, hears⟩ | hears)
      · exact ⟨done, e', todo ++ [e], by simp, hears⟩
      · exact ⟨es, e, [], rfl, hears⟩
    · rintro ⟨done, e', todo, heq, hears⟩
      rcases List.eq_nil_or_concat todo with rfl | ⟨todo', last, rfl⟩
      · obtain ⟨rfl, hlast⟩ := List.append_inj' heq rfl
        cases hlast
        exact Or.inr hears
      · rw [List.concat_eq_append, ← List.cons_append, ← List.append_assoc] at heq
        exact Or.inl ⟨done, e', todo', (List.append_inj' heq rfl).1, hears⟩

/-- `Rejoin` does not give up, forgets nobody and asks nobody else. In every run, with any
number of threads, messages and calls: a thread that found its node unjoined and then read
the endpoints has those of the cache and those a join response was taken from, and does not
return while the node stays unjoined. Whenever it waits, in its round `r`, it has sent join
requests of its node, to each of these exactly `r + 1` and to no other, and it waits four
seconds in the first six rounds and then twice as long each time, up to 128 seconds. -/
theorem rejoin_asks (l : LocalNodeInfo) (port : UInt16) (before : List (JoinEvent κ)) {k : κ}
    (hcollecting : (JoinHost.after P l port before).point k = .collecting)
    (cache : EndpointSet) {after : List (JoinEvent κ)}
    (hunjoined : Along (JoinEvent.run P) (fun _ h => h.table.joined = false) after
      ((JoinEvent.collect k cache).run P (JoinHost.after P l port before))) :
    ∃ endpoints : EndpointSet,
      (∀ source, source ∈ endpoints ↔ source ∈ cache ∨ ∃ done e todo, before = done ++ e :: todo ∧
        e.HearsFrom P source (JoinHost.after P l port done)) ∧
      ((JoinHost.after P l port (before ++ .collect k cache :: after)).point k).Asks endpoints ∧
      ∀ r w out,
        (JoinHost.after P l port (before ++ .collect k cache :: after)).point k = .waiting endpoints r w out →
        w.toNat = waitTime r ∧ (∀ e, (asked out).count e = if e ∈ endpoints then r + 1 else 0) ∧
          ∀ o ∈ out, IsJoinRequest l.id o.message := by
  set h := JoinHost.after P l port before with hh
  refine ⟨h.table.rejoinEndpoints cache, fun source => ?_, ?_, ?_⟩
  · rw [mem_rejoinEndpoints, hh, remembers_after]
  · rw [JoinHost.after_append, follow_cons, ← hh]
    refine along_invariant (I := fun h' : JoinHost κ => (h'.point k).Asks (h.table.rejoinEndpoints cache))
      (fun e h' hj hasks => hasks.moves (e.moves_run h' k) hj) hunjoined ?_
    rw [JoinEvent.run, hcollecting, JoinHost.move_point, if_pos rfl]
    rfl
  · intro r w out hwaiting
    have hsound := (JoinHost.Sound.after P l port (before ++ .collect k cache :: after)).points k
    rw [hwaiting] at hsound
    exact ⟨hsound.wait, hsound.count, hsound.requests⟩

def welcome : HandlerCall where
  handler := .handleBootstrapJoinResponse
  message := {
    desNodeId := (localEndingIn 0).id
    srcNodeId := (localEndingIn 1).id
    data := .bootstrapJoinResponse { natType := kNatTypePublic, xid := [1] } }
  packet := ⟨[50], 9000⟩

def alone : List (JoinEvent Unit) :=
  [.table (.call welcome), .table (.op (.dropNode { nodeId := (localEndingIn 1).id })), .rejoin (), .advance () 1]

def firstRound : List (JoinEvent Unit) := [.advance () 1, .advance () 2, .advance () 3, .advance () 4]

def onlyEndpoint (e : Endpoint) : EndpointSet := (∅ : EndpointSet).insert e

theorem rejoin_asks_alone : ∃ endpoints : EndpointSet, ([51], 9001) ∈ endpoints ∧ ([50], 9000) ∈ endpoints ∧
    ∃ w out, (JoinHost.after .simple (localEndingIn 0) 9
        (alone ++ .collect () (onlyEndpoint ([51], 9001)) :: firstRound)).point () = .waiting endpoints 0 w out ∧
      w.toNat = waitTime 0 ∧ (asked out).count ([50], 9000) = 1 := by
  have hunjoined : Along (JoinEvent.run .simple) (fun _ h => h.table.joined = false) firstRound
      ((JoinEvent.collect () (onlyEndpoint ([51], 9001))).run .simple
        (JoinHost.after .simple (localEndingIn 0) 9 alone)) := by
    decide +kernel
  obtain ⟨endpoints, hendpoints, hasks, hrounds⟩ :=
    rejoin_asks (P := .simple) (localEndingIn 0) 9 alone (k := ()) rfl (onlyEndpoint ([51], 9001)) hunjoined
  have hcache : ([51], 9001) ∈ endpoints := (hendpoints _).mpr (Or.inl ExtTreeSet.mem_insert_self)
  have hwelcome : ([50], 9000) ∈ endpoints := (hendpoints _).mpr (Or.inr ⟨[], .table (.call welcome), _, rfl,
    welcome, rfl, rfl, ⟨by decide, by decide, _, rfl⟩, rfl⟩)
  have hwaits : (JoinHost.after .simple (localEndingIn 0) 9
    (alone ++ .collect () (onlyEndpoint ([51], 9001)) :: firstRound)).point () = .waiting _ 0 4 _ := rfl
  rw [hwaits] at hasks hrounds
  have hsame : _ = endpoints := hasks
  rw [hsame] at hwaits hrounds
  obtain ⟨hw, hcount, _⟩ := hrounds 0 4 _ rfl
  refine ⟨endpoints, hcache, hwelcome, 4, _, hwaits, hw, ?_⟩
  rw [hcount, if_pos hwelcome]

end Runs
end XKad
