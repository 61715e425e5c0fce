import XKad.Interleavings
import XKad.RoutingMessages

/-!
# The callback manager

`CallbackManager` keeps the registered callbacks by message id and runs user code
outside its lock. A call is a lock-protected block followed by the invocations it
owes. Registrations are numbered in the order in which `Add` accepts them.
-/
namespace XKad
open Std

/-- `CallbackItem`. A functor of type `G` stands for a `mutex_callback` together
with the mutex and the condition variable it is called with; an empty functor is
`none`. -/
structure CallbackItem (F G : Type) where
  messageId : UInt32
  callback : Option F
  mutexCallback : Option G
  timeoutSec : Int32
  expectCount : Int32

/-- An item in the map with the number of its registration, which no operation reads. -/
structure CallbackEntry (F G : Type) extends CallbackItem F G where
  registration : ℕ

inductive CallbackKind where
  | callback | mutexCallback
  deriving DecidableEq

structure Invocation (F G : Type) where
  registration : ℕ
  kind : CallbackKind
  functor : F ⊕ G
  status : KadCode
  message : RoutingMessage
  packet : XPacket

variable {F G : Type}

def CallbackItem.functor (item : CallbackItem F G) : CallbackKind → Option (F ⊕ G)
  | .callback => item.callback.map Sum.inl
  | .mutexCallback => item.mutexCallback.map Sum.inr

/-- So many invocations of one functor, none if it is empty. -/
def CallbackEntry.invocations (e : CallbackEntry F G) (kind : CallbackKind) (status : KadCode)
    (message : RoutingMessage) (packet : XPacket) (times : ℕ) : List (Invocation F G) :=
  match e.functor kind with
  | none => []
  | some f => List.replicate times ⟨e.registration, kind, f, status, message, packet⟩

structure CallbackManager (F G : Type) where
  callbackMap : ExtTreeMap UInt32 (CallbackEntry F G) := ∅

namespace CallbackManager

/-- The block of `Add`: an id in use is left alone. -/
def add (item : CallbackItem F G) (registration : ℕ) (m : CallbackManager F G) : CallbackManager F G :=
  ⟨m.callbackMap.insertIfNew item.messageId { item with registration := registration }⟩

/-- `Callback`: the invocations it makes outside the lock, and the manager. -/
def callback (messageId : UInt32) (message : RoutingMessage) (packet : XPacket) (m : CallbackManager F G) :
    List (Invocation F G) × CallbackManager F G :=
  match m.callbackMap[messageId]? with
  | none => ([], m)
  | some e =>
    let e := { e with expectCount := e.expectCount - 1 }
    let callbackMap := if e.expectCount ≤ 0 then m.callbackMap.erase messageId
      else m.callbackMap.insert messageId e
    (e.invocations .callback .kadSuccess message packet 1 ++
      e.invocations .mutexCallback .kadSuccess message packet 1, ⟨callbackMap⟩)

/-- `Cancel`. The loops run up to the stored `expect_count`, if that is positive. -/
def cancel (messageId noCallback : UInt32) (m : CallbackManager F G) :
    List (Invocation F G) × CallbackManager F G :=
  match m.callbackMap[messageId]? with
  | none => ([], m)
  | some e =>
    let times := e.expectCount.toInt.toNat
    (if noCallback ≠ 0 then []
      else
        e.invocations .callback .kadTimeout { id := messageId } ⟨[], 0⟩ times ++
          -- the message of the second loop gets no id
          e.invocations .mutexCallback .kadTimeout {} ⟨[], 0⟩ times,
      ⟨m.callbackMap.erase messageId⟩)

/-- The scan of `TimeoutCheck`: the ids it collects, in key order. -/
def scan (m : CallbackManager F G) : List UInt32 × CallbackManager F G :=
  let callbackMap := m.callbackMap.map (fun _ e => { e with timeoutSec := e.timeoutSec - 1 })
  (callbackMap.toList.filterMap (fun e => if e.2.timeoutSec ≤ 0 then some e.1 else none), ⟨callbackMap⟩)

/-- `Join`, after the timer has stopped. -/
def join (_ : CallbackManager F G) : CallbackManager F G := ⟨∅⟩

end CallbackManager

/-- The manager with the items `Add` has accepted so far and the numbers of those
registrations that `Cancel` without callback, or `Join`, took out of the map. -/
structure Registry (F G : Type) where
  manager : CallbackManager F G := {}
  registrations : List (CallbackItem F G) := []
  withdrawn : List ℕ := []

namespace Registry

def register (item : CallbackItem F G) (r : Registry F G) : Registry F G :=
  { r with
    manager := r.manager.add item r.registrations.length
    registrations :=
      if r.manager.callbackMap.contains item.messageId then r.registrations else r.registrations ++ [item] }

def callback (messageId : UInt32) (message : RoutingMessage) (packet : XPacket) (r : Registry F G) :
    List (Invocation F G) × Registry F G :=
  let (owed, manager) := r.manager.callback messageId message packet
  (owed, { r with manager := manager })

def cancel (messageId noCallback : UInt32) (r : Registry F G) : List (Invocation F G) × Registry F G :=
  let (owed, manager) := r.manager.cancel messageId noCallback
  (owed, { r with
    manager := manager
    withdrawn := r.withdrawn ++ (if noCallback ≠ 0 then
      (r.manager.callbackMap[messageId]?.map CallbackEntry.registration).toList else []) })

def timeout (messageId : UInt32) (r : Registry F G) : List (Invocation F G) × Registry F G :=
  r.cancel messageId 0

def scan (r : Registry F G) : List UInt32 × Registry F G :=
  let (collected, manager) := r.manager.scan
  (collected, { r with manager := manager })

def join (r : Registry F G) : Registry F G :=
  { r with
    manager := r.manager.join
    withdrawn := r.withdrawn ++ r.manager.callbackMap.toList.map (fun e => e.2.registration) }

end Registry

inductive CallbackOp (F G : Type) where
  | add (messageId : UInt32) (timeoutSec : Int32) (callback : Option F) (expectCount : Int32)
  | addItem (callbackPtr : Option (CallbackItem F G))
  | callback (messageId : UInt32) (message : RoutingMessage) (packet : XPacket)
  | timeout (messageId : UInt32)
  | cancel (messageId noCallback : UInt32)
  | timeoutCheck
  | join

/-- A call before its first block, or outside the lock with the invocations it owes
and the ids it has still to hand to `Timeout`. -/
inductive CallbackPoint (F G : Type) where
  | enter (op : CallbackOp F G)
  | outside (owed : List (Invocation F G)) (collected : List UInt32)

/-- What the calls share, and the invocations made so far. -/
structure CallbackState (F G : Type) where
  registry : Registry F G := {}
  made : List (Invocation F G) := []

/-- The lock-protected block of a call: the invocations it owes, the ids it has
collected and the registry. -/
def CallbackOp.enter (r : Registry F G) :
    CallbackOp F G → List (Invocation F G) × List UInt32 × Registry F G
  | .add messageId timeoutSec functor expectCount =>
    ([], [], r.register ⟨messageId, functor, none, timeoutSec, expectCount⟩)
  | .addItem none => ([], [], r)
  | .addItem (some item) => ([], [], r.register item)
  | .callback messageId message packet =>
    let (owed, r) := r.callback messageId message packet
    (owed, [], r)
  | .timeout messageId =>
    let (owed, r) := r.timeout messageId
    (owed, [], r)
  | .cancel messageId noCallback =>
    let (owed, r) := r.cancel messageId noCallback
    (owed, [], r)
  | .timeoutCheck => ([], r.scan)
  | .join => ([], [], r.join)

/-- The item a call of `Add` wants to register. -/
def CallbackOp.added : CallbackOp F G → Option (CallbackItem F G)
  | .add messageId timeoutSec functor expectCount =>
    some ⟨messageId, functor, none, timeoutSec, expectCount⟩
  | .addItem callbackPtr => callbackPtr
  | _ => none

theorem CallbackOp.enter_added {op : CallbackOp F G} {item : CallbackItem F G} (h : op.added = some item)
    (r : Registry F G) : op.enter r = ([], [], r.register item) := by
  cases op with
  | add messageId timeoutSec functor expectCount =>
    cases h
    rfl
  | addItem callbackPtr =>
    cases h
    rfl
  | _ => cases h

/-- One step of a call: a block, or one invocation. -/
def CallbackPoint.block : CallbackPoint F G → CallbackState F G → CallbackPoint F G × CallbackState F G
  | .enter op, s =>
    let (owed, collected, registry) := op.enter s.registry
    (.outside owed collected, { s with registry := registry })
  | .outside (i :: owed) collected, s => (.outside owed collected, { s with made := s.made ++ [i] })
  | .outside [] (id :: collected), s =>
    let (owed, registry) := s.registry.timeout id
    (.outside owed collected, { s with registry := registry })
  | .outside [] [], s => (.outside [] [], s)

def CallbackPoint.owed : CallbackPoint F G → List (Invocation F G)
  | .enter _ => []
  | .outside owed _ => owed

abbrev Callbacks (F G : Type) := Config (CallbackState F G) (CallbackPoint F G)

/-- The invocations of one functor of a registration with the given status. -/
def countOf (is : List (Invocation F G)) (n : ℕ) (kind : CallbackKind) (status : KadCode) : ℕ :=
  is.countP (fun i => i.registration = n ∧ i.kind = kind ∧ i.status = status)

@[simp] theorem countOf_nil (n : ℕ) (kind : CallbackKind) (status : KadCode) :
    countOf ([] : List (Invocation F G)) n kind status = 0 := rfl

@[simp] theorem countOf_append (is js : List (Invocation F G)) (n : ℕ) (kind : CallbackKind) (status : KadCode) :
    countOf (is ++ js) n kind status = countOf is n kind status + countOf js n kind status :=
  List.countP_append

theorem countOf_perm {is js : List (Invocation F G)} (h : is.Perm js) (n : ℕ) (kind : CallbackKind)
    (status : KadCode) : countOf is n kind status = countOf js n kind status :=
  h.countP_eq _

theorem countOf_eq_zero {is : List (Invocation F G)} {n : ℕ} (h : ∀ i ∈ is, i.registration ≠ n)
    (kind : CallbackKind) (status : KadCode) : countOf is n kind status = 0 := by
  refine List.countP_eq_zero.mpr (fun i hi => ?_)
  simp [h i hi]

theorem mem_invocations {e : CallbackEntry F G} {kind : CallbackKind} {status : KadCode}
    {message : RoutingMessage} {packet : XPacket} {times : ℕ} {i : Invocation F G}
    (h : i ∈ e.invocations kind status message packet times) :
    i.registration = e.registration ∧ e.functor i.kind = some i.functor ∧ i.status = status := by
  rw [CallbackEntry.invocations] at h
  split at h
  · cases h
  · rename_i f hf
    rw [List.eq_of_mem_replicate h]
    exact ⟨rfl, hf, rfl⟩

theorem countOf_invocations (e : CallbackEntry F G) (kind k : CallbackKind) (status st : KadCode)
    (message : RoutingMessage) (packet : XPacket) (times : ℕ) :
    countOf (e.invocations kind status message packet times) e.registration k st =
      if kind = k ∧ status = st ∧ (e.functor k).isSome then times else 0 := by
  rw [CallbackEntry.invocations, countOf]
  split
  · rename_i hf
    rw [List.countP_nil, if_neg]
    rintro ⟨rfl, _, hsome⟩
    rw [hf] at hsome
    cases hsome
  · rename_i f hf
    rw [List.countP_replicate]
    by_cases hk : kind = k
    · subst hk
      simp [hf]
    · simp [hk]

/-- The `expect_count` stored for registration `n` under an id, or 0. -/
def Registry.stored (r : Registry F G) (n : ℕ) (id : UInt32) : ℤ :=
  match r.manager.callbackMap[id]? with
  | none => 0
  | some e => if e.registration = n then e.expectCount.toInt else 0

namespace Registry

variable {r r' : Registry F G} {id : UInt32}

theorem stored_congr (h : r'.manager.callbackMap[id]? = r.manager.callbackMap[id]?) (n : ℕ) :
    r'.stored n id = r.stored n id := by
  rw [stored, stored, h]

theorem stored_of_none (h : r.manager.callbackMap[id]? = none) (n : ℕ) : r.stored n id = 0 := by
  rw [stored, h]

theorem stored_of_some {e : CallbackEntry F G} (h : r.manager.callbackMap[id]? = some e) (n : ℕ) :
    r.stored n id = if e.registration = n then e.expectCount.toInt else 0 := by
  rw [stored, h]

end Registry

/-- The invariant: entries are registrations in force, invocations belong to
registrations, and for a registration in force that expects at least one answer
nothing is lost. -/
structure Balanced (r : Registry F G) (is : List (Invocation F G)) : Prop where
  entry : ∀ (id : UInt32) e, r.manager.callbackMap[id]? = some e → e.registration ∉ r.withdrawn ∧
    ∃ item, r.registrations[e.registration]? = some item ∧ item.messageId = id ∧
      e.functor = item.functor ∧ (1 ≤ item.expectCount.toInt → 1 ≤ e.expectCount.toInt)
  invoked : ∀ i ∈ is, ∃ item, r.registrations[i.registration]? = some item ∧
    item.functor i.kind = some i.functor ∧ (i.status = .kadSuccess ∨ i.status = .kadTimeout)
  withdrawn : ∀ n ∈ r.withdrawn, n < r.registrations.length
  balance : ∀ n item, r.registrations[n]? = some item → 1 ≤ item.expectCount.toInt → n ∉ r.withdrawn →
    ∀ kind, (item.functor kind).isSome →
      (countOf is n kind .kadSuccess : ℤ) + countOf is n kind .kadTimeout + r.stored n item.messageId =
        item.expectCount.toInt

namespace Balanced

variable {r : Registry F G} {is js : List (Invocation F G)}

theorem perm (h : Balanced r is) (hp : is.Perm js) : Balanced r js where
  entry := h.entry
  invoked i hi := h.invoked i (hp.mem_iff.mpr hi)
  withdrawn := h.withdrawn
  balance n item hn hpos hw kind hk := by
    rw [← countOf_perm hp, ← countOf_perm hp]
    exact h.balance n item hn hpos hw kind hk

theorem entry_lt (h : Balanced r is) {id : UInt32} {e : CallbackEntry F G}
    (he : r.manager.callbackMap[id]? = some e) : e.registration < r.registrations.length := by
  obtain ⟨_, item, hitem, _⟩ := h.entry id e he
  exact (List.getElem?_eq_some_iff.mp hitem).1

theorem invoked_lt (h : Balanced r is) {i : Invocation F G} (hi : i ∈ is) :
    i.registration < r.registrations.length := by
  obtain ⟨item, hitem, _⟩ := h.invoked i hi
  exact (List.getElem?_eq_some_iff.mp hitem).1

theorem key_unique (h : Balanced r is) {id id' : UInt32} {e e' : CallbackEntry F G}
    (he : r.manager.callbackMap[id]? = some e) (he' : r.manager.callbackMap[id']? = some e')
    (hreg : e.registration = e'.registration) : id = id' := by
  obtain ⟨_, item, hitem, hid, _⟩ := h.entry id e he
  obtain ⟨_, item', hitem', hid', _⟩ := h.entry id' e' he'
  rw [hreg, hitem'] at hitem
  cases hitem
  exact hid.symm.trans hid'

/-- A block that leaves `left` of the entry `e` and owes `os` for the difference. -/
theorem settle (h : Balanced r is) {id : UInt32} {e : CallbackEntry F G}
    (he : r.manager.callbackMap[id]? = some e) {m : CallbackManager F G} (left : Option (CallbackEntry F G))
    (hmap : ∀ k : UInt32, m.callbackMap[k]? = if id = k then left else r.manager.callbackMap[k]?)
    (hleft : ∀ e', left = some e' → e'.registration = e.registration ∧ e'.functor = e.functor ∧
      1 ≤ e'.expectCount.toInt)
    {os : List (Invocation F G)} (hos : ∀ i ∈ os, i.registration = e.registration ∧
      e.functor i.kind = some i.functor ∧ (i.status = .kadSuccess ∨ i.status = .kadTimeout))
    (hcount : 1 ≤ e.expectCount.toInt → ∀ kind, (e.functor kind).isSome →
      (countOf os e.registration kind .kadSuccess : ℤ) + countOf os e.registration kind .kadTimeout +
        left.elim 0 (fun e' => e'.expectCount.toInt) = e.expectCount.toInt) :
    Balanced { r with manager := m } (is ++ os) := by
  obtain ⟨hforce, item, hitem, hid, hfunctor, hpositive⟩ := h.entry id e he
  have hkept : m.callbackMap[id]? = left := (hmap id).trans (if_pos rfl)
  have hleftStored (n : ℕ) : Registry.stored { r with manager := m } n id =
      if e.registration = n then left.elim 0 (fun e' => e'.expectCount.toInt) else 0 := by
    cases hl : left with
    | none => rw [Registry.stored_of_none (hkept.trans hl), Option.elim_none, ite_self]
    | some e' => rw [Registry.stored_of_some (hkept.trans hl), (hleft e' hl).1, Option.elim_some]
  refine ⟨?_, ?_, h.withdrawn, ?_⟩
  · intro k e' he'
    dsimp only at he'
    rw [hmap] at he'
    split at he'
    · rename_i hk
      obtain ⟨hreg, hfun, hone⟩ := hleft e' he'
      rw [hreg]
      exact ⟨hforce, item, hitem, hid.trans hk, hfun.trans hfunctor, fun _ => hone⟩
    · exact h.entry k e' he'
  · intro i hi
    rcases List.mem_append.mp hi with hi | hi
    · exact h.invoked i hi
    · obtain ⟨hreg, hfun, hstatus⟩ := hos i hi
      exact ⟨item, hreg ▸ hitem, by rw [← hfunctor, hfun], hstatus⟩
  · intro n it hn hpos hw kind hk
    have hbefore := h.balance n it hn hpos hw kind hk
    rw [countOf_append, countOf_append]
    by_cases hreg : n = e.registration
    · subst hreg
      rw [hitem] at hn
      cases hn
      have hafter := hcount (hpositive hpos) kind (by rw [hfunctor]; exact hk)
      have hstored : r.stored e.registration item.messageId = e.expectCount.toInt := by
        rw [hid, Registry.stored_of_some he, if_pos rfl]
      have hstored' : Registry.stored { r with manager := m } e.registration item.messageId =
          left.elim 0 (fun e' => e'.expectCount.toInt) := by
        rw [hid, hleftStored, if_pos rfl]
      rw [hstored']
      push_cast
      omega
    · have hnone : ∀ i ∈ os, i.registration ≠ n := fun i hi heq => hreg (heq.symm.trans (hos i hi).1)
      have hstored' : Registry.stored { r with manager := m } n it.messageId = r.stored n it.messageId := by
        by_cases hkey : id = it.messageId
        · rw [← hkey, hleftStored, Registry.stored_of_some he, if_neg (Ne.symm hreg), if_neg (Ne.symm hreg)]
        · exact Registry.stored_congr ((hmap it.messageId).trans (if_neg hkey)) n
      rw [countOf_eq_zero hnone, countOf_eq_zero hnone, hstored']
      simpa using hbefore

/-- A block that takes the entries of the registrations `ws` out and owes nothing. -/
theorem withdraw (h : Balanced r is) {m : CallbackManager F G} {ws : List ℕ}
    (hsub : ∀ (k : UInt32) e, m.callbackMap[k]? = some e →
      r.manager.callbackMap[k]? = some e ∧ e.registration ∉ ws)
    (hgone : ∀ (k : UInt32) e, r.manager.callbackMap[k]? = some e →
      m.callbackMap[k]? = some e ∨ e.registration ∈ ws)
    (hws : ∀ n ∈ ws, n < r.registrations.length) :
    Balanced { r with manager := m, withdrawn := r.withdrawn ++ ws } is := by
  refine ⟨?_, h.invoked, ?_, ?_⟩
  · intro k e he
    obtain ⟨hold, hnot⟩ := hsub k e he
    obtain ⟨hforce, hitem⟩ := h.entry k e hold
    exact ⟨fun hin => (List.mem_append.mp hin).elim hforce hnot, hitem⟩
  · intro n hn
    exact (List.mem_append.mp hn).elim (h.withdrawn n) (hws n)
  · intro n item hn hpos hw kind hk
    have hw' : n ∉ r.withdrawn ∧ n ∉ ws := by simpa using hw
    have hstored : Registry.stored { r with manager := m, withdrawn := r.withdrawn ++ ws } n item.messageId =
        r.stored n item.messageId := by
      cases hnew : m.callbackMap[item.messageId]? with
      | some e => exact Registry.stored_congr (hnew.trans (hsub _ e hnew).1.symm) n
      | none =>
        rw [Registry.stored_of_none hnew]
        cases hold : r.manager.callbackMap[item.messageId]? with
        | none => exact (Registry.stored_of_none hold n).symm
        | some e =>
          rcases hgone _ e hold with he | he
          · rw [hnew] at he
            cases he
          · have hne : e.registration ≠ n := fun heq => hw'.2 (heq ▸ he)
            rw [Registry.stored_of_some hold, if_neg hne]
    rw [hstored]
    exact h.balance n item hn hpos hw'.1 kind hk

/-- A block that touches nothing but the remaining times. -/
theorem retimed (h : Balanced r is) {m : CallbackManager F G} {f : CallbackEntry F G → CallbackEntry F G}
    (hf : ∀ e, (f e).registration = e.registration ∧ (f e).functor = e.functor ∧
      (f e).expectCount = e.expectCount)
    (hmap : ∀ k : UInt32, m.callbackMap[k]? = (r.manager.callbackMap[k]?).map f) :
    Balanced { r with manager := m } is := by
  refine ⟨?_, h.invoked, h.withdrawn, ?_⟩
  · intro k e he
    dsimp only at he
    rw [hmap, Option.map_eq_some_iff] at he
    obtain ⟨e₀, he₀, rfl⟩ := he
    obtain ⟨hreg, hfun, hcount⟩ := hf e₀
    rw [hreg, hfun, hcount]
    exact h.entry k e₀ he₀
  · intro n item hn hpos hw kind hk
    have hstored : Registry.stored { r with manager := m } n item.messageId = r.stored n item.messageId := by
      dsimp only [Registry.stored]
      rw [hmap]
      cases r.manager.callbackMap[item.messageId]? with
      | none => rfl
      | some e =>
        obtain ⟨hreg, _, hcount⟩ := hf e
        simp [hreg, hcount]
    rw [hstored]
    exact h.balance n item hn hpos hw kind hk

end Balanced

namespace Registry

variable {item : CallbackItem F G} {r : Registry F G}

theorem register_pending (h : item.messageId ∈ r.manager.callbackMap) : r.register item = r := by
  have hmap : r.manager.callbackMap.insertIfNew item.messageId
      { item with registration := r.registrations.length } = r.manager.callbackMap := by
    apply ExtTreeMap.ext_getElem?
    intro k
    rw [ExtTreeMap.getElem?_insertIfNew, if_neg (fun hc => hc.2 h)]
  rw [register, CallbackManager.add, hmap, if_pos (ExtTreeMap.contains_iff_mem.mpr h)]

section

variable (h : item.messageId ∉ r.manager.callbackMap)
include h

theorem registrations_register : (r.register item).registrations = r.registrations ++ [item] := by
  rw [register, if_neg (fun hc => h (ExtTreeMap.contains_iff_mem.mp hc))]

theorem getElem?_register (k : UInt32) : (r.register item).manager.callbackMap[k]? =
    if item.messageId = k then some { item with registration := r.registrations.length }
    else r.manager.callbackMap[k]? := by
  simp [register, CallbackManager.add, ExtTreeMap.getElem?_insertIfNew, h]

theorem stored_register_of_lt {n : ℕ} (hn : n < r.registrations.length) (id : UInt32) :
    (r.register item).stored n id = r.stored n id := by
  by_cases hkey : item.messageId = id
  · subst hkey
    rw [stored_of_some ((getElem?_register h _).trans (if_pos rfl)), if_neg (Nat.ne_of_gt hn),
      stored_of_none (ExtTreeMap.getElem?_eq_none h)]
  · exact stored_congr ((getElem?_register h id).trans (if_neg hkey)) n

theorem stored_register : (r.register item).stored r.registrations.length item.messageId =
    item.expectCount.toInt := by
  rw [stored_of_some ((getElem?_register h _).trans (if_pos rfl)), if_pos rfl]

end

end Registry

namespace Balanced

variable {r : Registry F G} {is : List (Invocation F G)}

theorem register (h : Balanced r is) (item : CallbackItem F G) : Balanced (r.register item) is := by
  by_cases hin : item.messageId ∈ r.manager.callbackMap
  · rw [Registry.register_pending hin]
    exact h
  · have hregs := Registry.registrations_register hin
    have hlift {n : ℕ} {it : CallbackItem F G} (hn : r.registrations[n]? = some it) :
        (r.registrations ++ [item])[n]? = some it :=
      (List.getElem?_append_left (List.getElem?_eq_some_iff.mp hn).1).trans hn
    have hwithdrawn : (r.register item).withdrawn = r.withdrawn := rfl
    refine ⟨?_, ?_, ?_, ?_⟩
    · intro k e he
      rw [hwithdrawn, hregs]
      rw [Registry.getElem?_register hin] at he
      split at he
      · rename_i hk
        cases he
        refine ⟨fun hw => Nat.lt_irrefl _ (h.withdrawn _ hw), item, ?_, hk, rfl, id⟩
        simp
      · obtain ⟨hforce, it, hit, hrest⟩ := h.entry k e he
        exact ⟨hforce, it, hlift hit, hrest⟩
    · intro i hi
      obtain ⟨it, hit, hrest⟩ := h.invoked i hi
      rw [hregs]
      exact ⟨it, hlift hit, hrest⟩
    · intro n hn
      rw [hregs, List.length_append]
      exact Nat.lt_add_right _ (h.withdrawn n hn)
    · intro n it hn hpos hw kind hk
      rw [hregs] at hn
      rcases Nat.lt_or_ge n r.registrations.length with hlt | hge
      · rw [List.getElem?_append_left hlt] at hn
        rw [Registry.stored_register_of_lt hin hlt]
        exact h.balance n it hn hpos hw kind hk
      · -- the new registration: nothing was invoked for it, all of its count is stored
        have heq : n = r.registrations.length := by
          have hlen := (List.getElem?_eq_some_iff.mp hn).1
          rw [List.length_append, List.length_singleton] at hlen
          omega
        subst heq
        rw [List.getElem?_concat_length] at hn
        cases hn
        have hnone : ∀ i ∈ is, i.registration ≠ r.registrations.length :=
          fun i hi => Nat.ne_of_lt (h.invoked_lt hi)
        rw [countOf_eq_zero hnone, countOf_eq_zero hnone, Registry.stored_register hin]
        simp

theorem mem_both {e : CallbackEntry F G} {status : KadCode} {m m' : RoutingMessage} {p p' : XPacket} {times : ℕ}
    {i : Invocation F G} (hi : i ∈ e.invocations .callback status m p times ++
      e.invocations .mutexCallback status m' p' times) :
    i.registration = e.registration ∧ e.functor i.kind = some i.functor ∧ i.status = status := by
  rcases List.mem_append.mp hi with hi | hi
  · exact mem_invocations hi
  · exact mem_invocations hi

theorem countOf_both {e : CallbackEntry F G} {kind : CallbackKind} (hk : (e.functor kind).isSome)
    (status st : KadCode) (m m' : RoutingMessage) (p p' : XPacket) (times : ℕ) :
    countOf (e.invocations .callback status m p times ++ e.invocations .mutexCallback status m' p' times)
      e.registration kind st = if status = st then times else 0 := by
  rw [countOf_append, countOf_invocations, countOf_invocations]
  cases kind <;> simp [hk]

theorem callback (h : Balanced r is) (messageId : UInt32) (message : RoutingMessage) (packet : XPacket) :
    Balanced (r.callback messageId message packet).2 (is ++ (r.callback messageId message packet).1) := by
  rw [Registry.callback, CallbackManager.callback]
  cases he : r.manager.callbackMap[messageId]? with
  | none => simpa using h
  | some e =>
    set e' : CallbackEntry F G := { e with expectCount := e.expectCount - 1 } with he'
    refine h.settle he (if e'.expectCount ≤ 0 then none else some e') ?_ ?_ ?_ ?_
    · intro k
      dsimp only
      split
      · simp [ExtTreeMap.getElem?_erase]
      · simp [ExtTreeMap.getElem?_insert, he']
    · intro e₁ he₁
      split at he₁
      · cases he₁
      · rename_i hpos
        cases he₁
        rw [Int32.le_iff_toInt_le] at hpos
        exact ⟨rfl, rfl, Int.not_le.mp hpos⟩
    · intro i hi
      obtain ⟨hreg, hfun, hstatus⟩ := mem_both hi
      exact ⟨hreg, hfun, Or.inl hstatus⟩
    · intro hone kind hk
      have hsub : e'.expectCount.toInt = e.expectCount.toInt - 1 := toInt_sub_one (by omega)
      have hleft : (if e'.expectCount ≤ 0 then none else some e').elim 0
          (fun e₁ => e₁.expectCount.toInt) = e'.expectCount.toInt := by
        split
        · rename_i hle
          rw [Int32.le_iff_toInt_le, show (0 : Int32).toInt = 0 from rfl] at hle
          rw [Option.elim_none]
          omega
        · rfl
      have hsuccess := countOf_both (e := e') hk .kadSuccess .kadSuccess message message packet packet 1
      have htimeout := countOf_both (e := e') hk .kadSuccess .kadTimeout message message packet packet 1
      rw [hleft, hsub]
      dsimp only
      rw [show e.registration = e'.registration from rfl, hsuccess, htimeout]
      simp

theorem cancel (h : Balanced r is) (messageId noCallback : UInt32) :
    Balanced (r.cancel messageId noCallback).2 (is ++ (r.cancel messageId noCallback).1) := by
  rw [Registry.cancel, CallbackManager.cancel]
  cases he : r.manager.callbackMap[messageId]? with
  | none => simpa using h
  | some e =>
    have hmap (k : UInt32) : (r.manager.callbackMap.erase messageId)[k]? =
        if messageId = k then none else r.manager.callbackMap[k]? := by
      simp [ExtTreeMap.getElem?_erase]
    by_cases hno : noCallback = 0
    · simp only [hno, ne_eq, not_true_eq_false, if_false, List.append_nil]
      refine h.settle he none hmap (fun e' he' => by cases he') ?_ ?_
      · intro i hi
        obtain ⟨hreg, hfun, hstatus⟩ := mem_both hi
        exact ⟨hreg, hfun, Or.inr hstatus⟩
      · intro hone kind hk
        rw [countOf_both hk, countOf_both hk, if_neg (by decide), if_pos rfl, Option.elim_none]
        omega
    · simp only [hno, ne_eq, not_false_eq_true, if_true, List.append_nil, Option.map_some, Option.toList_some]
      refine h.withdraw ?_ ?_ ?_
      · intro k e' he'
        dsimp only at he'
        rw [hmap] at he'
        split at he'
        · cases he'
        · rename_i hk
          exact ⟨he', fun hin => hk (h.key_unique he he' (List.mem_singleton.mp hin).symm)⟩
      · intro k e' he'
        dsimp only
        rw [hmap]
        by_cases hk : messageId = k
        · subst hk
          rw [he] at he'
          cases he'
          exact Or.inr (List.mem_singleton_self _)
        · rw [if_neg hk]
          exact Or.inl he'
      · intro n hn
        rw [List.mem_singleton.mp hn]
        exact h.entry_lt he

theorem scan (h : Balanced r is) : Balanced r.scan.2 is := by
  refine h.retimed (f := fun e => { e with timeoutSec := e.timeoutSec - 1 })
    (fun e => ⟨rfl, rfl, rfl⟩) (fun k => ?_)
  exact ExtTreeMap.getElem?_map

theorem join (h : Balanced r is) : Balanced r.join is := by
  refine h.withdraw ?_ ?_ ?_
  · intro k e he
    simp [CallbackManager.join] at he
  · intro k e he
    refine Or.inr (List.mem_map.mpr ⟨(k, e), ?_, rfl⟩)
    exact ExtTreeMap.mem_toList_iff_getElem?_eq_some.mpr he
  · intro n hn
    obtain ⟨⟨k, e⟩, hmem, rfl⟩ := List.mem_map.mp hn
    exact h.entry_lt (ExtTreeMap.mem_toList_iff_getElem?_eq_some.mp hmem)

end Balanced

/-- What a block does that owes `os`: the balance is kept, and nothing is owed to a
registration that is withdrawn afterwards. -/
structure Kept (r : Registry F G) (is : List (Invocation F G)) (r' : Registry F G)
    (os : List (Invocation F G)) : Prop where
  balanced : Balanced r' (is ++ os)
  inForce : ∀ i ∈ os, i.registration ∉ r'.withdrawn
  withdrawn : r.withdrawn ⊆ r'.withdrawn

namespace Kept

variable {r r' : Registry F G} {is : List (Invocation F G)}

theorem silent (h : Balanced r' is) (hw : r.withdrawn ⊆ r'.withdrawn) : Kept r is r' [] where
  balanced := by
    rw [List.append_nil]
    exact h
  inForce i hi := by cases hi
  withdrawn := hw

theorem callback (h : Balanced r is) (messageId : UInt32) (message : RoutingMessage) (packet : XPacket) :
    Kept r is (r.callback messageId message packet).2 (r.callback messageId message packet).1 := by
  refine ⟨h.callback messageId message packet, ?_, List.Subset.refl _⟩
  rw [Registry.callback, CallbackManager.callback]
  cases he : r.manager.callbackMap[messageId]? with
  | none => simp
  | some e =>
    intro i hi
    rw [(Balanced.mem_both hi).1]
    exact (h.entry messageId e he).1

theorem cancel (h : Balanced r is) (messageId noCallback : UInt32) :
    Kept r is (r.cancel messageId noCallback).2 (r.cancel messageId noCallback).1 := by
  refine ⟨h.cancel messageId noCallback, ?_, List.subset_append_left _ _⟩
  rw [Registry.cancel, CallbackManager.cancel]
  cases he : r.manager.callbackMap[messageId]? with
  | none => simp
  | some e =>
    by_cases hno : noCallback = 0
    · simp only [hno, ne_eq, not_true_eq_false, if_false, List.append_nil]
      intro i hi
      rw [(Balanced.mem_both hi).1]
      exact (h.entry messageId e he).1
    · simp [hno]

theorem enter (h : Balanced r is) (op : CallbackOp F G) : Kept r is (op.enter r).2.2 (op.enter r).1 := by
  cases op with
  | add messageId timeoutSec functor expectCount => exact silent (h.register _) (List.Subset.refl _)
  | addItem callbackPtr =>
    cases callbackPtr with
    | none => exact silent h (List.Subset.refl _)
    | some item => exact silent (h.register item) (List.Subset.refl _)
  | callback messageId message packet => exact callback h messageId message packet
  | timeout messageId => exact cancel h messageId 0
  | cancel messageId noCallback => exact cancel h messageId noCallback
  | timeoutCheck => exact silent h.scan (List.Subset.refl _)
  | join => exact silent h.join (List.subset_append_left _ _)

/-- One step of a call, with the invocations that become owed. -/
theorem block (p : CallbackPoint F G) {s : CallbackState F G} (h : Balanced s.registry is) :
    ∃ os, Kept s.registry is (p.block s).2.registry os ∧
      ((p.block s).2.made ++ (p.block s).1.owed).Perm (s.made ++ p.owed ++ os) := by
  match p with
  | .enter op =>
    refine ⟨(op.enter s.registry).1, enter h op, ?_⟩
    simp [CallbackPoint.block, CallbackPoint.owed]
  | .outside (i :: owed) collected =>
    refine ⟨[], silent h (List.Subset.refl _), ?_⟩
    simp [CallbackPoint.block, CallbackPoint.owed]
  | .outside [] (id :: collected) =>
    refine ⟨(s.registry.timeout id).1, cancel h id 0, ?_⟩
    simp [CallbackPoint.block, CallbackPoint.owed]
  | .outside [] [] =>
    refine ⟨[], silent h (List.Subset.refl _), ?_⟩
    simp [CallbackPoint.block, CallbackPoint.owed]

end Kept

namespace Callbacks

/-- A new manager and the calls that will be made, at any time each. -/
def start (ops : List (CallbackOp F G)) : Callbacks F G := ⟨{}, ops.map .enter⟩

def invocations (c : Callbacks F G) : List (Invocation F G) :=
  c.shared.made ++ c.threads.flatMap CallbackPoint.owed

abbrev Advance : Callbacks F G → Callbacks F G → Prop := Config.Advance CallbackPoint.block Config.free

abbrev Run : Callbacks F G → Callbacks F G → Prop := Config.Run CallbackPoint.block Config.free

theorem start_balanced (ops : List (CallbackOp F G)) :
    Balanced (start ops).shared.registry (start ops).invocations := by
  have hnone : (start ops).invocations = [] := by
    simp [start, invocations, CallbackPoint.owed, List.flatMap_map]
  rw [hnone]
  refine ⟨?_, ?_, ?_, ?_⟩ <;> simp [start]

/-- The invocations of one call put in front of those the other calls owe. -/
theorem owed_middle (made before owed after : List (Invocation F G)) :
    (made ++ (before ++ (owed ++ after))).Perm (made ++ owed ++ (before ++ after)) := by
  rw [List.append_assoc]
  exact (List.perm_append_comm_assoc before owed after).append_left made

/-- A step keeps the balance and adds no invocation of a withdrawn registration. -/
theorem advance_kept {c c' : Callbacks F G} (ha : Advance c c') (h : Balanced c.shared.registry c.invocations) :
    ∃ os, Kept c.shared.registry c.invocations c'.shared.registry os ∧
      c'.invocations.Perm (c.invocations ++ os) := by
  cases ha with
  | step before p after s _ =>
    obtain ⟨os, hkept, hperm⟩ := Kept.block p h
    refine ⟨os, hkept, ?_⟩
    simp only [invocations, List.flatMap_append, List.flatMap_cons]
    set others := before.flatMap CallbackPoint.owed ++ after.flatMap CallbackPoint.owed
    calc ((p.block s).2.made ++ (before.flatMap CallbackPoint.owed ++ ((p.block s).1.owed ++
          after.flatMap CallbackPoint.owed))).Perm ((p.block s).2.made ++ (p.block s).1.owed ++ others) :=
        owed_middle _ _ _ _
      _ |>.Perm (s.made ++ p.owed ++ os ++ others) := hperm.append_right others
      _ |>.Perm (s.made ++ p.owed ++ others ++ os) := by
        rw [List.append_assoc, List.append_assoc _ others os]
        exact List.perm_append_comm.append_left _
      _ |>.Perm (s.made ++ (before.flatMap CallbackPoint.owed ++ (p.owed ++
          after.flatMap CallbackPoint.owed)) ++ os) := (owed_middle _ _ _ _).symm.append_right os

theorem run_balanced {c c' : Callbacks F G} (hr : Run c c') (h : Balanced c.shared.registry c.invocations) :
    Balanced c'.shared.registry c'.invocations := by
  induction hr with
  | refl => exact h
  | tail _ ha ih =>
    obtain ⟨os, hkept, hperm⟩ := advance_kept ha ih
    exact hkept.balanced.perm hperm.symm

/-- Invocations of one functor of registration `n` with one status, made or owed. -/
def invoked (c : Callbacks F G) (n : ℕ) (kind : CallbackKind) (status : KadCode) : ℕ :=
  countOf c.invocations n kind status

theorem invoked_advance {c c' : Callbacks F G} (ha : Advance c c')
    (h : Balanced c.shared.registry c.invocations) {n : ℕ} (hn : n ∈ c'.shared.registry.withdrawn)
    (kind : CallbackKind) (status : KadCode) : invoked c' n kind status = invoked c n kind status := by
  obtain ⟨os, hkept, hperm⟩ := advance_kept ha h
  have hnone : ∀ i ∈ os, i.registration ≠ n := fun i hi heq => hkept.inForce i hi (heq ▸ hn)
  rw [invoked, invoked, countOf_perm hperm, countOf_append, countOf_eq_zero hnone, Nat.add_zero]

theorem invoked_run {c c' : Callbacks F G} (hr : Run c c')
    (h : Balanced c.shared.registry c.invocations) {n : ℕ} (hn : n ∈ c.shared.registry.withdrawn)
    (kind : CallbackKind) (status : KadCode) : invoked c' n kind status = invoked c n kind status := by
  have hstays : n ∈ c'.shared.registry.withdrawn ∧ invoked c' n kind status = invoked c n kind status := by
    induction hr with
    | refl => exact ⟨hn, rfl⟩
    | tail hr ha ih =>
      have hbal := run_balanced hr h
      obtain ⟨os, hkept, _⟩ := advance_kept ha hbal
      have hin := hkept.withdrawn ih.1
      exact ⟨hin, (invoked_advance ha hbal hin kind status).trans ih.2⟩
  exact hstays.2

/-- The conservation law at one point of a run. -/
structure Conserved (c : Callbacks F G) : Prop where
  balance : ∀ n item, c.shared.registry.registrations[n]? = some item → 1 ≤ item.expectCount →
    n ∉ c.shared.registry.withdrawn → ∀ kind, item.functor kind ≠ none →
      (invoked c n kind .kadSuccess : ℤ) + invoked c n kind .kadTimeout +
        c.shared.registry.stored n item.messageId = item.expectCount.toInt
  /-- An invocation, made or owed, calls a functor of its registration. -/
  registered : ∀ i ∈ c.invocations, ∃ item, c.shared.registry.registrations[i.registration]? = some item ∧
    item.functor i.kind = some i.functor ∧ (i.status = .kadSuccess ∨ i.status = .kadTimeout)
  /-- The step that withdraws a registration adds no invocation of it, nor does any later step. -/
  withdrawing : ∀ c', Advance c c' → ∀ n ∈ c'.shared.registry.withdrawn, ∀ kind status,
    invoked c' n kind status = invoked c n kind status
  withdrawn : ∀ c', Run c c' → ∀ n ∈ c.shared.registry.withdrawn, ∀ kind status,
    invoked c' n kind status = invoked c n kind status
  /-- `Add` for an id in use changes nothing. -/
  pending : ∀ op item, op.added = some item → item.messageId ∈ c.shared.registry.manager.callbackMap →
    (CallbackPoint.enter op).block c.shared = (.outside [] [], c.shared)

/-- At every point of every interleaving of calls nothing is lost and nothing comes twice. -/
theorem run_conserved {ops : List (CallbackOp F G)} {c : Callbacks F G} (h : Run (start ops) c) :
    Conserved c := by
  have hbal := run_balanced h (start_balanced ops)
  refine ⟨?_, hbal.invoked, fun c' ha n hn => invoked_advance ha hbal hn,
    fun c' hr n hn => invoked_run hr hbal hn, ?_⟩
  · intro n item hn hpos hw kind hk
    exact hbal.balance n item hn (Int32.le_iff_toInt_le.mp hpos) hw kind (Option.isSome_iff_ne_none.mpr hk)
  · intro op item hop hin
    rw [CallbackPoint.block, CallbackOp.enter_added hop, Registry.register_pending hin]

/-- An answer, then a timeout for the second one. -/
def answerThenTimeout : List (CallbackOp Unit Unit) :=
  [.add 1 5 (some ()) 2, .callback 1 {} ⟨[49], 9000⟩, .timeout 1]

theorem run_conserved_answerThenTimeout :
    Conserved ((start answerThenTimeout).schedule CallbackPoint.block [0, 1, 2, 1, 2]) :=
  run_conserved (Config.run_schedule (Config.allowed_free _ _))

end Callbacks
end XKad
