import XKad.CallbackManagers

/-!
# Timeouts of callbacks

`TimeoutCheck` counts all items down under the lock and then hands the ids of those
that are due to `Timeout`, one by one. Whole calls are composed here of the blocks of
`CallbackManager`, and an item is followed from its `Add` to the check that expires it.
-/
namespace XKad
open Std

variable {F G : Type}

namespace Registry

/-- `Timeout` for one id after the other: the invocations made, and the registry. -/
def timeouts : List UInt32 → Registry F G → List (Invocation F G) × Registry F G
  | [], r => ([], r)
  | id :: ids, r =>
    let (owed, r) := r.timeout id
    let (rest, r) := timeouts ids r
    (owed ++ rest, r)

def timeoutCheck (r : Registry F G) : List (Invocation F G) × Registry F G :=
  let (collected, r) := r.scan
  r.timeouts collected

end Registry

namespace CallbackOp

/-- A whole call: its block, and a `Timeout` for every id it has collected. -/
def call (op : CallbackOp F G) (r : Registry F G) : List (Invocation F G) × Registry F G :=
  let (owed, collected, r) := op.enter r
  let (rest, r) := r.timeouts collected
  (owed ++ rest, r)

def next (op : CallbackOp F G) (r : Registry F G) : Registry F G := (op.call r).2

theorem call_timeoutCheck (r : Registry F G) : (timeoutCheck : CallbackOp F G).call r = r.timeoutCheck := rfl

end CallbackOp

namespace Callbacks

variable (before after : List (CallbackPoint F G))

theorem run_block (p : CallbackPoint F G) (s : CallbackState F G) :
    Run ⟨s, before ++ p :: after⟩ ⟨(p.block s).2, before ++ (p.block s).1 :: after⟩ :=
  .single (.step before p after s trivial)

theorem run_owed (owed : List (Invocation F G)) (collected : List UInt32) (r : Registry F G)
    (made : List (Invocation F G)) :
    Run ⟨⟨r, made⟩, before ++ .outside owed collected :: after⟩
      ⟨⟨r, made ++ owed⟩, before ++ .outside [] collected :: after⟩ := by
  induction owed generalizing made with
  | nil =>
    rw [List.append_nil]
  | cons i owed ih =>
    have hrest := ih (made ++ [i])
    rw [List.append_assoc, List.singleton_append] at hrest
    exact (run_block before after (.outside (i :: owed) collected) ⟨r, made⟩).trans hrest

theorem run_collected (collected : List UInt32) (r : Registry F G) (made : List (Invocation F G)) :
    Run ⟨⟨r, made⟩, before ++ .outside [] collected :: after⟩
      ⟨⟨(r.timeouts collected).2, made ++ (r.timeouts collected).1⟩, before ++ .outside [] [] :: after⟩ := by
  induction collected generalizing r made with
  | nil =>
    rw [show (r.timeouts []).1 = [] from rfl, List.append_nil]
    rfl
  | cons id ids ih =>
    have howed := run_owed before after (r.timeout id).1 ids (r.timeout id).2 made
    have hrest := ih (r.timeout id).2 (made ++ (r.timeout id).1)
    rw [List.append_assoc] at hrest
    exact ((run_block before after (.outside [] (id :: ids)) ⟨r, made⟩).trans howed).trans hrest

/-- A whole call is a run of the blocks of one thread, while the others wait. -/
theorem run_call (op : CallbackOp F G) (r : Registry F G) (made : List (Invocation F G)) :
    Run ⟨⟨r, made⟩, before ++ .enter op :: after⟩
      ⟨⟨(op.call r).2, made ++ (op.call r).1⟩, before ++ .outside [] [] :: after⟩ := by
  have howed := run_owed before after (op.enter r).1 (op.enter r).2.1 (op.enter r).2.2 made
  have hrest := run_collected before after (op.enter r).2.1 (op.enter r).2.2 (made ++ (op.enter r).1)
  rw [List.append_assoc] at hrest
  exact ((run_block before after (.enter op) ⟨r, made⟩).trans howed).trans hrest

end Callbacks

namespace Balanced

variable {r : Registry F G} {is : List (Invocation F G)}

theorem call (h : Balanced r is) (op : CallbackOp F G) : Balanced (op.call r).2 (is ++ (op.call r).1) := by
  have hrun := Callbacks.run_call [] [] op r is
  have hstart : Balanced r (Callbacks.invocations ⟨⟨r, is⟩, [.enter op]⟩) := by
    simpa [Callbacks.invocations, CallbackPoint.owed] using h
  simpa [Callbacks.invocations, CallbackPoint.owed] using Callbacks.run_balanced hrun hstart

theorem follow (h : Balanced r is) (ops : List (CallbackOp F G)) :
    ∃ js, Balanced (XKad.follow CallbackOp.next ops r) js :=
  follow_invariant (I := fun r => ∃ js, Balanced r js) (fun op _ hr => hr.elim fun _ h => ⟨_, h.call op⟩)
    ⟨is, h⟩ ops

end Balanced

def CallbackEntry.expiry (id : UInt32) (e : CallbackEntry F G) : List (Invocation F G) :=
  e.invocations .callback .kadTimeout { id := id } ⟨[], 0⟩ e.expectCount.toInt.toNat ++
    e.invocations .mutexCallback .kadTimeout {} ⟨[], 0⟩ e.expectCount.toInt.toNat

/-- The entry one check later. -/
def CallbackEntry.aged (e : CallbackEntry F G) : CallbackEntry F G := { e with timeoutSec := e.timeoutSec - 1 }

/-- The next check finds the entry due. -/
def CallbackEntry.Due (e : CallbackEntry F G) : Prop := e.timeoutSec - 1 ≤ 0

instance (e : CallbackEntry F G) : Decidable e.Due := inferInstanceAs (Decidable (e.timeoutSec - 1 ≤ 0))

theorem CallbackEntry.expiry_registration {id : UInt32} {e : CallbackEntry F G} {i : Invocation F G}
    (hi : i ∈ e.expiry id) : i.registration = e.registration :=
  (Balanced.mem_both hi).1

namespace Registry

variable {r : Registry F G} {id k : UInt32} {e : CallbackEntry F G}

theorem timeout_none (h : r.manager.callbackMap[id]? = none) : (r.timeout id).1 = [] := by
  simp [timeout, cancel, CallbackManager.cancel, h]

theorem timeout_some (h : r.manager.callbackMap[id]? = some e) : (r.timeout id).1 = e.expiry id := by
  simp [timeout, cancel, CallbackManager.cancel, h, CallbackEntry.expiry]

theorem timeout_getElem? (r : Registry F G) (id k : UInt32) :
    (r.timeout id).2.manager.callbackMap[k]? = if id = k then none else r.manager.callbackMap[k]? := by
  rw [timeout, cancel, CallbackManager.cancel]
  cases h : r.manager.callbackMap[id]? with
  | none =>
    dsimp only
    split_ifs with hk
    · rw [← hk, h]
    · rfl
  | some e => simp [ExtTreeMap.getElem?_erase]

theorem timeouts_getElem? (ids : List UInt32) (r : Registry F G) (k : UInt32) :
    (r.timeouts ids).2.manager.callbackMap[k]? = if k ∈ ids then none else r.manager.callbackMap[k]? := by
  induction ids generalizing r with
  | nil => simp [timeouts]
  | cons id ids ih =>
    rw [timeouts]
    dsimp only
    rw [ih, timeout_getElem?]
    by_cases hk : k ∈ ids
    · simp [hk]
    · by_cases hid : id = k
      · simp [hid]
      · simp [hk, hid, Ne.symm hid]

theorem timeouts_registration {ids : List UInt32} {r : Registry F G} {i : Invocation F G}
    (hi : i ∈ (r.timeouts ids).1) :
    ∃ k ∈ ids, ∃ e, r.manager.callbackMap[k]? = some e ∧ i.registration = e.registration := by
  induction ids generalizing r with
  | nil => simp [timeouts] at hi
  | cons id ids ih =>
    rw [timeouts] at hi
    rcases List.mem_append.mp hi with hi | hi
    · cases h : r.manager.callbackMap[id]? with
      | none =>
        rw [timeout_none h] at hi
        cases hi
      | some e =>
        rw [timeout_some h] at hi
        exact ⟨id, List.mem_cons_self, e, h, CallbackEntry.expiry_registration hi⟩
    · obtain ⟨k, hk, e, he, hreg⟩ := ih hi
      rw [timeout_getElem?] at he
      split at he
      · cases he
      · exact ⟨k, List.mem_cons_of_mem id hk, e, he, hreg⟩

/-- The invocations of one registration among those of a list. -/
def ofRegistration (n : ℕ) (is : List (Invocation F G)) : List (Invocation F G) :=
  is.filter (fun i => i.registration = n)

theorem ofRegistration_append (n : ℕ) (is js : List (Invocation F G)) :
    ofRegistration n (is ++ js) = ofRegistration n is ++ ofRegistration n js :=
  List.filter_append is js

theorem ofRegistration_eq_nil {n : ℕ} {is : List (Invocation F G)} (h : ∀ i ∈ is, i.registration ≠ n) :
    ofRegistration n is = [] := by
  refine List.filter_eq_nil_iff.mpr (fun i hi => ?_)
  simpa using h i hi

theorem ofRegistration_expiry (id : UInt32) (e : CallbackEntry F G) :
    ofRegistration e.registration (e.expiry id) = e.expiry id := by
  refine List.filter_eq_self.mpr (fun i hi => ?_)
  simpa using CallbackEntry.expiry_registration hi

/-- Among the invocations for a list of ids, an entry under one of them has those of its expiry. -/
theorem timeouts_expiry {is : List (Invocation F G)} (hb : Balanced r is)
    (he : r.manager.callbackMap[k]? = some e) {ids : List UInt32} (hk : k ∈ ids) :
    ofRegistration e.registration (r.timeouts ids).1 = e.expiry k := by
  induction ids generalizing r is with
  | nil => cases hk
  | cons id ids ih =>
    rw [timeouts]
    dsimp only
    rw [ofRegistration_append]
    by_cases hid : id = k
    · subst hid
      have hrest : ofRegistration e.registration ((r.timeout id).2.timeouts ids).1 = [] := by
        refine ofRegistration_eq_nil (fun i hi heq => ?_)
        obtain ⟨k', _, e', he', hreg⟩ := timeouts_registration hi
        rw [timeout_getElem?] at he'
        split at he'
        · cases he'
        · rename_i hne
          exact hne (hb.key_unique he he' (heq.symm.trans hreg))
      rw [hrest, timeout_some he, ofRegistration_expiry, List.append_nil]
    · have hfirst : ofRegistration e.registration (r.timeout id).1 = [] := by
        cases h : r.manager.callbackMap[id]? with
        | none =>
          rw [timeout_none h]
          rfl
        | some e' =>
          rw [timeout_some h]
          refine ofRegistration_eq_nil (fun i hi heq => ?_)
          exact hid (hb.key_unique h he ((CallbackEntry.expiry_registration hi).symm.trans heq))
      have hafter : (r.timeout id).2.manager.callbackMap[k]? = some e := by
        rw [timeout_getElem?, if_neg hid, he]
      have hkept : Balanced (r.timeout id).2 (is ++ (r.timeout id).1) := hb.cancel id 0
      rw [hfirst, List.nil_append]
      exact ih hkept hafter ((List.mem_cons.mp hk).resolve_left (fun heq => hid heq.symm))

theorem scan_getElem? (r : Registry F G) (k : UInt32) :
    r.scan.2.manager.callbackMap[k]? = (r.manager.callbackMap[k]?).map CallbackEntry.aged :=
  ExtTreeMap.getElem?_map

theorem mem_scan : k ∈ r.scan.1 ↔ ∃ e, r.manager.callbackMap[k]? = some e ∧ e.Due := by
  rw [show r.scan.1 = r.scan.2.manager.callbackMap.toList.filterMap
    (fun e => if e.2.timeoutSec ≤ 0 then some e.1 else none) from rfl]
  simp only [List.mem_filterMap, Option.ite_none_right_eq_some, Option.some.injEq]
  constructor
  · rintro ⟨⟨k', e'⟩, hmem, hdue, rfl⟩
    have he' := ExtTreeMap.mem_toList_iff_getElem?_eq_some.mp hmem
    rw [scan_getElem?, Option.map_eq_some_iff] at he'
    obtain ⟨e, he, rfl⟩ := he'
    exact ⟨e, he, hdue⟩
  · rintro ⟨e, he, hdue⟩
    refine ⟨(k, e.aged), ExtTreeMap.mem_toList_iff_getElem?_eq_some.mpr ?_, hdue, rfl⟩
    rw [scan_getElem?, he]
    rfl

/-- A check takes the entries out that are due and leaves the others one second less. -/
theorem timeoutCheck_getElem? (he : r.manager.callbackMap[k]? = some e) :
    r.timeoutCheck.2.manager.callbackMap[k]? = if e.Due then none else some e.aged := by
  rw [timeoutCheck]
  dsimp only
  rw [timeouts_getElem?, scan_getElem?, he]
  split_ifs with hk hdue hdue
  · rfl
  · obtain ⟨e', he', hdue'⟩ := mem_scan.mp hk
    cases he.symm.trans he'
    exact absurd hdue' hdue
  · exact absurd (mem_scan.mpr ⟨e, he, hdue⟩) hk
  · rfl

/-- A check invokes an entry if it is due, and not otherwise. -/
theorem timeoutCheck_invocations {is : List (Invocation F G)} (hb : Balanced r is)
    (he : r.manager.callbackMap[k]? = some e) :
    ofRegistration e.registration r.timeoutCheck.1 = if e.Due then e.expiry k else [] := by
  have hscanned : r.scan.2.manager.callbackMap[k]? = some e.aged := by
    rw [scan_getElem?, he]
    rfl
  rw [timeoutCheck]
  dsimp only
  split_ifs with hdue
  · exact timeouts_expiry hb.scan hscanned (mem_scan.mpr ⟨e, he, hdue⟩)
  · refine ofRegistration_eq_nil (fun i hi heq => ?_)
    obtain ⟨k', hk', e', he', hreg⟩ := timeouts_registration hi
    have hkey := hb.scan.key_unique hscanned he' (heq.symm.trans hreg)
    subst hkey
    obtain ⟨e₀, he₀, hdue₀⟩ := mem_scan.mp hk'
    cases he.symm.trans he₀
    exact hdue hdue₀

/-- The check leaves the entry under `id` alone, but for the second it counts down. -/
structure Untouched (r : Registry F G) (id : UInt32) (e : CallbackEntry F G) : Prop where
  kept : r.timeoutCheck.2.manager.callbackMap[id]? = some e.aged
  silent : ∀ i ∈ r.timeoutCheck.1, i.registration ≠ e.registration

/-- The check takes the entry out and invokes each functor it has `expect_count` times. -/
structure Expired (r : Registry F G) (id : UInt32) (e : CallbackEntry F G) : Prop where
  removed : r.timeoutCheck.2.manager.callbackMap[id]? = none
  invoked : ∀ kind, countOf r.timeoutCheck.1 e.registration kind .kadTimeout =
    if (e.functor kind).isSome then e.expectCount.toInt.toNat else 0
  functors : ∀ i ∈ r.timeoutCheck.1, i.registration = e.registration →
    i.status = .kadTimeout ∧ e.functor i.kind = some i.functor

theorem mem_ofRegistration {n : ℕ} {is : List (Invocation F G)} {i : Invocation F G} :
    i ∈ ofRegistration n is ↔ i ∈ is ∧ i.registration = n := by
  simp [ofRegistration]

theorem countOf_ofRegistration (is : List (Invocation F G)) (n : ℕ) (kind : CallbackKind) (status : KadCode) :
    countOf (ofRegistration n is) n kind status = countOf is n kind status := by
  rw [countOf, countOf, ofRegistration, List.countP_filter]
  refine List.countP_congr (fun i _ => ?_)
  simp only [Bool.and_eq_true, decide_eq_true_eq]
  constructor
  · exact fun h => h.1
  · exact fun h => ⟨h, h.1⟩

section Check

variable {is : List (Invocation F G)} (hb : Balanced r is) (he : r.manager.callbackMap[k]? = some e)
include hb he

theorem untouched_of_not_due (hdue : ¬ e.Due) : r.Untouched k e := by
  refine ⟨?_, fun i hi heq => ?_⟩
  · rw [timeoutCheck_getElem? he, if_neg hdue]
  · have hnone := timeoutCheck_invocations hb he
    rw [if_neg hdue] at hnone
    have hin := mem_ofRegistration.mpr ⟨hi, heq⟩
    rw [hnone] at hin
    cases hin

theorem expired_of_due (hdue : e.Due) : r.Expired k e := by
  have hall := timeoutCheck_invocations hb he
  rw [if_pos hdue] at hall
  refine ⟨?_, fun kind => ?_, fun i hi heq => ?_⟩
  · rw [timeoutCheck_getElem? he, if_pos hdue]
  · rw [← countOf_ofRegistration, hall, CallbackEntry.expiry, countOf_append, countOf_invocations,
      countOf_invocations]
    cases kind <;> simp
  · have hin := mem_ofRegistration.mpr ⟨hi, heq⟩
    rw [hall] at hin
    obtain ⟨_, hfunctor, hstatus⟩ := Balanced.mem_both hin
    exact ⟨hstatus, hfunctor⟩

end Check

end Registry

namespace CallbackEntry

variable {e e' e'' : CallbackEntry F G}

theorem due_iff (h : Int32.minValue < e.timeoutSec) : e.Due ↔ e.timeoutSec.toInt ≤ 1 := by
  have hmin := Int32.lt_iff_toInt_lt.mp h
  rw [show Int32.minValue.toInt = -2147483648 from rfl] at hmin
  rw [Due, Int32.le_iff_toInt_le, toInt_sub_one hmin, show (0 : Int32).toInt = 0 from rfl]
  omega

theorem not_due_of_lt (h : 1 < e.timeoutSec.toInt) : ¬ e.Due := by
  have hmin : Int32.minValue < e.timeoutSec := by
    rw [Int32.lt_iff_toInt_lt, show Int32.minValue.toInt = -2147483648 from rfl]
    omega
  rw [due_iff hmin]
  omega

/-- The same item so many checks and so many answers later. -/
structure Later (e e' : CallbackEntry F G) (checks answers : ℕ) : Prop where
  registration : e'.registration = e.registration
  functor : ∀ kind, e'.functor kind = e.functor kind
  timeoutSec : e'.timeoutSec.toInt = e.timeoutSec.toInt - checks
  expectCount : e'.expectCount.toInt = e.expectCount.toInt - answers

theorem Later.refl (e : CallbackEntry F G) : Later e e 0 0 :=
  ⟨rfl, fun _ => rfl, (sub_zero _).symm, (sub_zero _).symm⟩

theorem Later.trans {c c' a a' : ℕ} (h : Later e e' c a) (h' : Later e' e'' c' a') :
    Later e e'' (c' + c) (a' + a) := by
  have htime := h.timeoutSec
  have htime' := h'.timeoutSec
  have hexpect := h.expectCount
  have hexpect' := h'.expectCount
  refine ⟨h'.registration.trans h.registration, fun kind => (h'.functor kind).trans (h.functor kind), ?_, ?_⟩
  · push_cast
    omega
  · push_cast
    omega

end CallbackEntry

namespace CallbackOp

def isCheck : CallbackOp F G → Bool
  | timeoutCheck => true
  | _ => false

def answers (id : UInt32) : CallbackOp F G → Bool
  | callback messageId _ _ => messageId = id
  | _ => false

def checks (ops : List (CallbackOp F G)) : ℕ := ops.countP isCheck

/-- The call neither completes nor cancels the item under `id`. -/
def Spares (id : UInt32) : CallbackOp F G → Registry F G → Prop
  | callback messageId _ _, r => messageId = id →
      ∀ e, r.manager.callbackMap[id]? = some e → 1 < e.expectCount.toInt
  | timeout messageId, _ => messageId ≠ id
  | cancel messageId _, _ => messageId ≠ id
  | join, _ => False
  | _, _ => True

def after (id : UInt32) (op : CallbackOp F G) (e : CallbackEntry F G) : CallbackEntry F G :=
  if op.isCheck then e.aged
  else if op.answers id then { e with expectCount := e.expectCount - 1 }
  else e

variable {id : UInt32} {r : Registry F G} {e : CallbackEntry F G} {op : CallbackOp F G}

theorem next_register {item : CallbackItem F G} (h : op.added = some item) (r : Registry F G) :
    op.next r = r.register item := by
  rw [next, call, enter_added h]
  rfl

theorem register_getElem?_of_pending (he : r.manager.callbackMap[id]? = some e) (item : CallbackItem F G) :
    (r.register item).manager.callbackMap[id]? = some e := by
  by_cases hin : item.messageId ∈ r.manager.callbackMap
  · rw [Registry.register_pending hin, he]
  · have hne : item.messageId ≠ id := by
      rintro rfl
      rw [ExtTreeMap.getElem?_eq_none hin] at he
      cases he
    simp [Registry.register, CallbackManager.add, ExtTreeMap.getElem?_insertIfNew, hne, he]

theorem next_answer {messageId : UInt32} {message : RoutingMessage} {packet : XPacket}
    (hs : (callback messageId message packet : CallbackOp F G).Spares id r)
    (he : r.manager.callbackMap[id]? = some e) :
    ((callback messageId message packet : CallbackOp F G).next r).manager.callbackMap[id]? =
      some (if messageId = id then { e with expectCount := e.expectCount - 1 } else e) := by
  rw [next, call, enter]
  dsimp only [Registry.timeouts, Registry.callback]
  rw [CallbackManager.callback]
  by_cases hid : messageId = id
  · subst hid
    have hmore := hs rfl e he
    have hstays : ¬ e.expectCount - 1 ≤ 0 := by
      rw [Int32.le_iff_toInt_le, toInt_sub_one (by omega), show (0 : Int32).toInt = 0 from rfl]
      omega
    rw [he]
    simp [hstays]
  · cases ho : r.manager.callbackMap[messageId]? with
    | none => simp [hid, he]
    | some e' =>
      dsimp only
      split_ifs
      · simp [ExtTreeMap.getElem?_erase, hid, he]
      · simp [ExtTreeMap.getElem?_insert, hid, he]

theorem next_spared (hs : op.Spares id r) (he : r.manager.callbackMap[id]? = some e)
    (hdue : op.isCheck = true → ¬ e.Due) : (op.next r).manager.callbackMap[id]? = some (op.after id e) := by
  have hcancel {messageId : UInt32} (noCallback : UInt32) (hne : messageId ≠ id) :
      (r.cancel messageId noCallback).2.manager.callbackMap[id]? = some e := by
    rw [Registry.cancel, CallbackManager.cancel]
    cases ho : r.manager.callbackMap[messageId]? with
    | none => exact he
    | some e' => simp [ExtTreeMap.getElem?_erase, hne, he]
  cases op with
  | add messageId timeoutSec functor expectCount =>
    rw [next_register rfl]
    exact register_getElem?_of_pending he _
  | addItem callbackPtr =>
    cases callbackPtr with
    | none => exact he
    | some item =>
      rw [next_register rfl]
      exact register_getElem?_of_pending he item
  | callback messageId message packet =>
    rw [next_answer hs he]
    by_cases hid : messageId = id <;> simp [after, isCheck, answers, hid]
  | timeout messageId => exact hcancel 0 hs
  | cancel messageId noCallback => exact hcancel noCallback hs
  | timeoutCheck =>
    rw [next, call_timeoutCheck, Registry.timeoutCheck_getElem? he, if_neg (hdue rfl)]
    rfl
  | join => exact hs.elim

/-- What one call does to the counters of an item that it spares and that is not due. -/
theorem later_after (hs : op.Spares id r) (he : r.manager.callbackMap[id]? = some e)
    (hcheck : op.isCheck = true → 1 < e.timeoutSec.toInt) :
    e.Later (op.after id e) (if op.isCheck then 1 else 0) (if op.answers id then 1 else 0) := by
  cases op with
  | timeoutCheck =>
    have hmore := hcheck rfl
    exact ⟨rfl, fun _ => rfl, toInt_sub_one (by omega), (sub_zero _).symm⟩
  | callback messageId message packet =>
    by_cases hid : messageId = id
    · have hmore := hs hid e he
      simp only [after, isCheck, answers, hid, decide_true, if_true, Bool.false_eq_true, if_false]
      exact ⟨rfl, fun _ => rfl, (sub_zero _).symm, toInt_sub_one (by omega)⟩
    · simp only [after, isCheck, answers, hid, decide_false, Bool.false_eq_true, if_false]
      exact .refl e
  | _ => exact .refl e

/-- While its checks last, a spared item is pending, so much older and so many answers nearer its end. -/
theorem follow_spared {ops : List (CallbackOp F G)} (hs : Along next (Spares id) ops r)
    (he : r.manager.callbackMap[id]? = some e) (hchecks : (checks ops : ℤ) < max e.timeoutSec.toInt 1) :
    ∃ e', (follow next ops r).manager.callbackMap[id]? = some e' ∧
      e.Later e' (checks ops) (ops.countP (answers id)) := by
  induction ops generalizing r e with
  | nil => exact ⟨e, he, .refl e⟩
  | cons op ops ih =>
    have hcount : checks (op :: ops) = checks ops + if op.isCheck then 1 else 0 := List.countP_cons
    -- a check with another one still to come finds the item at least two seconds away
    have hmore : op.isCheck = true → 1 < e.timeoutSec.toInt := by
      intro hcheck
      rw [hcount, if_pos hcheck] at hchecks
      omega
    have hlater := later_after hs.1 he hmore
    have hnext := next_spared hs.1 he (fun hcheck => CallbackEntry.not_due_of_lt (hmore hcheck))
    have htime := hlater.timeoutSec
    obtain ⟨e', he', hrest⟩ := ih hs.2 hnext (by split_ifs at hcount htime <;> omega)
    refine ⟨e', he', ?_⟩
    rw [hcount, List.countP_cons]
    exact hlater.trans hrest

/-- A pending item of `T` seconds outlasts `max T 1 - 1` checks and is expired by the
next one; what is not due is left alone. -/
theorem timeoutCheck_onTime (before : List (CallbackOp F G)) {add : CallbackOp F G} {item : CallbackItem F G}
    (hadd : add.added = some item)
    (hnew : item.messageId ∉ (follow next before {}).manager.callbackMap)
    (htime : Int32.minValue < item.timeoutSec) {ops : List (CallbackOp F G)}
    (hs : Along next (Spares item.messageId) ops (add.next (follow next before {})))
    (hchecks : (checks ops : ℤ) < max item.timeoutSec.toInt 1) :
    ∃ e, (follow next (before ++ add :: ops) {}).manager.callbackMap[item.messageId]? = some e ∧
      (∀ kind, e.functor kind = item.functor kind) ∧
      e.expectCount.toInt = item.expectCount.toInt - ops.countP (answers item.messageId) ∧
      ((checks ops : ℤ) + 1 < max item.timeoutSec.toInt 1 →
        (follow next (before ++ add :: ops) {}).Untouched item.messageId e) ∧
      ((checks ops : ℤ) + 1 = max item.timeoutSec.toInt 1 →
        (follow next (before ++ add :: ops) {}).Expired item.messageId e) ∧
      ∀ (id : UInt32) e', (follow next (before ++ add :: ops) {}).manager.callbackMap[id]? = some e' →
        1 < e'.timeoutSec.toInt → (follow next (before ++ add :: ops) {}).Untouched id e' := by
  have hempty : Balanced ({} : Registry F G) [] := by
    simpa [Callbacks.start, Callbacks.invocations] using Callbacks.start_balanced ([] : List (CallbackOp F G))
  obtain ⟨is, hb⟩ := hempty.follow (before ++ add :: ops)
  rw [follow_append, follow_cons] at hb ⊢
  rw [next_register hadd] at hb hs ⊢
  set r := follow next before ({} : Registry F G) with hr
  have hmap : (r.register item).manager.callbackMap[item.messageId]? =
      some { item with registration := r.registrations.length } := by
    dsimp only [Registry.register, CallbackManager.add]
    rw [ExtTreeMap.getElem?_insertIfNew, if_pos ⟨compare_self, hnew⟩]
  obtain ⟨e, he, hlater⟩ := follow_spared hs hmap hchecks
  have hage : e.timeoutSec.toInt = item.timeoutSec.toInt - checks ops := hlater.timeoutSec
  refine ⟨e, he, hlater.functor, hlater.expectCount, fun hearly => ?_, fun hlast => ?_, fun id e' he' hmore => ?_⟩
  · exact Registry.untouched_of_not_due hb he (CallbackEntry.not_due_of_lt (by omega))
  · refine Registry.expired_of_due hb he ?_
    have hmin : Int32.minValue < e.timeoutSec := by
      rw [Int32.lt_iff_toInt_lt] at htime ⊢
      rw [show Int32.minValue.toInt = -2147483648 from rfl] at htime ⊢
      omega
    rw [CallbackEntry.due_iff hmin]
    omega
  · exact Registry.untouched_of_not_due hb he' (CallbackEntry.not_due_of_lt hmore)

/-- Two items of two seconds and of five, one check passed and one answer of the first come. -/
theorem timeoutCheck_onTime_two :
    ∃ e, (follow next ([.add 2 5 none 1] ++ .add 1 2 (some ()) 3 ::
          [.timeoutCheck, .callback 1 {} ⟨[49], 9000⟩]) ({} : Registry Unit Unit)).manager.callbackMap[(1 : UInt32)]? =
        some e ∧ e.expectCount.toInt = 2 ∧
      (follow next ([.add 2 5 none 1] ++ .add 1 2 (some ()) 3 ::
        [.timeoutCheck, .callback 1 {} ⟨[49], 9000⟩]) ({} : Registry Unit Unit)).Expired 1 e := by
  obtain ⟨e, he, _, hexpect, _, hlast, _⟩ := @timeoutCheck_onTime Unit Unit [.add 2 5 none 1]
    (.add 1 2 (some ()) 3) _ rfl (by decide +kernel) (by decide) [.timeoutCheck, .callback 1 {} ⟨[49], 9000⟩]
    ⟨trivial, fun _ e he => by
      have hthree : ((next (.timeoutCheck : CallbackOp Unit Unit) (next (.add 1 2 (some ()) 3)
        (follow next [.add 2 5 none 1] {}))).manager.callbackMap[(1 : UInt32)]?).map
          (fun e => e.expectCount) = some 3 := by decide +kernel
      rw [he] at hthree
      have hcount : e.expectCount = 3 := Option.some.inj hthree
      rw [hcount]
      decide, trivial⟩ (by decide)
  exact ⟨e, he, hexpect.trans rfl, hlast (by decide)⟩

end CallbackOp

end XKad
