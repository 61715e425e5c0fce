import Mathlib.Logic.Relation
import Mathlib.Data.List.Perm.Basic

/-!
# Interleaved calls over a shared state

Each call is a thread with a local state; one atomic block of one thread is one
step. A guard restricts the steps of a run by the configuration before the
step. `Along` restricts the runs of a system whose steps are labelled, and
`Visited` speaks about the states a sequential execution of calls passes
through, and is kept when a call without effect is put somewhere in between.
-/
namespace XKad

structure Config (σ θ : Type) where
  shared : σ
  threads : List θ

namespace Config

variable {σ θ : Type}

/-- One atomic block of one thread, allowed by `guard`. -/
inductive Advance (block : θ → σ → θ × σ) (guard : Config σ θ → θ → Prop) :
    Config σ θ → Config σ θ → Prop where
  | step (before : List θ) (th : θ) (after : List θ) (s : σ)
      (h : guard ⟨s, before ++ th :: after⟩ th) :
      Advance block guard ⟨s, before ++ th :: after⟩
        ⟨(block th s).2, before ++ (block th s).1 :: after⟩

/-- Any finite number of blocks, in any order of the threads. -/
abbrev Run (block : θ → σ → θ × σ) (guard : Config σ θ → θ → Prop) :=
  Relation.ReflTransGen (Advance block guard)

/-- The steps no guard restricts. -/
def free (_ : Config σ θ) (_ : θ) : Prop := True

def advanceAt (block : θ → σ → θ × σ) (i : ℕ) (c : Config σ θ) : Config σ θ :=
  match c.threads[i]? with
  | none => c
  | some th => ⟨(block th c.shared).2, c.threads.set i (block th c.shared).1⟩

def schedule (block : θ → σ → θ × σ) (places : List ℕ) (c : Config σ θ) : Config σ θ :=
  places.foldl (fun c i => c.advanceAt block i) c

variable {block : θ → σ → θ × σ} {guard : Config σ θ → θ → Prop}

def Allowed (block : θ → σ → θ × σ) (guard : Config σ θ → θ → Prop) : List ℕ → Config σ θ → Prop
  | [], _ => True
  | i :: places, c => (∀ th ∈ c.threads[i]?, guard c th) ∧ Allowed block guard places (c.advanceAt block i)

instance Allowed.decidable [∀ c th, Decidable (guard c th)] :
    ∀ (places : List ℕ) (c : Config σ θ), Decidable (Allowed block guard places c)
  | [], _ => isTrue trivial
  | i :: places, c =>
    haveI := Allowed.decidable places (c.advanceAt block i)
    haveI : Decidable (∀ th ∈ c.threads[i]?, guard c th) :=
      match h : c.threads[i]? with
      | none => isTrue (by simp)
      | some th => decidable_of_iff (guard c th) (by simp)
    inferInstanceAs (Decidable (_ ∧ _))

theorem allowed_free (places : List ℕ) (c : Config σ θ) : Allowed block free places c := by
  induction places generalizing c with
  | nil => trivial
  | cons i places ih => exact ⟨fun _ _ => trivial, ih (c.advanceAt block i)⟩

theorem run_advanceAt {i : ℕ} {c : Config σ θ} (h : ∀ th ∈ c.threads[i]?, guard c th) :
    Run block guard c (c.advanceAt block i) := by
  obtain ⟨s, threads⟩ := c
  rw [advanceAt]
  split
  · exact .refl
  · rename_i th hi
    obtain ⟨hlt, rfl⟩ := List.getElem?_eq_some_iff.mp hi
    have hsplit : threads = threads.take i ++ threads[i] :: threads.drop (i + 1) := by
      rw [← List.drop_eq_getElem_cons hlt, List.take_append_drop]
    have hset : threads.set i (block threads[i] s).1 =
        threads.take i ++ (block threads[i] s).1 :: threads.drop (i + 1) := by
      rw [List.set_eq_take_append_cons_drop, if_pos hlt]
    have hg : guard ⟨s, threads.take i ++ threads[i] :: threads.drop (i + 1)⟩ threads[i] := by
      rw [← hsplit]
      exact h threads[i] hi
    have hstep : Advance block guard ⟨s, threads.take i ++ threads[i] :: threads.drop (i + 1)⟩ _ :=
      .step (threads.take i) threads[i] (threads.drop (i + 1)) s hg
    rw [← hsplit] at hstep
    rw [hset]
    exact .single hstep

theorem run_schedule {places : List ℕ} {c : Config σ θ} (h : Allowed block guard places c) :
    Run block guard c (c.schedule block places) := by
  induction places generalizing c with
  | nil => exact .refl
  | cons i places ih => exact (run_advanceAt h.1).trans (ih h.2)

/-- The rule for invariants of guarded runs. -/
theorem Run.induct {I : Config σ θ → Prop}
    (hstep : ∀ before th after s, guard ⟨s, before ++ th :: after⟩ th → I ⟨s, before ++ th :: after⟩ →
      I ⟨(block th s).2, before ++ (block th s).1 :: after⟩)
    {c c' : Config σ θ} (h : Run block guard c c') (hi : I c) : I c' := by
  induction h with
  | refl => exact hi
  | tail _ ha ih =>
    cases ha with
    | step before th after s hg => exact hstep before th after s hg ih

end Config

section Along

variable {σ ℓ : Type} {step : ℓ → σ → σ} {p q : ℓ → σ → Prop}

/-- The state after labelled steps, one after the other. -/
def follow (step : ℓ → σ → σ) (labels : List ℓ) (s : σ) : σ := labels.foldl (fun s l => step l s) s

/-- Every step of the list satisfies `p` in the state it is taken in. -/
def Along (step : ℓ → σ → σ) (p : ℓ → σ → Prop) : List ℓ → σ → Prop
  | [], _ => True
  | l :: ls, s => p l s ∧ Along step p ls (step l s)

instance Along.decidable [∀ l s, Decidable (p l s)] :
    ∀ (labels : List ℓ) (s : σ), Decidable (Along step p labels s)
  | [], _ => isTrue trivial
  | l :: labels, s =>
    haveI := Along.decidable labels (step l s)
    inferInstanceAs (Decidable (p l s ∧ Along step p labels (step l s)))

@[simp] theorem follow_nil (s : σ) : follow step [] s = s := rfl

@[simp] theorem follow_cons (l : ℓ) (ls : List ℓ) (s : σ) :
    follow step (l :: ls) s = follow step ls (step l s) := rfl

theorem follow_append (ls ls' : List ℓ) (s : σ) :
    follow step (ls ++ ls') s = follow step ls' (follow step ls s) := List.foldl_append

/-- The rule for invariants. -/
theorem follow_invariant {I : σ → Prop} (hstep : ∀ l s, I s → I (step l s)) {s : σ} (hi : I s)
    (ls : List ℓ) : I (follow step ls s) := by
  induction ls generalizing s with
  | nil => exact hi
  | cons l ls ih => exact ih (hstep l s hi)

theorem along_append (ls ls' : List ℓ) (s : σ) :
    Along step p (ls ++ ls') s ↔ Along step p ls s ∧ Along step p ls' (follow step ls s) := by
  induction ls generalizing s with
  | nil => simp [Along]
  | cons l ls ih => simp [Along, ih, and_assoc]

/-- The rule for invariants of restricted runs. -/
theorem along_invariant {I : σ → Prop} (hstep : ∀ l s, p l s → I s → I (step l s)) {ls : List ℓ}
    {s : σ} (h : Along step p ls s) (hi : I s) : I (follow step ls s) := by
  induction ls generalizing s with
  | nil => exact hi
  | cons l ls ih => exact ih h.2 (hstep l s h.1 hi)

theorem Along.and_labels {r : ℓ → Prop} {ls : List ℓ} {s : σ} (h : Along step p ls s) (hr : ∀ l ∈ ls, r l) :
    Along step (fun l s => p l s ∧ r l) ls s := by
  induction ls generalizing s with
  | nil => trivial
  | cons l ls ih =>
    obtain ⟨hl, hrest⟩ := List.forall_mem_cons.mp hr
    exact ⟨⟨h.1, hl⟩, ih h.2 hrest⟩

/-- Two conditions that agree under an invariant restrict the same runs. -/
theorem along_congr {I : σ → Prop} (hstep : ∀ l s, I s → I (step l s))
    (hpq : ∀ l s, I s → (p l s ↔ q l s)) {s : σ} (hi : I s) (ls : List ℓ) :
    Along step p ls s ↔ Along step q ls s := by
  induction ls generalizing s with
  | nil => exact Iff.rfl
  | cons l ls ih => exact and_congr (hpq l s hi) (ih (hstep l s hi))

/-- When a step keeps an invariant exactly under `q`, so does a run. -/
theorem along_invariant_iff {I : σ → Prop} (hstep : ∀ l s, I s → (I (step l s) ↔ q l s)) {s : σ} (hi : I s)
    (ls : List ℓ) : Along step (fun l s => I (step l s)) ls s ↔ Along step q ls s := by
  induction ls generalizing s with
  | nil => exact Iff.rfl
  | cons l ls ih =>
    rw [Along, Along, hstep l s hi]
    refine and_congr_right (fun hq => ih ((hstep l s hi).mpr hq))

theorem along_iff_forall (ls : List ℓ) (s : σ) : Along step p ls s ↔
    ∀ done l todo, ls = done ++ l :: todo → p l (follow step done s) := by
  induction ls generalizing s with
  | nil => simp [Along]
  | cons l ls ih =>
    rw [Along, ih]
    constructor
    · rintro ⟨hl, hrest⟩ done l' todo heq
      cases done with
      | nil =>
        obtain ⟨rfl, rfl⟩ := List.cons.inj heq
        exact hl
      | cons d done =>
        obtain ⟨rfl, rfl⟩ := List.cons.inj heq
        exact hrest done l' todo rfl
    · intro hall
      exact ⟨hall [] l ls rfl, fun done l' todo heq => hall (l :: done) l' todo (by rw [heq]; rfl)⟩

end Along

section Deadlock

variable {σ π : Type} {advance : π → σ → Option σ} {unfinished : π → σ → Prop}

/-- Some party has not finished, and no such party can take its next step. -/
def Deadlock (advance : π → σ → Option σ) (unfinished : π → σ → Prop) (s : σ) : Prop :=
  (∃ p, unfinished p s) ∧ ∀ p, unfinished p s → advance p s = none

theorem not_deadlock {s : σ} (h : ∀ p, unfinished p s → ∃ q, unfinished q s ∧ (advance q s).isSome) :
    ¬ Deadlock advance unfinished s := by
  rintro ⟨⟨p, hp⟩, hblocked⟩
  obtain ⟨q, hq, hsome⟩ := h p hp
  rw [hblocked q hq] at hsome
  cases hsome

end Deadlock

section Mutex

variable {π : Type} {owner owner' : Option π} {holds holds' : π → Bool} {q : π}

/-- The owner of a mutex is the one party that holds it. -/
def HeldBy (owner : Option π) (holds : π → Bool) : Prop := ∀ p, owner = some p ↔ holds p = true

/-- What a step of `q` does with the mutex: nothing, locking it while it is free, or
unlocking it. -/
inductive MutexUse (q : π) (owner owner' : Option π) (holds holds' : π → Bool) : Prop
  | keeps (howner : owner' = owner) (hsame : ∀ p, holds' p = holds p)
  | locks (hfree : owner = none) (howner : owner' = some q) (hq : holds' q = true)
    (hsame : ∀ p, p ≠ q → holds' p = holds p)
  | unlocks (hq : holds q = true) (howner : owner' = none) (hq' : holds' q = false)
    (hsame : ∀ p, p ≠ q → holds' p = holds p)

theorem HeldBy.step (h : HeldBy owner holds) (hu : MutexUse q owner owner' holds holds') :
    HeldBy owner' holds' := by
  intro p
  cases hu with
  | keeps howner hsame =>
    rw [howner, hsame p]
    exact h p
  | locks hfree howner hq hsame =>
    by_cases hp : p = q
    · subst hp
      exact iff_of_true howner hq
    · rw [hsame p hp, ← h p, howner, hfree]
      exact iff_of_false (fun heq => hp (Option.some.inj heq).symm) (by simp)
  | unlocks hq howner hq' hsame =>
    by_cases hp : p = q
    · subst hp
      simp [howner, hq']
    · rw [hsame p hp, ← h p, howner, (h q).mpr hq]
      exact iff_of_false (by simp) (fun heq => hp (Option.some.inj heq).symm)

theorem MutexUse.owner_of_ne (hu : MutexUse q owner owner' holds holds') {r : π} (hr : r ≠ q)
    (howner' : owner' = some r) : owner = some r := by
  cases hu with
  | keeps howner hsame => exact howner.symm.trans howner'
  | locks hfree howner hq hsame => exact absurd (Option.some.inj (howner'.symm.trans howner)) hr
  | unlocks hq howner hq' hsame =>
    rw [howner] at howner'
    cases howner'

end Mutex

section Visited

variable {κ τ : Type}

/-- Executing `calls` from `start`, some state on the way satisfies `p`. -/
def Visited (effect : κ → τ → τ) (start : τ) (calls : List κ) (p : τ → Prop) : Prop :=
  ∃ done todo, calls = done ++ todo ∧ p (done.foldl (fun s c => effect c s) start)

variable {effect : κ → τ → τ} {start : τ} {calls : List κ} {p : τ → Prop}

theorem visited_last (h : p (calls.foldl (fun s c => effect c s) start)) :
    Visited effect start calls p :=
  ⟨calls, [], (List.append_nil calls).symm, h⟩

theorem Visited.append (h : Visited effect start calls p) (c : κ) :
    Visited effect start (calls ++ [c]) p := by
  obtain ⟨done, todo, rfl, hp⟩ := h
  exact ⟨done, todo ++ [c], List.append_assoc done todo [c], hp⟩

theorem Visited.imp {q : τ → Prop} (h : Visited effect start calls p) (hpq : ∀ s, p s → q s) :
    Visited effect start calls q := by
  obtain ⟨done, todo, hsplit, hp⟩ := h
  exact ⟨done, todo, hsplit, hpq _ hp⟩

/-- A call without effect at some visited state can be executed there: the final
state and the states visited stay. -/
theorem Visited.insert {c : κ} (h : Visited effect start calls (fun s => effect c s = s)) :
    ∃ calls', calls'.Perm (c :: calls) ∧
      calls'.foldl (fun s c => effect c s) start = calls.foldl (fun s c => effect c s) start ∧
      ∀ q, Visited effect start calls q → Visited effect start calls' q := by
  obtain ⟨done, todo, rfl, hc⟩ := h
  refine ⟨done ++ c :: todo, List.perm_middle, ?_, ?_⟩
  · simp only [List.foldl_append, List.foldl_cons, hc]
  · rintro q ⟨done', todo', heq, hq⟩
    rcases List.append_eq_append_iff.mp heq with ⟨mid, rfl, rfl⟩ | ⟨mid, rfl, rfl⟩
    · refine ⟨done ++ c :: mid, todo', by simp, ?_⟩
      simpa only [List.foldl_append, List.foldl_cons, hc] using hq
    · exact ⟨done', mid ++ c :: todo, by simp, hq⟩

end Visited
end XKad
