import Mathlib.Data.Finset.Card
import Mathlib.Data.Finset.Filter
import Mathlib.Data.Set.Function

/-!
# Stores with bounded buckets

A store holds items under different keys, at most `cap` to a bucket. An item offered
to it is taken if its key is new and its bucket has room, and stays until it is
removed. What a store holds after a run is therefore told by the operations.
-/
namespace XKad

/-- A set of items with different keys and at most `cap` items to a bucket. -/
structure BucketStore {α κ β : Type} [DecidableEq β] (key : α → κ) (bucket : α → β) (cap : ℕ) where
  items : Finset α
  keyed : Set.InjOn key items
  bounded : ∀ b, (items.filter (fun a => bucket a = b)).card ≤ cap

/-- What is done to a store. -/
inductive StoreOp (α : Type) where
  | offer (a : α)
  | remove (p : α → Bool)

/-- The operation removes the item wherever it is. -/
def StoreOp.removes {α : Type} (a : α) : StoreOp α → Bool
  | .offer _ => false
  | .remove p => p a

namespace BucketStore

variable {α κ β : Type} [DecidableEq α] [DecidableEq κ] [DecidableEq β]
variable {key : α → κ} {bucket : α → β} {cap : ℕ} {a b : α}

def Takes (s : BucketStore key bucket cap) (a : α) : Prop :=
  (∀ b ∈ s.items, key b ≠ key a) ∧ (s.items.filter (fun b => bucket b = bucket a)).card < cap

instance (s : BucketStore key bucket cap) (a : α) : Decidable (s.Takes a) :=
  inferInstanceAs (Decidable (_ ∧ _))

def insert (s : BucketStore key bucket cap) (a : α) (h : s.Takes a) : BucketStore key bucket cap where
  items := Insert.insert a s.items
  keyed := by
    rw [Finset.coe_insert, Set.injOn_insert (fun ha => h.1 a ha rfl)]
    refine ⟨s.keyed, ?_⟩
    rintro ⟨b, hb, heq⟩
    exact h.1 b hb heq
  bounded b := by
    rw [Finset.filter_insert]
    split
    · rename_i hb
      subst hb
      exact (Finset.card_insert_le _ _).trans h.2
    · exact s.bounded b

/-- An offer leaves the store as it is unless it takes the item. -/
def offer (s : BucketStore key bucket cap) (a : α) : BucketStore key bucket cap :=
  if h : s.Takes a then s.insert a h else s

def remove (s : BucketStore key bucket cap) (p : α → Bool) : BucketStore key bucket cap where
  items := s.items.filter (fun a => p a = false)
  keyed := s.keyed.mono (Finset.coe_subset.mpr (Finset.filter_subset _ _))
  bounded b := (Finset.card_le_card (Finset.filter_subset_filter _ (Finset.filter_subset _ _))).trans (s.bounded b)

def step (s : BucketStore key bucket cap) : StoreOp α → BucketStore key bucket cap
  | .offer a => s.offer a
  | .remove p => s.remove p

def run (s : BucketStore key bucket cap) (ops : List (StoreOp α)) : BucketStore key bucket cap :=
  ops.foldl step s

variable {s : BucketStore key bucket cap} {op : StoreOp α} {ops : List (StoreOp α)}

@[simp] theorem mem_offer : b ∈ (s.offer a).items ↔ b ∈ s.items ∨ s.Takes a ∧ b = a := by
  rw [offer]
  split
  · rename_i h
    rw [insert, Finset.mem_insert, or_comm, and_iff_right h]
  · rename_i h
    rw [or_iff_left (fun hb => h hb.1)]

omit [DecidableEq α] [DecidableEq κ] in
@[simp] theorem mem_remove {p : α → Bool} : b ∈ (s.remove p).items ↔ b ∈ s.items ∧ p b = false :=
  Finset.mem_filter

theorem offer_of_not (h : ¬ s.Takes a) : s.offer a = s := dif_neg h

@[simp] theorem run_nil : s.run [] = s := rfl

@[simp] theorem run_cons : s.run (op :: ops) = (s.step op).run ops := rfl

theorem run_append (ops' : List (StoreOp α)) : s.run (ops ++ ops') = (s.run ops).run ops' :=
  List.foldl_append

theorem mem_step : a ∈ (s.step op).items ↔
    a ∈ s.items ∧ op.removes a = false ∨ op = .offer a ∧ s.Takes a := by
  cases op with
  | offer b =>
    rw [step, mem_offer, StoreOp.removes, and_iff_left rfl, StoreOp.offer.injEq]
    refine or_congr_right ⟨?_, ?_⟩
    · rintro ⟨ht, rfl⟩
      exact ⟨rfl, ht⟩
    · rintro ⟨rfl, ht⟩
      exact ⟨ht, rfl⟩
  | remove p => simp [step, StoreOp.removes]

/-- The item was taken in the course of the operations and not removed since. -/
def TakenIn (s : BucketStore key bucket cap) (ops : List (StoreOp α)) (a : α) : Prop :=
  ∃ before after, ops = before ++ .offer a :: after ∧ (s.run before).Takes a ∧
    ∀ op ∈ after, op.removes a = false

theorem takenIn_append_singleton : s.TakenIn (ops ++ [op]) a ↔
    s.TakenIn ops a ∧ op.removes a = false ∨ op = .offer a ∧ (s.run ops).Takes a := by
  constructor
  · rintro ⟨before, after, heq, ht, hafter⟩
    rcases List.eq_nil_or_concat after with rfl | ⟨after, x, rfl⟩
    · obtain ⟨rfl, hop⟩ := List.append_inj' heq rfl
      exact Or.inr ⟨(List.cons.inj hop).1, ht⟩
    · rw [List.concat_eq_append] at heq hafter
      rw [← List.cons_append, ← List.append_assoc] at heq
      obtain ⟨rfl, hop⟩ := List.append_inj' heq rfl
      cases hop
      rw [List.forall_mem_append, List.forall_mem_singleton] at hafter
      exact Or.inl ⟨⟨before, after, rfl, ht, hafter.1⟩, hafter.2⟩
  · rintro (⟨⟨before, after, rfl, ht, hafter⟩, hop⟩ | ⟨rfl, ht⟩)
    · refine ⟨before, after ++ [op], by simp, ht, ?_⟩
      rw [List.forall_mem_append, List.forall_mem_singleton]
      exact ⟨hafter, hop⟩
    · exact ⟨ops, [], rfl, ht, List.forall_mem_nil _⟩

/-- A store holds what it held before and what it took in the course of the
operations, unless it was removed since. -/
theorem mem_run_iff : a ∈ (s.run ops).items ↔
    a ∈ s.items ∧ (∀ op ∈ ops, op.removes a = false) ∨ s.TakenIn ops a := by
  induction ops using List.reverseRecOn with
  | nil => simp [TakenIn]
  | append_singleton ops op ih =>
    rw [takenIn_append_singleton, List.forall_mem_append, List.forall_mem_singleton, run_append, run_cons, run_nil,
      mem_step, ih, or_and_right, and_assoc, or_assoc]

end BucketStore
end XKad
