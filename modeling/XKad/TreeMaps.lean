import Mathlib

/-!
# Ordered maps

The list of entries of a map has one entry for a key, and an update is seen at its key
only. Sets are filled, and maps written, from lists. `Mirrors` says that the keys of one
map are the values of another; writing both, or erasing from both, keeps this exactly
under a condition on the other map alone.
-/
namespace XKad
open Std

section Entries

variable {κ ν α : Type} {cmp : κ → κ → Ordering} [TransCmp cmp] [LawfulEqCmp cmp]

theorem nodup_keys (m : ExtTreeMap κ ν cmp) : (m.toList.map Prod.fst).Nodup := by
  apply List.pairwise_map.mpr
  apply ExtTreeMap.distinct_keys_toList.imp
  intro a b hne heq
  exact hne (by rw [heq]; exact ReflCmp.compare_self)

private theorem flatMap_of_key {f : κ × ν → List α} {k : κ} {v : ν} {l : List (κ × ν)}
    (hl : (l.map Prod.fst).Nodup) (hf : ∀ e ∈ l, e.1 ≠ k → f e = []) (hv : (k, v) ∈ l) :
    l.flatMap f = f (k, v) := by
  induction l with
  | nil => cases hv
  | cons e l ih =>
    obtain ⟨hnew, hrest⟩ := List.nodup_cons.mp hl
    rw [List.flatMap_cons]
    rcases List.mem_cons.mp hv with rfl | hv
    · have hnone : l.flatMap f = [] := by
        refine List.flatMap_eq_nil_iff.mpr (fun e he => ?_)
        refine hf e (List.mem_cons_of_mem _ he) (fun heq => ?_)
        exact hnew (List.mem_map.mpr ⟨e, he, heq⟩)
      rw [hnone, List.append_nil]
    · have hne : e.1 ≠ k := by
        intro heq
        exact hnew (List.mem_map.mpr ⟨(k, v), hv, heq.symm⟩)
      rw [hf e List.mem_cons_self hne, List.nil_append]
      exact ih hrest (fun e he => hf e (List.mem_cons_of_mem _ he)) hv

/-- When only the entry of one key yields something, the map yields that. -/
theorem flatMap_toList_of_key (m : ExtTreeMap κ ν cmp) {f : κ × ν → List α} {k : κ}
    (hf : ∀ e ∈ m.toList, e.1 ≠ k → f e = []) :
    m.toList.flatMap f = (m[k]?.map (fun v => f (k, v))).getD [] := by
  cases hv : m[k]? with
  | none =>
    refine List.flatMap_eq_nil_iff.mpr (fun e he => hf e he ?_)
    rintro rfl
    rw [ExtTreeMap.mem_toList_iff_getElem?_eq_some.mp he] at hv
    cases hv
  | some v => exact flatMap_of_key (nodup_keys m) hf (ExtTreeMap.mem_toList_iff_getElem?_eq_some.mpr hv)

end Entries

section Updates

variable {κ ν : Type} {cmp : κ → κ → Ordering} [TransCmp cmp] [LawfulEqCmp cmp]
variable {m : ExtTreeMap κ ν cmp} {k k' : κ} {v w : ν}

theorem getElem?_insert_of_ne (hk : k' ≠ k) : (m.insert k v)[k']? = m[k']? := by
  rw [ExtTreeMap.getElem?_insert, if_neg]
  intro heq
  exact hk (LawfulEqCmp.eq_of_compare heq).symm

theorem getElem?_erase_of_ne (hk : k' ≠ k) : (m.erase k)[k']? = m[k']? := by
  rw [ExtTreeMap.getElem?_erase, if_neg]
  intro heq
  exact hk (LawfulEqCmp.eq_of_compare heq).symm

theorem getElem?_insert_iff :
    (m.insert k v)[k']? = some w ↔ k' = k ∧ w = v ∨ k' ≠ k ∧ m[k']? = some w := by
  by_cases hk : k' = k
  · subst hk
    simp [eq_comm]
  · simp [getElem?_insert_of_ne hk, hk]

theorem getElem?_erase_iff : (m.erase k)[k']? = some w ↔ k' ≠ k ∧ m[k']? = some w := by
  by_cases hk : k' = k
  · subst hk
    simp
  · simp [getElem?_erase_of_ne hk, hk]

theorem getElem?_insertIfNew_iff :
    (m.insertIfNew k v)[k']? = some w ↔ k' = k ∧ k ∉ m ∧ w = v ∨ m[k']? = some w := by
  rw [ExtTreeMap.getElem?_insertIfNew]
  split
  · next hnew =>
    obtain ⟨heq, hnew⟩ := hnew
    obtain rfl := LawfulEqCmp.eq_of_compare heq
    simp [hnew, eq_comm]
  · next hold =>
    constructor
    · exact Or.inr
    · rintro (⟨rfl, hnew, _⟩ | hentry)
      · exact absurd ⟨ReflCmp.compare_self, hnew⟩ hold
      · exact hentry

end Updates

section Sets

variable {κ α : Type} {cmp : κ → κ → Ordering} [TransCmp cmp] [LawfulEqCmp cmp]

theorem mem_foldl_insert (f : α → κ) (l : List α) (s : ExtTreeSet κ cmp) (k : κ) :
    k ∈ l.foldl (fun q a => q.insert (f a)) s ↔ k ∈ s ∨ ∃ a ∈ l, f a = k := by
  induction l generalizing s with
  | nil => simp
  | cons a l ih =>
    rw [List.foldl_cons, ih, ExtTreeSet.mem_insert, LawfulEqCmp.compare_eq_iff_eq, List.exists_mem_cons_iff]
    rw [or_comm (a := f a = k), or_assoc]

omit [LawfulEqCmp cmp] in
theorem size_foldl_insert_le (f : α → κ) (l : List α) (s : ExtTreeSet κ cmp) :
    (l.foldl (fun q a => q.insert (f a)) s).size ≤ s.size + l.length := by
  induction l generalizing s with
  | nil => exact Nat.le_refl _
  | cons a l ih =>
    have hle := ih (s.insert (f a))
    have hinsert := ExtTreeSet.size_insert_le (t := s) (k := f a)
    rw [List.foldl_cons, List.length_cons]
    omega

theorem size_foldl_insert {f : α → κ} {l : List α} {s : ExtTreeSet κ cmp} (hl : (l.map f).Nodup)
    (hnew : ∀ a ∈ l, f a ∉ s) : (l.foldl (fun q a => q.insert (f a)) s).size = s.size + l.length := by
  induction l generalizing s with
  | nil => rfl
  | cons a l ih =>
    obtain ⟨ha, hrest⟩ := List.nodup_cons.mp hl
    have hfresh : ∀ b ∈ l, f b ∉ s.insert (f a) := by
      intro b hb hin
      rcases ExtTreeSet.mem_insert.mp hin with heq | hin
      · exact ha (List.mem_map.mpr ⟨b, hb, (LawfulEqCmp.compare_eq_iff_eq.mp heq).symm⟩)
      · exact hnew b (List.mem_cons_of_mem a hb) hin
    have hout : ¬ s.contains (f a) = true :=
      fun hin => hnew a List.mem_cons_self (ExtTreeSet.contains_iff_mem.mp hin)
    rw [List.foldl_cons, ih hrest hfresh, ExtTreeSet.size_insert, if_neg hout, List.length_cons]
    omega

theorem length_le_size {l : List κ} {s : ExtTreeSet κ cmp} (hl : l.Nodup) (hsub : ∀ k ∈ l, k ∈ s) :
    l.length ≤ s.size := by
  rw [← ExtTreeSet.length_toList]
  exact (hl.subperm (fun k hk => ExtTreeSet.mem_toList.mpr (hsub k hk))).length_le

end Sets

section Writes

variable {κ ν α β : Type}

/-- The last element of a list that passes a test. -/
def latest (p : α → Bool) (l : List α) : Option α := (l.filter p).getLast?

@[simp] theorem latest_nil (p : α → Bool) : latest p [] = none := rfl

theorem latest_append (p : α → Bool) (l l' : List α) : latest p (l ++ l') = (latest p l').or (latest p l) := by
  rw [latest, List.filter_append, List.getLast?_append]
  rfl

theorem latest_singleton (p : α → Bool) (a : α) : latest p [a] = if p a then some a else none := by
  cases h : p a <;> simp [latest, h]

theorem latest_some {p : α → Bool} {l : List α} {a : α} (h : latest p l = some a) : a ∈ l ∧ p a = true :=
  List.mem_filter.mp (List.mem_of_getLast? h)

theorem latest_eq_none {p : α → Bool} {l : List α} : latest p l = none ↔ ∀ a ∈ l, p a = false := by
  rw [latest, List.getLast?_eq_none_iff, List.filter_eq_nil_iff]
  simp only [Bool.not_eq_true]

/-- Of lists made one after the other, the last one with such an element has the last such element. -/
theorem latest_flatMap (p : β → Bool) (f : α → List β) (l : List α) :
    latest p (l.flatMap f) = (latest (fun a => (f a).any p) l).bind (fun a => latest p (f a)) := by
  induction l using List.reverseRecOn with
  | nil => rfl
  | append_singleton l a ih =>
    rw [List.flatMap_append, List.flatMap_singleton, latest_append, latest_append, latest_singleton, ih]
    cases h : (f a).any p with
    | true =>
      rw [if_pos rfl, Option.some_or, Option.bind_some]
      cases hlast : latest p (f a) with
      | some b => rfl
      | none =>
        obtain ⟨b, hb, hpb⟩ := List.any_eq_true.mp h
        rw [latest_eq_none.mp hlast b hb] at hpb
        cases hpb
    | false =>
      have hnone : latest p (f a) = none := latest_eq_none.mpr (fun b hb => by
        simpa using List.any_eq_false.mp h b hb)
      rw [if_neg (by decide), hnone, Option.none_or, Option.none_or]

variable {cmp : κ → κ → Ordering} [TransCmp cmp] [LawfulEqCmp cmp] [DecidableEq κ]

/-- A map written entry by entry holds the last one of each key. -/
theorem getElem?_foldl_insert (l : List (κ × ν)) (m : ExtTreeMap κ ν cmp) (k : κ) :
    (l.foldl (fun m e => m.insert e.1 e.2) m)[k]? =
      ((latest (fun e => decide (e.1 = k)) l).map Prod.snd).or m[k]? := by
  induction l using List.reverseRecOn with
  | nil => rfl
  | append_singleton l e ih =>
    rw [List.foldl_append, List.foldl_cons, List.foldl_nil, ExtTreeMap.getElem?_insert, latest_append,
      latest_singleton, ih]
    by_cases h : e.1 = k
    · simp [h]
    · simp [h]

end Writes

section Mirrors

variable {κ ν : Type} {cmpk : κ → κ → Ordering} {cmpv : ν → ν → Ordering}
variable [TransCmp cmpk] [TransCmp cmpv]

/-- The keys of `backward` are the values of `forward`. -/
def Mirrors (forward : ExtTreeMap κ ν cmpk) (backward : ExtTreeMap ν κ cmpv) : Prop :=
  ∀ v : ν, v ∈ backward ↔ ∃ k : κ, forward[k]? = some v

namespace Mirrors

variable {forward : ExtTreeMap κ ν cmpk} {backward : ExtTreeMap ν κ cmpv}

theorem empty : Mirrors (∅ : ExtTreeMap κ ν cmpk) (∅ : ExtTreeMap ν κ cmpv) := by
  intro v
  simp

variable [LawfulEqCmp cmpk] [LawfulEqCmp cmpv]

private theorem mem_insert_iff (m : ExtTreeMap ν κ cmpv) (v d : ν) (k : κ) :
    d ∈ m.insert v k ↔ d = v ∨ d ∈ m := by
  rw [ExtTreeMap.mem_insert, LawfulEqCmp.compare_eq_iff_eq, eq_comm]

private theorem mem_erase_iff (m : ExtTreeMap ν κ cmpv) (v d : ν) :
    d ∈ m.erase v ↔ d ≠ v ∧ d ∈ m := by
  rw [ExtTreeMap.mem_erase, ne_eq, LawfulEqCmp.compare_eq_iff_eq, eq_comm, ne_eq]

/-- An assignment to both maps keeps them exactly if the value it overwrites is the
new one or is held by another key as well. -/
theorem insert_iff (h : Mirrors forward backward) (k : κ) (v : ν) :
    Mirrors (forward.insert k v) (backward.insert v k) ↔
      ∀ old, forward[k]? = some old → old = v ∨ ∃ k', k' ≠ k ∧ forward[k']? = some old := by
  constructor
  · intro hinsert old hold
    have hmem : old ∈ backward.insert v k := (mem_insert_iff _ _ _ _).mpr (Or.inr ((h old).mpr ⟨k, hold⟩))
    obtain ⟨k', hk'⟩ := (hinsert old).mp hmem
    rcases getElem?_insert_iff.mp hk' with ⟨_, hv⟩ | ⟨hk, hold'⟩
    · exact Or.inl hv
    · exact Or.inr ⟨k', hk, hold'⟩
  · intro hkept d
    rw [mem_insert_iff]
    constructor
    · rintro (rfl | hd)
      · exact ⟨k, ExtTreeMap.getElem?_insert_self⟩
      · obtain ⟨k', hk'⟩ := (h d).mp hd
        by_cases hk : k' = k
        · rw [hk] at hk'
          obtain rfl | ⟨other, hother, hheld⟩ := hkept d hk'
          · exact ⟨k, ExtTreeMap.getElem?_insert_self⟩
          · exact ⟨other, (getElem?_insert_of_ne hother).trans hheld⟩
        · exact ⟨k', (getElem?_insert_of_ne hk).trans hk'⟩
    · rintro ⟨k', hk'⟩
      rcases getElem?_insert_iff.mp hk' with ⟨_, hv⟩ | ⟨_, hold⟩
      · exact Or.inl hv
      · exact Or.inr ((h d).mpr ⟨k', hold⟩)

/-- Erasing a key and its value keeps the maps exactly if no other key holds the value. -/
theorem erase_iff (h : Mirrors forward backward) {k : κ} {v : ν} (hk : forward[k]? = some v) :
    Mirrors (forward.erase k) (backward.erase v) ↔ ∀ k', forward[k']? = some v → k' = k := by
  constructor
  · intro herase k' hk'
    by_contra hne
    have hmem : v ∈ backward.erase v := (herase v).mpr ⟨k', (getElem?_erase_of_ne hne).trans hk'⟩
    exact ((mem_erase_iff _ _ _).mp hmem).1 rfl
  · intro honly d
    rw [mem_erase_iff]
    constructor
    · rintro ⟨hd, hmem⟩
      obtain ⟨k', hk'⟩ := (h d).mp hmem
      by_cases heq : k' = k
      · rw [heq, hk] at hk'
        exact absurd (Option.some.inj hk').symm hd
      · exact ⟨k', (getElem?_erase_of_ne heq).trans hk'⟩
    · rintro ⟨k', hk'⟩
      obtain ⟨hne, hk'⟩ := getElem?_erase_iff.mp hk'
      refine ⟨?_, (h d).mpr ⟨k', hk'⟩⟩
      rintro rfl
      exact hne (honly k' hk')

end Mirrors

end Mirrors
end XKad
