import Mathlib

/-!
# Lists told apart by a rendering

A text and a number rendered with a separator between them can be read back when the
number has none in it. A list that takes a value only if its rendering is new keeps
the first occurrence of each value, next to the renderings in the same order.
-/
namespace XKad

section Separators

variable {α β : Type} {sep : α} {text : β → List α}

private theorem separator_last (hsep : ∀ b, sep ∉ text b) (hinj : Function.Injective text) {mid : List α}
    {b c : β} (h : sep :: text b = mid ++ sep :: text c) : mid = [] ∧ b = c := by
  cases mid with
  | nil =>
    rw [List.nil_append, List.cons.injEq] at h
    exact ⟨rfl, hinj h.2⟩
  | cons a mid =>
    rw [List.cons_append, List.cons.injEq] at h
    have hmem : sep ∈ text b := by
      rw [h.2]
      exact List.mem_append_right mid List.mem_cons_self
    exact absurd hmem (hsep b)

theorem append_separator_inj (hsep : ∀ b, sep ∉ text b) (hinj : Function.Injective text) {x y : List α}
    {b c : β} : x ++ sep :: text b = y ++ sep :: text c ↔ x = y ∧ b = c := by
  constructor
  · intro h
    rcases List.append_eq_append_iff.mp h with ⟨mid, hxy, hrest⟩ | ⟨mid, hxy, hrest⟩
    · obtain ⟨rfl, rfl⟩ := separator_last hsep hinj hrest
      exact ⟨by simpa using hxy.symm, rfl⟩
    · obtain ⟨rfl, rfl⟩ := separator_last hsep hinj hrest
      exact ⟨by simpa using hxy, rfl⟩
  · rintro ⟨rfl, rfl⟩
    rfl

end Separators

section FirstOccurrences

variable {α κ : Type} [BEq α] [LawfulBEq α]

theorem eraseDups_concat (l : List α) (a : α) :
    (l ++ [a]).eraseDups = if a ∈ l then l.eraseDups else l.eraseDups ++ [a] := by
  rw [List.eraseDups_append]
  by_cases h : a ∈ l
  · simp [List.removeAll, h]
  · simp [List.removeAll, h, List.eraseDups_cons]

theorem nodup_eraseDups (l : List α) : l.eraseDups.Nodup := by
  induction l using List.reverseRecOn with
  | nil => exact List.nodup_nil
  | append_singleton l a ih =>
    rw [eraseDups_concat]
    split
    · exact ih
    · next h =>
      apply List.nodup_append.mpr
      refine ⟨ih, List.nodup_singleton a, ?_⟩
      rintro b hb c hc rfl
      rw [List.mem_singleton.mp hc] at hb
      exact h (List.mem_eraseDups.mp hb)

/-- What is kept is in the order of the first occurrences. -/
theorem pairwise_idxOf_eraseDups (l : List α) :
    l.eraseDups.Pairwise (fun a b => l.idxOf a < l.idxOf b) := by
  induction l using List.reverseRecOn with
  | nil => exact List.Pairwise.nil
  | append_singleton l a ih =>
    have hkept : l.eraseDups.Pairwise (fun b c => (l ++ [a]).idxOf b < (l ++ [a]).idxOf c) := by
      apply ih.imp_of_mem
      intro b c hb hc hlt
      rw [List.idxOf_append_of_mem (List.mem_eraseDups.mp hb),
        List.idxOf_append_of_mem (List.mem_eraseDups.mp hc)]
      exact hlt
    rw [eraseDups_concat]
    split
    · exact hkept
    · next h =>
      apply List.pairwise_append.mpr
      refine ⟨hkept, List.pairwise_singleton _ a, ?_⟩
      intro b hb c hc
      have hmem := List.mem_eraseDups.mp hb
      rw [List.mem_singleton.mp hc, List.idxOf_append_of_mem hmem, List.idxOf_append_of_notMem h]
      exact Nat.lt_add_right _ (List.idxOf_lt_length_of_mem hmem)

variable [DecidableEq κ]

/-- A value is pushed on the second list, and its rendering on the first, unless the
rendering is there. -/
def pushNew (render : α → κ) (lists : List κ × List α) (a : α) : List κ × List α :=
  if render a ∈ lists.1 then lists else (lists.1 ++ [render a], lists.2 ++ [a])

theorem foldl_pushNew {render : α → κ} (hinj : Function.Injective render) (l : List α) :
    l.foldl (pushNew render) ([], []) = (l.eraseDups.map render, l.eraseDups) := by
  induction l using List.reverseRecOn with
  | nil => rfl
  | append_singleton l a ih =>
    have hmem : render a ∈ l.eraseDups.map render ↔ a ∈ l := by
      rw [List.mem_map_of_injective hinj, List.mem_eraseDups]
    rw [List.foldl_append, List.foldl_cons, List.foldl_nil, ih, pushNew, eraseDups_concat]
    by_cases h : a ∈ l
    · rw [if_pos (hmem.mpr h), if_pos h]
    · rw [if_neg (mt hmem.mp h), if_neg h, List.map_append, List.map_singleton]

end FirstOccurrences
end XKad
