import Mathlib.Data.List.Basic
import Mathlib.Data.List.Nodup

/-!
# Lists that hold each element once

A list that is gathered from several sources has what is wanted once when nothing else is in it
and no source contributes what another one does, or what it has contributed before.
-/

namespace Library

variable {α β : Type}

/-- A list made of two kinds of elements holds what each kind contributes. -/
theorem perm_flatMap_ite (c : α → Prop) [DecidablePred c] (f g : α → List β) (l : List α) :
    (l.flatMap fun a => if c a then f a else g a).Perm
      ((l.filter fun a => decide (c a)).flatMap f ++
        (l.filter fun a => decide ¬c a).flatMap g) := by
  induction l with
  | nil => exact .nil
  | cons a l ih =>
    by_cases ha : c a
    · simp only [List.flatMap_cons, List.filter_cons, ha, if_true, decide_true, not_true_eq_false,
        decide_false, Bool.false_eq_true, if_false, List.append_assoc]
      exact ih.append_left (f a)
    · simp only [List.flatMap_cons, List.filter_cons, ha, if_false, decide_false, not_false_eq_true,
        decide_true, Bool.false_eq_true, if_true]
      exact (ih.append_left (g a)).trans (List.perm_append_comm_assoc _ _ _)

/-- The same list over and over has no duplicates when it is empty or comes at most once. -/
theorem nodup_flatMap_const_iff {l : List α} {same : List β} :
    (l.flatMap fun _ => same).Nodup ↔ (same ≠ [] → l.length ≤ 1) ∧ (l ≠ [] → same.Nodup) := by
  rcases l with _ | ⟨a, _ | ⟨b, l⟩⟩
  · simp
  · simp
  · constructor
    · intro h
      rw [List.flatMap_cons, List.flatMap_cons] at h
      have hnil : same = [] := by
        by_contra hne
        obtain ⟨x, hx⟩ := List.exists_mem_of_ne_nil same hne
        exact (List.nodup_append.mp h).2.2 x hx x (List.mem_append_left _ hx) rfl
      subst hnil
      exact ⟨fun h => absurd rfl h, fun _ => .nil⟩
    · rintro ⟨hlength, -⟩
      have hnil : same = [] := by
        by_contra hne
        exact absurd (hlength hne) (by simp)
      subst hnil
      rw [List.flatMap_eq_nil_iff.mpr fun _ _ => rfl]
      exact .nil

/-- A list has what is wanted exactly once when it has no duplicates and nothing else. -/
theorem forall_count_iff [DecidableEq α] {l : List α} {P : α → Prop} :
    (∀ a, (P a → l.count a = 1) ∧ (¬P a → a ∉ l)) ↔ l.Nodup ∧ ∀ a, a ∈ l ↔ P a := by
  constructor
  · intro h
    have hmem : ∀ a, a ∈ l ↔ P a := by
      intro a
      refine ⟨fun ha => ?_, fun ha => ?_⟩
      · by_contra hnot
        exact (h a).2 hnot ha
      · rw [← List.count_pos_iff, (h a).1 ha]
        exact Nat.one_pos
    refine ⟨List.nodup_iff_count_le_one.mpr fun a => ?_, hmem⟩
    by_cases ha : P a
    · exact Nat.le_of_eq ((h a).1 ha)
    · rw [List.count_eq_zero_of_not_mem ((h a).2 ha)]
      exact Nat.zero_le 1
  · rintro ⟨hnodup, hmem⟩ a
    refine ⟨fun ha => ?_, fun ha => mt (hmem a).mp ha⟩
    exact List.count_eq_one_of_mem hnodup ((hmem a).mpr ha)

end Library
