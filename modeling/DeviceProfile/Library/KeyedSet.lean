import Mathlib.Data.List.Pairwise
import Mathlib.Data.List.Basic

/-!
# Sets whose elements are told apart by a key

A hash set with an equality of its own holds at most one element for each key. An element that
is put in does not replace the one that is there; to replace it, it is erased first.
-/

namespace Library

variable {α κ : Type} [DecidableEq κ] {key : α → κ}

/-- A set with at most one element for each key. -/
structure KeyedSet (key : α → κ) where
  elems : List α
  distinct : elems.Pairwise fun a b => key a ≠ key b

namespace KeyedSet

/-- The set without elements. -/
def empty (key : α → κ) : KeyedSet key := ⟨[], .nil⟩

/-- The number of elements. -/
def size (s : KeyedSet key) : Nat := s.elems.length

/-- The element with a key. -/
def find? (s : KeyedSet key) (k : κ) : Option α := s.elems.find? fun a => key a = k

/-- Take out the element with the key of another one. -/
def erase (s : KeyedSet key) (x : α) : KeyedSet key where
  elems := s.elems.filter fun a => key a ≠ key x
  distinct := s.distinct.filter _

theorem key_ne_of_find?_eq_none {s : KeyedSet key} {k : κ} (h : s.find? k = none) :
    ∀ a ∈ s.elems, key a ≠ k := by
  intro a ha heq
  exact List.find?_eq_none.mp h a ha (decide_eq_true heq)

/-- Put in an element, unless there is one with its key. -/
def emplace (s : KeyedSet key) (x : α) : KeyedSet key :=
  if h : s.find? (key x) = none then
    ⟨x :: s.elems, .cons (fun a ha => (key_ne_of_find?_eq_none h a ha).symm) s.distinct⟩
  else s

theorem elems_emplace {s : KeyedSet key} {x : α} (h : s.find? (key x) = none) :
    (s.emplace x).elems = x :: s.elems := by
  rw [emplace, dif_pos h]

/-! ## What is found -/

@[simp] theorem find?_empty (k : κ) : (empty key).find? k = none := rfl

omit [DecidableEq κ] in
@[simp] theorem size_empty : (empty key).size = 0 := rfl

/-- What is found has the key. -/
theorem key_of_find? {s : KeyedSet key} {k : κ} {x : α} (h : s.find? k = some x) : key x = k := by
  rw [find?] at h
  have hfound := List.find?_some h
  exact of_decide_eq_true hfound

theorem mem_of_find? {s : KeyedSet key} {k : κ} {x : α} (h : s.find? k = some x) :
    x ∈ s.elems :=
  List.mem_of_find?_eq_some h

/-- The elements with a key: the one that is found, or none. -/
theorem filter_key (s : KeyedSet key) (k : κ) :
    (s.elems.filter fun a => key a = k) = (s.find? k).toList := by
  obtain ⟨elems, distinct⟩ := s
  rw [find?]
  induction elems with
  | nil => rfl
  | cons a rest ih =>
    obtain ⟨hhead, htail⟩ := List.pairwise_cons.mp distinct
    by_cases hkey : key a = k
    · have hnone : (rest.filter fun b => key b = k) = [] := by
        refine List.filter_eq_nil_iff.mpr fun b hb hkey' => ?_
        exact hhead b hb (hkey.trans (of_decide_eq_true hkey').symm)
      simp [hkey, hnone]
    · simpa [hkey] using ih htail

/-- Every element is found under its key. -/
theorem find?_of_mem {s : KeyedSet key} {x : α} (hx : x ∈ s.elems) : s.find? (key x) = some x := by
  have hmem : x ∈ (s.find? (key x)).toList := by
    rw [← s.filter_key]
    exact List.mem_filter.mpr ⟨hx, decide_eq_true rfl⟩
  exact Option.mem_toList.mp hmem

/-- An erased key is not found, the others as before. -/
theorem find?_erase (s : KeyedSet key) (x : α) (k : κ) :
    (s.erase x).find? k = if k = key x then none else s.find? k := by
  rw [find?, erase, List.find?_filter]
  by_cases hk : k = key x
  · rw [if_pos hk]
    refine List.find?_eq_none.mpr fun a _ => ?_
    simp [hk]
  · rw [if_neg hk, find?]
    congr 1
    funext a
    by_cases ha : key a = k
    · simp [ha, hk]
    · simp [ha]

/-- An emplaced element is found unless its key was taken. -/
theorem find?_emplace (s : KeyedSet key) (x : α) (k : κ) :
    (s.emplace x).find? k = (s.find? k).or (if k = key x then some x else none) := by
  rw [emplace]
  by_cases hfree : s.find? (key x) = none
  · rw [dif_pos hfree, find?, List.find?_cons]
    by_cases hk : k = key x
    · subst hk
      simp [hfree]
    · have hne : ¬key x = k := fun heq => hk heq.symm
      simp [hk, hne, find?]
  · rw [dif_neg hfree]
    by_cases hk : k = key x
    · obtain ⟨y, hy⟩ := Option.ne_none_iff_exists'.mp hfree
      rw [hk, hy, Option.some_or]
    · rw [if_neg hk, Option.or_none]

/-! ## Sizes -/

theorem size_erase_le (s : KeyedSet key) (x : α) : (s.erase x).size ≤ s.size :=
  List.length_filter_le _ _

theorem size_emplace_le (s : KeyedSet key) (x : α) : (s.emplace x).size ≤ s.size + 1 := by
  rw [emplace]
  split
  · exact Nat.le_refl _
  · exact Nat.le_succ _

/-- A set without elements finds nothing. -/
theorem size_eq_zero_iff (s : KeyedSet key) : s.size = 0 ↔ ∀ k, s.find? k = none := by
  constructor
  · intro hsize k
    rw [find?, List.length_eq_zero_iff.mp hsize]
    rfl
  · intro hnone
    refine List.length_eq_zero_iff.mpr (List.eq_nil_iff_forall_not_mem.mpr fun a ha => ?_)
    exact key_ne_of_find?_eq_none (hnone (key a)) a ha rfl

omit [DecidableEq κ] in
theorem eq_empty_of_size {s : KeyedSet key} (h : s.size = 0) : s = empty key := by
  obtain ⟨elems, distinct⟩ := s
  obtain rfl := List.length_eq_zero_iff.mp h
  rfl

/-- To erase what is not there changes nothing. -/
theorem erase_of_find?_eq_none {s : KeyedSet key} {x : α} (h : s.find? (key x) = none) :
    s.erase x = s := by
  obtain ⟨elems, distinct⟩ := s
  have hall : (elems.filter fun a => key a ≠ key x) = elems :=
    List.filter_eq_self.mpr fun a ha => decide_eq_true (key_ne_of_find?_eq_none h a ha)
  simp only [erase, hall]

end KeyedSet

end Library
