import Mathlib.Algebra.Order.BigOperators.Group.Finset
import Mathlib.Data.Set.Finite.Basic
import DeviceProfile.Library.OrderedMap

/-!
# Groups of the entries of an ordered map

The entries of a map are put together by what a function says of their keys. The group of a
value has exactly the entries with that value, and no group is empty.
-/

namespace Library

open Std

section Grouping

variable {κ γ α : Type} [Ord κ] [TransOrd κ] [Ord γ] [TransOrd γ]

/-- Add an entry to the group of its key. -/
def groupStep (f : κ → γ) (groups : ExtTreeMap γ (ExtTreeMap κ α)) (k : κ) (a : α) :
    ExtTreeMap γ (ExtTreeMap κ α) :=
  groups.insert (f k) ((groups[f k]?.getD ∅).insertIfNew k a)

/-- The groups of the entries of a list. -/
def groupList (f : κ → γ) (l : List (κ × α)) : ExtTreeMap γ (ExtTreeMap κ α) :=
  l.foldl (fun groups x => groupStep f groups x.1 x.2) ∅

/-- The groups of the entries of a map. -/
def groupBy (f : κ → γ) (m : ExtTreeMap κ α) : ExtTreeMap γ (ExtTreeMap κ α) :=
  m.foldl (groupStep f) ∅

/-- Grouping a map is grouping its list. -/
theorem groupBy_eq_groupList (f : κ → γ) (m : ExtTreeMap κ α) :
    groupBy f m = groupList f m.toList := by
  rw [groupBy, ExtTreeMap.foldl_eq_foldl_toList, groupList]

/-- One more item goes into its own group. -/
theorem groupList_concat (f : κ → γ) (l : List (κ × α)) (x : κ × α) :
    groupList f (l ++ [x]) = groupStep f (groupList f l) x.1 x.2 := by
  rw [groupList, List.foldl_append]
  rfl

variable [LawfulEqOrd κ] [LawfulEqOrd γ]

omit [LawfulEqOrd κ] in
/-- There is a group for each value that is met. -/
theorem mem_groupList (f : κ → γ) (l : List (κ × α)) (g : γ) :
    g ∈ groupList f l ↔ ∃ x ∈ l, f x.1 = g := by
  induction l using List.reverseRecOn with
  | nil => simp [groupList]
  | append_singleton rest x ih =>
    rw [groupList_concat, groupStep, ExtTreeMap.mem_insert, LawfulEqCmp.compare_eq_iff_eq, ih]
    simp [or_and_right, exists_or, or_comm]

/-- In the group of a value are the entries of the list with this value. -/
theorem getElem?_groupList (f : κ → γ) {l : List (κ × α)}
    (h : l.Pairwise fun x y => ¬compare x.1 y.1 = .eq) (g : γ) (k : κ) (a : α) :
    ((groupList f l)[g]?.getD ∅)[k]? = some a ↔ f k = g ∧ (k, a) ∈ l := by
  induction l using List.reverseRecOn generalizing g k a with
  | nil => simp [groupList]
  | append_singleton rest x ih =>
    obtain ⟨hrest, -, hlast⟩ := List.pairwise_append.mp h
    replace ih := ih hrest
    have hnew : ∀ a, (x.1, a) ∉ rest := fun a ha =>
      hlast _ ha x List.mem_cons_self ReflCmp.compare_self
    have hcompare : compare (f x.1) g = .eq ↔ f x.1 = g := LawfulEqCmp.compare_eq_iff_eq
    rw [groupList_concat, groupStep, ExtTreeMap.getElem?_insert, List.mem_append,
      List.mem_singleton]
    by_cases hg : f x.1 = g
    · have habsent : x.1 ∉ (groupList f rest)[g]?.getD ∅ := by
        intro hmem
        obtain ⟨a, ha⟩ := mem_iff_exists_getElem?.mp hmem
        exact hnew a ((ih g x.1 a).mp ha).2
      rw [if_pos (hcompare.mpr hg), Option.getD_some, ExtTreeMap.getElem?_insertIfNew, hg]
      by_cases hk : x.1 = k
      · subst hk
        rw [if_pos ⟨ReflCmp.compare_self, habsent⟩]
        simp [hg, hnew, Prod.ext_iff, eq_comm]
      · have hne : (k, a) ≠ x := fun heq => hk (heq ▸ rfl)
        rw [if_neg fun heq => hk (LawfulEqCmp.compare_eq_iff_eq.mp heq.1), ih]
        simp [hne]
    · have hne : f k = g → (k, a) ≠ x := by
        rintro hk rfl
        exact hg hk
      rw [if_neg (mt hcompare.mp hg), ih]
      exact and_congr_right fun hk => (or_iff_left (hne hk)).symm

variable [DecidableEq γ]

/-- The entries whose keys have a value. -/
def groupOf (f : κ → γ) (g : γ) (m : ExtTreeMap κ α) : ExtTreeMap κ α := m.filter fun k _ => f k = g

omit [Ord γ] [TransOrd γ] [LawfulEqOrd γ] in
/-- A group holds the items with its value. -/
theorem getElem?_groupOf (f : κ → γ) (g : γ) (m : ExtTreeMap κ α) (k : κ) :
    (groupOf f g m)[k]? = if f k = g then m[k]? else none := by
  rw [groupOf, ExtTreeMap.getElem?_filter']
  cases m[k]? <;> simp [Option.filter_some]

omit [Ord γ] [TransOrd γ] [LawfulEqOrd γ] in
theorem mem_groupOf {f : κ → γ} {g : γ} {m : ExtTreeMap κ α} {k : κ} :
    k ∈ groupOf f g m ↔ f k = g ∧ k ∈ m := by
  rw [ExtTreeMap.mem_iff_isSome_getElem?, getElem?_groupOf, ExtTreeMap.mem_iff_isSome_getElem?]
  split <;> simp [*]

/-- The values of the keys have groups, each with the entries of its keys. -/
theorem getElem?_groupBy_eq_some_iff {f : κ → γ} {m group : ExtTreeMap κ α} {g : γ} :
    (groupBy f m)[g]? = some group ↔ (∃ k ∈ m, f k = g) ∧ group = groupOf f g m := by
  have hmem : g ∈ groupBy f m ↔ ∃ k ∈ m, f k = g := by
    rw [groupBy_eq_groupList, mem_groupList]
    constructor
    · rintro ⟨x, hx, hg⟩
      have hget : m[x.1]? = some x.2 := ExtTreeMap.mem_toList_iff_getElem?_eq_some.mp hx
      refine ⟨x.1, ?_, hg⟩
      exact mem_iff_exists_getElem?.mpr ⟨_, hget⟩
    · rintro ⟨k, hk, hg⟩
      obtain ⟨a, ha⟩ := mem_iff_exists_getElem?.mp hk
      exact ⟨(k, a), ExtTreeMap.mem_toList_iff_getElem?_eq_some.mpr ha, hg⟩
  have hgroup : (groupBy f m)[g]?.getD ∅ = groupOf f g m := by
    apply ExtTreeMap.ext_getElem?
    intro k
    apply Option.ext
    intro a
    rw [groupBy_eq_groupList, getElem?_groupList f m.distinct_keys_toList,
      ExtTreeMap.mem_toList_iff_getElem?_eq_some, getElem?_groupOf]
    simp
  constructor
  · intro hget
    rw [hget, Option.getD_some] at hgroup
    refine ⟨hmem.mp ?_, hgroup⟩
    exact mem_iff_exists_getElem?.mpr ⟨_, hget⟩
  · rintro ⟨hkey, rfl⟩
    obtain ⟨group, hget⟩ := mem_iff_exists_getElem?.mp (hmem.mpr hkey)
    rw [← hgroup, hget, Option.getD_some]

end Grouping

/-- There is one last element under a key. -/
theorem IsLast.eq_of_key_eq {ι κ : Type} {key : ι → κ} {items : List ι} {x y : ι}
    (hx : IsLast key items x) (hy : IsLast key items y) (h : key x = key y) : x = y := by
  classical
  have hlast : ∀ {z}, IsLast key items z →
      (items.filter fun w => key w = key z).getLast? = some z := by
    rintro z ⟨before, after, rfl, hafter⟩
    have hnil : (after.filter fun w => key w = key z) = [] := by
      simpa [List.filter_eq_nil_iff] using hafter
    simp [List.filter_append, hnil]
  have hx' := hlast hx
  rw [h, hlast hy] at hx'
  exact (Option.some.inj hx').symm

/-! ## Maps that lose nothing -/

/-- If a map never makes the elements of a finite set larger and still reaches the set and
whatever else there is, it changes none of them, and there is nothing else. -/
theorem fixed_of_subset_image {α : Type} (f : α → α) (size : α → Nat) {s t : Set α}
    (hfinite : s.Finite) (hle : ∀ x ∈ s, size (f x) ≤ size x)
    (hfix : ∀ x ∈ s, size (f x) = size x → f x = x) (hsub : s ⊆ t)
    (himage : t ⊆ Set.image f s) : ∀ x ∈ t, x ∈ s ∧ f x = x := by
  classical
  lift s to Finset α using hfinite
  have hcover : s ⊆ s.image f := fun x hx => by
    simpa using himage (hsub hx)
  have heq : s = s.image f := Finset.eq_of_subset_of_card_le hcover Finset.card_image_le
  have hinj : Set.InjOn f s := Finset.card_image_iff.mp (by rw [← heq])
  have hsum : ∑ x ∈ s, size (f x) = ∑ x ∈ s, size x := by
    rw [← Finset.sum_image hinj, ← heq]
  have hsize := (Finset.sum_eq_sum_iff_of_le hle).mp hsum
  have hfixed : ∀ x ∈ s, f x = x := fun x hx => hfix x hx (hsize x hx)
  intro x hx
  obtain ⟨y, hy, rfl⟩ := himage hx
  rw [hfixed y hy]
  exact ⟨hy, hfixed y hy⟩

end Library
