import Mathlib.Data.List.Infix

/-!
# Collecting the values of an ordered map

The values of a map under new keys. As long as the keys that are kept get different
new keys, each of them is found under its new key, and nothing else is.
-/

namespace Library

open Std

/-- The last element of a list under its key. -/
def IsLast {ι κ : Type} (key : ι → κ) (items : List ι) (x : ι) : Prop :=
  ∃ before after, items = before ++ x :: after ∧ ∀ y ∈ after, key y ≠ key x

theorem IsLast.mem {ι κ : Type} {key : ι → κ} {items : List ι} {x : ι}
    (h : IsLast key items x) : x ∈ items := by
  obtain ⟨before, after, rfl, -⟩ := h
  exact List.mem_append_right _ List.mem_cons_self

/-- For each element there is a last one under its key. -/
theorem exists_isLast {ι κ : Type} [DecidableEq κ] (key : ι → κ) {items : List ι} {x : ι}
    (hx : x ∈ items) : ∃ y, IsLast key items y ∧ key y = key x := by
  induction items using List.reverseRecOn with
  | nil => cases hx
  | append_singleton rest y ih =>
    by_cases hkey : key y = key x
    · exact ⟨y, ⟨rest, [], rfl, nofun⟩, hkey⟩
    · have hrest : x ∈ rest := by
        rcases List.mem_append.mp hx with h | h
        · exact h
        · rw [List.mem_singleton.mp h] at hkey
          exact absurd rfl hkey
      obtain ⟨z, ⟨before, after, rfl, hafter⟩, hz⟩ := ih hrest
      refine ⟨z, ⟨before, after ++ [y], by simp, fun w hw => ?_⟩, hz⟩
      rcases List.mem_append.mp hw with hw | hw
      · exact hafter w hw
      · rw [List.mem_singleton.mp hw, hz]
        exact hkey

variable {κ ρ α : Type} [Ord κ] [TransOrd κ] [Ord ρ] [TransOrd ρ]

/-- A key is there when it has a value. -/
theorem mem_iff_exists_getElem? {m : ExtTreeMap κ α} {k : κ} : k ∈ m ↔ ∃ a, m[k]? = some a := by
  rw [ExtTreeMap.mem_iff_isSome_getElem?, Option.isSome_iff_exists]

/-- Put a value under the new key of its key, if it has one. -/
def collectStep (f : κ → Option ρ) (m : ExtTreeMap ρ α) (k : κ) (a : α) : ExtTreeMap ρ α :=
  match f k with
  | some r => m.insert r a
  | none => m

/-- Put the values of a list under new keys, in order. -/
def collectList (f : κ → Option ρ) (l : List (κ × α)) (m : ExtTreeMap ρ α) : ExtTreeMap ρ α :=
  l.foldl (fun m x => collectStep f m x.1 x.2) m

/-- The values of a map under new keys. -/
def collect (f : κ → Option ρ) (m : ExtTreeMap κ α) : ExtTreeMap ρ α :=
  collectList f m.toList ∅

variable [LawfulEqOrd κ] [LawfulEqOrd ρ] [DecidableEq ρ]

omit [Ord κ] [TransOrd κ] [LawfulEqOrd κ] in
/-- A step changes only the new key of its key. -/
theorem getElem?_collectStep (f : κ → Option ρ) (m : ExtTreeMap ρ α) (k : κ) (a : α) (r : ρ) :
    (collectStep f m k a)[r]? = if f k = some r then some a else m[r]? := by
  rw [collectStep]
  cases h : f k with
  | none => rw [if_neg nofun]
  | some s =>
    simp only [ExtTreeMap.getElem?_insert, LawfulEqCmp.compare_eq_iff_eq, Option.some.injEq]

omit [Ord κ] [TransOrd κ] [LawfulEqOrd κ] in
/-- Entries with different new keys are all found, behind what was there before. -/
theorem getElem?_collectList (f : κ → Option ρ) (l : List (κ × α))
    (hinj : l.Pairwise fun x y => ∀ r, f x.1 = some r → f y.1 ≠ some r)
    (m : ExtTreeMap ρ α) (r : ρ) (a : α) :
    (collectList f l m)[r]? = some a ↔
      (∃ k, f k = some r ∧ (k, a) ∈ l) ∨ (∀ x ∈ l, f x.1 ≠ some r) ∧ m[r]? = some a := by
  induction l generalizing m with
  | nil => simp [collectList]
  | cons x rest ih =>
    obtain ⟨hfirst, hrest⟩ := List.pairwise_cons.mp hinj
    rw [collectList, List.foldl_cons, ← collectList, ih hrest, getElem?_collectStep]
    by_cases hx : f x.1 = some r
    · have hother : ∀ y ∈ rest, f y.1 ≠ some r := fun y hy => hfirst y hy r hx
      have hnone : ¬∃ k, f k = some r ∧ (k, a) ∈ rest := by
        rintro ⟨k, hk, hmem⟩
        exact hother _ hmem hk
      simp only [hx, if_true, hnone, false_or]
      constructor
      · rintro ⟨-, ha⟩
        exact .inl ⟨x.1, hx, Option.some.inj ha ▸ List.mem_cons_self⟩
      · rintro (⟨k, hk, hmem⟩ | ⟨hall, -⟩)
        · rcases List.mem_cons.mp hmem with rfl | hmem
          · exact ⟨hother, rfl⟩
          · exact absurd hk (hother _ hmem)
        · exact absurd hx (hall x List.mem_cons_self)
    · rw [if_neg hx]
      have hskip : (∃ k, f k = some r ∧ (k, a) ∈ x :: rest) ↔
          ∃ k, f k = some r ∧ (k, a) ∈ rest := by
        constructor
        · rintro ⟨k, hk, hmem⟩
          rcases List.mem_cons.mp hmem with rfl | hmem
          · exact absurd hk hx
          · exact ⟨k, hk, hmem⟩
        · rintro ⟨k, hk, hmem⟩
          exact ⟨k, hk, List.mem_cons_of_mem _ hmem⟩
      simp only [hskip, List.forall_mem_cons, ne_eq, hx, not_false_eq_true, true_and]

/-- A value is found exactly under the new key of its key. -/
theorem getElem?_collect {f : κ → Option ρ} {m : ExtTreeMap κ α}
    (hinj : ∀ k ∈ m, ∀ k' ∈ m, ∀ r, f k = some r → f k' = some r → k = k') {r : ρ} {a : α} :
    (collect f m)[r]? = some a ↔ ∃ k, f k = some r ∧ m[k]? = some a := by
  have hpairs : m.toList.Pairwise fun x y => ∀ r, f x.1 = some r → f y.1 ≠ some r := by
    refine List.Pairwise.imp_of_mem (fun {x y} hx hy hne r hfx hfy => ?_)
      m.distinct_keys_toList
    have hmem : ∀ z ∈ m.toList, z.1 ∈ m := by
      intro z hz
      exact mem_iff_exists_getElem?.mpr ⟨_, ExtTreeMap.mem_toList_iff_getElem?_eq_some.mp hz⟩
    exact hne (LawfulEqCmp.compare_eq_iff_eq.mpr
      (hinj _ (hmem x hx) _ (hmem y hy) r hfx hfy))
  rw [collect, getElem?_collectList f _ hpairs]
  simp only [ExtTreeMap.getElem?_empty, reduceCtorEq, and_false, or_false,
    ExtTreeMap.mem_toList_iff_getElem?_eq_some]

/-- In a sorted list the last element under a new key is found. -/
theorem getElem?_collectList_sorted {f : κ → Option ρ} {l : List (κ × α)}
    (hsorted : l.Pairwise fun x y => compare x.1 y.1 = .lt) {r : ρ} {a : α} :
    (collectList f l ∅)[r]? = some a ↔
      ∃ k, f k = some r ∧ (k, a) ∈ l ∧ ∀ x ∈ l, f x.1 = some r → (compare x.1 k).isLE := by
  induction l using List.reverseRecOn with
  | nil => simp [collectList]
  | append_singleton rest y ih =>
    obtain ⟨hrest, -, hlast⟩ := List.pairwise_append.mp hsorted
    have hbefore : ∀ x ∈ rest, compare x.1 y.1 = .lt := fun x hx =>
      hlast x hx y List.mem_cons_self
    rw [collectList, List.foldl_append, List.foldl_cons, List.foldl_nil, getElem?_collectStep]
    by_cases hy : f y.1 = some r
    · rw [if_pos hy]
      constructor
      · intro ha
        refine ⟨y.1, hy, List.mem_append_right _ (Option.some.inj ha ▸ List.mem_cons_self), ?_⟩
        intro x hx _
        rcases List.mem_append.mp hx with hx | hx
        · rw [hbefore x hx]
          rfl
        · rw [List.mem_singleton.mp hx]
          exact ReflOrd.isLE_rfl
      · rintro ⟨k, hk, hmem, hmax⟩
        rcases List.mem_append.mp hmem with hmem | hmem
        · have hle := hmax y (List.mem_append_right _ List.mem_cons_self) hy
          have hlt := OrientedCmp.gt_of_lt (hbefore _ hmem)
          rw [hlt] at hle
          cases hle
        · rw [← List.mem_singleton.mp hmem]
    · rw [if_neg hy, ← collectList, ih hrest]
      constructor
      · rintro ⟨k, hk, hmem, hmax⟩
        refine ⟨k, hk, List.mem_append_left _ hmem, fun x hx hfx => ?_⟩
        rcases List.mem_append.mp hx with hx | hx
        · exact hmax x hx hfx
        · exact absurd (List.mem_singleton.mp hx ▸ hfx) hy
      · rintro ⟨k, hk, hmem, hmax⟩
        rcases List.mem_append.mp hmem with hmem | hmem
        · exact ⟨k, hk, hmem, fun x hx => hmax x (List.mem_append_left _ hx)⟩
        · rw [← List.mem_singleton.mp hmem] at hy
          exact absurd hk hy

/-- Under a new key the value of the last of its keys is found. -/
theorem getElem?_collect_last {f : κ → Option ρ} {m : ExtTreeMap κ α} {r : ρ} {a : α} :
    (collect f m)[r]? = some a ↔
      ∃ k, f k = some r ∧ m[k]? = some a ∧
        ∀ k' ∈ m, f k' = some r → (compare k' k).isLE := by
  rw [collect, getElem?_collectList_sorted m.ordered_keys_toList]
  constructor
  · rintro ⟨k, hk, hmem, hmax⟩
    refine ⟨k, hk, ExtTreeMap.mem_toList_iff_getElem?_eq_some.mp hmem, fun k' hk' hf => ?_⟩
    obtain ⟨b, hb⟩ := mem_iff_exists_getElem?.mp hk'
    exact hmax (k', b) (ExtTreeMap.mem_toList_iff_getElem?_eq_some.mpr hb) hf
  · rintro ⟨k, hk, hmem, hmax⟩
    refine ⟨k, hk, ExtTreeMap.mem_toList_iff_getElem?_eq_some.mpr hmem, fun x hx hf => ?_⟩
    have hget : m[x.1]? = some x.2 := ExtTreeMap.mem_toList_iff_getElem?_eq_some.mp hx
    refine hmax x.1 ?_ hf
    exact mem_iff_exists_getElem?.mpr ⟨_, hget⟩

/-- A new key is there exactly when it is the new key of some key. -/
theorem mem_collect {f : κ → Option ρ} {m : ExtTreeMap κ α} {r : ρ} :
    r ∈ collect f m ↔ ∃ k ∈ m, f k = some r := by
  have hlist : ∀ l : List (κ × α), r ∈ collectList f l ∅ ↔ ∃ x ∈ l, f x.1 = some r := by
    intro l
    induction l using List.reverseRecOn with
    | nil => simp [collectList]
    | append_singleton rest y ih =>
      rw [collectList, List.foldl_append, List.foldl_cons, List.foldl_nil,
        ExtTreeMap.mem_iff_isSome_getElem?, getElem?_collectStep]
      by_cases hy : f y.1 = some r
      · simp [hy]
      · rw [if_neg hy, ← ExtTreeMap.mem_iff_isSome_getElem?, ← collectList, ih]
        simp [hy]
  rw [collect, hlist]
  constructor
  · rintro ⟨x, hx, hf⟩
    have hget : m[x.1]? = some x.2 := ExtTreeMap.mem_toList_iff_getElem?_eq_some.mp hx
    refine ⟨x.1, ?_, hf⟩
    exact mem_iff_exists_getElem?.mpr ⟨_, hget⟩
  · rintro ⟨k, hk, hf⟩
    obtain ⟨a, ha⟩ := mem_iff_exists_getElem?.mp hk
    exact ⟨(k, a), ExtTreeMap.mem_toList_iff_getElem?_eq_some.mpr ha, hf⟩

/-- Nothing is collected exactly where no key has a new key. -/
theorem isEmpty_collect_iff {f : κ → Option ρ} {m : ExtTreeMap κ α} :
    (collect f m).isEmpty ↔ ∀ k ∈ m, f k = none := by
  rw [ExtTreeMap.isEmpty_iff, ExtTreeMap.eq_empty_iff_forall_not_mem]
  simp only [mem_collect, not_exists, not_and, Option.eq_none_iff_forall_ne_some]
  exact ⟨fun h k hk r => h r k hk, fun h r k hk => h k hk r⟩

omit [LawfulEqOrd κ] [LawfulEqOrd ρ] [DecidableEq ρ] in
theorem size_collect_le (f : κ → Option ρ) (m : ExtTreeMap κ α) : (collect f m).size ≤ m.size := by
  have hlist : ∀ (l : List (κ × α)) (t : ExtTreeMap ρ α),
      (collectList f l t).size ≤ t.size + l.length := by
    intro l
    induction l with
    | nil => exact fun t => Nat.le_refl _
    | cons x rest ih =>
      intro t
      have hstep : (collectStep f t x.1 x.2).size ≤ t.size + 1 := by
        unfold collectStep
        split
        · exact ExtTreeMap.size_insert_le
        · exact Nat.le_succ _
      have hrest := ih (collectStep f t x.1 x.2)
      rw [collectList, List.foldl_cons, ← collectList, List.length_cons]
      omega
  have hall := hlist m.toList ∅
  rwa [ExtTreeMap.size_empty, Nat.zero_add, ExtTreeMap.length_toList] at hall

omit [LawfulEqOrd ρ] [DecidableEq ρ] [Ord ρ] [TransOrd ρ] in
/-- Different keys of a map are not more than its size. -/
theorem length_le_size {m : ExtTreeMap κ α} {keys : List κ} (hnodup : keys.Nodup)
    (hmem : ∀ k ∈ keys, k ∈ m) : keys.length ≤ m.size := by
  rw [← ExtTreeMap.length_keys]
  exact hnodup.length_le_of_subset fun k hk => ExtTreeMap.mem_keys.mpr (hmem k hk)

omit [LawfulEqOrd ρ] [DecidableEq ρ] [Ord ρ] [TransOrd ρ] in
theorem size_le_size {β : Type} {m : ExtTreeMap κ α} {m' : ExtTreeMap κ β}
    (h : ∀ k ∈ m, k ∈ m') : m.size ≤ m'.size := by
  rw [← ExtTreeMap.length_keys]
  exact length_le_size ExtTreeMap.nodup_keys fun k hk => h k (ExtTreeMap.mem_keys.mp hk)

omit [LawfulEqOrd ρ] [DecidableEq ρ] [Ord ρ] [TransOrd ρ] in
/-- The keys of a map with a property are as many as the keys of a map that has just these. -/
theorem length_filter_keys {β : Type} {m : ExtTreeMap κ α} {m' : ExtTreeMap κ β} {p : κ → Bool}
    (h : ∀ k, k ∈ m ∧ p k ↔ k ∈ m') : (m.keys.filter p).length = m'.size := by
  rw [← ExtTreeMap.length_keys]
  refine ((List.perm_ext_iff_of_nodup (ExtTreeMap.nodup_keys.filter p)
    ExtTreeMap.nodup_keys).mpr fun k => ?_).length_eq
  rw [List.mem_filter, ExtTreeMap.mem_keys, ExtTreeMap.mem_keys, h]

omit [LawfulEqOrd κ] [LawfulEqOrd ρ] [DecidableEq ρ] in
/-- Going through a map and filling two others fills each of them on its own. -/
theorem foldl_collectStep_pair (f g : κ → Option ρ) (m : ExtTreeMap κ α) :
    m.foldl (fun maps k a => (collectStep f maps.1 k a, collectStep g maps.2 k a)) (∅, ∅) =
      (collect f m, collect g m) := by
  have hlist : ∀ (l : List (κ × α)) (a b : ExtTreeMap ρ α),
      l.foldl (fun maps x => (collectStep f maps.1 x.1 x.2, collectStep g maps.2 x.1 x.2)) (a, b) =
        (collectList f l a, collectList g l b) := by
    intro l
    induction l with
    | nil => exact fun a b => rfl
    | cons x rest ih =>
      intro a b
      rw [List.foldl_cons, ih]
      rfl
  rw [ExtTreeMap.foldl_eq_foldl_toList, collect, collect, ← hlist]

/-! ## Inserting a list -/

omit [Ord ρ] [TransOrd ρ] [LawfulEqOrd ρ] [DecidableEq ρ] in
/-- Erasing keys one after another leaves the others. -/
theorem getElem?_foldl_erase [BEq κ] [LawfulBEq κ] (keys : List κ) (m : ExtTreeMap κ α) (k : κ) :
    (keys.foldl ExtTreeMap.erase m)[k]? = if k ∈ keys then none else m[k]? := by
  induction keys generalizing m with
  | nil => rfl
  | cons first rest ih =>
    rw [List.foldl_cons, ih, ExtTreeMap.getElem?_erase]
    by_cases hfirst : k = first
    · simp [hfirst]
    · have hne : ¬compare first k = .eq := by
        rw [LawfulEqCmp.compare_eq_iff_eq]
        exact Ne.symm hfirst
      simp [hfirst, hne]

section InsertAll

variable {ι : Type} [DecidableEq κ]

/-- Insert the elements of a list, in order. -/
def insertAll (key : ι → κ) (val : ι → α) (items : List ι) (m : ExtTreeMap κ α) :
    ExtTreeMap κ α :=
  items.foldl (fun m x => m.insert (key x) (val x)) m

omit [Ord ρ] [TransOrd ρ] [LawfulEqOrd ρ] [DecidableEq ρ] in
/-- Under each key the last element with that key is found, in front of what was there. -/
theorem getElem?_insertAll (key : ι → κ) (val : ι → α) (items : List ι) (m : ExtTreeMap κ α)
    (k : κ) :
    (insertAll key val items m)[k]? =
      ((items.filter fun x => key x = k).getLast?.map val).or m[k]? := by
  induction items using List.reverseRecOn with
  | nil => rfl
  | append_singleton rest x ih =>
    rw [insertAll, List.foldl_append] at *
    simp only [List.foldl_cons, List.foldl_nil, ExtTreeMap.getElem?_insert,
      LawfulEqCmp.compare_eq_iff_eq, List.filter_append]
    by_cases hx : key x = k
    · simp [hx]
    · simp [hx, ih]

omit [Ord ρ] [TransOrd ρ] [LawfulEqOrd ρ] [DecidableEq ρ] in
/-- What is inserted is found in front of what was there. -/
theorem getElem?_insertAll_or (key : ι → κ) (val : ι → α) (items : List ι) (m : ExtTreeMap κ α)
    (k : κ) :
    (insertAll key val items m)[k]? = (insertAll key val items ∅)[k]?.or m[k]? := by
  rw [getElem?_insertAll, getElem?_insertAll key val items ∅, ExtTreeMap.getElem?_empty,
    Option.or_none]

omit [Ord ρ] [TransOrd ρ] [LawfulEqOrd κ] [LawfulEqOrd ρ] [DecidableEq ρ] [DecidableEq κ] in
theorem insertAll_append (key : ι → κ) (val : ι → α) (items items' : List ι)
    (m : ExtTreeMap κ α) :
    insertAll key val (items ++ items') m = insertAll key val items' (insertAll key val items m) :=
  List.foldl_append

omit [Ord ρ] [TransOrd ρ] [LawfulEqOrd ρ] [DecidableEq ρ] in
/-- To insert a list is to join the map of the list. -/
theorem union_insertAll (key : ι → κ) (val : ι → α) (items : List ι) (m : ExtTreeMap κ α) :
    m ∪ insertAll key val items ∅ = insertAll key val items m := by
  refine ExtTreeMap.ext_getElem? fun k => ?_
  rw [ExtTreeMap.getElem?_union, getElem?_insertAll_or key val items m]

omit [Ord ρ] [TransOrd ρ] [LawfulEqOrd ρ] [DecidableEq ρ] in
/-- Where all elements with a key agree on the value, it is found. -/
theorem getElem?_insertAll_of_mem {key : ι → κ} {val : ι → α} {items : List ι} {x : ι}
    (hx : x ∈ items) (hval : ∀ y ∈ items, key y = key x → val y = val x) (m : ExtTreeMap κ α) :
    (insertAll key val items m)[key x]? = some (val x) := by
  rw [getElem?_insertAll]
  have hmem : x ∈ items.filter fun y => key y = key x := by simp [hx]
  obtain ⟨last, hlast⟩ : ∃ last, (items.filter fun y => key y = key x).getLast? = some last :=
    ⟨_, List.getLast?_eq_getLast_of_ne_nil (List.ne_nil_of_mem hmem)⟩
  have hfilter := List.mem_filter.mp (List.mem_of_getLast? hlast)
  rw [hlast, Option.map_some, hval last hfilter.1 (of_decide_eq_true hfilter.2)]
  rfl

omit [Ord ρ] [TransOrd ρ] [LawfulEqOrd ρ] [DecidableEq ρ] in
/-- Where no element has the key, nothing changes. -/
theorem getElem?_insertAll_of_not_mem {key : ι → κ} {val : ι → α} {items : List ι} {k : κ}
    (h : ∀ x ∈ items, key x ≠ k) (m : ExtTreeMap κ α) :
    (insertAll key val items m)[k]? = m[k]? := by
  have hnil : (items.filter fun x => key x = k) = [] := by
    simpa [List.filter_eq_nil_iff] using h
  rw [getElem?_insertAll, hnil]
  rfl

omit [Ord ρ] [TransOrd ρ] [LawfulEqOrd ρ] [DecidableEq ρ] in
/-- The last element under a key is found. -/
theorem getElem?_insertAll_of_isLast {key : ι → κ} {val : ι → α} {items : List ι} {x : ι}
    (hx : IsLast key items x) (m : ExtTreeMap κ α) :
    (insertAll key val items m)[key x]? = some (val x) := by
  obtain ⟨before, after, rfl, hafter⟩ := hx
  rw [insertAll_append, ← List.singleton_append, insertAll_append,
    getElem?_insertAll_of_not_mem hafter]
  exact getElem?_insertAll_of_mem List.mem_cons_self
    (fun y hy _ => by rw [List.mem_singleton.mp hy]) _

omit [Ord ρ] [TransOrd ρ] [LawfulEqOrd ρ] [DecidableEq ρ] in
/-- The values of a map that has them under their own keys are the map again. -/
theorem insertAll_toList {key : α → κ} {m : ExtTreeMap κ α}
    (h : ∀ {k a}, m[k]? = some a → key a = k) :
    insertAll key id (m.toList.map Prod.snd) ∅ = m := by
  have hvalue : ∀ a ∈ m.toList.map Prod.snd, m[key a]? = some a := by
    intro a ha
    obtain ⟨x, hx, rfl⟩ := List.mem_map.mp ha
    have hget : m[x.1]? = some x.2 := ExtTreeMap.mem_toList_iff_getElem?_eq_some.mp hx
    rwa [h hget]
  refine ExtTreeMap.ext_getElem? fun k => ?_
  cases hk : m[k]? with
  | none =>
    rw [getElem?_insertAll_of_not_mem, ExtTreeMap.getElem?_empty]
    rintro a ha rfl
    rw [hvalue a ha] at hk
    cases hk
  | some a =>
    have hmem : a ∈ m.toList.map Prod.snd :=
      List.mem_map_of_mem (f := Prod.snd) (ExtTreeMap.mem_toList_iff_getElem?_eq_some.mpr hk)
    obtain rfl := h hk
    refine getElem?_insertAll_of_mem hmem (fun b hb hkey => ?_) ∅
    have hb := hvalue b hb
    rw [hkey, hk] at hb
    exact (Option.some.inj hb).symm

omit [Ord ρ] [TransOrd ρ] [LawfulEqOrd ρ] [DecidableEq ρ] in
/-- Inserting the entries of a map joins it. -/
theorem insertAll_toList_eq_union (m m' : ExtTreeMap κ α) :
    insertAll Prod.fst Prod.snd m'.toList m = m ∪ m' := by
  have hentry : ∀ x ∈ m'.toList, m'[x.1]? = some x.2 :=
    fun x hx => ExtTreeMap.mem_toList_iff_getElem?_eq_some.mp hx
  refine ExtTreeMap.ext_getElem? fun k => ?_
  rw [ExtTreeMap.getElem?_union]
  cases hk : m'[k]? with
  | none =>
    rw [getElem?_insertAll_of_not_mem, Option.none_or]
    rintro x hx rfl
    rw [hentry x hx] at hk
    cases hk
  | some a =>
    have hmem : (k, a) ∈ m'.toList := ExtTreeMap.mem_toList_iff_getElem?_eq_some.mpr hk
    rw [Option.some_or]
    refine getElem?_insertAll_of_mem hmem (fun y hy hkey => ?_) m
    have hy := hentry y hy
    rw [hkey, hk] at hy
    exact (Option.some.inj hy).symm

omit [Ord ρ] [TransOrd ρ] [LawfulEqOrd ρ] [DecidableEq ρ] in
/-- What is found under a key is the value of an element with the key, or was there before. -/
theorem exists_of_getElem?_insertAll {key : ι → κ} {val : ι → α} {items : List ι}
    {m : ExtTreeMap κ α} {k : κ} {a : α} (h : (insertAll key val items m)[k]? = some a) :
    (∃ x ∈ items, key x = k ∧ val x = a) ∨ m[k]? = some a := by
  rw [getElem?_insertAll] at h
  cases hlast : (items.filter fun x => key x = k).getLast? with
  | none =>
    rw [hlast] at h
    exact .inr h
  | some x =>
    rw [hlast] at h
    have hfilter := List.mem_filter.mp (List.mem_of_getLast? hlast)
    exact .inl ⟨x, hfilter.1, of_decide_eq_true hfilter.2, Option.some.inj h⟩

omit [Ord ρ] [TransOrd ρ] [LawfulEqOrd ρ] [DecidableEq ρ] [DecidableEq κ] in
/-- The keys after an insertion are the new and the old ones. -/
theorem mem_insertAll {key : ι → κ} {val : ι → α} {items : List ι} {m : ExtTreeMap κ α} {k : κ} :
    k ∈ insertAll key val items m ↔ (∃ x ∈ items, key x = k) ∨ k ∈ m := by
  rw [insertAll]
  induction items generalizing m with
  | nil => simp
  | cons x rest ih =>
    rw [List.foldl_cons, ih, ExtTreeMap.mem_insert, LawfulEqCmp.compare_eq_iff_eq,
      List.exists_mem_cons_iff, ← or_assoc, or_comm (a := key x = k)]

end InsertAll

omit [Ord ρ] [TransOrd ρ] [LawfulEqOrd ρ] [DecidableEq ρ] in
/-- What is found after an insertion: the new value, or what is there under another key. -/
theorem getElem?_insert_eq_some_iff {m : ExtTreeMap κ α} {k key : κ} {a b : α} :
    (m.insert k a)[key]? = some b ↔ (b = a ∧ key = k) ∨ (m[key]? = some b ∧ ¬key = k) := by
  rw [ExtTreeMap.getElem?_insert]
  by_cases hkey : k = key
  · simp [hkey, eq_comm]
  · have hne : ¬key = k := fun h => hkey h.symm
    simp [hkey, hne]

/-- An insertion changes nothing exactly when it is there already. -/
theorem insert_eq_self_iff {m : ExtTreeMap κ α} {k : κ} {a : α} :
    m.insert k a = m ↔ m[k]? = some a := by
  constructor
  · intro h
    rw [← h, ExtTreeMap.getElem?_insert_self]
  · intro h
    apply ExtTreeMap.ext_getElem?
    intro other
    rw [ExtTreeMap.getElem?_insert]
    split
    · rename_i heq
      rw [← LawfulEqCmp.eq_of_compare heq, h]
    · rfl

omit [Ord ρ] [TransOrd ρ] [LawfulEqOrd ρ] [DecidableEq ρ] in
/-- What is left after an erasure. -/
theorem getElem?_erase_eq_some_iff {m : ExtTreeMap κ α} {k key : κ} {b : α} :
    (m.erase k)[key]? = some b ↔ m[key]? = some b ∧ ¬key = k := by
  rw [ExtTreeMap.getElem?_erase]
  by_cases hkey : k = key
  · simp [hkey]
  · have hne : ¬key = k := fun h => hkey h.symm
    simp [hkey, hne]

omit [Ord ρ] [TransOrd ρ] [LawfulEqOrd ρ] [DecidableEq ρ] in
/-- Nothing is added by no entries. -/
theorem union_of_isEmpty {m m' : ExtTreeMap κ α} (h : m'.isEmpty) : m ∪ m' = m := by
  refine ExtTreeMap.ext_getElem? fun k => ?_
  rw [ExtTreeMap.getElem?_union, ExtTreeMap.isEmpty_iff.mp h, ExtTreeMap.getElem?_empty,
    Option.none_or]

omit [Ord ρ] [TransOrd ρ] [LawfulEqOrd ρ] [DecidableEq ρ] in
theorem toList_insert_empty (k : κ) (a : α) :
    ((∅ : ExtTreeMap κ α).insert k a).toList = [(k, a)] := by
  have hmem : (k, a) ∈ ((∅ : ExtTreeMap κ α).insert k a).toList :=
    ExtTreeMap.mem_toList_iff_getElem?_eq_some.mpr ExtTreeMap.getElem?_insert_self
  have hlength : ((∅ : ExtTreeMap κ α).insert k a).toList.length = 1 := by
    rw [ExtTreeMap.length_toList, ExtTreeMap.size_insert]
    simp
  obtain ⟨x, hx⟩ := List.length_eq_one_iff.mp hlength
  rw [hx, List.mem_singleton] at hmem
  rw [hx, hmem]

omit [LawfulEqOrd ρ] [DecidableEq ρ] in
/-- The first entry of a map is one of its entries. -/
theorem mem_of_head?_toList {m : ExtTreeMap κ α} {x : κ × α} (h : m.toList.head? = some x) :
    m[x.1]? = some x.2 :=
  ExtTreeMap.mem_toList_iff_getElem?_eq_some.mp (List.mem_of_head? h)

end Library
