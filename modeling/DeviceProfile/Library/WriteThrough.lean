import Mathlib.Data.Set.Basic

/-!
# A cache in front of a store

An item is stored as rows, values under keys. A cache holds items next to the store and agrees
with it when the rows of every item it holds are stored. What a write or a deletion does to the
agreement depends on the items that stay in the cache.
-/

namespace Library

variable {α ρ ν : Type} {rows : α → List (ρ × ν)} {held held' : Set α}
  {gone : α → Prop} {store store' : ρ → Option ν}

/-- The rows of every item that is held are stored. -/
def Agrees (rows : α → List (ρ × ν)) (held : Set α) (store : ρ → Option ν) : Prop :=
  ∀ x ∈ held, ∀ r ∈ rows x, store r.1 = some r.2

/-- After a write of an item the cache agrees when what stays in it has the same values under
the keys of the item. -/
theorem Agrees.write_iff (h : Agrees rows held store) {x : α} {added : Prop}
    (hrows : ∀ r ∈ rows x, store' r.1 = some r.2)
    (hother : ∀ k, (∀ r ∈ rows x, r.1 ≠ k) → store' k = store k)
    (hheld : ∀ y, y ∈ held' ↔ (y = x ∧ added) ∨ (y ∈ held ∧ ¬gone y)) :
    Agrees rows held' store' ↔
      ∀ y ∈ held, ¬gone y → ∀ r ∈ rows y, ∀ r' ∈ rows x, r'.1 = r.1 → r'.2 = r.2 := by
  constructor
  · intro hagrees y hy hgone r hr r' hr' hkey
    have hstored := hagrees y ((hheld y).mpr (.inr ⟨hy, hgone⟩)) r hr
    rw [← hkey, hrows r' hr'] at hstored
    exact Option.some.inj hstored
  · intro hsame y hy r hr
    rcases (hheld y).mp hy with ⟨rfl, -⟩ | ⟨hy, hgone⟩
    · exact hrows r hr
    · by_cases hshared : ∃ r' ∈ rows x, r'.1 = r.1
      · obtain ⟨r', hr', hkey⟩ := hshared
        rw [← hkey, hrows r' hr', hsame y hy hgone r hr r' hr' hkey]
      · push Not at hshared
        rw [hother r.1 hshared]
        exact h y hy r hr

/-- After a deletion of keys the cache agrees when nothing that stays in it has one of them. -/
theorem Agrees.delete_iff (h : Agrees rows held store) {keys : List ρ}
    (hkeys : ∀ k ∈ keys, store' k = none) (hother : ∀ k, k ∉ keys → store' k = store k)
    (hheld : ∀ y, y ∈ held' ↔ y ∈ held ∧ ¬gone y) :
    Agrees rows held' store' ↔ ∀ y ∈ held, ¬gone y → ∀ r ∈ rows y, r.1 ∉ keys := by
  constructor
  · intro hagrees y hy hgone r hr hkey
    have hstored := hagrees y ((hheld y).mpr ⟨hy, hgone⟩) r hr
    rw [hkeys r.1 hkey] at hstored
    cases hstored
  · intro hkept y hy r hr
    obtain ⟨hy, hgone⟩ := (hheld y).mp hy
    rw [hother r.1 (hkept y hy hgone r hr)]
    exact h y hy r hr

end Library
