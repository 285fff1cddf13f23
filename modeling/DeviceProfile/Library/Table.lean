import Mathlib.Data.List.Pairwise
import Mathlib.Data.List.Sort
import Mathlib.Order.Basic

/-!
# Tables with an integer primary key and a unique index

Rows are stored in ascending order of their key, which is the order in which an
unconditional selection delivers them. No two rows share their key, and no two
rows agree on the columns of the unique index. An insertion or an update that
would break either rule is refused as a whole.
-/

namespace Library

/-- The rows of one table; key order and both uniqueness rules are part of the type. -/
structure Table (ρ υ : Type) (key : ρ → Int) (index : ρ → υ) where
  /-- Rows in ascending key order. -/
  rows : List ρ
  /-- The primary key is strictly ascending, hence unique. -/
  ascending : rows.Pairwise fun a b => key a < key b
  /-- No two rows agree on every index column. -/
  indexed : rows.Pairwise fun a b => index a ≠ index b

namespace Table

variable {ρ υ : Type} {key : ρ → Int} {index : ρ → υ}

instance : Membership ρ (Table ρ υ key index) := ⟨fun t r => r ∈ t.rows⟩

theorem mem_iff {t : Table ρ υ key index} {r : ρ} : r ∈ t ↔ r ∈ t.rows := Iff.rfl

theorem ext {t t' : Table ρ υ key index} (h : t.rows = t'.rows) : t = t' := by
  cases t
  cases t'
  cases h
  rfl

theorem indexed_nil : ([] : List ρ).Pairwise fun a b => index a ≠ index b := .nil

/-- The table that holds no row. -/
def empty : Table ρ υ key index := ⟨[], .nil, indexed_nil⟩

instance : Inhabited (Table ρ υ key index) := ⟨empty⟩

@[simp] theorem not_mem_empty (r : ρ) : r ∉ (empty : Table ρ υ key index) := List.not_mem_nil

@[simp] theorem rows_empty : (empty : Table ρ υ key index).rows = [] := rfl

private theorem eq_of_pairwise_ne {τ : Type} {f : ρ → τ} {l : List ρ} {a b : ρ}
    (hl : l.Pairwise fun a b => f a ≠ f b) (ha : a ∈ l) (hb : b ∈ l) (h : f a = f b) : a = b := by
  have hsymm : Std.Symm fun a b : ρ => f a ≠ f b := ⟨fun _ _ => Ne.symm⟩
  by_contra hne
  exact hl.forall ha hb hne h

/-- Two stored rows with one key are the same row. -/
theorem eq_of_key {t : Table ρ υ key index} {a b : ρ} (ha : a ∈ t) (hb : b ∈ t)
    (h : key a = key b) : a = b :=
  eq_of_pairwise_ne (t.ascending.imp fun h => ne_of_lt h) ha hb h

/-- Two stored rows that agree on the index columns are the same row. -/
theorem eq_of_index {t : Table ρ υ key index} {a b : ρ} (ha : a ∈ t) (hb : b ∈ t)
    (h : index a = index b) : a = b :=
  eq_of_pairwise_ne t.indexed ha hb h

theorem nodup (t : Table ρ υ key index) : t.rows.Nodup :=
  t.ascending.imp fun h he => by rw [he] at h; exact lt_irrefl _ h

/-- No key is stored twice. -/
theorem nodup_keys (t : Table ρ υ key index) : (t.rows.map key).Nodup :=
  List.pairwise_map.mpr (t.ascending.imp fun h => ne_of_lt h)

/-! ## Reading -/

/-- The rows a condition selects, in key order. -/
def select (t : Table ρ υ key index) (p : ρ → Bool) : List ρ := t.rows.filter p

@[simp] theorem mem_select {t : Table ρ υ key index} {p : ρ → Bool} {r : ρ} :
    r ∈ t.select p ↔ r ∈ t ∧ p r = true := List.mem_filter

/-- The key after the last one, starting with one. -/
def nextKey (t : Table ρ υ key index) : Int :=
  match t.rows.getLast? with
  | none => 1
  | some r => key r + 1

@[simp] theorem nextKey_empty : (empty : Table ρ υ key index).nextKey = 1 := rfl

/-- The last row carries the greatest key. -/
theorem key_lt_nextKey {t : Table ρ υ key index} {r : ρ} (hr : r ∈ t) : key r < t.nextKey := by
  obtain ⟨rows, hasc, _⟩ := t
  change r ∈ rows at hr
  cases hl : rows.getLast? with
  | none =>
    rw [List.getLast?_eq_none_iff] at hl
    simp [hl] at hr
  | some m =>
    obtain ⟨init, rfl⟩ := List.getLast?_eq_some_iff.mp hl
    simp only [nextKey, hl]
    rcases List.mem_append.mp hr with hr | hr
    · have := (List.pairwise_append.mp hasc).2.2 r hr m (List.mem_singleton_self m)
      omega
    · rw [List.mem_singleton.mp hr]
      omega

theorem key_ne_nextKey {t : Table ρ υ key index} {r : ρ} (hr : r ∈ t) : key r ≠ t.nextKey :=
  ne_of_lt (key_lt_nextKey hr)

/-- A selection by key delivers at most the one row stored under it. -/
theorem select_key {t : Table ρ υ key index} {r : ρ} (hr : r ∈ t) :
    t.select (fun a => decide (key a = key r)) = [r] := by
  have hmem : ∀ a, a ∈ t.select (fun a => decide (key a = key r)) ↔ a = r := by
    intro a
    rw [mem_select, decide_eq_true_iff]
    exact ⟨fun h => eq_of_key h.1 hr h.2, by rintro rfl; exact ⟨hr, rfl⟩⟩
  have hnd : (t.select (fun a => decide (key a = key r))).Nodup := t.nodup.filter _
  exact List.perm_singleton.mp ((List.perm_ext_iff_of_nodup hnd (List.nodup_singleton r)).mpr
    fun a => by rw [hmem, List.mem_singleton])

theorem select_eq_nil {t : Table ρ υ key index} {p : ρ → Bool} :
    t.select p = [] ↔ ∀ r ∈ t, p r = false := by
  simp only [select, List.filter_eq_nil_iff, Bool.not_eq_true]
  rfl

/-- A row a condition selects alone is the only one that meets it. -/
theorem eq_of_select_length_one {t : Table ρ υ key index} {p : ρ → Bool}
    (h : (t.select p).length = 1) {a b : ρ} (ha : a ∈ t) (hpa : p a = true) (hb : b ∈ t)
    (hpb : p b = true) : a = b := by
  obtain ⟨c, hc⟩ := List.length_eq_one_iff.mp h
  have hac : a ∈ t.select p := mem_select.mpr ⟨ha, hpa⟩
  have hbc : b ∈ t.select p := mem_select.mpr ⟨hb, hpb⟩
  rw [hc, List.mem_singleton] at hac hbc
  rw [hac, hbc]

/-- A row that is not selected alone shares its condition with another row. -/
theorem exists_other_of_select_length {t : Table ρ υ key index} {p : ρ → Bool}
    (h : (t.select p).length ≠ 1) {a : ρ} (ha : a ∈ t) (hpa : p a = true) :
    ∃ b ∈ t, p b = true ∧ b ≠ a := by
  by_contra hno
  push Not at hno
  apply h
  have hnd : (t.select p).Nodup := t.nodup.filter _
  have : t.select p = [a] := List.perm_singleton.mp
    ((List.perm_ext_iff_of_nodup hnd (List.nodup_singleton a)).mpr fun b => by
      rw [mem_select, List.mem_singleton]
      exact ⟨fun hb => hno b hb.1 hb.2, fun hb => hb ▸ ⟨ha, hpa⟩⟩)
  rw [this, List.length_singleton]

section Ordered

variable {le : υ → υ → Prop} [DecidableRel le]

/-- The rows a condition selects, in an order of their index columns. -/
def selectBy (t : Table ρ υ key index) (le : υ → υ → Prop) [DecidableRel le] (p : ρ → Bool) :
    List ρ :=
  (t.select p).insertionSort fun a b => le (index a) (index b)

@[simp] theorem mem_selectBy {t : Table ρ υ key index} {p : ρ → Bool} {r : ρ} :
    r ∈ t.selectBy le p ↔ r ∈ t ∧ p r = true :=
  (List.mem_insertionSort _).trans mem_select

end Ordered

private theorem any_key {t : Table ρ υ key index} {k : Int} :
    (t.rows.any fun a => decide (key a = k)) = true ↔ ∃ b ∈ t, key b = k := by
  simp only [List.any_eq_true, decide_eq_true_eq]
  rfl

/-! ## Writing -/

/-- Delete the rows a condition selects. -/
def delete (t : Table ρ υ key index) (p : ρ → Bool) : Table ρ υ key index where
  rows := t.rows.filter fun r => !p r
  ascending := t.ascending.filter _
  indexed := t.indexed.filter _

@[simp] theorem mem_delete {t : Table ρ υ key index} {p : ρ → Bool} {r : ρ} :
    r ∈ t.delete p ↔ r ∈ t ∧ p r = false := by
  simp only [mem_iff, delete, List.mem_filter, Bool.not_eq_true']

/-- Place a row at its position in the key order. -/
def place (key : ρ → Int) (r : ρ) : List ρ → List ρ
  | [] => [r]
  | a :: rest => if key r < key a then r :: a :: rest else a :: place key r rest

@[simp] theorem mem_place {r a : ρ} {l : List ρ} : a ∈ place key r l ↔ a = r ∨ a ∈ l := by
  induction l with
  | nil => simp [place]
  | cons b rest ih =>
    simp only [place]
    split
    · simp only [List.mem_cons]
    · simp only [List.mem_cons, ih]
      tauto

/-- A row with a new key leaves the keys in order. -/
theorem pairwise_place_key {r : ρ} {l : List ρ} (hl : l.Pairwise fun a b => key a < key b)
    (hr : ∀ a ∈ l, key a ≠ key r) : (place key r l).Pairwise fun a b => key a < key b := by
  induction l with
  | nil => exact List.pairwise_singleton _ _
  | cons b rest ih =>
    obtain ⟨hb, hrest⟩ := List.pairwise_cons.mp hl
    simp only [place]
    split
    case isTrue h =>
      refine List.pairwise_cons.mpr ⟨fun a ha => ?_, hl⟩
      rcases List.mem_cons.mp ha with rfl | ha
      · exact h
      · exact h.trans (hb a ha)
    case isFalse h =>
      have hne := hr b List.mem_cons_self
      refine List.pairwise_cons.mpr ⟨fun a ha => ?_, ih hrest fun a ha => hr a (by simp [ha])⟩
      rcases mem_place.mp ha with rfl | ha
      · omega
      · exact hb a ha

/-- A row with new columns of the index leaves the index unique. -/
theorem pairwise_place_index {r : ρ} {l : List ρ} (hl : l.Pairwise fun a b => index a ≠ index b)
    (hr : ∀ a ∈ l, index a ≠ index r) :
    (place key r l).Pairwise fun a b => index a ≠ index b := by
  induction l with
  | nil => exact List.pairwise_singleton _ _
  | cons b rest ih =>
    obtain ⟨hb, hrest⟩ := List.pairwise_cons.mp hl
    simp only [place]
    split
    · exact List.pairwise_cons.mpr ⟨fun a ha => (hr a ha).symm, hl⟩
    · refine List.pairwise_cons.mpr ⟨fun a ha => ?_, ih hrest fun a ha => hr a (by simp [ha])⟩
      rcases mem_place.mp ha with rfl | ha
      · exact hr b List.mem_cons_self
      · exact hb a ha

/-- Change every row, where neither its key nor its index columns change. -/
def modify (t : Table ρ υ key index) (f : ρ → ρ) (hkey : ∀ r, key (f r) = key r)
    (hindex : ∀ r, index (f r) = index r) : Table ρ υ key index where
  rows := t.rows.map f
  ascending := List.pairwise_map.mpr (t.ascending.imp fun h => by rwa [hkey, hkey])
  indexed := List.pairwise_map.mpr (t.indexed.imp fun h => by rwa [hindex, hindex])

@[simp] theorem mem_modify {t : Table ρ υ key index} {f : ρ → ρ} {hkey : ∀ r, key (f r) = key r}
    {hindex : ∀ r, index (f r) = index r} {r : ρ} :
    r ∈ t.modify f hkey hindex ↔ ∃ a ∈ t, f a = r := List.mem_map

variable [DecidableEq υ]

/-- A stored row with the key, or with all index columns, of the given row. -/
def conflicts (t : Table ρ υ key index) (r : ρ) : Bool :=
  t.rows.any fun a => decide (key a = key r) || decide (index a = index r)

/-- A row without conflicts has a new key and new columns of the index. -/
theorem conflicts_eq_false {t : Table ρ υ key index} {r : ρ} :
    t.conflicts r = false ↔ ∀ a ∈ t, key a ≠ key r ∧ index a ≠ index r := by
  simp only [conflicts, List.any_eq_false, Bool.or_eq_true, decide_eq_true_eq, not_or]
  rfl

/-- Insert a row; the insertion is refused when it conflicts with a stored row. -/
def insert? (t : Table ρ υ key index) (r : ρ) : Option (Table ρ υ key index) :=
  if h : t.conflicts r = false then
    some {
      rows := place key r t.rows
      ascending := pairwise_place_key t.ascending fun a ha => (conflicts_eq_false.mp h a ha).1
      indexed := pairwise_place_index t.indexed fun a ha => (conflicts_eq_false.mp h a ha).2 }
  else none

/-- Update the row stored under a key to the given row; a key that is not stored
changes nothing, and a conflict with another row refuses the update. -/
def update? (t : Table ρ υ key index) (k : Int) (r : ρ) : Option (Table ρ υ key index) :=
  if t.rows.any fun a => decide (key a = k) then
    (t.delete fun a => decide (key a = k)).insert? r
  else some t

/-- An insertion succeeds exactly when no stored row has its key or its index columns. -/
theorem insert?_eq_none {t : Table ρ υ key index} {r : ρ} :
    t.insert? r = none ↔ ∃ a ∈ t, key a = key r ∨ index a = index r := by
  unfold insert?
  split
  case isTrue h =>
    simp only [reduceCtorEq, false_iff, not_exists, not_and, not_or]
    exact conflicts_eq_false.mp h
  case isFalse h =>
    rw [conflicts_eq_false] at h
    push Not at h
    simpa only [true_iff, ← or_iff_not_imp_left] using h

/-- The rows after an insertion that was not refused. -/
theorem mem_insert? {t t' : Table ρ υ key index} {r : ρ} (h : t.insert? r = some t') {a : ρ} :
    a ∈ t' ↔ a = r ∨ a ∈ t := by
  unfold insert? at h
  split at h
  · obtain rfl := Option.some.inj h
    exact mem_place
  · cases h

/-- A row under the next key with fresh index columns is always inserted. -/
theorem exists_insert? {t : Table ρ υ key index} {r : ρ} (hk : key r = t.nextKey)
    (hi : ∀ a ∈ t, index a ≠ index r) : ∃ t', t.insert? r = some t' := by
  cases h : t.insert? r with
  | some t' => exact ⟨t', rfl⟩
  | none =>
    obtain ⟨a, ha, hc⟩ := insert?_eq_none.mp h
    rcases hc with hc | hc
    · exact absurd (hc.trans hk) (key_ne_nextKey ha)
    · exact absurd hc (hi a ha)

/-- The rows after an update that keeps the key and was not refused. -/
theorem mem_update? {t t' : Table ρ υ key index} {k : Int} {r : ρ}
    (h : t.update? k r = some t') {a : ρ} :
    a ∈ t' ↔ (a = r ∧ ∃ b ∈ t, key b = k) ∨ (a ∈ t ∧ key a ≠ k) := by
  unfold update? at h
  split at h
  case isTrue hany =>
    rw [any_key] at hany
    rw [mem_insert? h, mem_delete, decide_eq_false_iff_not]
    simp only [hany, and_true]
  case isFalse hany =>
    obtain rfl := Option.some.inj h
    rw [any_key] at hany
    constructor
    · exact fun ha => Or.inr ⟨ha, fun hk => hany ⟨a, ha, hk⟩⟩
    · rintro (⟨rfl, hex⟩ | ⟨ha, _⟩)
      · exact absurd hex hany
      · exact ha

/-- An update that keeps the key is refused exactly when another row has the index columns. -/
theorem update?_eq_none {t : Table ρ υ key index} {k : Int} {r : ρ} (hk : key r = k) :
    t.update? k r = none ↔
      (∃ b ∈ t, key b = k) ∧ ∃ a ∈ t, key a ≠ k ∧ index a = index r := by
  unfold update?
  split
  case isTrue hany =>
    rw [any_key] at hany
    rw [insert?_eq_none]
    simp only [hany, true_and, mem_delete, decide_eq_false_iff_not, hk]
    constructor
    · rintro ⟨a, ⟨ha, hne⟩, he | he⟩
      · exact absurd he hne
      · exact ⟨a, ha, hne, he⟩
    · rintro ⟨a, ha, hne, he⟩
      exact ⟨a, ⟨ha, hne⟩, Or.inr he⟩
  case isFalse hany =>
    rw [any_key] at hany
    simp only [reduceCtorEq, hany, false_and]

end Table

end Library
