import Mathlib.Data.List.Infix
import Mathlib.Logic.Function.Basic
import DeviceProfile.Library.Program

/-!
# Schema changes of an SQL database

Tables with named columns, unique indexes, and the statements that create tables,
add columns, and create or drop unique indexes. A statement that fails changes
nothing. No statement loses a row or touches the columns a row had before.
-/

namespace Library

/-- A stored value. -/
inductive SqlValue where
  | null
  | integer (n : Int)
  | text (s : List Char)
  deriving DecidableEq, Repr

/-- How the values of a column are stored. -/
inductive Affinity where
  | integer
  | text
  | blob
  | real
  | numeric
  deriving DecidableEq, Repr

/-- The affinity of a declared type: the first rule whose words occur in it decides. -/
def affinity (declared : List Char) : Affinity :=
  if "INT".toList <:+: declared then .integer
  else if "CHAR".toList <:+: declared ∨ "CLOB".toList <:+: declared ∨
      "TEXT".toList <:+: declared then .text
  else if "BLOB".toList <:+: declared ∨ declared = [] then .blob
  else if "REAL".toList <:+: declared ∨ "FLOA".toList <:+: declared ∨
      "DOUB".toList <:+: declared then .real
  else .numeric

variable {ν κ ι ε : Type}

/-- A column as it is declared; rows that are there already get its default. -/
structure Column (κ : Type) where
  name : κ
  declared : List Char
  primaryKey : Bool := false
  default : SqlValue := .null

/-- What distinguishes two columns of a schema. -/
def Column.shape (c : Column κ) : κ × Affinity × Bool := (c.name, affinity c.declared, c.primaryKey)

/-- A row gives each column a value; columns the table does not have play no role. -/
abbrev SqlRow (κ : Type) := κ → SqlValue

/-- The columns and rows of one table. -/
structure SqlTable (κ : Type) where
  columns : List (Column κ)
  rows : List (SqlRow κ) := []

/-- The table and the columns of a unique index. -/
structure UniqueIndex (ν κ : Type) where
  table : ν
  columns : List κ
  deriving DecidableEq, Repr

/-- The tables and the unique indexes by their names. -/
structure Database (ν κ ι : Type) where
  tables : ν → Option (SqlTable κ) := fun _ => none
  indexes : ι → Option (UniqueIndex ν κ) := fun _ => none

/-- Two rows agree on all the columns, where a missing value agrees with nothing. -/
def Collide (columns : List κ) (a b : SqlRow κ) : Prop := ∀ c ∈ columns, a c = b c ∧ a c ≠ .null

instance (columns : List κ) (a b : SqlRow κ) : Decidable (Collide columns a b) :=
  inferInstanceAs (Decidable (∀ c ∈ columns, _))

/-- No two rows agree on all the columns. -/
def UniqueOn (columns : List κ) (rows : List (SqlRow κ)) : Prop :=
  rows.Pairwise fun a b => ¬Collide columns a b

instance (columns : List κ) (rows : List (SqlRow κ)) : Decidable (UniqueOn columns rows) :=
  inferInstanceAs (Decidable (rows.Pairwise _))

namespace SqlTable

/-- The names of the columns. -/
def names (t : SqlTable κ) : List κ := t.columns.map Column.name

end SqlTable

/-! ## What a schema change keeps -/

/-- The old columns are still the first ones, and every row is still there with its values
in them. -/
structure SqlTable.Extends (t t' : SqlTable κ) : Prop where
  columns : t.columns <+: t'.columns
  rows : ∃ f : SqlRow κ → SqlRow κ, t'.rows = t.rows.map f ∧ ∀ r, ∀ c ∈ t.names, f r c = r c

namespace SqlTable

theorem Extends.refl (t : SqlTable κ) : t.Extends t :=
  ⟨List.prefix_rfl, id, (List.map_id _).symm, fun _ _ _ => rfl⟩

theorem Extends.trans {t t' t'' : SqlTable κ} (h : t.Extends t') (h' : t'.Extends t'') :
    t.Extends t'' := by
  obtain ⟨f, hf, hold⟩ := h.rows
  obtain ⟨g, hg, hold'⟩ := h'.rows
  refine ⟨h.columns.trans h'.columns, g ∘ f, ?_, fun r c hc => ?_⟩
  · rw [hg, hf, List.map_map]
  · have hc' : c ∈ t'.names := (h.columns.map Column.name).subset hc
    rw [Function.comp_apply, hold' (f r) c hc', hold r c hc]

end SqlTable

/-- Every table is still there and extends the old one. -/
def Database.Keeps (db db' : Database ν κ ι) : Prop :=
  ∀ table t, db.tables table = some t → ∃ t', db'.tables table = some t' ∧ t.Extends t'

theorem Database.Keeps.refl (db : Database ν κ ι) : db.Keeps db :=
  fun _ t h => ⟨t, h, .refl t⟩

theorem Database.Keeps.trans (a b c : Database ν κ ι) (hab : a.Keeps b) (hbc : b.Keeps c) :
    a.Keeps c := by
  intro table t h
  obtain ⟨t', h', hext⟩ := hab table t h
  obtain ⟨t'', h'', hext'⟩ := hbc table t' h'
  exact ⟨t'', h'', hext.trans hext'⟩

/-! ## Adding columns -/

namespace SqlTable

variable [DecidableEq κ]

/-- Add a column; every row gets the default. -/
def addColumn (t : SqlTable κ) (column : Column κ) : SqlTable κ where
  columns := t.columns ++ [column]
  rows := t.rows.map fun r => Function.update r column.name column.default

/-- Add columns one after the other. -/
def addColumns (t : SqlTable κ) (columns : List (Column κ)) : SqlTable κ :=
  columns.foldl addColumn t

end SqlTable

/-! ## Statements -/

/-- The statements of a schema change. -/
inductive Statement (ν κ ι : Type) where
  /-- `CREATE TABLE IF NOT EXISTS`. -/
  | createTable (table : ν) (columns : List (Column κ))
  /-- `ALTER TABLE ... ADD COLUMN`. -/
  | addColumn (table : ν) (column : Column κ)
  /-- `CREATE UNIQUE INDEX IF NOT EXISTS`. -/
  | createUniqueIndex (name : ι) (index : UniqueIndex ν κ)
  /-- `DROP INDEX`. -/
  | dropIndex (name : ι)

variable [DecidableEq ν] [DecidableEq κ] [DecidableEq ι]

/-- The table has the columns of the index, and no two of its rows agree on them. -/
def SqlTable.Indexable (t : SqlTable κ) (columns : List κ) : Prop :=
  (∀ c ∈ columns, c ∈ t.names) ∧ UniqueOn columns t.rows

instance (t : SqlTable κ) (columns : List κ) : Decidable (t.Indexable columns) :=
  inferInstanceAs (Decidable (_ ∧ _))

namespace Statement

/-- The database after a statement, none when the statement fails. -/
def exec : Statement ν κ ι → Database ν κ ι → Option (Database ν κ ι)
  | createTable table columns, db =>
    if (db.tables table).isSome then some db
    else some { db with tables := Function.update db.tables table (some { columns }) }
  | addColumn table column, db =>
    match db.tables table with
    | none => none
    | some t =>
      if column.name ∈ t.names then none
      else some
        { db with tables := Function.update db.tables table (some (t.addColumn column)) }
  | createUniqueIndex name index, db =>
    if (db.indexes name).isSome then some db
    else
      match db.tables index.table with
      | none => none
      | some t =>
        if t.Indexable index.columns then
          some { db with indexes := Function.update db.indexes name (some index) }
        else none
  | dropIndex name, db =>
    if (db.indexes name).isSome then
      some { db with indexes := Function.update db.indexes name none }
    else none

end Statement

/-! ## Every statement keeps the rows -/

namespace SqlTable

/-- A column under a new name touches no old value. -/
theorem extends_addColumn (t : SqlTable κ) {column : Column κ} (h : column.name ∉ t.names) :
    t.Extends (t.addColumn column) := by
  refine ⟨List.prefix_append _ _, _, rfl, fun r c hc => ?_⟩
  have hne : c ≠ column.name := fun he => h (he ▸ hc)
  rw [Function.update_of_ne hne]

end SqlTable

omit [DecidableEq κ] [DecidableEq ι] in
/-- A table that is replaced by one that extends it keeps the database. -/
theorem Database.keeps_update {db : Database ν κ ι} {table : ν} {t t' : SqlTable κ}
    (h : db.tables table = some t) (hext : t.Extends t') :
    db.Keeps { db with tables := Function.update db.tables table (some t') } := by
  intro other x hx
  by_cases ho : other = table
  · subst ho
    obtain rfl : t = x := Option.some.inj (h.symm.trans hx)
    exact ⟨t', Function.update_self _ _ _, hext⟩
  · exact ⟨x, (Function.update_of_ne ho _ _).trans hx, .refl x⟩

/-- No statement loses a row or changes an old column. -/
theorem Statement.keeps_exec {s : Statement ν κ ι} {db db' : Database ν κ ι}
    (h : s.exec db = some db') : db.Keeps db' := by
  cases s with
  | createTable table columns =>
    simp only [exec] at h
    split at h
    · rw [← Option.some.inj h]
      exact .refl db
    · rename_i hnone
      rw [← Option.some.inj h]
      intro other x hx
      have ho : other ≠ table := by
        rintro rfl
        exact hnone (by rw [hx]; rfl)
      exact ⟨x, (Function.update_of_ne ho _ _).trans hx, .refl x⟩
  | addColumn table column =>
    simp only [exec] at h
    split at h
    · cases h
    · rename_i t ht
      split at h
      · cases h
      · rename_i hnew
        rw [← Option.some.inj h]
        exact Database.keeps_update ht (t.extends_addColumn hnew)
  | createUniqueIndex name index =>
    simp only [exec] at h
    split at h
    · rw [← Option.some.inj h]
      exact .refl db
    · split at h
      · cases h
      · split at h
        · rw [← Option.some.inj h]
          exact .refl db
        · cases h
  | dropIndex name =>
    simp only [exec] at h
    split at h
    · rw [← Option.some.inj h]
      exact .refl db
    · cases h

/-! ## Programs of statements -/

/-- Execute one statement; the error code is returned when it fails. -/
def executeSql (s : Statement ν κ ι) (err : ε) : Prog ε (Database ν κ ι) Unit :=
  .step (fun db => (s.exec db).getD db) fun db =>
    if (s.exec db).isSome then .ret () else .fail err

/-- Execute statements in order, up to the first one that fails. -/
def executeAll (err : ε) : List (Statement ν κ ι) → Prog ε (Database ν κ ι) Unit
  | [] => .ret ()
  | s :: rest => do
    executeSql s err
    executeAll err rest

theorem executeSql_ok {s : Statement ν κ ι} {db db' : Database ν κ ι} (h : s.exec db = some db')
    (err : ε) : (executeSql s err).exec db = (.ok (), db') := by
  simp only [executeSql, Prog.exec_step, h, Option.isSome_some, if_true, Option.getD_some,
    Prog.exec_ret]

theorem executeSql_error {s : Statement ν κ ι} {db : Database ν κ ι} (h : s.exec db = none)
    (err : ε) : (executeSql s err).exec db = (.error err, db) := by
  simp only [executeSql, Prog.exec_step, h, Option.isSome_none, Bool.false_eq_true, if_false,
    Option.getD_none, Prog.exec_fail]

/-- A statement loses no table and no column. -/
theorem keeps_executeSql (s : Statement ν κ ι) (err : ε) :
    (executeSql s err).Steps Database.Keeps := by
  intro db
  constructor
  · change db.Keeps ((s.exec db).getD db)
    cases h : s.exec db with
    | none => exact .refl db
    | some db' => exact Statement.keeps_exec h
  · change (if (s.exec db).isSome then (.ret () : Prog ε (Database ν κ ι) Unit)
      else .fail err).Steps Database.Keeps
    split <;> trivial

/-- Statements in a row lose no table and no column. -/
theorem keeps_executeAll (err : ε) (l : List (Statement ν κ ι)) :
    (executeAll err l).Steps Database.Keeps := by
  induction l with
  | nil => trivial
  | cons s rest ih => exact Prog.steps_bind (keeps_executeSql s err) fun _ => ih

/-! ## Adding columns -/

namespace SqlTable

theorem columns_addColumns (t : SqlTable κ) (columns : List (Column κ)) :
    (t.addColumns columns).columns = t.columns ++ columns := by
  induction columns generalizing t with
  | nil => rw [addColumns, List.foldl_nil, List.append_nil]
  | cons c rest ih =>
    rw [addColumns, List.foldl_cons, ← addColumns, ih, addColumn, List.append_assoc]
    rfl

/-- A row with the defaults of the added columns. -/
def withDefaults (columns : List (Column κ)) (r : SqlRow κ) : SqlRow κ :=
  columns.foldl (fun r c => Function.update r c.name c.default) r

theorem rows_addColumns (t : SqlTable κ) (columns : List (Column κ)) :
    (t.addColumns columns).rows = t.rows.map (withDefaults columns) := by
  induction columns generalizing t with
  | nil =>
    rw [addColumns, List.foldl_nil]
    exact (List.map_id _).symm
  | cons c rest ih =>
    rw [addColumns, List.foldl_cons, ← addColumns, ih, addColumn, List.map_map]
    rfl

theorem withDefaults_of_not_mem {columns : List (Column κ)} {c : κ}
    (h : c ∉ columns.map Column.name) (r : SqlRow κ) : withDefaults columns r c = r c := by
  induction columns generalizing r with
  | nil => rfl
  | cons d rest ih =>
    rw [List.map_cons, List.mem_cons, not_or] at h
    rw [withDefaults, List.foldl_cons, ← withDefaults, ih h.2, Function.update_of_ne h.1]

/-- An added column has its default in every row. -/
theorem withDefaults_of_mem {columns : List (Column κ)} {c : κ}
    (h : c ∈ columns.map Column.name) :
    ∃ d ∈ columns, ∀ r : SqlRow κ, withDefaults columns r c = d.default := by
  induction columns with
  | nil => cases h
  | cons d rest ih =>
    by_cases hrest : c ∈ rest.map Column.name
    · obtain ⟨e, he, hdefault⟩ := ih hrest
      exact ⟨e, List.mem_cons_of_mem _ he, fun r => hdefault _⟩
    · have hc : c = d.name := by
        rw [List.map_cons, List.mem_cons] at h
        exact h.resolve_right hrest
      refine ⟨d, List.mem_cons_self, fun r => ?_⟩
      rw [withDefaults, List.foldl_cons, ← withDefaults, withDefaults_of_not_mem hrest, hc,
        Function.update_self]

end SqlTable

/-- Columns that were added with a default make no two rows differ. -/
theorem collide_withDefaults {added : List (Column κ)} (hnull : ∀ d ∈ added, d.default ≠ .null)
    (columns : List κ) (a b : SqlRow κ) :
    Collide columns (SqlTable.withDefaults added a) (SqlTable.withDefaults added b) ↔
      Collide (columns.filter (· ∉ added.map Column.name)) a b := by
  constructor
  · intro h c hc
    obtain ⟨hmem, hnew⟩ := List.mem_filter.mp hc
    have hc' := h c hmem
    rwa [SqlTable.withDefaults_of_not_mem (of_decide_eq_true hnew),
      SqlTable.withDefaults_of_not_mem (of_decide_eq_true hnew)] at hc'
  · intro h c hc
    by_cases hnew : c ∈ added.map Column.name
    · obtain ⟨d, hd, hdefault⟩ := SqlTable.withDefaults_of_mem hnew
      rw [hdefault, hdefault]
      exact ⟨rfl, hnull d hd⟩
    · rw [SqlTable.withDefaults_of_not_mem hnew, SqlTable.withDefaults_of_not_mem hnew]
      exact h c (List.mem_filter.mpr ⟨hc, decide_eq_true hnew⟩)

/-- The extended rows are unique exactly when the old ones are on the other columns. -/
theorem uniqueOn_withDefaults {added : List (Column κ)}
    (hnull : ∀ d ∈ added, d.default ≠ .null) (columns : List κ) (rows : List (SqlRow κ)) :
    UniqueOn columns (rows.map (SqlTable.withDefaults added)) ↔
      UniqueOn (columns.filter (· ∉ added.map Column.name)) rows := by
  simp only [UniqueOn, List.pairwise_map, collide_withDefaults hnull]

/-- Columns under new and distinct names are all added. -/
theorem exec_addColumns {db : Database ν κ ι} {table : ν} {t : SqlTable κ}
    {columns : List (Column κ)} (h : db.tables table = some t)
    (hnew : (t.names ++ columns.map Column.name).Nodup) (err : ε) :
    (executeAll err (columns.map (.addColumn table))).exec db =
      (.ok (), { db with
        tables := Function.update db.tables table (some (t.addColumns columns)) }) := by
  induction columns generalizing db t with
  | nil =>
    rw [SqlTable.addColumns, List.foldl_nil, ← h, Function.update_eq_self]
    rfl
  | cons c rest ih =>
    have hc : c.name ∉ t.names := by
      intro hmem
      exact (List.nodup_append.mp hnew).2.2 _ hmem _ List.mem_cons_self rfl
    have hfirst : (Statement.addColumn table c : Statement ν κ ι).exec db = some
        { db with tables := Function.update db.tables table (some (t.addColumn c)) } := by
      simp only [Statement.exec, h, if_neg hc]
    have hrest : ((t.addColumn c).names ++ rest.map Column.name).Nodup := by
      rw [SqlTable.names, SqlTable.addColumn, List.map_append, List.append_assoc]
      exact hnew
    rw [List.map_cons, executeAll, Prog.exec_bind_ok (executeSql_ok hfirst err),
      ih (Function.update_self _ _ _) hrest, Function.update_idem]
    rfl

/-- Add columns to every table. -/
def Database.extend (db : Database ν κ ι) (added : ν → List (Column κ)) : Database ν κ ι :=
  { db with tables := fun name => (db.tables name).map (·.addColumns (added name)) }

omit [DecidableEq ν] [DecidableEq ι] in
/-- The columns of a table of an extended database. -/
theorem Database.columns_extend {db : Database ν κ ι} {added : ν → List (Column κ)} {name : ν}
    {columns : List (Column κ)} (h : (db.tables name).map SqlTable.columns = some columns) :
    ((db.extend added).tables name).map SqlTable.columns = some (columns ++ added name) := by
  obtain ⟨t, ht, rfl⟩ := Option.map_eq_some_iff.mp h
  simp only [extend, ht, Option.map_some, SqlTable.columns_addColumns]

omit [DecidableEq ν] [DecidableEq ι] in
/-- Two extensions are one. -/
theorem Database.extend_extend (db : Database ν κ ι) (added added' : ν → List (Column κ)) :
    (db.extend added).extend added' = db.extend fun name => added name ++ added' name := by
  refine congrArg (Database.mk · db.indexes) (funext fun name => ?_)
  simp only [extend, Option.map_map, SqlTable.addColumns, List.foldl_append]
  rfl

/-- Add columns to one table only. -/
def Database.onlyFor (name : ν) (columns : List (Column κ)) (other : ν) : List (Column κ) :=
  if other = name then columns else []

/-- Columns under new and distinct names extend their table. -/
theorem exec_addColumns_extend {db : Database ν κ ι} {table : ν} {old columns : List (Column κ)}
    (h : (db.tables table).map SqlTable.columns = some old)
    (hnew : ((old ++ columns).map Column.name).Nodup) (err : ε) :
    (executeAll err (columns.map (.addColumn table))).exec db =
      (.ok (), db.extend (Database.onlyFor table columns)) := by
  obtain ⟨t, ht, rfl⟩ := Option.map_eq_some_iff.mp h
  rw [List.map_append] at hnew
  rw [exec_addColumns ht hnew]
  refine congrArg (Prod.mk _) (congrArg (Database.mk · db.indexes) (funext fun name => ?_))
  by_cases hname : name = table
  · subst hname
    simp only [Function.update_self, Database.onlyFor, if_true, ht, Option.map_some]
  · simp only [Function.update_of_ne hname, Database.onlyFor, if_neg hname,
      SqlTable.addColumns, List.foldl_nil, Option.map_id']

/-! ## Altering one table -/

/-- The name of a column and its type as it is declared. -/
def Column.signature (c : Column κ) : κ × List Char := (c.name, c.declared)

/-- What an `ALTER TABLE` does to its table. -/
inductive Alteration (κ : Type) where
  /-- `ADD COLUMN`. -/
  | addColumn (column : Column κ)
  /-- `RENAME COLUMN`. -/
  | renameColumn (old new : κ)

/-- The name of a column after an alteration. -/
def Alteration.rename : Alteration κ → κ → κ
  | addColumn _, c => c
  | renameColumn old new, c => if c = old then new else c

/-- The columns after an alteration, by name and type. -/
def Alteration.signatures (a : Alteration κ) (columns : List (κ × List Char)) :
    List (κ × List Char) :=
  match a with
  | addColumn column => columns ++ [column.signature]
  | renameColumn _ _ => columns.map fun c => (a.rename c.1, c.2)

/-- The new name is not taken, and a column that is renamed is there. -/
def Alteration.Fits (a : Alteration κ) (columns : List (κ × List Char)) : Prop :=
  match a with
  | addColumn column => column.name ∉ columns.map Prod.fst
  | renameColumn old new => old ∈ columns.map Prod.fst ∧ new ∉ columns.map Prod.fst

instance (a : Alteration κ) (columns : List (κ × List Char)) : Decidable (a.Fits columns) :=
  match a with
  | .addColumn _ => inferInstanceAs (Decidable (_ ∉ _))
  | .renameColumn _ _ => inferInstanceAs (Decidable (_ ∧ _))

namespace SqlTable

/-- The columns by name and type. -/
def signatures (t : SqlTable κ) : List (κ × List Char) := t.columns.map Column.signature

/-- Give a column another name; its values move with it. -/
def renameColumn (t : SqlTable κ) (old new : κ) : SqlTable κ where
  columns := t.columns.map fun c => { c with name := if c.name = old then new else c.name }
  rows := t.rows.map fun r => Function.update r new (r old)

/-- The table after an alteration. -/
def alter (t : SqlTable κ) : Alteration κ → SqlTable κ
  | .addColumn column => t.addColumn column
  | .renameColumn old new => t.renameColumn old new

/-- Every row is still there, with its old values under the new names of their columns. -/
def Carries (rename : κ → κ) (t t' : SqlTable κ) : Prop :=
  ∃ f : SqlRow κ → SqlRow κ, t'.rows = t.rows.map f ∧ ∀ r, ∀ c ∈ t.names, f r (rename c) = r c

omit [DecidableEq κ] in
theorem names_eq_map_signatures (t : SqlTable κ) : t.names = t.signatures.map Prod.fst := by
  rw [names, signatures, List.map_map]
  rfl

/-- An alteration is one of the signatures. -/
theorem signatures_alter (t : SqlTable κ) (a : Alteration κ) :
    (t.alter a).signatures = a.signatures t.signatures := by
  cases a with
  | addColumn column =>
    rw [alter, signatures, addColumn, List.map_append]
    rfl
  | renameColumn old new =>
    rw [alter, signatures, renameColumn, List.map_map, Alteration.signatures, signatures,
      List.map_map]
    rfl

omit [DecidableEq κ] in
theorem Carries.refl (t : SqlTable κ) : t.Carries id t :=
  ⟨id, (List.map_id _).symm, fun _ _ _ => rfl⟩

omit [DecidableEq κ] in
theorem Carries.trans {rename rename' : κ → κ} {t t' t'' : SqlTable κ} (h : t.Carries rename t')
    (h' : t'.Carries rename' t'') (hnames : ∀ c ∈ t.names, rename c ∈ t'.names) :
    t.Carries (rename' ∘ rename) t'' := by
  obtain ⟨f, hrows, hvalues⟩ := h
  obtain ⟨f', hrows', hvalues'⟩ := h'
  refine ⟨f' ∘ f, ?_, fun r c hc => ?_⟩
  · rw [hrows', hrows, List.map_map]
  · exact (hvalues' (f r) (rename c) (hnames c hc)).trans (hvalues r c hc)

/-- An alteration that fits carries the rows. -/
theorem carries_alter {t : SqlTable κ} {a : Alteration κ} (h : a.Fits t.signatures) :
    t.Carries a.rename (t.alter a) := by
  cases a with
  | addColumn column =>
    rw [Alteration.Fits, ← names_eq_map_signatures] at h
    refine ⟨_, rfl, fun r c hc => ?_⟩
    have hne : c ≠ column.name := fun he => h (he ▸ hc)
    exact Function.update_of_ne hne _ _
  | renameColumn old new =>
    rw [Alteration.Fits, ← names_eq_map_signatures] at h
    refine ⟨_, rfl, fun r c hc => ?_⟩
    rw [Alteration.rename]
    split
    · rename_i hold
      rw [Function.update_self, hold]
    · have hne : c ≠ new := fun he => h.2 (he ▸ hc)
      exact Function.update_of_ne hne _ _

/-- The columns of a table are found under their new names. -/
theorem rename_mem_names_alter {t : SqlTable κ} (a : Alteration κ) {c : κ} (h : c ∈ t.names) :
    a.rename c ∈ (t.alter a).names := by
  rw [names_eq_map_signatures] at h
  obtain ⟨x, hx, rfl⟩ := List.mem_map.mp h
  rw [names_eq_map_signatures, signatures_alter]
  cases a with
  | addColumn column => exact List.mem_map.mpr ⟨x, List.mem_append_left _ hx, rfl⟩
  | renameColumn old new =>
    exact List.mem_map.mpr ⟨_, List.mem_map.mpr ⟨x, hx, rfl⟩, rfl⟩

end SqlTable

/-- Tables with the same columns, in any order, have the same ones after an alteration. -/
theorem Alteration.signatures_perm {columns columns' : List (κ × List Char)} (a : Alteration κ)
    (h : columns.Perm columns') : (a.signatures columns).Perm (a.signatures columns') := by
  cases a with
  | addColumn column => exact h.append_right _
  | renameColumn old new => exact h.map _

omit [DecidableEq κ] in
/-- Whether an alteration fits does not depend on the order of the columns. -/
theorem Alteration.fits_iff_of_perm {columns columns' : List (κ × List Char)} (a : Alteration κ)
    (h : columns.Perm columns') : a.Fits columns ↔ a.Fits columns' := by
  have hnames : ∀ c, c ∈ columns.map Prod.fst ↔ c ∈ columns'.map Prod.fst :=
    fun c => (h.map Prod.fst).mem_iff
  cases a with
  | addColumn column => exact not_congr (hnames column.name)
  | renameColumn old new => exact and_congr (hnames old) (not_congr (hnames new))

/-- An `ALTER TABLE` statement; it fails when there is no such table or it does not fit. -/
def Database.alter (db : Database ν κ ι) (table : ν) (a : Alteration κ) :
    Option (Database ν κ ι) :=
  match db.tables table with
  | none => none
  | some t =>
    if a.Fits t.signatures then
      some { db with tables := Function.update db.tables table (some (t.alter a)) }
    else none

/-! ## Comparing schemas -/

/-- Both tables have the same columns, in any order. -/
def SqlTable.SameColumns (t t' : SqlTable κ) : Prop :=
  (t.columns.map Column.shape).Perm (t'.columns.map Column.shape)

/-- Both databases have the same tables with the same columns, and the same unique indexes. -/
structure Database.SameSchema (db db' : Database ν κ ι) : Prop where
  tables : ∀ table, Option.Rel SqlTable.SameColumns (db.tables table) (db'.tables table)
  indexes : ∀ name, db.indexes name = db'.indexes name

end Library
