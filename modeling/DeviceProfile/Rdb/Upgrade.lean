import DeviceProfile.Rdb.OpenCallback

/-!
# What an upgrade leaves behind

No callback loses a row. Both upgrade steps rebuild the party indexes with the SQL of
version 3. At version 2 the new columns have one default in all rows, so the rebuild
succeeds exactly for rows that differ in the other index columns. From version 1 the
first step drops both indexes and creates none, and the second step stops at the first
`DROP INDEX`.
-/

namespace DeviceProfile

open Library Prog

variable {db : RdbStore}

/-! ## No row is lost -/

/-- No step of an upgrade loses a table or a column. -/
theorem keeps_onUpgrade (oldVersion newVersion : Int) :
    (onUpgrade oldVersion newVersion).Steps Database.Keeps := by
  have hadd : ∀ name columns, (addColumns name columns).Steps Database.Keeps :=
    fun name columns => keeps_executeAll _ _
  have hrebuild : dropAndRebuildIndex.Steps Database.Keeps := keeps_executeAll _ _
  have hone : (upgradeVersionOneToTwo.getD ()).Steps Database.Keeps :=
    steps_getD (steps_bind (hadd _ _) fun _ => steps_bind (hadd _ _) fun _ => hrebuild) ()
  have htwo : (upgradeVersionTwoToThree.getD ()).Steps Database.Keeps :=
    steps_getD (steps_bind (hadd _ _) fun _ => steps_bind (hadd _ _) fun _ =>
      steps_bind (hadd _ _) fun _ => hrebuild) ()
  have hskip : (pure () : RdbProg Unit).Steps Database.Keeps := trivial
  unfold onUpgrade
  split <;> split <;> split <;>
    repeat' first
      | exact hone
      | exact htwo
      | exact hskip
      | refine steps_bind ?_ fun _ => ?_

/-- An upgrade keeps every row, whatever versions it is called with. -/
theorem keeps_exec_onUpgrade (oldVersion newVersion : Int) (db : RdbStore) :
    db.Keeps ((onUpgrade oldVersion newVersion).exec db).2 :=
  (keeps_onUpgrade oldVersion newVersion).exec .refl .trans db

/-! ## The fresh database -/

/-- The creation, run on nothing, gives the fresh database. -/
theorem exec_onCreate : onCreate.exec {} = (.ok (), freshStore) := rfl

@[simp] theorem tables_freshStore (name : RdbName) :
    freshStore.tables name = some { columns := tableColumns name } := by
  rcases name with _ | _ | (_ | _) <;> rfl

@[simp] theorem indexes_freshStore (name : RdbName) :
    freshStore.indexes name = some (uniqueIndex name) := by
  rcases name with _ | _ | (_ | _) <;> rfl

/-! ## Rebuilding the party indexes -/

/-- The rebuild stops at once when the accesser index is not there. -/
theorem exec_dropAndRebuildIndex_of_missing (h : db.indexes (.party .accesser) = none) :
    dropAndRebuildIndex.exec db = (.error .createTableFail, db) := by
  have hdrop : (Statement.dropIndex (.party .accesser) : RdbStatement).exec db = none := by
    simp only [Statement.exec, h, Option.isSome_none, Bool.false_eq_true, if_false]
  rw [dropAndRebuildIndex, executeAll, exec_bind_error (executeSql_error hdrop _)]

/-- The database without the party indexes. -/
def withoutPartyIndexes (db : RdbStore) : RdbStore :=
  { db with
    indexes := fun
      | .party _ => none
      | name => db.indexes name }

/-- The database with only the accesser index of version 3. -/
def withAccesserIndex (db : RdbStore) : RdbStore :=
  { db with
    indexes := fun
      | .party .accesser => some (uniqueIndex (.party .accesser))
      | .party .accessee => none
      | name => db.indexes name }

/-- The database with the party indexes of version 3. -/
def withPartyIndexes (db : RdbStore) : RdbStore :=
  { db with
    indexes := fun
      | .party role => some (uniqueIndex (.party role))
      | name => db.indexes name }

/-- With both old indexes there, the rebuild comes down to creating the new ones. -/
theorem exec_dropAndRebuildIndex (h : ∀ role, (db.indexes (.party role)).isSome) :
    dropAndRebuildIndex.exec db =
      (executeAll .createTableFail [createUniqueIndexSql (.party .accesser),
        createUniqueIndexSql (.party .accessee)]).exec (withoutPartyIndexes db) := by
  have hacer : (Statement.dropIndex (.party .accesser) : RdbStatement).exec db = some
      { db with indexes := Function.update db.indexes (.party .accesser) none } := by
    simp only [Statement.exec, h, if_true]
  have hacee : (Statement.dropIndex (.party .accessee) : RdbStatement).exec
      { db with indexes := Function.update db.indexes (.party .accesser) none } =
        some (withoutPartyIndexes db) := by
    simp only [Statement.exec]
    rw [if_pos (by simp only [ne_eq, RdbName.party.injEq, reduceCtorEq, not_false_eq_true,
      Function.update_of_ne, h])]
    refine congrArg some (congrArg (Database.mk db.tables) (funext fun name => ?_))
    rcases name with _ | _ | (_ | _) <;> rfl
  rw [dropAndRebuildIndex, executeAll, exec_bind_ok (executeSql_ok hacer _), executeAll,
    exec_bind_ok (executeSql_ok hacee _)]

/-- A missing index is created where the rows of its table allow it. -/
theorem exec_createUniqueIndexSql (store : RdbStore) {name : RdbName} {t : SqlTable RdbColumn}
    (hmissing : store.indexes name = none) (ht : store.tables name = some t) :
    (createUniqueIndexSql name).exec store =
      if t.Indexable (indexColumns name) then
        some { store with
          indexes := Function.update store.indexes name (some (uniqueIndex name)) }
      else none := by
  simp only [createUniqueIndexSql, uniqueIndex, Statement.exec, hmissing, ht,
    Option.isSome_none, Bool.false_eq_true, if_false]

variable {tables : Role → SqlTable RdbColumn}

/-- The accesser index is rebuilt first; the rows of a table decide whether it gets one. -/
theorem exec_dropAndRebuildIndex_cases (h : ∀ role, (db.indexes (.party role)).isSome)
    (htables : ∀ role, db.tables (.party role) = some (tables role)) :
    dropAndRebuildIndex.exec db =
      if (tables .accesser).Indexable partyIndexColumns then
        if (tables .accessee).Indexable partyIndexColumns then
          (.ok (), withPartyIndexes db)
        else (.error .createTableFail, withAccesserIndex db)
      else (.error .createTableFail, withoutPartyIndexes db) := by
  have hacer := exec_createUniqueIndexSql (withoutPartyIndexes db) rfl (htables .accesser)
  have hacee := exec_createUniqueIndexSql (withAccesserIndex db) rfl (htables .accessee)
  have hbetween : { withoutPartyIndexes db with
      indexes := Function.update (withoutPartyIndexes db).indexes (.party .accesser)
        (some (uniqueIndex (.party .accesser))) } = withAccesserIndex db := by
    refine congrArg (Database.mk db.tables) (funext fun name => ?_)
    rcases name with _ | _ | (_ | _) <;> rfl
  have hboth : { withAccesserIndex db with
      indexes := Function.update (withAccesserIndex db).indexes (.party .accessee)
        (some (uniqueIndex (.party .accessee))) } = withPartyIndexes db := by
    refine congrArg (Database.mk db.tables) (funext fun name => ?_)
    rcases name with _ | _ | (_ | _) <;> rfl
  rw [hbetween, indexColumns] at hacer
  rw [hboth, indexColumns] at hacee
  rw [exec_dropAndRebuildIndex h, executeAll]
  split
  · rename_i hfirst
    rw [if_pos hfirst] at hacer
    rw [exec_bind_ok (executeSql_ok hacer _), executeAll]
    split
    · rename_i hsecond
      rw [if_pos hsecond] at hacee
      rw [exec_bind_ok (executeSql_ok hacee _), executeAll, exec_ret]
    · rename_i hsecond
      rw [if_neg hsecond] at hacee
      rw [exec_bind_error (executeSql_error hacee _)]
  · rename_i hfirst
    rw [if_neg hfirst] at hacer
    rw [exec_bind_error (executeSql_error hacer _)]

/-! ## The columns along an upgrade -/

/-- The columns the first upgrade step adds to each table. -/
def addedOneToTwo : RdbName → List (Column RdbColumn)
  | .party _ => partyColumnsOneToTwo
  | _ => []

/-- The columns the second upgrade step adds to each table. -/
def addedTwoToThree : RdbName → List (Column RdbColumn)
  | .trustDevice => []
  | .accessControl => aclColumnsTwoToThree
  | .party _ => partyColumnsTwoToThree

/-- Each table has the given columns. -/
def HasColumns (columns : RdbName → List (Column RdbColumn)) (db : RdbStore) : Prop :=
  ∀ name, (db.tables name).map SqlTable.columns = some (columns name)

theorem HasColumns.extend {columns : RdbName → List (Column RdbColumn)}
    (h : HasColumns columns db) (added : RdbName → List (Column RdbColumn)) :
    HasColumns (fun name => columns name ++ added name) (db.extend added) :=
  fun name => Database.columns_extend (h name)

/-- After columns under new names are added, the program continues. -/
theorem exec_addColumns_bind {columns : RdbName → List (Column RdbColumn)} {name : RdbName}
    {added : List (Column RdbColumn)} (h : HasColumns columns db)
    (hnew : ((columns name ++ added).map Column.name).Nodup) (next : Unit → RdbProg Unit) :
    (addColumns name added >>= next).exec db =
      (next ()).exec (db.extend (Database.onlyFor name added)) :=
  exec_bind_ok (exec_addColumns_extend (h name) hnew _) next

/-- The first step adds its columns to both party tables and turns to the indexes. -/
theorem exec_upgradeVersionOneToTwo (h : HasColumns (columnsAt RDB_VERSION) db) :
    upgradeVersionOneToTwo.exec db = dropAndRebuildIndex.exec (db.extend addedOneToTwo) := by
  have hadded : (fun name => Database.onlyFor (.party .accesser) partyColumnsOneToTwo name ++
      Database.onlyFor (.party .accessee) partyColumnsOneToTwo name) = addedOneToTwo := by
    funext name
    rcases name with _ | _ | (_ | _) <;> rfl
  rw [upgradeVersionOneToTwo, addAcerColumnOneToTwo, exec_addColumns_bind h (by decide),
    addAceeColumnOneToTwo, exec_addColumns_bind (h.extend _) (by decide),
    Database.extend_extend, hadded]

/-- The second step adds its columns to three tables and turns to the indexes. -/
theorem exec_upgradeVersionTwoToThree {columns : RdbName → List (Column RdbColumn)}
    (h : HasColumns columns db)
    (hnew : ∀ name, ((columns name ++ addedTwoToThree name).map Column.name).Nodup) :
    upgradeVersionTwoToThree.exec db =
      dropAndRebuildIndex.exec (db.extend addedTwoToThree) := by
  have hacer := hnew (.party .accesser)
  have hacee := hnew (.party .accessee)
  have hadded : (fun name => (Database.onlyFor .accessControl aclColumnsTwoToThree name ++
      Database.onlyFor (.party .accesser) partyColumnsTwoToThree name) ++
      Database.onlyFor (.party .accessee) partyColumnsTwoToThree name) = addedTwoToThree := by
    funext name
    rcases name with _ | _ | (_ | _) <;> rfl
  rw [upgradeVersionTwoToThree, addAclColumnTwoToThree,
    exec_addColumns_bind h (by exact hnew .accessControl), addAcerColumnTwoToThree,
    exec_addColumns_bind (h.extend _) (by simpa [Database.onlyFor, addedTwoToThree] using hacer),
    addAceeColumnTwoToThree,
    exec_addColumns_bind ((h.extend _).extend _)
      (by simpa [Database.onlyFor, addedTwoToThree] using hacee),
    Database.extend_extend, Database.extend_extend]
  simp only [← List.append_assoc, hadded]

/-! ## Upgrading to version 3 -/

/-- The tables of both parties have an index at every version. -/
theorem CreatedAt.isSome_party {version : Int} (h : CreatedAt version db) (role : Role) :
    (db.indexes (.party role)).isSome := by
  obtain ⟨columns, _, hindex⟩ := h.party role
  rw [hindex]
  rfl

/-- An upgrade step whose result is ignored leaves the state it reached. -/
theorem exec_getD_bind {step : RdbProg Unit} {r : Except RdbError Unit} {db' : RdbStore}
    (h : step.exec db = (r, db')) (next : Unit → RdbProg Unit) :
    (step.getD () >>= next).exec db = (next ()).exec db' := by
  have hstep := exec_getD step () db
  rw [h] at hstep
  exact exec_bind_ok hstep next

/-- From version 1 the tables get their columns, but both party indexes are lost. -/
theorem exec_onUpgrade_one (h : CreatedAt RDB_VERSION db) :
    (onUpgrade RDB_VERSION RDB_VERSION_5_1_2).exec db =
      (.ok (), (withoutPartyIndexes (db.extend addedOneToTwo)).extend addedTwoToThree) := by
  have hcolumns : HasColumns (columnsAt RDB_VERSION) db := h.columns
  have htable : ∀ role, ∃ t, (db.extend addedOneToTwo).tables (.party role) = some t ∧
      t.columns = columnsAt RDB_VERSION (.party role) ++ partyColumnsOneToTwo := fun role =>
    Option.map_eq_some_iff.mp (hcolumns.extend addedOneToTwo (.party role))
  choose tables htables htablecolumns using htable
  -- The textual credential id comes with version 3 only.
  have hindex : ¬(tables .accesser).Indexable partyIndexColumns := by
    rintro ⟨hnames, -⟩
    have hmem := hnames (.party .credentialIdStr) (by decide)
    rw [SqlTable.names, htablecolumns] at hmem
    revert hmem
    decide
  have hindexes : ∀ role, ((db.extend addedOneToTwo).indexes (.party role)).isSome :=
    h.isSome_party
  have hone := exec_upgradeVersionOneToTwo hcolumns
  rw [exec_dropAndRebuildIndex_cases hindexes htables, if_neg hindex] at hone
  have hcolumns' : HasColumns (fun name => columnsAt RDB_VERSION name ++ addedOneToTwo name)
      (withoutPartyIndexes (db.extend addedOneToTwo)) := hcolumns.extend addedOneToTwo
  have htwo := exec_upgradeVersionTwoToThree hcolumns' fun name => by
    rcases name with _ | _ | (_ | _) <;> decide
  rw [exec_dropAndRebuildIndex_of_missing rfl] at htwo
  rw [onUpgrade, if_neg (by decide), if_neg (by decide), if_pos (by decide)]
  change (upgradeVersionOneToTwo.getD () >>= fun _ => upgradeVersionTwoToThree.getD ()).exec db = _
  rw [exec_getD_bind hone, exec_getD, htwo]

/-- From version 2 the tables get their columns, and the rows decide about the indexes. -/
theorem exec_onUpgrade_two (h : CreatedAt RDB_VERSION_5_1 db) :
    (onUpgrade RDB_VERSION_5_1 RDB_VERSION_5_1_2).exec db =
      (.ok (), (dropAndRebuildIndex.exec (db.extend addedTwoToThree)).2) := by
  have htwo := exec_upgradeVersionTwoToThree h.columns fun name => by
    rcases name with _ | _ | (_ | _) <;> decide
  rw [onUpgrade, if_neg (by decide), if_pos (by decide), if_neg (by decide)]
  exact exec_getD_bind (htwo.trans Prod.mk.eta.symm) _

/-- The rows of the party tables differ in the index columns that version 2 has. -/
def Rebuildable (db : RdbStore) : Prop :=
  ∀ role table, db.tables (.party role) = some table →
    UniqueOn (partyIndexColumns.erase (.party .credentialIdStr)) table.rows

/-- A version-2 table allows the new index exactly when its rows differ in the old columns. -/
theorem indexable_addColumns_iff {t : SqlTable RdbColumn} {role : Role}
    (h : t.columns = columnsAt RDB_VERSION_5_1 (.party role)) :
    (t.addColumns partyColumnsTwoToThree).Indexable partyIndexColumns ↔
      UniqueOn (partyIndexColumns.erase (.party .credentialIdStr)) t.rows := by
  have hnames : ∀ c ∈ partyIndexColumns, c ∈ (t.addColumns partyColumnsTwoToThree).names := by
    rw [SqlTable.names, SqlTable.columns_addColumns, h]
    cases role <;> decide
  have hrest : partyIndexColumns.filter (· ∉ partyColumnsTwoToThree.map Column.name) =
      partyIndexColumns.erase (.party .credentialIdStr) := by decide
  rw [SqlTable.Indexable, and_iff_right hnames, SqlTable.rows_addColumns,
    uniqueOn_withDefaults (by decide), hrest]

/-- The upgraded columns of version 2 are those of a fresh table, in another order. -/
theorem columns_sameColumns (name : RdbName) :
    ((columnsAt RDB_VERSION_5_1 name ++ addedTwoToThree name).map Column.shape).Perm
      ((tableColumns name).map Column.shape) := by
  rcases name with _ | _ | (_ | _) <;> decide

/-- The final schema at version 2 is the fresh one exactly when both rebuilt indexes exist. -/
theorem sameSchema_iff_rebuildable (h : CreatedAt RDB_VERSION_5_1 db) :
    (dropAndRebuildIndex.exec (db.extend addedTwoToThree)).2.SameSchema freshStore ↔
      Rebuildable db := by
  have hcolumns : HasColumns (columnsAt RDB_VERSION_5_1) db := h.columns
  choose tables htables htablecolumns using fun role =>
    Option.map_eq_some_iff.mp (hcolumns (.party role))
  have hextended : ∀ role, (db.extend addedTwoToThree).tables (.party role) =
      some ((tables role).addColumns partyColumnsTwoToThree) := by
    intro role
    simp only [Database.extend, htables, Option.map_some]
    rfl
  have hindexes : ∀ role, ((db.extend addedTwoToThree).indexes (.party role)).isSome :=
    h.isSome_party
  have hiff := fun role => indexable_addColumns_iff (htablecolumns role)
  rw [exec_dropAndRebuildIndex_cases hindexes hextended]
  constructor
  · intro hschema role table ht
    obtain rfl := Option.some.inj ((htables role).symm.trans ht)
    rw [← hiff]
    split at hschema
    · split at hschema
      · cases role <;> assumption
      · cases hschema.indexes (.party .accessee)
    · cases hschema.indexes (.party .accesser)
  · intro hrows
    have hok := fun role => (hiff role).mpr (hrows role _ (htables role))
    rw [if_pos (hok .accesser), if_pos (hok .accessee)]
    constructor
    · intro name
      obtain ⟨t, ht, hcols⟩ := Option.map_eq_some_iff.mp (hcolumns.extend addedTwoToThree name)
      rw [tables_freshStore]
      change Option.Rel _ ((db.extend addedTwoToThree).tables name) _
      rw [ht]
      refine .some ?_
      rw [SqlTable.SameColumns, hcols]
      exact columns_sameColumns name
    · intro name
      rw [indexes_freshStore]
      cases name with
      | trustDevice => exact h.trustDevice
      | accessControl => exact h.accessControl
      | party role => rfl

/-- An upgrade to version 3 reaches the fresh schema and keeps every row exactly from
version 2, and there exactly when the party rows differ in the version-2 index columns. -/
theorem upgrade_reaches_fresh_iff {oldVersion : Int}
    (hversion : oldVersion = RDB_VERSION ∨ oldVersion = RDB_VERSION_5_1)
    (h : CreatedAt oldVersion db) :
    (∀ db', (onUpgrade oldVersion RDB_VERSION_5_1_2).exec db = (.ok (), db') →
        db'.SameSchema freshStore ∧ db.Keeps db') ↔
      oldVersion = RDB_VERSION_5_1 ∧ Rebuildable db := by
  have hkeeps := keeps_exec_onUpgrade oldVersion RDB_VERSION_5_1_2 db
  rcases hversion with rfl | rfl
  · have hexec := exec_onUpgrade_one h
    constructor
    · intro hfresh
      have hindex := (hfresh _ hexec).1.indexes (.party .accesser)
      rw [indexes_freshStore] at hindex
      cases hindex
    · rintro ⟨hne, -⟩
      cases hne
  · have hexec := exec_onUpgrade_two h
    rw [hexec] at hkeeps
    constructor
    · intro hfresh
      exact ⟨rfl, (sameSchema_iff_rebuildable h).mp (hfresh _ hexec).1⟩
    · rintro ⟨-, hrows⟩ db' hdb'
      rw [hexec] at hdb'
      obtain rfl := (Prod.mk.inj hdb').2
      exact ⟨(sameSchema_iff_rebuildable h).mpr hrows, hkeeps⟩

/-- A database as it was created at a version, its party indexes over the columns of the
version-3 ones that the version has. -/
def storeAt (version : Int) (rows : RdbName → List (SqlRow RdbColumn)) : RdbStore where
  tables name := some { columns := columnsAt version name, rows := rows name }
  indexes
    | .party role => some
        { table := .party role
          columns := partyIndexColumns.filter
            (· ∈ (columnsAt version (.party role)).map Column.name) }
    | name => some (uniqueIndex name)

/-- A store of a version whose rows fit its indexes is one that was created then. -/
theorem createdAt_storeAt {version : Int} {rows : RdbName → List (SqlRow RdbColumn)}
    (h : ∀ name index, (storeAt version rows).indexes name = some index →
      UniqueOn index.columns (rows index.table)) :
    CreatedAt version (storeAt version rows) where
  columns _ := rfl
  trustDevice := rfl
  accessControl := rfl
  party _ := ⟨_, fun _ hc => of_decide_eq_true (List.mem_filter.mp hc).2, rfl⟩
  unique name index table hindex htable := by
    obtain rfl := Option.some.inj htable
    exact h name index hindex

/-- An accesser row of the given bundle. -/
def bundleRow (bundleName : Text) : SqlRow RdbColumn
  | .party .deviceId => .text ("udid" : Text)
  | .party .bundleName => .text bundleName
  | .party .accountId => .text []
  | .party .hapSignature => .text []
  | .party .deviceName => .text []
  | .party .serviceName => .text []
  | _ => .integer 1

/-- The accesser rows of two bundles. -/
def bundleRows : RdbName → List (SqlRow RdbColumn)
  | .party .accesser => [bundleRow ("camera" : Text), bundleRow ("music" : Text)]
  | _ => []

theorem createdAt_bundleRows {version : Int}
    (h : UniqueOn (partyIndexColumns.filter
      (· ∈ (columnsAt version (.party .accesser)).map Column.name))
      (bundleRows (.party .accesser))) : CreatedAt version (storeAt version bundleRows) := by
  refine createdAt_storeAt fun name index hindex => ?_
  rcases name with _ | _ | (_ | _) <;> obtain rfl := Option.some.inj hindex
  · exact .nil
  · exact .nil
  · exact h
  · exact .nil

/-- A version-2 database with two different accessers reaches the fresh schema. -/
theorem upgrade_of_two_bundles :
    ∃ db', (onUpgrade RDB_VERSION_5_1 RDB_VERSION_5_1_2).exec
        (storeAt RDB_VERSION_5_1 bundleRows) = (.ok (), db') ∧
      db'.SameSchema freshStore ∧ (storeAt RDB_VERSION_5_1 bundleRows).Keeps db' := by
  have hcreated : CreatedAt RDB_VERSION_5_1 (storeAt RDB_VERSION_5_1 bundleRows) :=
    createdAt_bundleRows (by decide)
  have hrows : Rebuildable (storeAt RDB_VERSION_5_1 bundleRows) := by
    intro role table ht
    obtain rfl := Option.some.inj ht
    cases role <;> decide
  have hexec := exec_onUpgrade_two hcreated
  exact ⟨_, hexec, (upgrade_reaches_fresh_iff (.inr rfl) hcreated).mpr ⟨rfl, hrows⟩ _ hexec⟩

/-- The same rows at version 1 end in a database without its party indexes. -/
theorem not_fresh_from_version_one :
    CreatedAt RDB_VERSION (storeAt RDB_VERSION bundleRows) ∧
      ∃ db', (onUpgrade RDB_VERSION RDB_VERSION_5_1_2).exec (storeAt RDB_VERSION bundleRows) =
          (.ok (), db') ∧
        db'.indexes (.party .accesser) = none ∧ db'.indexes (.party .accessee) = none ∧
        ¬db'.SameSchema freshStore := by
  have hcreated : CreatedAt RDB_VERSION (storeAt RDB_VERSION bundleRows) :=
    createdAt_bundleRows (by decide)
  refine ⟨hcreated, _, exec_onUpgrade_one hcreated, rfl, rfl, fun hschema => ?_⟩
  have hindex := hschema.indexes (.party .accesser)
  rw [indexes_freshStore] at hindex
  cases hindex

end DeviceProfile
