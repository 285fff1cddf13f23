import DeviceProfile.Library.Restart
import DeviceProfile.Rdb.OpenCallback

/-!
# Upgrading the profile data

The tables of the profile data are altered one column after the other. Each alteration asks the
schema first whether its column is there already, so an upgrade that was stopped can be run
again: it leaves alone what is done and goes on where it was stopped.
-/

namespace DeviceProfile.ProfileDataOpenCallback

open Library Prog

/-- The table of device profiles. -/
def DEVICE_PROFILE_TABLE : Text := ("device_profile" : Text)

/-- The table of icons. -/
def DEVICE_ICON_INFO_TABLE : Text := ("device_icon_info" : Text)

/-- The column with the name of a product. -/
def PRODUCT_NAME : Text := ("productName" : Text)

/-- The column with the model of a product. -/
def INTERNAL_MODEL : Text := ("internalModel" : Text)

/-- The column with the time of the last change. -/
def MODIFY_TIME : Text := ("modifyTime" : Text)

/-- The name of the internal model in version 1. -/
def INNER_MODEL : Text := ("innerModel" : Text)

/-- The type of columns that hold texts. -/
def RDB_TYPE_TEXT : Text := ("TEXT" : Text)

/-- The type of columns that hold large numbers. -/
def RDB_TYPE_BIGINT : Text := ("BIGINT" : Text)

/-- The version that the upgrade ends at. -/
def PROFILE_DATA_VER_3 : Int := 3

/-- The profile database: its tables with their columns by name. -/
abbrev DataStore := Database Text Text Text

/-- The error codes of an upgrade. -/
inductive UpgradeError where
  | notFindData
  | invalidSqlResult
  | sqlError
  deriving DecidableEq, Repr

/-- A step of the upgrade, which fails with the code of its function. -/
abbrev UpgradeProg := Prog UpgradeError DataStore

/-! ## Queries and statements -/

/-- The rows a query delivers. -/
def querySql {ρ : Type} (query : DataStore → List ρ) : UpgradeProg (List ρ) :=
  .step id fun db => .ret (query db)

/-- `ExecuteSql` of an `ALTER TABLE`. -/
def executeSql (table : Text) (alteration : Alteration Text) : UpgradeProg Unit :=
  .step (fun db => (db.alter table alteration).getD db) fun db =>
    if (db.alter table alteration).isSome then .ret () else .fail .sqlError

/-- `IsExistTable`: the names of the tables that are called so. -/
def isExistTable (tabName : Text) : UpgradeProg Bool := do
  match ← querySql fun db => if (db.tables tabName).isSome then [tabName] else [] with
  | [] => return false
  | result :: _ => return decide (result = tabName)

/-- `IsExistColumn`: one row that says whether the table has a column of this name and type. -/
def isExistColumn (tabName colName colType : Text) : UpgradeProg Bool := do
  match ← querySql fun db =>
      [if (db.tables tabName).any fun t => (colName, colType) ∈ t.signatures then (1 : Int)
        else 0] with
  | [] => throw .notFindData
  | result :: _ =>
    if result ≠ 0 ∧ result ≠ 1 then throw .invalidSqlResult else return decide (result = 1)

/-- One change of a table: the column it is about, and the statement that makes it. -/
structure RdbTableAlterInfo where
  tabName : Text
  colName : Text
  colType : Text
  /-- What the `ALTER TABLE` does to the table. -/
  sql : Alteration Text

/-- Alters a table that exists and does not have the column yet. -/
def checkAndAlterTable (info : RdbTableAlterInfo) : UpgradeProg Unit := do
  if ← isExistTable info.tabName then
    if ← isExistColumn info.tabName info.colName info.colType then return ()
    else executeSql info.tabName info.sql
  else return ()

/-! ## The upgrade -/

/-- Device profiles get the name of the product. -/
def deviceProfileAddProductNameColumn : RdbTableAlterInfo where
  tabName := DEVICE_PROFILE_TABLE
  colName := PRODUCT_NAME
  colType := RDB_TYPE_TEXT
  sql := .addColumn { name := ("productName" : Text), declared := ("TEXT" : Text) }

/-- The model of a product is renamed in the device profiles. -/
def deviceProfileRenameInterModelColumn : RdbTableAlterInfo where
  tabName := DEVICE_PROFILE_TABLE
  colName := INTERNAL_MODEL
  colType := RDB_TYPE_TEXT
  sql := .renameColumn ("innerModel" : Text) ("internalModel" : Text)

/-- Icons get the model of the product. -/
def deviceIconInfoAddInterModelColumn : RdbTableAlterInfo where
  tabName := DEVICE_ICON_INFO_TABLE
  colName := INTERNAL_MODEL
  colType := RDB_TYPE_TEXT
  sql := .addColumn { name := ("internalModel" : Text), declared := ("TEXT" : Text) }

/-- Icons get the time of their last change, zero in the rows that are there. -/
def deviceIconInfoAddColumnModifyTime : RdbTableAlterInfo where
  tabName := DEVICE_ICON_INFO_TABLE
  colName := MODIFY_TIME
  colType := RDB_TYPE_BIGINT
  sql := .addColumn
    { name := ("modifyTime" : Text), declared := ("BIGINT" : Text), default := .integer 0 }

/-- The three changes of version two. -/
def updateFromVer1To2 : UpgradeProg Unit := do
  checkAndAlterTable deviceProfileAddProductNameColumn
  checkAndAlterTable deviceProfileRenameInterModelColumn
  checkAndAlterTable deviceIconInfoAddInterModelColumn

/-- The change of version three. -/
def updateToVer3 : UpgradeProg Unit := checkAndAlterTable deviceIconInfoAddColumnModifyTime

/-- The upgrade does what the two versions ask for. The second test does not look at the first. -/
def onUpgrade (oldVersion newVersion : Int) : UpgradeProg Unit := do
  if oldVersion = RDB_VERSION ∧ RDB_VERSION_5_1 ≤ newVersion then updateFromVer1To2
  if oldVersion < PROFILE_DATA_VER_3 ∧ newVersion = PROFILE_DATA_VER_3 then updateToVer3

/-! ## The columns of the versions -/

/-- The columns of `CREATE_DEVICE_PROFILE_TABLE_SQL`. -/
def deviceProfileColumns : List (Text × Text) :=
  [("id", "INTEGER"), ("deviceId", "TEXT"), ("userId", "INTEGER"), ("accountId", "TEXT"),
    ("productId", "TEXT"), ("subProductId", "TEXT"), ("model", "TEXT"), ("devType", "TEXT"),
    ("deviceName", "TEXT"), ("manu", "TEXT"), ("sn", "TEXT"), ("hiv", "TEXT"), ("mac", "TEXT"),
    ("bleMac", "TEXT"), ("brMac", "TEXT"), ("sleMac", "TEXT"), ("fwv", "TEXT"), ("hwv", "TEXT"),
    ("swv", "TEXT"), ("protType", "INTEGER"), ("setupType", "INTEGER"), ("wiseUserId", "TEXT"),
    ("wiseDeviceId", "TEXT"), ("registerTime", "TEXT"), ("modifyTime", "TEXT"),
    ("shareTime", "TEXT"), ("internalModel", "TEXT"), ("productName", "TEXT")].map
      fun c : String × String => (c.1.toList, c.2.toList)

/-- The columns of `CREATE_DEVICE_ICON_INFO_TABLE_SQL`. -/
def deviceIconInfoColumns : List (Text × Text) :=
  [("id", "INTEGER"), ("productId", "TEXT"), ("subProductId", "TEXT"), ("imageType", "TEXT"),
    ("specName", "TEXT"), ("version", "TEXT"), ("url", "TEXT"), ("icon", "blob"),
    ("internalModel", "TEXT"), ("modifyTime", "BIGINT")].map
      fun c : String × String => (c.1.toList, c.2.toList)

/-- The tables an upgrade alters, with the columns of a freshly created one. -/
def freshColumns (tabName : Text) : List (Text × Text) :=
  if tabName = DEVICE_PROFILE_TABLE then deviceProfileColumns else deviceIconInfoColumns

/-- The columns of a table at a version before 3. -/
def columnsAt (version : Int) (tabName : Text) : List (Text × Text) :=
  if tabName = DEVICE_PROFILE_TABLE then
    if version = RDB_VERSION then
      (deviceProfileColumns.filter fun c => c.1 ≠ PRODUCT_NAME).map fun c =>
        (if c.1 = INTERNAL_MODEL then INNER_MODEL else c.1, c.2)
    else deviceProfileColumns
  else
    deviceIconInfoColumns.filter fun c =>
      c.1 ≠ MODIFY_TIME ∧ (version = RDB_VERSION → c.1 ≠ INTERNAL_MODEL)

/-! ## One alteration -/

/-- Alter a table, if it is there. -/
def modify (db : DataStore) (info : RdbTableAlterInfo) : DataStore :=
  { db with
    tables := Function.update db.tables info.tabName
      ((db.tables info.tabName).map (·.alter info.sql)) }

variable {db : DataStore} {info : RdbTableAlterInfo} {t : SqlTable Text}

theorem tables_modify_self (db : DataStore) (info : RdbTableAlterInfo) :
    (modify db info).tables info.tabName = (db.tables info.tabName).map (·.alter info.sql) :=
  Function.update_self _ _ _

theorem tables_modify_of_ne {tabName : Text} (h : tabName ≠ info.tabName) :
    (modify db info).tables tabName = db.tables tabName :=
  Function.update_of_ne h _ _

theorem modify_of_missing (h : db.tables info.tabName = none) : modify db info = db := by
  rw [modify, h, Option.map_none, ← h, Function.update_eq_self]

/-- A table that is not there is no error. -/
theorem checkAndAlterTable_of_missing (h : db.tables info.tabName = none) :
    (checkAndAlterTable info).Moves db db := by
  simp only [checkAndAlterTable, isExistTable, querySql, step_bind, ret_bind]
  apply moves_step_id
  simp only [h, Option.isSome_none, Bool.false_eq_true, if_false]
  exact moves_ret db

/-- In a table that is there the column is asked for by its name and type. -/
theorem checkAndAlterTable_of_present {db' : DataStore} (ht : db.tables info.tabName = some t)
    (h : (if (info.colName, info.colType) ∈ t.signatures then .ret ()
      else executeSql info.tabName info.sql).Moves db db') :
    (checkAndAlterTable info).Moves db db' := by
  simp only [checkAndAlterTable, isExistTable, isExistColumn, querySql, step_bind, ret_bind]
  apply moves_step_id
  simp only [ht, Option.isSome_some, if_true, pure_eq, ret_bind, decide_true]
  apply moves_step_id
  rw [ht, Option.any_some]
  split at h
  · rename_i hcolumn
    simp only [hcolumn, decide_true, if_true]
    exact h
  · rename_i hcolumn
    simp only [hcolumn, decide_false, Bool.false_eq_true, if_false]
    exact h

/-- A statement that fits is executed. -/
theorem moves_executeSql (ht : db.tables info.tabName = some t)
    (hfits : info.sql.Fits t.signatures) :
    (executeSql info.tabName info.sql).Moves db (modify db info) := by
  have halter : db.alter info.tabName info.sql = some (modify db info) := by
    rw [Database.alter, modify, ht]
    exact if_pos hfits
  constructor
  · rw [executeSql, exec_step, halter]
    rfl
  · intro x hx
    rw [executeSql, passes, halter] at hx
    simpa [passes] using hx

/-! ## The stages of an upgrade -/

/-- The alterations of an upgrade to version 3. -/
def alterInfos (version : Int) : List RdbTableAlterInfo :=
  if version = RDB_VERSION then
    [deviceProfileAddProductNameColumn, deviceProfileRenameInterModelColumn,
      deviceIconInfoAddInterModelColumn, deviceIconInfoAddColumnModifyTime]
  else [deviceIconInfoAddColumnModifyTime]

theorem tabName_mem_of_mem_alterInfos {version : Int} (h : info ∈ alterInfos version) :
    info.tabName ∈ [DEVICE_PROFILE_TABLE, DEVICE_ICON_INFO_TABLE] := by
  rw [alterInfos] at h
  split at h <;> simp only [List.mem_cons, List.not_mem_nil, or_false] at h
  · rcases h with rfl | rfl | rfl | rfl <;> decide
  · subst h
    decide

/-- An upgrade is the sequence of its alterations. -/
theorem onUpgrade_eq_runAll {version : Int}
    (hversion : version = RDB_VERSION ∨ version = RDB_VERSION_5_1) :
    onUpgrade version PROFILE_DATA_VER_3 =
      runAll ((alterInfos version).map checkAndAlterTable) := by
  rcases hversion with rfl | rfl
  · rw [onUpgrade, if_pos (by decide), if_pos (by decide), updateFromVer1To2, updateToVer3]
    simp only [alterInfos, if_true, List.map_cons, List.map_nil, runAll, bind_ret_unit,
      Prog.bind_assoc]
  · rw [onUpgrade, if_neg (by decide), if_pos (by decide), updateToVer3, alterInfos,
      if_neg (by decide)]
    exact (bind_ret_unit _).symm

/-- The database after the first alterations of an upgrade. -/
def stage (version : Int) (db : DataStore) (k : Nat) : DataStore :=
  ((alterInfos version).take k).foldl modify db

/-- The columns of a table after the first alterations of an upgrade. -/
def stageColumns (version : Int) (tabName : Text) (k : Nat) : List (Text × Text) :=
  ((alterInfos version).take k).foldl (fun columns info =>
    if info.tabName = tabName then info.sql.signatures columns else columns)
      (columnsAt version tabName)

/-- An alteration finds its column missing at its own stage, and there at a later one. -/
def IsStagedAt (version : Int) (info : RdbTableAlterInfo) (i k : Nat) : Prop :=
  (k = i → (info.colName, info.colType) ∉ stageColumns version info.tabName k ∧
    info.sql.Fits (stageColumns version info.tabName k)) ∧
  (k ≠ i → (info.colName, info.colType) ∈ stageColumns version info.tabName k)

instance (version : Int) (info : RdbTableAlterInfo) (i k : Nat) :
    Decidable (IsStagedAt version info i k) :=
  inferInstanceAs (Decidable ((_ → _ ∧ _) ∧ (_ → _)))

/-- Each change of a version finds the tables as the changes before it have left them. -/
theorem isStagedAt_alterInfos : ∀ version ∈ [RDB_VERSION, RDB_VERSION_5_1],
    ∀ x ∈ (alterInfos version).zipIdx, ∀ k < (alterInfos version).length + 1, x.2 ≤ k →
      IsStagedAt version x.1 x.2 k := by
  decide +kernel

/-- The tables that an upgrade alters have the columns of the version, in any order. -/
def AtVersion (version : Int) (db : DataStore) : Prop :=
  ∀ tabName ∈ [DEVICE_PROFILE_TABLE, DEVICE_ICON_INFO_TABLE], ∀ t,
    db.tables tabName = some t → t.signatures.Perm (columnsAt version tabName)

/-- The name of a column after the first alterations of an upgrade. -/
def stageName (version : Int) (tabName : Text) (k : Nat) (name : Text) : Text :=
  ((alterInfos version).take k).foldl (fun name info =>
    if info.tabName = tabName then info.sql.rename name else name) name

/-- A table after the first alterations: its columns, its rows, and where their values are. -/
structure Reaches (version : Int) (tabName : Text) (t : SqlTable Text) (k : Nat)
    (t' : SqlTable Text) : Prop where
  columns : t'.signatures.Perm (stageColumns version tabName k)
  rows : t.Carries (stageName version tabName k) t'
  names : ∀ c ∈ t.names, stageName version tabName k c ∈ t'.names

section Stages

variable {version : Int}

/-- Each change finds the tables as the changes before it have left them. -/
theorem isStagedAt_of_getElem? (hversion : version = RDB_VERSION ∨ version = RDB_VERSION_5_1)
    {i : Nat} (hinfo : (alterInfos version)[i]? = some info) {k : Nat} (hi : i ≤ k)
    (hk : k ≤ (alterInfos version).length) : IsStagedAt version info i k := by
  have hmem : version ∈ [RDB_VERSION, RDB_VERSION_5_1] := by
    simpa only [List.mem_cons, List.not_mem_nil, or_false] using hversion
  have hzip : (info, i) ∈ (alterInfos version).zipIdx := List.mk_mem_zipIdx_iff_getElem?.mpr hinfo
  exact isStagedAt_alterInfos version hmem (info, i) hzip k (Nat.lt_succ_of_le hk) hi

theorem stage_succ {k : Nat} (hinfo : (alterInfos version)[k]? = some info) :
    stage version db (k + 1) = modify (stage version db k) info := by
  rw [stage, List.take_add_one, hinfo, Option.toList_some, List.foldl_append]
  rfl

theorem stageName_succ {tabName : Text} {k : Nat} (hinfo : (alterInfos version)[k]? = some info)
    (name : Text) : stageName version tabName (k + 1) name =
      if info.tabName = tabName then info.sql.rename (stageName version tabName k name)
      else stageName version tabName k name := by
  rw [stageName, List.take_add_one, hinfo, Option.toList_some, List.foldl_append]
  rfl

theorem stageColumns_succ {tabName : Text} {k : Nat}
    (hinfo : (alterInfos version)[k]? = some info) : stageColumns version tabName (k + 1) =
      if info.tabName = tabName then info.sql.signatures (stageColumns version tabName k)
      else stageColumns version tabName k := by
  rw [stageColumns, List.take_add_one, hinfo, Option.toList_some, List.foldl_append]
  rfl

/-- No table appears. -/
theorem stage_tables_eq_none {tabName : Text} (h : db.tables tabName = none) (k : Nat) :
    (stage version db k).tables tabName = none := by
  rw [stage]
  generalize (alterInfos version).take k = infos
  induction infos generalizing db with
  | nil => exact h
  | cons info infos ih =>
    apply ih
    by_cases htab : tabName = info.tabName
    · subst htab
      rw [tables_modify_self, h, Option.map_none]
    · rw [tables_modify_of_ne htab]
      exact h

/-- A table goes through the stages with its rows. -/
theorem exists_reaches (hversion : version = RDB_VERSION ∨ version = RDB_VERSION_5_1)
    (hdb : AtVersion version db) {tabName : Text}
    (htab : tabName ∈ [DEVICE_PROFILE_TABLE, DEVICE_ICON_INFO_TABLE])
    (ht : db.tables tabName = some t) {k : Nat} (hk : k ≤ (alterInfos version).length) :
    ∃ t', (stage version db k).tables tabName = some t' ∧ Reaches version tabName t k t' := by
  induction k with
  | zero => exact ⟨t, ht, hdb tabName htab t ht, .refl t, fun _ hc => hc⟩
  | succ k ih =>
    obtain ⟨t', ht', hreaches⟩ := ih (Nat.le_of_succ_le hk)
    obtain ⟨info, hinfo⟩ : ∃ info, (alterInfos version)[k]? = some info :=
      ⟨_, List.getElem?_eq_getElem hk⟩
    rw [stage_succ hinfo]
    by_cases hname : info.tabName = tabName
    · have hstep : stageName version tabName (k + 1) =
          info.sql.rename ∘ stageName version tabName k := by
        funext name
        rw [stageName_succ hinfo, if_pos hname, Function.comp_apply]
      have hcolumns : stageColumns version tabName (k + 1) =
          info.sql.signatures (stageColumns version tabName k) := by
        rw [stageColumns_succ hinfo, if_pos hname]
      have hfits := ((isStagedAt_of_getElem? hversion hinfo (Nat.le_refl k)
        (Nat.le_of_succ_le hk)).1 rfl).2
      rw [hname, ← info.sql.fits_iff_of_perm hreaches.columns] at hfits
      refine ⟨t'.alter info.sql, ?_, ?_, ?_, ?_⟩
      · rw [← hname, tables_modify_self, hname, ht', Option.map_some]
      · rw [hcolumns, SqlTable.signatures_alter]
        exact info.sql.signatures_perm hreaches.columns
      · rw [hstep]
        exact hreaches.rows.trans (SqlTable.carries_alter hfits) hreaches.names
      · intro c hc
        rw [hstep]
        exact SqlTable.rename_mem_names_alter info.sql (hreaches.names c hc)
    · have hstep : stageName version tabName (k + 1) = stageName version tabName k := by
        funext name
        rw [stageName_succ hinfo, if_neg hname]
      have hcolumns : stageColumns version tabName (k + 1) = stageColumns version tabName k := by
        rw [stageColumns_succ hinfo, if_neg hname]
      refine ⟨t', ?_, ?_⟩
      · rw [tables_modify_of_ne (Ne.symm hname)]
        exact ht'
      · exact ⟨hcolumns ▸ hreaches.columns, hstep ▸ hreaches.rows, hstep ▸ hreaches.names⟩

/-- The alterations move the database through the stages, each at its own one only. -/
theorem staged_checkAndAlterTable (hversion : version = RDB_VERSION ∨ version = RDB_VERSION_5_1)
    (hdb : AtVersion version db) :
    Staged (stage version db) 0 ((alterInfos version).map checkAndAlterTable) := by
  intro i m hm k hi hk
  rw [Nat.zero_add] at hi ⊢
  rw [Nat.zero_add, List.length_map] at hk
  rw [List.getElem?_map] at hm
  obtain ⟨info, hinfo, rfl⟩ := Option.map_eq_some_iff.mp hm
  have htab := tabName_mem_of_mem_alterInfos (List.mem_of_getElem? hinfo)
  have hstaged := isStagedAt_of_getElem? hversion hinfo hi hk
  rcases Nat.lt_or_eq_of_le hi with hlt | rfl
  · have hmax : max k (i + 1) = k := by omega
    rw [hmax]
    cases ht : db.tables info.tabName with
    | none => exact checkAndAlterTable_of_missing (stage_tables_eq_none ht k)
    | some t =>
      obtain ⟨t', ht', hreaches⟩ := exists_reaches hversion hdb htab ht hk
      apply checkAndAlterTable_of_present ht'
      rw [if_pos (hreaches.columns.mem_iff.mpr (hstaged.2 (Nat.ne_of_gt hlt)))]
      exact moves_ret _
  · have hmax : max i (i + 1) = i + 1 := by omega
    rw [hmax, stage_succ hinfo]
    cases ht : db.tables info.tabName with
    | none =>
      have hmissing : (stage version db i).tables info.tabName = none := stage_tables_eq_none ht i
      rw [modify_of_missing hmissing]
      exact checkAndAlterTable_of_missing hmissing
    | some t =>
      obtain ⟨t', ht', hreaches⟩ := exists_reaches hversion hdb htab ht hk
      obtain ⟨hcolumn, hfits⟩ := hstaged.1 rfl
      apply checkAndAlterTable_of_present ht'
      rw [if_neg fun h => hcolumn (hreaches.columns.mem_iff.mp h)]
      exact moves_executeSql ht' ((info.sql.fits_iff_of_perm hreaches.columns).mpr hfits)

/-- After all changes a table has the columns of a new one. -/
theorem stageColumns_length (hversion : version = RDB_VERSION ∨ version = RDB_VERSION_5_1)
    {tabName : Text} (htab : tabName ∈ [DEVICE_PROFILE_TABLE, DEVICE_ICON_INFO_TABLE]) :
    (stageColumns version tabName (alterInfos version).length).Perm (freshColumns tabName) := by
  have hall : ∀ version ∈ [RDB_VERSION, RDB_VERSION_5_1],
      ∀ tabName ∈ [DEVICE_PROFILE_TABLE, DEVICE_ICON_INFO_TABLE],
        (stageColumns version tabName (alterInfos version).length).Perm
          (freshColumns tabName) := by
    decide +kernel
  have hmem : version ∈ [RDB_VERSION, RDB_VERSION_5_1] := by
    simpa only [List.mem_cons, List.not_mem_nil, or_false] using hversion
  exact hall version hmem tabName htab

/-- The name under which an upgraded table has the values of an old column. -/
def upgradedName (version : Int) (tabName name : Text) : Text :=
  if version = RDB_VERSION ∧ tabName = DEVICE_PROFILE_TABLE ∧ name = INNER_MODEL then
    INTERNAL_MODEL
  else name

/-- After all changes a column has the name of the upgraded table. -/
theorem stageName_length (hversion : version = RDB_VERSION ∨ version = RDB_VERSION_5_1)
    {tabName : Text} (htab : tabName ∈ [DEVICE_PROFILE_TABLE, DEVICE_ICON_INFO_TABLE]) :
    stageName version tabName (alterInfos version).length = upgradedName version tabName := by
  funext name
  rw [List.mem_pair] at htab
  rcases hversion with rfl | rfl <;> rcases htab with rfl | rfl
  · by_cases hname : name = INNER_MODEL
    · subst hname
      rfl
    · rw [upgradedName, if_neg fun h => hname h.2.2]
      exact if_neg hname
  · rfl
  · rfl
  · rfl

/-- An upgrade that was stopped any number of times comes to the columns of a fresh table and
keeps the rows. -/
theorem upgrade_completes_after_stops
    (hversion : version = RDB_VERSION ∨ version = RDB_VERSION_5_1) {db₀ : DataStore}
    (hdb : AtVersion version db₀)
    (hstopped : (onUpgrade version PROFILE_DATA_VER_3).Stopped db₀ db) :
    ∃ db', (onUpgrade version PROFILE_DATA_VER_3).exec db = (.ok (), db') ∧
      ∀ tabName ∈ [DEVICE_PROFILE_TABLE, DEVICE_ICON_INFO_TABLE],
        Option.Rel (fun t t' => t'.signatures.Perm (freshColumns tabName) ∧
          t.Carries (upgradedName version tabName) t')
            (db₀.tables tabName) (db'.tables tabName) := by
  rw [onUpgrade_eq_runAll hversion] at hstopped ⊢
  have hexec := (staged_checkAndAlterTable hversion hdb).exec_of_stopped hstopped
  rw [List.length_map] at hexec
  refine ⟨_, hexec, fun tabName htab => ?_⟩
  cases ht : db₀.tables tabName with
  | none =>
    rw [stage_tables_eq_none ht]
    exact .none
  | some t =>
    obtain ⟨t', ht', hreaches⟩ := exists_reaches hversion hdb htab ht (Nat.le_refl _)
    rw [ht']
    have hrows := hreaches.rows
    rw [stageName_length hversion htab] at hrows
    exact .some ⟨hreaches.columns.trans (stageColumns_length hversion htab), hrows⟩

end Stages

/-- Profile data of version 1 with one device and without icons. -/
def oldData : DataStore where
  tables := fun tabName =>
    if tabName = DEVICE_PROFILE_TABLE then
      some
        { columns := (columnsAt RDB_VERSION DEVICE_PROFILE_TABLE).map fun c =>
            { name := c.1, declared := c.2 }
          rows := [fun name => .text name] }
    else none

/-- An upgrade that stopped after its first column is completed by the next one. -/
theorem upgrade_completes_after_stops_added_column :
    ∃ db', (onUpgrade RDB_VERSION PROFILE_DATA_VER_3).exec
        (modify oldData deviceProfileAddProductNameColumn) = (.ok (), db') ∧
      ∀ tabName ∈ [DEVICE_PROFILE_TABLE, DEVICE_ICON_INFO_TABLE],
        Option.Rel (fun t t' => t'.signatures.Perm (freshColumns tabName) ∧
          t.Carries (upgradedName RDB_VERSION tabName) t')
            (oldData.tables tabName) (db'.tables tabName) := by
  have hdb : AtVersion RDB_VERSION oldData := by
    intro tabName htab t ht
    rcases List.mem_pair.mp htab with rfl | rfl
    · rw [← Option.some.inj ht]
      decide +kernel
    · cases ht
  have hstopped : (onUpgrade RDB_VERSION PROFILE_DATA_VER_3).Stopped oldData
      (modify oldData deviceProfileAddProductNameColumn) := by
    rw [onUpgrade_eq_runAll (.inl rfl)]
    have hmoves := staged_checkAndAlterTable (.inl rfl) hdb 0 _ rfl 0 (by decide) (by decide)
    have hpass := exec_snd_mem_passes (checkAndAlterTable deviceProfileAddProductNameColumn)
      (stage RDB_VERSION oldData 0)
    rw [hmoves.exec] at hpass
    exact .single (mem_passes_bind_left hpass _)
  exact upgrade_completes_after_stops (.inl rfl) hdb hstopped

end DeviceProfile.ProfileDataOpenCallback
