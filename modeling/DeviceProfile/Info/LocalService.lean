import DeviceProfile.Library.Linearization
import DeviceProfile.Library.Table
import DeviceProfile.Profile.Keys

/-!
# Local service infos

The infos of this device's own services are rows of one table, at most one for each bundle name
and pin exchange type. A write first asks whether there is a row, and nothing keeps other writes
from falling between the answer and the statement.
-/

namespace DeviceProfile.LocalServiceInfoManager

open Library Prog

/-- What an application has registered about a service of this device. -/
structure LocalServiceInfo where
  bundleName : Text
  authBoxType : Int
  authType : Int
  pinExchangeType : Int
  pinCode : Text
  description : Text
  extraInfo : Text
  deriving DecidableEq, Repr

/-- The columns of the unique index. -/
abbrev ServiceKey := Text × Int

/-- A local service info is stored under its bundle and its way of exchanging the pin. -/
def LocalServiceInfo.key (info : LocalServiceInfo) : ServiceKey :=
  (info.bundleName, info.pinExchangeType)

/-- A row is stored under its row id. -/
abbrev ServiceRow := Int × LocalServiceInfo

/-- `LOCAL_SERVICE_INFO_TABLE` with its unique index. -/
abbrev LocalServiceTable := Table ServiceRow ServiceKey Prod.fst fun row => row.2.key

/-- What a call on the local service infos can fail with. -/
inductive LocalServiceError where
  | invalidParam
  | notFindData
  | localServiceInfoExists
  | putLocalServiceInfoFail
  deriving DecidableEq, Repr

/-- A call on the table of local service infos, one step for each statement. -/
abbrev LocalServiceProg := Prog LocalServiceError LocalServiceTable

/-! ## The database calls -/

/-- `LOCAL_SERVICE_INFO_UNIQUE_INDEX_EQUAL_CONDITION`. -/
def matchesKey (key : ServiceKey) (row : ServiceRow) : Bool := decide (row.2.key = key)

/-- `Get` of the adapter: the rows of a key. -/
def select (key : ServiceKey) : LocalServiceProg (List ServiceRow) :=
  .step id fun t => .ret (t.select (matchesKey key))

/-- The row of an insertion. -/
def newRow (t : LocalServiceTable) (info : LocalServiceInfo) : ServiceRow := (t.nextKey, info)

/-- `Put` of the adapter: an insertion that the unique index may refuse. -/
def insert (info : LocalServiceInfo) : LocalServiceProg Unit :=
  .step (fun t => (t.insert? (newRow t info)).getD t) fun t =>
    if (t.insert? (newRow t info)).isSome then .ret () else .fail .putLocalServiceInfoFail

/-- All columns of the rows of a key are set. -/
def setColumns (info : LocalServiceInfo) (row : ServiceRow) : ServiceRow :=
  if matchesKey info.key row then (row.1, info) else row

theorem setColumns_of_key {info : LocalServiceInfo} {row : ServiceRow}
    (h : row.2.key = info.key) : setColumns info row = (row.1, info) :=
  if_pos (decide_eq_true h)

theorem setColumns_of_ne {info : LocalServiceInfo} {row : ServiceRow}
    (h : row.2.key ≠ info.key) : setColumns info row = row :=
  if_neg (ne_true_of_eq_false (decide_eq_false h))

theorem setColumns_fst (info : LocalServiceInfo) (row : ServiceRow) :
    (setColumns info row).1 = row.1 := by
  by_cases h : row.2.key = info.key
  · rw [setColumns_of_key h]
  · rw [setColumns_of_ne h]

theorem key_setColumns (info : LocalServiceInfo) (row : ServiceRow) :
    (setColumns info row).2.key = row.2.key := by
  by_cases h : row.2.key = info.key
  · rw [setColumns_of_key h, h]
  · rw [setColumns_of_ne h]

/-- `Update` of the adapter. -/
def update (info : LocalServiceInfo) : LocalServiceProg Unit :=
  .step (fun t => t.modify (setColumns info) (setColumns_fst info) (key_setColumns info))
    fun _ => .ret ()

/-- `Delete` of the adapter. -/
def delete (key : ServiceKey) : LocalServiceProg Unit :=
  .step (fun t => t.delete (matchesKey key)) fun _ => .ret ()

/-! ## The operations -/

/-- Reads the info of one bundle and one pin exchange type. -/
def getLocalServiceInfoByBundleAndPinType (bundleName : Text) (pinExchangeType : Int) :
    LocalServiceProg LocalServiceInfo :=
  if bundleName = [] ∨ pinExchangeType = 0 then .fail .invalidParam
  else do
    match ← select (bundleName, pinExchangeType) with
    | [] => throw .notFindData
    | row :: _ => return row.2

/-- Puts an info that is not there yet. The lookup and the insertion are two statements. -/
def putLocalServiceInfo (info : LocalServiceInfo) : LocalServiceProg Unit :=
  if info.bundleName = [] ∨ info.pinExchangeType = 0 then .fail .invalidParam
  else do
    match ← (getLocalServiceInfoByBundleAndPinType info.bundleName
        info.pinExchangeType).attempt with
    | .ok _ => throw .localServiceInfoExists
    | .error _ => insert info

/-- Deletes an info; one that is not there is deleted already. -/
def deleteLocalServiceInfo (bundleName : Text) (pinExchangeType : Int) : LocalServiceProg Unit :=
  if bundleName = [] ∨ pinExchangeType = 0 then .fail .invalidParam
  else do
    match ← (getLocalServiceInfoByBundleAndPinType bundleName pinExchangeType).attempt with
    | .ok _ => delete (bundleName, pinExchangeType)
    | .error .notFindData => return ()
    | .error getRet => throw getRet

/-- Overwrites an info that is there. -/
def updateLocalServiceInfo (info : LocalServiceInfo) : LocalServiceProg Unit :=
  if info.bundleName = [] ∨ info.pinExchangeType = 0 then .fail .invalidParam
  else do
    match ← (getLocalServiceInfoByBundleAndPinType info.bundleName
        info.pinExchangeType).attempt with
    | .ok _ => update info
    | .error getRet => throw getRet

/-- A call of one of the operations. -/
inductive LocalOperation where
  | put (info : LocalServiceInfo)
  | update (info : LocalServiceInfo)
  | delete (key : ServiceKey)
  | get (key : ServiceKey)

namespace LocalOperation

/-- The bundle and the pin exchange type that an operation is about. -/
def key : LocalOperation → ServiceKey
  | put info => info.key
  | update info => info.key
  | delete key => key
  | get key => key

/-- A bundle name and a pin exchange type are given. -/
def Valid (op : LocalOperation) : Prop := op.key.1 ≠ [] ∧ op.key.2 ≠ 0

instance (op : LocalOperation) : Decidable op.Valid := inferInstanceAs (Decidable (_ ∧ _))

/-- What an operation does; only a get delivers something. -/
def program : LocalOperation → LocalServiceProg (Option LocalServiceInfo)
  | put info => do
    putLocalServiceInfo info
    return none
  | update info => do
    updateLocalServiceInfo info
    return none
  | delete key => do
    deleteLocalServiceInfo key.1 key.2
    return none
  | get key => do
    let info ← getLocalServiceInfoByBundleAndPinType key.1 key.2
    return some info

end LocalOperation

/-! ## The map -/

/-- What the table is for: at most one info for each key. -/
abbrev ServiceMap := ServiceKey → Option LocalServiceInfo

/-- A map whose operations are performed at once. -/
def serviceMap :
    SequentialObject LocalOperation (Except LocalServiceError (Option LocalServiceInfo))
      ServiceMap where
  effect m op :=
    match op with
    | .put info => if (m info.key).isSome then m else Function.update m info.key (some info)
    | .update info => if (m info.key).isSome then Function.update m info.key (some info) else m
    | .delete key => Function.update m key none
    | .get _ => m
  Answers m op result :=
    match op with
    | .put info => result.isOk = (m info.key).isNone
    | .update info => result.isOk = (m info.key).isSome
    | .delete _ => result.isOk = true
    | .get key =>
      result = match m key with
        | some info => .ok (some info)
        | none => .error .notFindData

/-- What a table has under each key. -/
def contents (t : LocalServiceTable) : ServiceMap := fun key =>
  (t.select (matchesKey key)).head?.map Prod.snd

section Contents

variable {t t' : LocalServiceTable} {info : LocalServiceInfo} {key : ServiceKey}

/-- What the table holds under a key, row by row. -/
theorem contents_eq_some_iff :
    contents t key = some info ↔ info.key = key ∧ ∃ id, (id, info) ∈ t := by
  have hselect : ∀ row, row ∈ t.select (matchesKey key) ↔ row ∈ t ∧ row.2.key = key := by
    intro row
    rw [Table.mem_select, matchesKey, decide_eq_true_iff]
  rw [contents, Option.map_eq_some_iff]
  constructor
  · rintro ⟨row, hrow, rfl⟩
    obtain ⟨hmem, hkey⟩ := (hselect row).mp (List.mem_of_head? hrow)
    exact ⟨hkey, row.1, hmem⟩
  · rintro ⟨hkey, id, hmem⟩
    cases hrows : t.select (matchesKey key) with
    | nil =>
      have hin := (hselect (id, info)).mpr ⟨hmem, hkey⟩
      rw [hrows] at hin
      cases hin
    | cons row rows =>
      have hrow := (hselect row).mp (hrows ▸ List.mem_cons_self)
      refine ⟨row, rfl, ?_⟩
      rw [Table.eq_of_index hrow.1 hmem (hrow.2.trans hkey.symm)]

/-- A key is in use when a row has it. -/
theorem isSome_contents_iff : (contents t key).isSome ↔ ∃ row ∈ t, row.2.key = key := by
  rw [Option.isSome_iff_exists]
  constructor
  · rintro ⟨info, h⟩
    obtain ⟨hkey, id, hmem⟩ := contents_eq_some_iff.mp h
    exact ⟨(id, info), hmem, hkey⟩
  · rintro ⟨row, hmem, hkey⟩
    exact ⟨row.2, contents_eq_some_iff.mpr ⟨hkey, row.1, hmem⟩⟩

/-- The unique index refuses an insertion exactly when the key is there. -/
theorem insert?_eq_none_iff : t.insert? (newRow t info) = none ↔ (contents t info.key).isSome := by
  rw [Table.insert?_eq_none, isSome_contents_iff]
  constructor
  · rintro ⟨row, hmem, hid | hkey⟩
    · exact absurd hid (Table.key_ne_nextKey hmem)
    · exact ⟨row, hmem, hkey⟩
  · rintro ⟨row, hmem, hkey⟩
    exact ⟨row, hmem, .inr hkey⟩

/-- An insertion is a write under one key. -/
theorem contents_insert? (h : t.insert? (newRow t info) = some t') :
    contents t' = Function.update (contents t) info.key (some info) := by
  funext key
  apply Option.ext
  intro stored
  rw [contents_eq_some_iff]
  simp only [Table.mem_insert? h]
  by_cases hkey : key = info.key
  · subst hkey
    rw [Function.update_self, Option.some.injEq]
    constructor
    · rintro ⟨hstored, id, hnew | hold⟩
      · exact (Prod.mk.inj hnew).2.symm
      · have hsome := isSome_contents_iff.mpr ⟨_, hold, hstored⟩
        rw [← insert?_eq_none_iff, h] at hsome
        cases hsome
    · rintro rfl
      exact ⟨rfl, _, .inl rfl⟩
  · rw [Function.update_of_ne hkey, contents_eq_some_iff]
    constructor
    · rintro ⟨hstored, id, hnew | hold⟩
      · obtain rfl := (Prod.mk.inj hnew).2
        exact absurd hstored.symm hkey
      · exact ⟨hstored, id, hold⟩
    · rintro ⟨hstored, id, hold⟩
      exact ⟨hstored, id, .inr hold⟩

/-- A deletion removes what is under one key. -/
theorem contents_delete :
    contents (t.delete (matchesKey key)) = Function.update (contents t) key none := by
  funext other
  apply Option.ext
  intro stored
  rw [contents_eq_some_iff]
  simp only [Table.mem_delete, matchesKey, decide_eq_false_iff_not]
  by_cases hkey : other = key
  · subst hkey
    rw [Function.update_self]
    refine iff_of_false ?_ (Option.some_ne_none stored).symm
    rintro ⟨hstored, -, -, hne⟩
    exact hne hstored
  · rw [Function.update_of_ne hkey, contents_eq_some_iff]
    constructor
    · rintro ⟨hstored, id, hmem, -⟩
      exact ⟨hstored, id, hmem⟩
    · rintro ⟨hstored, id, hmem⟩
      exact ⟨hstored, id, hmem, fun h => hkey (hstored.symm.trans h)⟩

/-- An update sets the info of its key, if there is one. -/
theorem contents_modify :
    contents (t.modify (setColumns info) (setColumns_fst info) (key_setColumns info)) =
      if (contents t info.key).isSome then Function.update (contents t) info.key (some info)
      else contents t := by
  have hmem : ∀ key stored,
      contents (t.modify (setColumns info) (setColumns_fst info) (key_setColumns info)) key =
        some stored ↔ stored.key = key ∧ ∃ row ∈ t, (setColumns info row).2 = stored := by
    intro key stored
    rw [contents_eq_some_iff]
    simp only [Table.mem_modify]
    refine and_congr_right fun _ => ⟨?_, ?_⟩
    · rintro ⟨id, row, hrow, hset⟩
      exact ⟨row, hrow, by rw [hset]⟩
    · rintro ⟨row, hrow, rfl⟩
      exact ⟨_, row, hrow, rfl⟩
  funext key
  apply Option.ext
  intro stored
  rw [hmem]
  by_cases hkey : key = info.key
  · subst hkey
    split
    · rename_i hsome
      rw [Function.update_self, Option.some.injEq]
      constructor
      · rintro ⟨hstored, row, -, rfl⟩
        rw [key_setColumns] at hstored
        rw [setColumns_of_key hstored]
      · rintro rfl
        obtain ⟨row, hrow, hinfo⟩ := isSome_contents_iff.mp hsome
        exact ⟨rfl, row, hrow, by rw [setColumns_of_key hinfo]⟩
    · rename_i hsome
      refine iff_of_false ?_ fun h => hsome (h ▸ rfl)
      rintro ⟨hstored, row, hrow, rfl⟩
      rw [key_setColumns] at hstored
      exact hsome (isSome_contents_iff.mpr ⟨row, hrow, hstored⟩)
  · have hold : contents t key = some stored ↔
        stored.key = key ∧ ∃ row ∈ t, (setColumns info row).2 = stored := by
      rw [contents_eq_some_iff]
      refine and_congr_right fun hstored => ⟨?_, ?_⟩
      · rintro ⟨id, hrow⟩
        exact ⟨_, hrow, by rw [setColumns_of_ne (hstored ▸ hkey)]⟩
      · rintro ⟨row, hrow, hset⟩
        have hne : row.2.key ≠ info.key := by
          rw [← key_setColumns info row, hset, hstored]
          exact hkey
        rw [setColumns_of_ne hne] at hset
        exact ⟨row.1, hset ▸ hrow⟩
    rw [← hold]
    split
    · rw [Function.update_of_ne hkey]
    · rfl

end Contents

/-! ## The steps of the operations -/

/-- A put that found no row. -/
def inserting (info : LocalServiceInfo) : LocalServiceProg (Option LocalServiceInfo) :=
  insert info >>= fun _ => .ret none

/-- An update that found a row. -/
def updating (info : LocalServiceInfo) : LocalServiceProg (Option LocalServiceInfo) :=
  update info >>= fun _ => .ret none

/-- A delete that found a row. -/
def deleting (key : ServiceKey) : LocalServiceProg (Option LocalServiceInfo) :=
  delete key >>= fun _ => .ret none

section Steps

variable {info : LocalServiceInfo} {key : ServiceKey}

/-- A valid lookup is one statement, answered from what the table holds. -/
theorem get_of_valid {bundleName : Text} {pinExchangeType : Int}
    (h : bundleName ≠ [] ∧ pinExchangeType ≠ 0) :
    getLocalServiceInfoByBundleAndPinType bundleName pinExchangeType = .step id fun t =>
      match contents t (bundleName, pinExchangeType) with
      | some info => .ret info
      | none => .fail .notFindData := by
  rw [getLocalServiceInfoByBundleAndPinType, if_neg (not_or.mpr h), select, step_bind]
  refine congrArg (Prog.step id) (funext fun t => ?_)
  rw [ret_bind, contents]
  cases t.select (matchesKey (bundleName, pinExchangeType)) with
  | nil => rfl
  | cons row rows => rfl

/-- A get is its lookup. -/
theorem program_get (h : key.1 ≠ [] ∧ key.2 ≠ 0) :
    (LocalOperation.get key).program = .step id fun t =>
      match contents t key with
      | some info => .ret (some info)
      | none => .fail .notFindData := by
  rw [LocalOperation.program, get_of_valid h, step_bind]
  refine congrArg (Prog.step id) (funext fun t => ?_)
  cases contents t key with
  | none => rfl
  | some info => rfl

/-- A put looks first, then inserts. -/
theorem program_put (h : info.bundleName ≠ [] ∧ info.pinExchangeType ≠ 0) :
    (LocalOperation.put info).program = .step id fun t =>
      if (contents t info.key).isSome then .fail .localServiceInfoExists else inserting info := by
  rw [LocalOperation.program, putLocalServiceInfo, if_neg (not_or.mpr h),
    get_of_valid h, attempt, step_bind, step_bind]
  refine congrArg (Prog.step id) (funext fun t => ?_)
  rw [LocalServiceInfo.key]
  cases contents t (info.bundleName, info.pinExchangeType) with
  | none => rfl
  | some info => rfl

/-- An update looks first, then sets the columns. -/
theorem program_update (h : info.bundleName ≠ [] ∧ info.pinExchangeType ≠ 0) :
    (LocalOperation.update info).program = .step id fun t =>
      if (contents t info.key).isSome then updating info else .fail .notFindData := by
  rw [LocalOperation.program, updateLocalServiceInfo, if_neg (not_or.mpr h),
    get_of_valid h, attempt, step_bind, step_bind]
  refine congrArg (Prog.step id) (funext fun t => ?_)
  rw [LocalServiceInfo.key]
  cases contents t (info.bundleName, info.pinExchangeType) with
  | none => rfl
  | some info => rfl

/-- A deletion looks first, then deletes. -/
theorem program_delete (h : key.1 ≠ [] ∧ key.2 ≠ 0) :
    (LocalOperation.delete key).program = .step id fun t =>
      if (contents t key).isSome then deleting key else .ret none := by
  rw [LocalOperation.program, deleteLocalServiceInfo, if_neg (not_or.mpr h), get_of_valid h,
    attempt, step_bind, step_bind]
  refine congrArg (Prog.step id) (funext fun t => ?_)
  cases contents t key with
  | none => rfl
  | some info => rfl

end Steps

end DeviceProfile.LocalServiceInfoManager
