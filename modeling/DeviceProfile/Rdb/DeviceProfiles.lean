import DeviceProfile.Library.Program
import DeviceProfile.Library.Run
import DeviceProfile.Library.Table
import DeviceProfile.Profile.Keys
import Mathlib.Data.Char
import Mathlib.Data.List.Lex

/-!
# The table of device profiles

The profiles of the devices of each user are kept in a table with a unique index over device and
user, and a query for devices delivers its rows in the order of that index. A put asks for the row
it replaces and then inserts or updates; a batch puts its elements one after the other and makes
one answer of theirs. A deletion asks for all rows of a batch at once and deletes what it finds. A
default user id stands for the user in the foreground.
-/

namespace DeviceProfile

open Library

/-- The character between the parts of a device's address. -/
def SLASHES : Char := '/'

/-- The initial id of a profile that is not stored. -/
def DEFAULT_ID : Int := -1

/-- A device profile, as far as it is kept in `device_profile`. -/
structure DeviceProfileRow where
  id : Int := 0
  deviceId : Text := []
  deviceModel : Text := []
  devType : Text := []
  manu : Text := []
  sn : Text := []
  productId : Text := []
  productName : Text := []
  subProductId : Text := []
  hiv : Text := []
  mac : Text := []
  fwv : Text := []
  hwv : Text := []
  swv : Text := []
  protType : Int := 0
  deviceName : Text := []
  wiseUserId : Text := []
  wiseDeviceId : Text := []
  registerTime : Text := []
  internalModel : Text := []
  modifyTime : Text := []
  shareTime : Text := []
  userId : Int32 := DEFAULT_USER_ID
  accountId : Text := []
  bleMac : Text := []
  brMac : Text := []
  sleMac : Text := []
  setupType : Int := 0
  deriving DecidableEq, Repr

/-- The columns of `unique_device_profile`. -/
structure DeviceProfileIndex where
  deviceId : Text
  userId : Int32
  deriving DecidableEq, Repr

/-- The order of the index. -/
def DeviceProfileIndex.le (a b : DeviceProfileIndex) : Prop :=
  a.deviceId < b.deviceId ∨ a.deviceId = b.deviceId ∧ a.userId ≤ b.userId

instance (a b : DeviceProfileIndex) : Decidable (a.le b) := inferInstanceAs (Decidable (_ ∨ _))

instance : Std.Total DeviceProfileIndex.le where
  total a b := by
    rcases lt_trichotomy a.deviceId b.deviceId with h | h | h
    · exact .inl (.inl h)
    · exact (Int32.le_total a.userId b.userId).imp (fun hle => .inr ⟨h, hle⟩)
        fun hle => .inr ⟨h.symm, hle⟩
    · exact .inr (.inl h)

instance : IsTrans DeviceProfileIndex DeviceProfileIndex.le where
  trans a b c := by
    rintro (h | ⟨h, hle⟩) (h' | ⟨h', hle'⟩)
    · exact .inl (lt_trans h h')
    · exact .inl (h' ▸ h)
    · exact .inl (h ▸ h')
    · exact .inr ⟨h.trans h', Int32.le_trans hle hle'⟩

instance : Std.Antisymm DeviceProfileIndex.le where
  antisymm a b := by
    rintro (h | ⟨h, hle⟩) (h' | ⟨h', hle'⟩)
    · exact absurd h' (lt_asymm h)
    · exact absurd (h' ▸ h) (lt_irrefl _)
    · exact absurd (h ▸ h') (lt_irrefl _)
    · cases a
      cases b
      cases h
      cases Int32.le_antisymm hle hle'
      rfl

/-- The columns of the unique index: one profile for each device and user. -/
def DeviceProfileRow.indexColumns (r : DeviceProfileRow) : DeviceProfileIndex :=
  ⟨r.deviceId, r.userId⟩

/-- The table of device profiles with its key and its unique index. -/
abbrev DeviceProfileTable :=
  Table DeviceProfileRow _ DeviceProfileRow.id DeviceProfileRow.indexColumns

/-- What a query for device profiles asks for; an empty field asks for nothing. -/
structure DeviceProfileFilterOptions where
  userId : Int32 := DEFAULT_USER_ID
  accountId : Text := []
  deviceIds : List Text := []
  wiseDeviceIds : List Text := []
  deviceProfileIds : List Int := []
  deriving DecidableEq, Repr

/-- A device beyond the bound is not added. -/
def DeviceProfileFilterOptions.addDeviceIds (filterOptions : DeviceProfileFilterOptions)
    (deviceId : Text) : DeviceProfileFilterOptions :=
  if MAX_DEVICE_SIZE ≤ filterOptions.deviceIds.length then filterOptions
  else { filterOptions with deviceIds := filterOptions.deviceIds ++ [deviceId] }

/-- The error codes of the calls. -/
inductive DeviceDataError where
  | retInit
  | invalidParam
  | invalidParams
  | getResultSetFail
  | notFindData
  | deviceProfileNotFound
  | putTrustDeviceProfileFail
  | updateTrustDeviceProfileFail
  | deleteTrustDeviceProfileFail
  deriving DecidableEq, Repr

/-- The table with what the database is going to answer, and with the rows it has accepted. -/
structure ProfileData where
  deviceProfiles : DeviceProfileTable := .empty
  /-- The id after the last one that was given out. -/
  sequence : Int := 1
  /-- Whether each of the next database calls fails; no entry means no failure. -/
  faults : List Bool := []
  /-- The rows that insertions and updates have written, oldest first. -/
  accepted : List DeviceProfileRow := []

/-- Programs of the profile data manager. -/
abbrev DataProg := Prog DeviceDataError ProfileData

namespace ProfileData

/-- Whether the next database call fails. -/
def fault (w : ProfileData) : Bool := w.faults.headD false

/-- The state after the answer of one database call is used up. -/
def pop (w : ProfileData) : ProfileData := { w with faults := w.faults.tail }

/-- The id of the next row: ids are not given out twice. -/
def nextId (w : ProfileData) : Int := max w.sequence w.deviceProfiles.nextKey

/-- `Get` of the adapter: the rows a query delivers. All queries here name devices, so the rows
are found with the index. -/
def get (condition : DeviceProfileRow → Bool) : DataProg (List DeviceProfileRow) :=
  .step pop fun w =>
    if w.fault then .fail .getResultSetFail
    else .ret (w.deviceProfiles.selectBy DeviceProfileIndex.le condition)

/-- The state after a statement that writes a row; what fails or is refused changes nothing. -/
def written (w : ProfileData) (row : DeviceProfileRow) (sequence : Int)
    (write : Option DeviceProfileTable) : ProfileData :=
  match w.fault, write with
  | false, some deviceProfiles =>
    { w.pop with deviceProfiles, sequence, accepted := w.accepted ++ [row] }
  | _, _ => w.pop

/-- Whether a statement is executed. -/
def succeeds (w : ProfileData) (write : Option DeviceProfileTable) : Bool :=
  !w.fault && write.isSome

end ProfileData

/-! ## The data access object -/

/-- `CreateQuerySqlAndCondition`: the fields of a filter that are there. -/
def deviceProfileCondition (filterOptions : DeviceProfileFilterOptions) (r : DeviceProfileRow) :
    Bool :=
  (filterOptions.deviceProfileIds.isEmpty || filterOptions.deviceProfileIds.contains r.id) &&
  (filterOptions.deviceIds.isEmpty || filterOptions.deviceIds.contains r.deviceId) &&
  (decide (filterOptions.userId = DEFAULT_USER_ID) || decide (r.userId = filterOptions.userId)) &&
  (filterOptions.accountId.isEmpty || decide (r.accountId = filterOptions.accountId)) &&
  (filterOptions.wiseDeviceIds.isEmpty || filterOptions.wiseDeviceIds.contains r.wiseDeviceId)

namespace DeviceProfileDao

/-- `DeviceProfileToEntries`: all columns but the id. -/
def deviceProfileToEntries (deviceProfile : DeviceProfileRow) (id : Int) : DeviceProfileRow :=
  { deviceProfile with id }

/-- `PutDeviceProfile`: the row is read again after the insertion. -/
def putDeviceProfile (deviceProfile : DeviceProfileRow) : DataProg Unit := do
  .step
    (fun w =>
      let row := deviceProfileToEntries deviceProfile w.nextId
      w.written row (w.nextId + 1) (w.deviceProfiles.insert? row))
    fun w =>
      let row := deviceProfileToEntries deviceProfile w.nextId
      if w.succeeds (w.deviceProfiles.insert? row) then .ret ()
      else .fail .putTrustDeviceProfileFail
  let _ ← ProfileData.get fun r =>
    decide (r.deviceId = deviceProfile.deviceId) && decide (r.userId = deviceProfile.userId)
  return ()

/-- `GetDeviceProfiles`: no row is an error. -/
def getDeviceProfiles (filterOptions : DeviceProfileFilterOptions) :
    DataProg (List DeviceProfileRow) := do
  match ← ProfileData.get (deviceProfileCondition filterOptions) with
  | [] => throw .notFindData
  | rows => return rows

/-- `DeleteDeviceProfile`: the row with the id, if there is one. -/
def deleteDeviceProfile (deviceProfile : DeviceProfileRow) : DataProg Unit :=
  .step
    (fun w =>
      if w.fault then w.pop
      else { w.pop with
        deviceProfiles := w.deviceProfiles.delete fun r => decide (r.id = deviceProfile.id) })
    fun w => if w.fault then .fail .deleteTrustDeviceProfileFail else .ret ()

/-- `UpdateDeviceProfile`: the row with the id. -/
def updateDeviceProfile (newProfile : DeviceProfileRow) : DataProg Unit :=
  .step
    (fun w =>
      let row := deviceProfileToEntries newProfile newProfile.id
      w.written row w.sequence (w.deviceProfiles.update? newProfile.id row))
    fun w =>
      let row := deviceProfileToEntries newProfile newProfile.id
      if w.succeeds (w.deviceProfiles.update? newProfile.id row) then .ret ()
      else .fail .updateTrustDeviceProfileFail

end DeviceProfileDao

/-! ## The profile data manager -/

namespace ProfileDataManager

/-- `FilterInvaildSymbol`: both symbols are there. -/
def FilterInvaildSymbol (str : Text) : Prop :=
  HasKeyLength str ∧ separator ∈ str ∧ SLASHES ∈ str

instance (str : Text) : Decidable (FilterInvaildSymbol str) :=
  inferInstanceAs (Decidable (_ ∧ _))

section Calls

-- The user in the foreground, or the default user id where the system does not know it.
variable (foregroundUserId : Int32)

/-- The user that a user id stands for. -/
def userOf (userId : Int32) : Int32 :=
  if userId = DEFAULT_USER_ID then foregroundUserId else userId

/-- The profile of the user it is put for. -/
def forUser (deviceProfile : DeviceProfileRow) : DeviceProfileRow :=
  { deviceProfile with userId := userOf foregroundUserId deviceProfile.userId }

/-- The filter of a put. -/
def filterOf (deviceProfile : DeviceProfileRow) : DeviceProfileFilterOptions :=
  { ({} : DeviceProfileFilterOptions).addDeviceIds deviceProfile.deviceId with
    userId := deviceProfile.userId }

/-- A profile with an id is an update, one without is inserted. -/
def storeDeviceProfile (deviceProfile : DeviceProfileRow) : DataProg Unit :=
  if deviceProfile.id ≤ 0 then DeviceProfileDao.putDeviceProfile deviceProfile
  else DeviceProfileDao.updateDeviceProfile deviceProfile

/-- `PutDeviceProfile` -/
def putDeviceProfile (deviceProfile : DeviceProfileRow) : DataProg Unit :=
  if deviceProfile.deviceId = [] ∨ FilterInvaildSymbol deviceProfile.deviceId then
    throw .invalidParams
  else do
    let deviceProfile := forUser foregroundUserId deviceProfile
    match ← (DeviceProfileDao.getDeviceProfiles (filterOf deviceProfile)).attempt with
    | .ok (oldDeviceProfile :: _) =>
      storeDeviceProfile { deviceProfile with id := oldDeviceProfile.id }
    | .ok [] => storeDeviceProfile { deviceProfile with id := DEFAULT_ID }
    | .error .notFindData => storeDeviceProfile { deviceProfile with id := DEFAULT_ID }
    | .error e => throw e

/-- The loop of `PutDeviceProfileBatch`: the answer is that of the first put that succeeds, or
that of the last one. -/
def putEachDeviceProfile (ret : Except DeviceDataError Unit) :
    List DeviceProfileRow → DataProg (Except DeviceDataError Unit)
  | [] => return ret
  | deviceProfile :: rest => do
    let putRet ← (putDeviceProfile foregroundUserId deviceProfile).attempt
    putEachDeviceProfile (if ret = .ok () then ret else putRet) rest

/-- `PutDeviceProfileBatch` -/
def putDeviceProfileBatch (deviceProfiles : List DeviceProfileRow) : DataProg Unit :=
  if deviceProfiles.isEmpty then throw .invalidParam
  else do
    match ← putEachDeviceProfile foregroundUserId (.error .retInit) deviceProfiles with
    | .ok () => return ()
    | .error e => throw e

/-- `GetDeviceProfiles` -/
def getDeviceProfiles (options : DeviceProfileFilterOptions) :
    DataProg (List DeviceProfileRow) := do
  let options := { options with userId := userOf foregroundUserId options.userId }
  match ← DeviceProfileDao.getDeviceProfiles options with
  | [] => throw .deviceProfileNotFound
  | deviceProfiles => return deviceProfiles

/-- The loop of `DeleteDeviceProfileBatch`: the answer is that of the last deletion that fails. -/
def deleteEachDeviceProfile (ret : Except DeviceDataError Unit) :
    List DeviceProfileRow → DataProg (Except DeviceDataError Unit)
  | [] => return ret
  | dp :: rest => do
    let delRet ← (DeviceProfileDao.deleteDeviceProfile dp).attempt
    deleteEachDeviceProfile (if delRet = .ok () then ret else delRet) rest

/-- The filter of a deletion: all devices of the batch, and the user of its first element. -/
def batchFilter (first : DeviceProfileRow) (deviceProfiles : List DeviceProfileRow) :
    DeviceProfileFilterOptions :=
  deviceProfiles.foldl (fun filterOptions item => filterOptions.addDeviceIds item.deviceId)
    { userId := first.userId }

/-- `DeleteDeviceProfileBatch` -/
def deleteDeviceProfileBatch : List DeviceProfileRow → DataProg Unit
  | [] => throw .invalidParam
  | first :: others => do
    let oldDeviceProfiles ← getDeviceProfiles foregroundUserId (batchFilter first (first :: others))
    match ← deleteEachDeviceProfile (.ok ()) oldDeviceProfiles with
    | .ok () => return ()
    | .error e => throw e

end Calls

/-! ## What a deletion removes -/

section Delete

variable {foregroundUserId : Int32}

/-- The row is that of the device and the user of an element. -/
def IsNamedBy (foregroundUserId : Int32) (deviceProfiles : List DeviceProfileRow)
    (r : DeviceProfileRow) : Prop :=
  ∃ x ∈ deviceProfiles, (forUser foregroundUserId x).indexColumns = r.indexColumns

instance (foregroundUserId : Int32) (deviceProfiles : List DeviceProfileRow)
    (r : DeviceProfileRow) : Decidable (IsNamedBy foregroundUserId deviceProfiles r) :=
  inferInstanceAs (Decidable (∃ x ∈ deviceProfiles, _))

/-- The row is that of one of the first devices of the batch, and of the user of its first
element. -/
def IsSelectedBy (foregroundUserId : Int32) (first : DeviceProfileRow)
    (others : List DeviceProfileRow) (r : DeviceProfileRow) : Prop :=
  r.deviceId ∈ ((first :: others).map DeviceProfileRow.deviceId).take MAX_DEVICE_SIZE ∧
    (userOf foregroundUserId first.userId = DEFAULT_USER_ID ∨
      r.userId = userOf foregroundUserId first.userId)

instance (foregroundUserId : Int32) (first : DeviceProfileRow) (others : List DeviceProfileRow)
    (r : DeviceProfileRow) : Decidable (IsSelectedBy foregroundUserId first others r) :=
  inferInstanceAs (Decidable (_ ∧ (_ ∨ _)))

/-- The devices of a filter are the first ones that are added. -/
theorem foldl_addDeviceIds (items : List DeviceProfileRow)
    (filterOptions : DeviceProfileFilterOptions)
    (hsize : filterOptions.deviceIds.length ≤ MAX_DEVICE_SIZE) :
    items.foldl (fun filterOptions item => filterOptions.addDeviceIds item.deviceId)
        filterOptions =
      { filterOptions with
        deviceIds := (filterOptions.deviceIds ++ items.map DeviceProfileRow.deviceId).take
          MAX_DEVICE_SIZE } := by
  induction items generalizing filterOptions with
  | nil =>
    rw [List.map_nil, List.append_nil, List.take_of_length_le hsize]
    rfl
  | cons item items ih =>
    rw [List.foldl_cons, DeviceProfileFilterOptions.addDeviceIds]
    split
    · next hfull =>
      rw [ih filterOptions hsize, List.take_append_of_le_length hfull,
        List.take_append_of_le_length hfull]
    · next hroom =>
      have hroom' : filterOptions.deviceIds.length + 1 ≤ MAX_DEVICE_SIZE := Nat.lt_of_not_le hroom
      rw [ih _ (by rwa [List.length_append])]
      simp only [List.append_assoc, List.singleton_append, List.map_cons]

/-- The condition of a deletion, where the devices have ids. -/
theorem deviceProfileCondition_batchFilter (first : DeviceProfileRow)
    (others : List DeviceProfileRow) (r : DeviceProfileRow) :
    deviceProfileCondition
        { batchFilter first (first :: others) with
          userId := userOf foregroundUserId (batchFilter first (first :: others)).userId } r =
      true ↔ IsSelectedBy foregroundUserId first others r := by
  rw [batchFilter, foldl_addDeviceIds _ _ (Nat.zero_le _)]
  have hids : (((first :: others).map DeviceProfileRow.deviceId).take MAX_DEVICE_SIZE).isEmpty =
      false := rfl
  simp only [deviceProfileCondition, IsSelectedBy, List.nil_append, hids, List.isEmpty_nil,
    Bool.true_or, Bool.true_and, Bool.and_true, Bool.false_or, Bool.and_eq_true, Bool.or_eq_true,
    decide_eq_true_eq, List.contains_iff_mem]

/-- The loop of the deletions removes the rows with the ids of its list. -/
theorem exec_deleteEachDeviceProfile (rows : List DeviceProfileRow) {w : ProfileData}
    (hcalm : w.faults = []) :
    ∃ w', (deleteEachDeviceProfile (.ok ()) rows).exec w = (.ok (.ok ()), w') ∧
      ∀ r, r ∈ w'.deviceProfiles ↔ r ∈ w.deviceProfiles ∧ ∀ dp ∈ rows, r.id ≠ dp.id := by
  induction rows generalizing w with
  | nil => exact ⟨w, rfl, fun r => by simp⟩
  | cons dp rows ih =>
    have hdelete : (DeviceProfileDao.deleteDeviceProfile dp).attempt.exec w = (.ok (.ok ()),
        { w.pop with
          deviceProfiles := w.deviceProfiles.delete fun r => decide (r.id = dp.id) }) := by
      have hfault : w.fault = false := by rw [ProfileData.fault, hcalm]; rfl
      rw [Prog.exec_attempt, DeviceProfileDao.deleteDeviceProfile, Prog.exec_step]
      simp only [hfault, Bool.false_eq_true, if_false, Prog.exec_ret]
    obtain ⟨w', hrest, hmem⟩ := ih (w := { w.pop with
      deviceProfiles := w.deviceProfiles.delete fun r => decide (r.id = dp.id) })
      (by rw [ProfileData.pop, hcalm]; rfl)
    refine ⟨w', ?_, fun r => ?_⟩
    · rw [deleteEachDeviceProfile, Prog.exec_bind_ok hdelete]
      exact hrest
    · rw [hmem, Table.mem_delete, decide_eq_false_iff_not, List.forall_mem_cons, and_assoc]

/-- A deletion removes exactly the rows that its filter selects. -/
theorem mem_deleteDeviceProfileBatch {first : DeviceProfileRow} {others : List DeviceProfileRow}
    {w : ProfileData} (hcalm : w.faults = []) (r : DeviceProfileRow) :
    r ∈ ((deleteDeviceProfileBatch foregroundUserId (first :: others)).exec w).2.deviceProfiles ↔
      r ∈ w.deviceProfiles ∧ ¬IsSelectedBy foregroundUserId first others r := by
  have hfault : w.fault = false := by rw [ProfileData.fault, hcalm]; rfl
  let options : DeviceProfileFilterOptions :=
    { batchFilter first (first :: others) with
      userId := userOf foregroundUserId (batchFilter first (first :: others)).userId }
  have hselected : ∀ a, a ∈ w.deviceProfiles.selectBy DeviceProfileIndex.le
      (deviceProfileCondition options) ↔
      a ∈ w.deviceProfiles ∧ IsSelectedBy foregroundUserId first others a := fun a =>
    Table.mem_selectBy.trans (and_congr_right fun _ => deviceProfileCondition_batchFilter ..)
  have hget : (ProfileData.get (deviceProfileCondition options)).exec w =
      (.ok (w.deviceProfiles.selectBy DeviceProfileIndex.le (deviceProfileCondition options)),
        w.pop) := by
    simp only [ProfileData.get, Prog.exec_step, hfault, Bool.false_eq_true, if_false,
      Prog.exec_ret]
  cases hrows : w.deviceProfiles.selectBy DeviceProfileIndex.le
      (deviceProfileCondition options) with
  | nil =>
    rw [hrows] at hget hselected
    have hfound : (getDeviceProfiles foregroundUserId (batchFilter first (first :: others))).exec w
        = (.error .notFindData, w.pop) := by
      rw [getDeviceProfiles, Prog.exec_bind_error]
      rw [DeviceProfileDao.getDeviceProfiles, Prog.exec_bind_ok hget]
      rfl
    rw [deleteDeviceProfileBatch, Prog.exec_bind_error hfound]
    refine ⟨fun hr => ⟨hr, fun hsel => ?_⟩, And.left⟩
    exact absurd ((hselected r).mpr ⟨hr, hsel⟩) List.not_mem_nil
  | cons row rows =>
    rw [hrows] at hget hselected
    have hfound : (getDeviceProfiles foregroundUserId (batchFilter first (first :: others))).exec w
        = (.ok (row :: rows), w.pop) := by
      have hdao : (DeviceProfileDao.getDeviceProfiles options).exec w =
          (.ok (row :: rows), w.pop) := by
        rw [DeviceProfileDao.getDeviceProfiles, Prog.exec_bind_ok hget]
        rfl
      rw [getDeviceProfiles, Prog.exec_bind_ok hdao]
      rfl
    obtain ⟨w', hloop, hmem⟩ := exec_deleteEachDeviceProfile (row :: rows) (w := w.pop)
      (by rw [ProfileData.pop, hcalm]; rfl)
    rw [deleteDeviceProfileBatch, Prog.exec_bind_ok hfound, Prog.exec_bind_ok hloop]
    refine (hmem r).trans (and_congr_right fun hr => ?_)
    constructor
    · exact fun hall hsel => hall r ((hselected r).mpr ⟨hr, hsel⟩) rfl
    · intro hnot dp hdp hid
      obtain ⟨hmemdp, hsel⟩ := (hselected dp).mp hdp
      exact hnot (Table.eq_of_key hr hmemdp hid ▸ hsel)

/-- Where some row is that of an element, a deletion removes exactly such rows if and only if they
are the rows of the first devices of the batch and of the user of its first element. -/
theorem deleteDeviceProfileBatch_exact_iff (foregroundUserId : Int32) (first : DeviceProfileRow)
    (others : List DeviceProfileRow) (w : ProfileData) (hcalm : w.faults = []) :
    (∀ r, r ∈ ((deleteDeviceProfileBatch foregroundUserId (first :: others)).exec
        w).2.deviceProfiles ↔
      r ∈ w.deviceProfiles ∧ ¬IsNamedBy foregroundUserId (first :: others) r) ↔
    ∀ r ∈ w.deviceProfiles, IsSelectedBy foregroundUserId first others r ↔
      IsNamedBy foregroundUserId (first :: others) r := by
  simp only [mem_deleteDeviceProfileBatch hcalm]
  refine forall_congr' fun r => ?_
  constructor
  · exact fun h hr => not_iff_not.mp ((and_congr_right_iff.mp h) hr)
  · exact fun h => and_congr_right fun hr => not_congr (h hr)

/-- For a batch of one known user that is not too long, the two are the same. -/
theorem isSelectedBy_iff_isNamedBy {first : DeviceProfileRow} {others : List DeviceProfileRow}
    (hknown : userOf foregroundUserId first.userId ≠ DEFAULT_USER_ID)
    (huser : ∀ x ∈ others, userOf foregroundUserId x.userId = userOf foregroundUserId first.userId)
    (hsize : (first :: others).length ≤ MAX_DEVICE_SIZE) (r : DeviceProfileRow) :
    IsSelectedBy foregroundUserId first others r ↔
      IsNamedBy foregroundUserId (first :: others) r := by
  have hall : ∀ x ∈ first :: others,
      userOf foregroundUserId x.userId = userOf foregroundUserId first.userId :=
    List.forall_mem_cons.mpr ⟨rfl, huser⟩
  rw [IsSelectedBy, IsNamedBy, List.take_of_length_le (by rwa [List.length_map]), List.mem_map]
  constructor
  · rintro ⟨⟨x, hx, hid⟩, hdefault | hr⟩
    · exact absurd hdefault hknown
    · exact ⟨x, hx, by rw [forUser, DeviceProfileRow.indexColumns, hid, hall x hx, ← hr]; rfl⟩
  · rintro ⟨x, hx, hindex⟩
    obtain ⟨hid, hr⟩ := DeviceProfileIndex.mk.inj hindex
    exact ⟨⟨x, hx, hid⟩, .inr (hr.symm.trans (hall x hx))⟩

/-- Two devices of one user. -/
def twoDevices : ProfileData where
  deviceProfiles :=
    ⟨[{ id := 1, deviceId := ("tv" : Text), userId := 100 },
      { id := 2, deviceId := ("lamp" : Text), userId := 100 }], by decide, by decide⟩
  sequence := 3

/-- Three devices of one user, and one of them of another user. -/
def fourRows : ProfileData where
  deviceProfiles :=
    ⟨[{ id := 1, deviceId := ("tv" : Text), userId := 100 },
      { id := 2, deviceId := ("lamp" : Text), userId := 100 },
      { id := 3, deviceId := ("tv" : Text), userId := 101 },
      { id := 4, deviceId := ("watch" : Text), userId := 100 }], by decide, by decide⟩
  sequence := 5

/-- Two devices of the user in the foreground. -/
def tvAndLamp : List DeviceProfileRow :=
  [{ deviceId := ("tv" : Text) }, { deviceId := ("lamp" : Text), userId := 100 }]

/-- A batch of two of the devices removes their rows and keeps the other device and the other
user. -/
theorem deleteDeviceProfileBatch_fourRows :
    { r | r ∈ ((deleteDeviceProfileBatch 100 tvAndLamp).exec fourRows).2.deviceProfiles } =
      { { id := 3, deviceId := ("tv" : Text), userId := 101 },
        { id := 4, deviceId := ("watch" : Text), userId := 100 } } := by
  ext r
  have hexact := (deleteDeviceProfileBatch_exact_iff 100 { deviceId := ("tv" : Text) }
    [{ deviceId := ("lamp" : Text), userId := 100 }] fourRows rfl).mpr fun _ _ =>
      isSelectedBy_iff_isNamedBy (by decide) (by decide) (by decide) _
  refine (hexact r).trans ⟨fun ⟨hr, hnot⟩ => ?_, ?_⟩
  · simp only [fourRows, Table.mem_iff, List.mem_cons, List.not_mem_nil, or_false] at hr
    rcases hr with rfl | rfl | rfl | rfl
    · exact absurd (by decide) hnot
    · exact absurd (by decide) hnot
    · exact .inl rfl
    · exact .inr rfl
  · rintro (rfl | rfl)
    · exact ⟨by simp [fourRows, Table.mem_iff], by decide⟩
    · exact ⟨by simp [fourRows, Table.mem_iff], by decide⟩

/-- In a batch of two users the user of the first element also stands for the other device. -/
theorem not_deleteDeviceProfileBatch_exact :
    ¬∀ (foregroundUserId : Int32) (first : DeviceProfileRow) (others : List DeviceProfileRow)
      (w : ProfileData), w.faults = [] → (∀ x ∈ first :: others, x.deviceId ≠ []) →
      (∃ r ∈ w.deviceProfiles, IsNamedBy foregroundUserId (first :: others) r) →
      ∀ r, r ∈ ((deleteDeviceProfileBatch foregroundUserId (first :: others)).exec
          w).2.deviceProfiles ↔
        r ∈ w.deviceProfiles ∧ ¬IsNamedBy foregroundUserId (first :: others) r := by
  intro h
  have hlamp := h 100 { deviceId := ("tv" : Text), userId := 100 }
    [{ deviceId := ("lamp" : Text), userId := 101 }] twoDevices rfl (by decide)
    ⟨{ id := 1, deviceId := ("tv" : Text), userId := 100 }, List.mem_cons_self, by decide⟩
    { id := 2, deviceId := ("lamp" : Text), userId := 100 }
  rw [mem_deleteDeviceProfileBatch rfl] at hlamp
  have hrow : ({ id := 2, deviceId := ("lamp" : Text), userId := 100 } : DeviceProfileRow) ∈
      twoDevices.deviceProfiles := List.mem_cons_of_mem _ List.mem_cons_self
  exact (hlamp.mpr ⟨hrow, by decide⟩).2 (by decide)

end Delete

end ProfileDataManager

end DeviceProfile
