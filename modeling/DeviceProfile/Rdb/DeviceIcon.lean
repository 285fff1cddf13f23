import DeviceProfile.Library.Table
import DeviceProfile.Trust.Data

/-!
# Device icons

The icons of the products are kept in a table with a unique index over product, sub product,
image type and spec name. A put asks for the record it replaces by a filter, to which the query
always adds the internal model; the rows that are older than this column have none, and no query
finds them. The wise version of a record is the image version of its product, and the icon of a
record is not replaced by none.
-/

namespace DeviceProfile

open Library

/-- The columns of `unique_device_icon_info`. -/
structure DeviceIconIndex where
  productId : Text
  subProductId : Text
  imageType : Text
  specName : Text
  deriving DecidableEq, Repr

/-- `GetUniqueKey`: what tells records apart. -/
structure DeviceIconKey extends DeviceIconIndex where
  internalModel : Text
  deriving DecidableEq, Repr

/-- A row of `device_icon_info`; no icon is an empty one. The column of the internal model was
added by an upgrade, which leaves NULL in the rows that were there. -/
structure DeviceIconRow where
  id : Int := 0
  productId : Text := []
  subProductId : Text := []
  imageType : Text := []
  specName : Text := []
  version : Text := []
  url : Text := []
  icon : List UInt8 := []
  internalModel : Option Text := none
  modifyTime : Int := 0
  deriving DecidableEq, Repr

/-- An icon that a product has, with the values of a fresh object. -/
structure DeviceIconInfo where
  id : Int := 0
  productId : Text := []
  internalModel : Text := []
  subProductId : Text := []
  imageType : Text := []
  specName : Text := []
  version : Text := []
  wiseVersion : Text := []
  url : Text := []
  icon : List UInt8 := []
  modifyTime : Int := 0
  deriving DecidableEq, Repr

/-- What a query for icons asks for; an empty field asks for nothing. -/
structure DeviceIconInfoFilterOptions where
  productIds : List Text := []
  internalModel : Text := []
  subProductId : Text := []
  imageType : Text := []
  specName : Text := []
  deriving DecidableEq, Repr

/-- The error codes of the icon calls. -/
inductive DeviceIconError where
  | invalidParam
  | invalidParams
  | notFindData
  | putDeviceIconInfoFail
  | updateDeviceIconInfoFail
  deriving DecidableEq, Repr

/-- The index columns of a row. -/
def DeviceIconRow.indexColumns (r : DeviceIconRow) : DeviceIconIndex :=
  ⟨r.productId, r.subProductId, r.imageType, r.specName⟩

/-- The key of the record in a row; NULL is read as the empty text. -/
def DeviceIconRow.uniqueKey (r : DeviceIconRow) : DeviceIconKey :=
  ⟨r.indexColumns, r.internalModel.getD []⟩

/-- The index columns of a record. -/
def DeviceIconInfo.indexColumns (x : DeviceIconInfo) : DeviceIconIndex :=
  ⟨x.productId, x.subProductId, x.imageType, x.specName⟩

/-- `GetUniqueKey` -/
def DeviceIconInfo.uniqueKey (x : DeviceIconInfo) : DeviceIconKey :=
  ⟨x.indexColumns, x.internalModel⟩

/-- The table of icons with its key and its unique index. -/
abbrev DeviceIconTable := Table DeviceIconRow _ DeviceIconRow.id DeviceIconRow.indexColumns

/-! ## The data access object -/

/-- `DeviceIconInfoToEntries`: the columns that are written over a row. -/
def deviceIconInfoToEntries (x : DeviceIconInfo) (r : DeviceIconRow) : DeviceIconRow :=
  { r with
    productId := x.productId
    internalModel := some x.internalModel
    subProductId := x.subProductId
    imageType := x.imageType
    specName := x.specName
    version := x.version
    url := x.url
    icon := if x.icon.isEmpty then r.icon else x.icon
    modifyTime := x.modifyTime }

/-- `CreateQuerySqlAndCondition`: the fields of a filter that are there, and two that always
count; NULL is equal to nothing. -/
def createQueryCondition (filterOptions : DeviceIconInfoFilterOptions) :
    Option (DeviceIconRow → Bool) :=
  if filterOptions.productIds.isEmpty && filterOptions.imageType.isEmpty &&
    filterOptions.specName.isEmpty then none
  else
    some fun r =>
      (filterOptions.productIds.isEmpty || filterOptions.productIds.contains r.productId) &&
      (filterOptions.imageType.isEmpty || decide (r.imageType = filterOptions.imageType)) &&
      (filterOptions.specName.isEmpty || decide (r.specName = filterOptions.specName)) &&
      decide (r.subProductId = filterOptions.subProductId) &&
      decide (r.internalModel = some filterOptions.internalModel)

section Calls

-- The image version of a product, which is empty where `product_info` has none.
variable (imageVersion : Text → Text)

/-- `ConvertToDeviceIconInfo` of a row joined with its product. -/
def convertToDeviceIconInfo (r : DeviceIconRow) : DeviceIconInfo where
  id := r.id
  productId := r.productId
  internalModel := r.internalModel.getD []
  subProductId := r.subProductId
  imageType := r.imageType
  specName := r.specName
  version := r.version
  wiseVersion := imageVersion r.productId
  url := r.url
  icon := r.icon
  modifyTime := r.modifyTime

/-- `GetDeviceIconInfos` of the data access object: at most one record, that of the least id. -/
def selectDeviceIconInfos (filterOptions : DeviceIconInfoFilterOptions) (t : DeviceIconTable) :
    Except DeviceIconError (List DeviceIconInfo) :=
  match createQueryCondition filterOptions with
  | none => .error .invalidParams
  | some condition =>
    match (t.select condition).take 1 with
    | [] => .error .notFindData
    | rows => .ok (rows.map (convertToDeviceIconInfo imageVersion))

/-- `PutDeviceIconInfo` of the data access object. -/
def insertDeviceIconInfo (x : DeviceIconInfo) (t : DeviceIconTable) :
    Except DeviceIconError Unit × DeviceIconTable :=
  match t.insert? (deviceIconInfoToEntries x { id := t.nextKey }) with
  | some t' => (.ok (), t')
  | none => (.error .putDeviceIconInfoFail, t)

/-- `UpdateDeviceIconInfo`: the row with the id, if there is one. -/
def updateDeviceIconInfo (x : DeviceIconInfo) (t : DeviceIconTable) :
    Except DeviceIconError Unit × DeviceIconTable :=
  match t.select fun r => decide (r.id = x.id) with
  | [] => (.ok (), t)
  | r :: _ =>
    match t.update? x.id (deviceIconInfoToEntries x r) with
    | some t' => (.ok (), t')
    | none => (.error .updateDeviceIconInfoFail, t)

/-! ## The calls -/

/-- `GetDeviceIconInfos` -/
def getDeviceIconInfos (filterOptions : DeviceIconInfoFilterOptions) (t : DeviceIconTable) :
    Except DeviceIconError (List DeviceIconInfo) :=
  if filterOptions.productIds.isEmpty || filterOptions.imageType.isEmpty ||
    filterOptions.specName.isEmpty then .error .invalidParam
  else selectDeviceIconInfos imageVersion filterOptions t

/-- `PutDeviceIconInfo`: the filter has no internal model. -/
def putDeviceIconInfo (x : DeviceIconInfo) (t : DeviceIconTable) :
    Except DeviceIconError Unit × DeviceIconTable :=
  let filterOptions : DeviceIconInfoFilterOptions :=
    { productIds := [x.productId]
      subProductId := x.subProductId
      imageType := x.imageType
      specName := x.specName }
  match selectDeviceIconInfos imageVersion filterOptions t with
  | .ok (info :: _) => updateDeviceIconInfo { x with id := info.id } t
  | .ok [] => insertDeviceIconInfo x t
  | .error .notFindData => insertDeviceIconInfo x t
  | .error e => (.error e, t)

/-- The loop of `PutDeviceIconInfoBatch`, which ends at the first put that fails. -/
def putEachDeviceIconInfo : List DeviceIconInfo → DeviceIconTable →
    Except DeviceIconError Unit × DeviceIconTable
  | [], t => (.ok (), t)
  | x :: rest, t =>
    match putDeviceIconInfo imageVersion x t with
    | (.ok (), t') => putEachDeviceIconInfo rest t'
    | (.error e, t') => (.error e, t')

/-- `PutDeviceIconInfoBatch` -/
def putDeviceIconInfoBatch (deviceIconInfos : List DeviceIconInfo) (t : DeviceIconTable) :
    Except DeviceIconError Unit × DeviceIconTable :=
  if deviceIconInfos.isEmpty then (.error .invalidParam, t)
  else putEachDeviceIconInfo imageVersion deviceIconInfos t

end Calls

/-! ## One put -/

/-- The fields a put needs. -/
structure DeviceIconInfo.IsComplete (x : DeviceIconInfo) : Prop where
  productId : x.productId ≠ []
  imageType : x.imageType ≠ []
  specName : x.specName ≠ []

section Put

variable {imageVersion : Text → Text} {x : DeviceIconInfo} {t : DeviceIconTable}

@[simp] theorem indexColumns_deviceIconInfoToEntries (x : DeviceIconInfo) (r : DeviceIconRow) :
    (deviceIconInfoToEntries x r).indexColumns = x.indexColumns := rfl

@[simp] theorem uniqueKey_deviceIconInfoToEntries (x : DeviceIconInfo) (r : DeviceIconRow) :
    (deviceIconInfoToEntries x r).uniqueKey = x.uniqueKey := rfl

@[simp] theorem id_deviceIconInfoToEntries (x : DeviceIconInfo) (r : DeviceIconRow) :
    (deviceIconInfoToEntries x r).id = r.id := rfl

/-- The key of an icon is its index with its model, where an absent model counts as empty. -/
theorem uniqueKey_eq_iff {r : DeviceIconRow} :
    r.uniqueKey = x.uniqueKey ↔
      r.indexColumns = x.indexColumns ∧ r.internalModel.getD [] = x.internalModel := by
  simp [DeviceIconRow.uniqueKey, DeviceIconInfo.uniqueKey]

/-- The filter for the records of a complete record's index columns and an internal model. -/
theorem createQueryCondition_eq (hx : x.IsComplete) (internalModel : Text) :
    createQueryCondition
      { productIds := [x.productId], internalModel, subProductId := x.subProductId
        imageType := x.imageType, specName := x.specName } =
      some fun r => decide (r.indexColumns = x.indexColumns) &&
        decide (r.internalModel = some internalModel) := by
  have himage : x.imageType.isEmpty = false := by simpa using hx.imageType
  have hspec : x.specName.isEmpty = false := by simpa using hx.specName
  simp only [createQueryCondition, List.isEmpty_cons, himage, hspec, Bool.false_and,
    Bool.false_eq_true, if_false, Bool.false_or, Option.some.injEq]
  ext r
  rw [Bool.eq_iff_iff]
  simp only [DeviceIconRow.indexColumns, DeviceIconInfo.indexColumns, DeviceIconIndex.mk.injEq,
    Bool.and_eq_true, decide_eq_true_eq, List.contains_cons, List.contains_nil, Bool.or_false,
    beq_iff_eq]
  tauto

/-- A record is found by its index columns and its internal model. -/
theorem selectDeviceIconInfos_of_mem (hx : x.IsComplete) {r : DeviceIconRow} (hr : r ∈ t)
    (hindex : r.indexColumns = x.indexColumns) {internalModel : Text}
    (hmodel : r.internalModel = some internalModel) :
    selectDeviceIconInfos imageVersion
      { productIds := [x.productId], internalModel, subProductId := x.subProductId
        imageType := x.imageType, specName := x.specName } t =
      .ok [convertToDeviceIconInfo imageVersion r] := by
  have hselect : t.select (fun a => decide (a.indexColumns = x.indexColumns) &&
      decide (a.internalModel = some internalModel)) = [r] := by
    have hnd := t.nodup.filter (fun a : DeviceIconRow =>
      decide (a.indexColumns = x.indexColumns) && decide (a.internalModel = some internalModel))
    apply List.perm_singleton.mp
    refine (List.perm_ext_iff_of_nodup hnd (List.nodup_singleton r)).mpr fun a => ?_
    simp only [List.mem_filter, Bool.and_eq_true, decide_eq_true_eq, List.mem_singleton]
    constructor
    · rintro ⟨ha, haindex, -⟩
      exact Table.eq_of_index ha hr (haindex.trans hindex.symm)
    · rintro rfl
      exact ⟨hr, hindex, hmodel⟩
  rw [selectDeviceIconInfos, createQueryCondition_eq hx]
  dsimp only
  rw [hselect]
  rfl

/-- Where the filter finds no record with the same index columns, the put is an insertion. -/
theorem putDeviceIconInfo_of_not_found (hx : x.IsComplete)
    (hnone : ∀ r ∈ t, r.indexColumns = x.indexColumns → r.internalModel ≠ some []) :
    putDeviceIconInfo imageVersion x t = insertDeviceIconInfo x t := by
  have hselect : t.select (fun a => decide (a.indexColumns = x.indexColumns) &&
      decide (a.internalModel = some [])) = [] := by
    apply Table.select_eq_nil.mpr
    intro r hr
    by_cases hindex : r.indexColumns = x.indexColumns
    · simp [hnone r hr hindex]
    · simp [hindex]
  simp only [putDeviceIconInfo, selectDeviceIconInfos, createQueryCondition_eq hx, hselect,
    List.take_nil]

/-- A put over the record with its index columns and the empty internal model replaces that
record. -/
theorem putDeviceIconInfo_of_found (hx : x.IsComplete) {r : DeviceIconRow} (hr : r ∈ t)
    (hindex : r.indexColumns = x.indexColumns) (hmodel : r.internalModel = some []) :
    ∃ t', putDeviceIconInfo imageVersion x t = (.ok (), t') ∧
      ∀ a, a ∈ t' ↔ a = deviceIconInfoToEntries x r ∨ a ∈ t ∧ a ≠ r := by
  have hrow : t.select (fun a => decide (a.id = r.id)) = [r] := Table.select_key hr
  cases hupdate : t.update? r.id (deviceIconInfoToEntries x r) with
  | none =>
    -- No other row has these index columns.
    obtain ⟨-, a, ha, hne, haindex⟩ :=
      (Table.update?_eq_none (id_deviceIconInfoToEntries x r)).mp hupdate
    rw [Table.eq_of_index ha hr (haindex.trans hindex.symm)] at hne
    exact absurd rfl hne
  | some t' =>
    refine ⟨t', ?_, fun a => ?_⟩
    · have hselect : selectDeviceIconInfos imageVersion
          { productIds := [x.productId], subProductId := x.subProductId
            imageType := x.imageType, specName := x.specName } t =
          .ok [convertToDeviceIconInfo imageVersion r] :=
        selectDeviceIconInfos_of_mem hx hr hindex hmodel
      simp only [putDeviceIconInfo, hselect, updateDeviceIconInfo, convertToDeviceIconInfo,
        hrow]
      have hentries : deviceIconInfoToEntries { x with id := r.id } r =
          deviceIconInfoToEntries x r := rfl
      rw [hentries, hupdate]
    · rw [Table.mem_update? hupdate]
      constructor
      · rintro (⟨ha, -⟩ | ⟨ha, hne⟩)
        · exact .inl ha
        · exact .inr ⟨ha, fun h => hne (congrArg DeviceIconRow.id h)⟩
      · rintro (ha | ⟨ha, hne⟩)
        · exact .inl ⟨ha, r, hr, rfl⟩
        · exact .inr ⟨ha, fun h => hne (Table.eq_of_key ha hr h)⟩

/-- What a put of a complete record does: it inserts the record, it replaces the record with the
same index columns and the empty internal model, or it is refused by the index. -/
theorem putDeviceIconInfo_cases (imageVersion : Text → Text) (hx : x.IsComplete)
    (t : DeviceIconTable) :
    ((∀ r ∈ t, r.indexColumns ≠ x.indexColumns) ∧ ∃ t',
      putDeviceIconInfo imageVersion x t = (.ok (), t') ∧
        ∀ a, a ∈ t' ↔ a = deviceIconInfoToEntries x { id := t.nextKey } ∨ a ∈ t) ∨
    (∃ r ∈ t, r.indexColumns = x.indexColumns ∧ r.internalModel = some [] ∧ ∃ t',
      putDeviceIconInfo imageVersion x t = (.ok (), t') ∧
        ∀ a, a ∈ t' ↔ a = deviceIconInfoToEntries x r ∨ a ∈ t ∧ a ≠ r) ∨
    ∃ r ∈ t, r.indexColumns = x.indexColumns ∧ r.internalModel ≠ some [] ∧
      putDeviceIconInfo imageVersion x t = (.error .putDeviceIconInfoFail, t) := by
  by_cases hindex : ∀ r ∈ t, r.indexColumns ≠ x.indexColumns
  · obtain ⟨t', ht'⟩ := Table.exists_insert?
      (r := deviceIconInfoToEntries x { id := t.nextKey }) rfl hindex
    refine .inl ⟨hindex, t', ?_, fun a => Table.mem_insert? ht'⟩
    rw [putDeviceIconInfo_of_not_found hx fun r hr h => absurd h (hindex r hr),
      insertDeviceIconInfo, ht']
  push Not at hindex
  obtain ⟨r, hr, hindex⟩ := hindex
  have hunique : ∀ a ∈ t, a.indexColumns = x.indexColumns → a = r :=
    fun a ha h => Table.eq_of_index ha hr (h.trans hindex.symm)
  by_cases hmodel : r.internalModel = some []
  · exact .inr (.inl ⟨r, hr, hindex, hmodel, putDeviceIconInfo_of_found hx hr hindex hmodel⟩)
  · refine .inr (.inr ⟨r, hr, hindex, hmodel, ?_⟩)
    have hrefused : t.insert? (deviceIconInfoToEntries x { id := t.nextKey }) = none :=
      Table.insert?_eq_none.mpr ⟨r, hr, .inr hindex⟩
    rw [putDeviceIconInfo_of_not_found hx fun a ha h => hunique a ha h ▸ hmodel,
      insertDeviceIconInfo, hrefused]

/-- The query for the records of a record's key. -/
def DeviceIconInfo.filterOptions (x : DeviceIconInfo) : DeviceIconInfoFilterOptions where
  productIds := [x.productId]
  internalModel := x.internalModel
  subProductId := x.subProductId
  imageType := x.imageType
  specName := x.specName

/-- The row of a put is the answer to the query for the key of its record. -/
theorem getDeviceIconInfos_of_mem (hx : x.IsComplete) {r : DeviceIconRow}
    (hr : deviceIconInfoToEntries x r ∈ t) :
    getDeviceIconInfos imageVersion x.filterOptions t =
      .ok [convertToDeviceIconInfo imageVersion (deviceIconInfoToEntries x r)] := by
  have himage : x.imageType.isEmpty = false := by simpa using hx.imageType
  have hspec : x.specName.isEmpty = false := by simpa using hx.specName
  simp only [getDeviceIconInfos, DeviceIconInfo.filterOptions, List.isEmpty_cons, himage, hspec,
    Bool.or_false, Bool.false_eq_true, if_false]
  exact selectDeviceIconInfos_of_mem hx hr rfl rfl

/-- A put replaces what is stored under the key of its record, and nothing else. -/
structure Upserts (imageVersion : Text → Text) (x : DeviceIconInfo) (t : DeviceIconTable)
    (IsAnswer : DeviceIconInfo → Prop) : Prop where
  success : (putDeviceIconInfo imageVersion x t).1 = .ok ()
  answer : ∃ info, getDeviceIconInfos imageVersion x.filterOptions
    (putDeviceIconInfo imageVersion x t).2 = .ok [info] ∧ IsAnswer info
  others : ∀ r : DeviceIconRow, r.uniqueKey ≠ x.uniqueKey →
    (r ∈ (putDeviceIconInfo imageVersion x t).2 ↔ r ∈ t)

/-- The record in every field but the row id and the modification time. -/
def DeviceIconInfo.IsSame (x info : DeviceIconInfo) : Prop :=
  { info with id := x.id, modifyTime := x.modifyTime } = x

/-- The icon stored for a product, sub product, image type and spec name. -/
def DeviceIconTable.iconOf (t : DeviceIconTable) (i : DeviceIconIndex) : List UInt8 :=
  match t.select fun r => decide (r.indexColumns = i) with
  | [] => []
  | r :: _ => r.icon

/-- The record with the image version of its product, and with the icon that was stored before
where it has none itself. -/
def DeviceIconInfo.IsMerged (x : DeviceIconInfo) (imageVersion : Text → Text)
    (t : DeviceIconTable) (info : DeviceIconInfo) : Prop :=
  { info with id := x.id } =
    { x with
      wiseVersion := imageVersion x.productId
      icon := if x.icon.isEmpty then t.iconOf x.indexColumns else x.icon }

/-- The record and the row with its index columns have the empty internal model, or there is no
row with its index columns. -/
def DeviceIconInfo.IsPlainFor (x : DeviceIconInfo) (t : DeviceIconTable) : Prop :=
  ∀ r ∈ t, r.indexColumns = x.indexColumns → r.internalModel = some [] ∧ x.internalModel = []

instance (x : DeviceIconInfo) (t : DeviceIconTable) : Decidable (x.IsPlainFor t) :=
  inferInstanceAs (Decidable (∀ r ∈ t.rows, _))

/-- The icon that a table holds for a product, if it has a row. -/
theorem DeviceIconTable.iconOf_eq {r : DeviceIconRow} (hr : r ∈ t)
    (hindex : r.indexColumns = x.indexColumns) : t.iconOf x.indexColumns = r.icon := by
  have hmem : r ∈ t.select fun a => decide (a.indexColumns = x.indexColumns) :=
    Table.mem_select.mpr ⟨hr, decide_eq_true hindex⟩
  rw [iconOf]
  split
  · next hnil =>
    rw [hnil] at hmem
    exact absurd hmem List.not_mem_nil
  · next a rest hcons =>
    have ha : a ∈ t.select fun a => decide (a.indexColumns = x.indexColumns) :=
      hcons ▸ List.mem_cons_self
    rw [Table.mem_select, decide_eq_true_eq] at ha
    rw [Table.eq_of_index ha.1 hr (ha.2.trans hindex.symm)]

/-- A product without a row has no icon. -/
theorem DeviceIconTable.iconOf_eq_nil (h : ∀ r ∈ t, r.indexColumns ≠ x.indexColumns) :
    t.iconOf x.indexColumns = [] := by
  have hselect : t.select (fun a => decide (a.indexColumns = x.indexColumns)) = [] :=
    Table.select_eq_nil.mpr fun r hr => decide_eq_false (h r hr)
  rw [iconOf, hselect]

/-- The row of a put is read back as the merged record. -/
theorem isMerged_convertToDeviceIconInfo {r : DeviceIconRow}
    (hicon : t.iconOf x.indexColumns = r.icon) :
    x.IsMerged imageVersion t
      (convertToDeviceIconInfo imageVersion (deviceIconInfoToEntries x r)) := by
  rw [DeviceIconInfo.IsMerged, hicon]
  rfl

/-- A put of a plain record replaces the record under its key by the merged one. -/
theorem upserts_merged (hx : x.IsComplete) (hplain : x.IsPlainFor t) :
    Upserts imageVersion x t (x.IsMerged imageVersion t) := by
  rcases putDeviceIconInfo_cases imageVersion hx t with ⟨hnone, t', hput, hmem⟩ |
    ⟨r, hr, hindex, -, t', hput, hmem⟩ | ⟨r, hr, hindex, hmodel, -⟩
  · have hrow := (hmem _).mpr (.inl rfl)
    refine ⟨congrArg Prod.fst hput, ⟨_, ?_, isMerged_convertToDeviceIconInfo
      (r := { id := t.nextKey }) (DeviceIconTable.iconOf_eq_nil hnone)⟩, fun a ha => ?_⟩
    · rw [hput]
      exact getDeviceIconInfos_of_mem hx hrow
    · rw [hput, hmem]
      constructor
      · rintro (rfl | hat)
        · exact absurd rfl ha
        · exact hat
      · exact .inr
  · have hrow := (hmem _).mpr (.inl rfl)
    have hrkey : r.uniqueKey = x.uniqueKey := by
      obtain ⟨hr, hx⟩ := hplain r hr hindex
      exact uniqueKey_eq_iff.mpr ⟨hindex, by rw [hr, hx, Option.getD_some]⟩
    refine ⟨congrArg Prod.fst hput, ⟨_, ?_, isMerged_convertToDeviceIconInfo
      (DeviceIconTable.iconOf_eq hr hindex)⟩, fun a ha => ?_⟩
    · rw [hput]
      exact getDeviceIconInfos_of_mem hx hrow
    · rw [hput, hmem]
      constructor
      · rintro (rfl | ⟨hat, -⟩)
        · exact absurd rfl ha
        · exact hat
      · exact fun hat => .inr ⟨hat, fun h => ha (h ▸ hrkey)⟩
  · exact absurd (hplain r hr hindex).1 hmodel

/-- What is read back of a put is the record itself when the wise version is that of the product
and no icon is left over. -/
theorem isSame_convertToDeviceIconInfo_iff {r : DeviceIconRow} :
    x.IsSame (convertToDeviceIconInfo imageVersion (deviceIconInfoToEntries x r)) ↔
      x.wiseVersion = imageVersion x.productId ∧ (x.icon = [] → r.icon = []) := by
  obtain ⟨id, productId, internalModel, subProductId, imageType, specName, version, wiseVersion,
    url, icon, modifyTime⟩ := x
  simp only [DeviceIconInfo.IsSame, convertToDeviceIconInfo, deviceIconInfoToEntries,
    DeviceIconInfo.mk.injEq, Option.getD_some, true_and, and_true, List.isEmpty_iff]
  constructor
  · rintro ⟨hwise, hicon⟩
    refine ⟨hwise.symm, fun hempty => ?_⟩
    rwa [if_pos hempty, hempty] at hicon
  · rintro ⟨hwise, hicon⟩
    refine ⟨hwise.symm, ?_⟩
    split
    · next hempty => rw [hempty, hicon hempty]
    · rfl

/-- A put leaves exactly its record under its key, and all others alone, when the record is
plain, its wise version is that of the product, and it does not leave an old icon standing. -/
theorem upserts_same_iff (hx : x.IsComplete) :
    Upserts imageVersion x t x.IsSame ↔ x.IsPlainFor t ∧
      x.wiseVersion = imageVersion x.productId ∧
      (x.icon = [] → t.iconOf x.indexColumns = []) := by
  have hanswer : ∀ {r : DeviceIconRow} {t' : DeviceIconTable},
      putDeviceIconInfo imageVersion x t = (.ok (), t') → deviceIconInfoToEntries x r ∈ t' →
      t.iconOf x.indexColumns = r.icon →
      ((∃ info, getDeviceIconInfos imageVersion x.filterOptions
        (putDeviceIconInfo imageVersion x t).2 = .ok [info] ∧ x.IsSame info) ↔
        x.wiseVersion = imageVersion x.productId ∧
          (x.icon = [] → t.iconOf x.indexColumns = [])) := by
    intro r t' hput hrow hicon
    rw [hput, getDeviceIconInfos_of_mem hx hrow, hicon, ← isSame_convertToDeviceIconInfo_iff]
    constructor
    · rintro ⟨info, hinfo, hsame⟩
      cases hinfo
      exact hsame
    · exact fun hsame => ⟨_, rfl, hsame⟩
  constructor
  · rintro ⟨hsuccess, hfound, hothers⟩
    rcases putDeviceIconInfo_cases imageVersion hx t with ⟨hnone, t', hput, hmem⟩ |
      ⟨r, hr, hindex, hmodel, t', hput, hmem⟩ | ⟨-, -, -, -, hput⟩
    · refine ⟨fun r hr h => absurd h (hnone r hr), ?_⟩
      exact (hanswer (r := { id := t.nextKey }) hput ((hmem _).mpr (.inl rfl))
        (DeviceIconTable.iconOf_eq_nil hnone)).mp hfound
    · refine ⟨fun a ha h => ?_, (hanswer hput ((hmem _).mpr (.inl rfl))
        (DeviceIconTable.iconOf_eq hr hindex)).mp hfound⟩
      obtain rfl := Table.eq_of_index ha hr (h.trans hindex.symm)
      refine ⟨hmodel, ?_⟩
      by_contra hother
      -- The replaced record has another key, so it should be left alone.
      have hne : a.uniqueKey ≠ x.uniqueKey := fun h =>
        hother (by rw [← (uniqueKey_eq_iff.mp h).2, hmodel, Option.getD_some])
      have hstill := (hothers a hne).mpr ha
      rw [hput, hmem] at hstill
      rcases hstill with heq | ⟨-, hself⟩
      · exact hne (congrArg DeviceIconRow.uniqueKey heq)
      · exact hself rfl
    · rw [hput] at hsuccess
      cases hsuccess
  · rintro ⟨hplain, hfields⟩
    obtain ⟨hsuccess, -, hothers⟩ : Upserts imageVersion x t (x.IsMerged imageVersion t) :=
      upserts_merged hx hplain
    refine ⟨hsuccess, ?_, hothers⟩
    rcases putDeviceIconInfo_cases imageVersion hx t with ⟨hnone, t', hput, hmem⟩ |
      ⟨r, hr, hindex, -, t', hput, hmem⟩ | ⟨r, hr, hindex, hmodel, -⟩
    · exact (hanswer (r := { id := t.nextKey }) hput ((hmem _).mpr (.inl rfl))
        (DeviceIconTable.iconOf_eq_nil hnone)).mpr hfields
    · exact (hanswer hput ((hmem _).mpr (.inl rfl))
        (DeviceIconTable.iconOf_eq hr hindex)).mpr hfields
    · exact absurd (hplain r hr hindex).1 hmodel

end Put

/-! ## Batches -/

section Batch

variable {imageVersion : Text → Text}

/-- The table after single puts, one after the other. -/
def singlePuts (imageVersion : Text → Text) (deviceIconInfos : List DeviceIconInfo)
    (t : DeviceIconTable) : DeviceIconTable :=
  deviceIconInfos.foldl (fun t x => (putDeviceIconInfo imageVersion x t).2) t

/-- The loop makes its single puts up to the first that fails. -/
theorem putEachDeviceIconInfo_cases (deviceIconInfos : List DeviceIconInfo)
    (t : DeviceIconTable) :
    putEachDeviceIconInfo imageVersion deviceIconInfos t =
        (.ok (), singlePuts imageVersion deviceIconInfos t) ∨
      ∃ done x rest e, deviceIconInfos = done ++ x :: rest ∧
        (putDeviceIconInfo imageVersion x (singlePuts imageVersion done t)).1 = .error e ∧
        putEachDeviceIconInfo imageVersion deviceIconInfos t =
          (.error e, singlePuts imageVersion (done ++ [x]) t) := by
  induction deviceIconInfos generalizing t with
  | nil => exact .inl rfl
  | cons x rest ih =>
    rw [putEachDeviceIconInfo]
    cases hput : putDeviceIconInfo imageVersion x t with
    | mk r t' =>
      cases r with
      | error e =>
        refine .inr ⟨[], x, rest, e, rfl, ?_, ?_⟩
        · exact congrArg Prod.fst hput
        · exact Prod.ext rfl (congrArg Prod.snd hput).symm
      | ok =>
        have hsingle : ∀ l, singlePuts imageVersion (x :: l) t = singlePuts imageVersion l t' :=
          fun l => congrArg (singlePuts imageVersion l) (congrArg Prod.snd hput)
        rw [hsingle]
        rcases ih t' with hok | ⟨done, y, others, e, rfl, hfail, herror⟩
        · exact .inl hok
        · refine .inr ⟨x :: done, y, others, e, rfl, ?_, ?_⟩
          · rw [hsingle]
            exact hfail
          · rw [List.cons_append, hsingle]
            exact herror

end Batch

/-- For every table and all products: a put of a plain record replaces the record under its key
by the merged one and leaves the others alone, and a batch is its single puts up to the first
that fails. -/
theorem putDeviceIconInfo_upserts (imageVersion : Text → Text) (t : DeviceIconTable) :
    (∀ x : DeviceIconInfo, x.IsComplete → x.IsPlainFor t →
      Upserts imageVersion x t (x.IsMerged imageVersion t)) ∧
    ∀ deviceIconInfos, deviceIconInfos ≠ [] →
      (putDeviceIconInfoBatch imageVersion deviceIconInfos t =
        (.ok (), singlePuts imageVersion deviceIconInfos t) ∨
      ∃ done x rest e, deviceIconInfos = done ++ x :: rest ∧
        (putDeviceIconInfo imageVersion x (singlePuts imageVersion done t)).1 = .error e ∧
        putDeviceIconInfoBatch imageVersion deviceIconInfos t =
          (.error e, singlePuts imageVersion (done ++ [x]) t)) := by
  refine ⟨fun x hx hplain => upserts_merged hx hplain, fun deviceIconInfos hne => ?_⟩
  rw [putDeviceIconInfoBatch, if_neg (by simpa using hne)]
  exact putEachDeviceIconInfo_cases deviceIconInfos t

/-- A record of a camera. -/
def cameraIcon : DeviceIconInfo :=
  { productId := "camera", imageType := "ID", specName := "lg", wiseVersion := "7", icon := [1] }

/-- A record of a lamp. -/
def lampIcon : DeviceIconInfo :=
  { productId := "lamp", imageType := "ID", specName := "lg", internalModel := "m" }

/-- An older record of the camera, and one from before the internal models. -/
def olderIcons : DeviceIconTable :=
  ⟨[{ id := 1, productId := "camera", imageType := "ID", specName := "lg", version := "1"
      icon := [9], internalModel := some [] },
    { id := 2, productId := "watch", imageType := "ID", specName := "lg", icon := [2] }],
    by decide, by decide⟩

/-- The record of the camera is replaced with and without an icon, and a batch replaces it and
inserts that of the lamp. -/
theorem putDeviceIconInfo_upserts_camera :
    Upserts (fun _ => "7") cameraIcon olderIcons
        (cameraIcon.IsMerged (fun _ => "7") olderIcons) ∧
      Upserts (fun _ => "7") { cameraIcon with icon := [] } olderIcons
        ({ cameraIcon with icon := [] }.IsMerged (fun _ => "7") olderIcons) ∧
      putDeviceIconInfoBatch (fun _ => "7") [cameraIcon, lampIcon] olderIcons =
        (.ok (), singlePuts (fun _ => "7") [cameraIcon, lampIcon] olderIcons) := by
  have hupserts := putDeviceIconInfo_upserts (fun _ => "7") olderIcons
  refine ⟨hupserts.1 _ ⟨by decide, by decide, by decide⟩ (by decide),
    hupserts.1 _ ⟨by decide, by decide, by decide⟩ (by decide), ?_⟩
  rcases hupserts.2 [cameraIcon, lampIcon] (by decide) with h | ⟨_, _, _, _, _, _, hfails⟩
  · exact h
  · have hok : (putDeviceIconInfoBatch (fun _ => "7") [cameraIcon, lampIcon] olderIcons).1 =
        .ok () := by decide
    rw [hfails] at hok
    cases hok

/-- The wise version of a record is not stored. -/
theorem not_upserts_wiseVersion :
    ¬∀ (imageVersion : Text → Text) (t : DeviceIconTable) (x : DeviceIconInfo), x.IsComplete →
      Upserts imageVersion x t x.IsSame := by
  intro h
  have hcomplete : cameraIcon.IsComplete := ⟨by decide, by decide, by decide⟩
  have hwise := ((upserts_same_iff hcomplete).mp (h (fun _ => []) .empty cameraIcon hcomplete)).2.1
  revert hwise
  decide

end DeviceProfile
