import DeviceProfile.Library.Json
import DeviceProfile.Profile.Codec
import Mathlib.Data.Int.Order.Basic
import Mathlib.Algebra.Group.Int.Defs
import Mathlib.Algebra.Group.Nat.Defs

/-!
# Service infos

A service info is stored as one entry. Its key joins the device, the user and the service;
its value is an object with all the fields, the wide numbers among them written as strings.
What is read back agrees with what was written, but for a data length beyond the range of
an int and for text behind a NUL.
-/

namespace DeviceProfile.Info

open Library Std

/-- The first segment of the key of a service info. -/
def SERINFO_PREFIX : Text := ("serInfo" : Text)

/-- The name under which a device is written. -/
def UD_ID : Text := ("udid" : Text)

/-- The name under which a user is written. -/
def USER_ID : Text := ("userId" : Text)

/-- The name under which a display is written. -/
def DISPLAYID : Text := ("displayId" : Text)

/-- The name under which the token of the owner is written. -/
def SERVICE_OWNER_TOKEN_ID : Text := ("serviceOwnerTokenId" : Text)

/-- The name under which the package of the owner is written. -/
def SERVICE_OWNER_PKG_NAME : Text := ("serviceOwnerPkgName" : Text)

/-- The name under which the token that registered the service is written. -/
def SERVICE_REGISTER_TOKEN_ID : Text := ("serviceRegisterTokenId" : Text)

/-- The name under which the number of a service is written. -/
def SERVICEID : Text := ("serviceId" : Text)

/-- The name under which the time of the last change is written. -/
def TIME_STAMP : Text := ("timeStamp" : Text)

/-- The name under which the state of the publication is written. -/
def PUBLISH_STATE : Text := ("publishState" : Text)

/-- The name under which the shown name of a service is written. -/
def SERVICE_DISPLAY_NAME : Text := ("serviceDisplayName" : Text)

/-- The name under which the data of the application are written. -/
def CUSTOM_DATA : Text := ("customData" : Text)

/-- The name under which the code of a service is written. -/
def SERVICE_CODE : Text := ("serviceCode" : Text)

/-- The name under which the length of the extra data is written. -/
def DATA_LEN : Text := ("dataLen" : Text)

/-- The name under which the extra data are written. -/
def EXTRA_DATA : Text := ("extraData" : Text)

/-- The name under which the version of a service is written. -/
def VERSION : Text := ("version" : Text)

/-- The name under which the description of a service is written. -/
def DESCRIPTION : Text := ("description" : Text)

/-- The id that stands for every user. -/
def DEFAULT_ID : Int32 := -1

/-- The id that stands for every service. -/
def DEFAULT_SERVICE_ID : Int64 := -1

/-- What a device announces of one of its services, with the values of a fresh object. -/
structure ServiceInfo where
  udid : Text := []
  userId : Int32 := DEFAULT_ID
  displayId : Int64 := -1
  serviceOwnerTokenId : Int32 := -1
  serviceOwnerPkgName : Text := []
  serviceRegisterTokenId : Int32 := -1
  serviceId : Int64 := DEFAULT_SERVICE_ID
  timeStamp : Int64 := -1
  publishState : Int8 := -1
  serviceType : Text := []
  serviceName : Text := []
  serviceDisplayName : Text := []
  customData : Text := []
  serviceCode : Text := []
  dataLen : UInt32 := 0
  extraData : Text := []
  version : Text := []
  description : Text := []
  deriving DecidableEq, Repr

/-- A device, a user and a service; the ids may be the default ids. -/
structure UserInfo where
  udid : Text := []
  userId : Int32 := DEFAULT_ID
  serviceId : Int64 := DEFAULT_SERVICE_ID
  deriving DecidableEq, Repr

/-- The part of a service info that its key is made of. -/
def ServiceInfo.userInfo (s : ServiceInfo) : UserInfo := ⟨s.udid, s.userId, s.serviceId⟩

/-- A service info can be put when none of its fields but the extra data has its default. -/
def IsSvrInfoValid (s : ServiceInfo) : Prop :=
  (s.serviceOwnerPkgName ≠ [] ∧ s.serviceType ≠ [] ∧ s.serviceName ≠ [] ∧
    s.serviceDisplayName ≠ [] ∧ s.customData ≠ [] ∧ s.serviceCode ≠ [] ∧ s.version ≠ [] ∧
    s.description ≠ []) ∧
  (s.userId ≠ DEFAULT_ID ∧ s.displayId ≠ -1 ∧ s.serviceOwnerTokenId ≠ -1 ∧
    s.serviceRegisterTokenId ≠ -1 ∧ s.serviceId ≠ DEFAULT_SERVICE_ID ∧ s.timeStamp ≠ -1 ∧
    s.publishState ≠ -1 ∧ s.dataLen ≠ 0) ∧
  IsKeyValid s.udid

instance (s : ServiceInfo) : Decidable (IsSvrInfoValid s) := inferInstanceAs (Decidable (_ ∧ _))

/-! ## Writing -/

/-- The key of the record of a device, a user and a service. -/
def UserInfo.dbKey (u : UserInfo) : Text :=
  SERINFO_PREFIX ++ SEPARATOR ++ u.udid ++ SEPARATOR ++ numeral u.userId.toInt ++ SEPARATOR ++
    numeral u.serviceId.toInt

/-- The members of the object that is written for a service info. Numbers of 64 bits are written as
texts. -/
def ServiceInfo.members (s : ServiceInfo) : Members :=
  [(UD_ID, .string (cStr s.udid)),
    (USER_ID, .number s.userId.toInt),
    (DISPLAYID, .string (numeral s.displayId.toInt)),
    (SERVICE_OWNER_TOKEN_ID, .number s.serviceOwnerTokenId.toInt),
    (SERVICE_OWNER_PKG_NAME, .string (cStr s.serviceOwnerPkgName)),
    (SERVICE_REGISTER_TOKEN_ID, .number s.serviceRegisterTokenId.toInt),
    (SERVICEID, .string (numeral s.serviceId.toInt)),
    (TIME_STAMP, .string (numeral s.timeStamp.toInt)),
    (PUBLISH_STATE, .number s.publishState.toInt),
    (SERVICE_TYPE, .string (cStr s.serviceType)),
    (SERVICE_NAME, .string (cStr s.serviceName)),
    (SERVICE_DISPLAY_NAME, .string (cStr s.serviceDisplayName)),
    (CUSTOM_DATA, .string (cStr s.customData)),
    (SERVICE_CODE, .string (cStr s.serviceCode)),
    (DATA_LEN, .number s.dataLen.toNat),
    (EXTRA_DATA, .string (cStr s.extraData)),
    (VERSION, .string (cStr s.version)),
    (DESCRIPTION, .string (cStr s.description))]

/-- A service info is one entry: its key and the printed object. -/
def serviceInfoToEntries (json : Json) (s : ServiceInfo) : Entries :=
  (∅ : Entries).insert s.userInfo.dbKey (json.print s.members)

/-! ## Reading -/

/-- The members of a record; one that is missing is no item. -/
structure ParsedJSONFields where
  udidItem : Option Item
  userIdItem : Option Item
  serviceIdItem : Option Item
  displayIdItem : Option Item
  serviceOwnerTokenIdItem : Option Item
  serviceOwnerPkgNameItem : Option Item
  serviceRegisterTokenIdItem : Option Item
  timeStampItem : Option Item
  publishStateItem : Option Item
  serviceTypeItem : Option Item
  serviceNameItem : Option Item
  serviceDisplayNameItem : Option Item
  customDataItem : Option Item
  serviceCodeItem : Option Item
  dataLenItem : Option Item
  extraDataItem : Option Item
  versionItem : Option Item
  descriptionItem : Option Item

/-- Picks the items of the fields out of a parsed object. -/
def parseFields (members : Members) : ParsedJSONFields where
  udidItem := getObjectItem members UD_ID
  userIdItem := getObjectItem members USER_ID
  serviceIdItem := getObjectItem members SERVICEID
  displayIdItem := getObjectItem members DISPLAYID
  serviceOwnerTokenIdItem := getObjectItem members SERVICE_OWNER_TOKEN_ID
  serviceOwnerPkgNameItem := getObjectItem members SERVICE_OWNER_PKG_NAME
  serviceRegisterTokenIdItem := getObjectItem members SERVICE_REGISTER_TOKEN_ID
  timeStampItem := getObjectItem members TIME_STAMP
  publishStateItem := getObjectItem members PUBLISH_STATE
  serviceTypeItem := getObjectItem members SERVICE_TYPE
  serviceNameItem := getObjectItem members SERVICE_NAME
  serviceDisplayNameItem := getObjectItem members SERVICE_DISPLAY_NAME
  customDataItem := getObjectItem members CUSTOM_DATA
  serviceCodeItem := getObjectItem members SERVICE_CODE
  dataLenItem := getObjectItem members DATA_LEN
  extraDataItem := getObjectItem members EXTRA_DATA
  versionItem := getObjectItem members VERSION
  descriptionItem := getObjectItem members DESCRIPTION

/-- The text of an item. An item that is absent or no text reads as empty here. -/
def valuestring (item : Option Item) : Text := (item.bind Item.valuestring).getD []

/-- The number of an item. An item that is absent reads as zero. -/
def valueint (item : Option Item) : Int := (item.map Item.valueint).getD 0

/-- Whether an item is a text. -/
def IsStringFieldValid (item : Option Item) : Prop := (item.bind Item.valuestring).isSome

/-- The fields that are written as texts are texts. -/
def ValidateStringFields (fields : ParsedJSONFields) : Prop :=
  ∀ item ∈ [fields.udidItem, fields.serviceOwnerPkgNameItem, fields.serviceTypeItem,
      fields.serviceNameItem, fields.serviceDisplayNameItem, fields.customDataItem,
      fields.serviceCodeItem, fields.extraDataItem, fields.versionItem, fields.descriptionItem,
      fields.displayIdItem, fields.serviceIdItem, fields.timeStampItem],
    IsStringFieldValid item

/-- The fields that are written as numbers are numbers, and the texts of the 64-bit ones are
numerals. -/
def ValidateNumberFields (fields : ParsedJSONFields) : Prop :=
  (∀ item ∈ [fields.userIdItem, fields.serviceOwnerTokenIdItem, fields.serviceRegisterTokenIdItem,
      fields.publishStateItem, fields.dataLenItem], item.any Item.isNumber) ∧
  ∀ item ∈ [fields.displayIdItem, fields.serviceIdItem, fields.timeStampItem],
    IsNumeral (valuestring item)

instance (item : Option Item) : Decidable (IsStringFieldValid item) :=
  inferInstanceAs (Decidable (_ = true))

instance (fields : ParsedJSONFields) : Decidable (ValidateStringFields fields) :=
  List.decidableBAll _ _

instance (fields : ParsedJSONFields) : Decidable (ValidateNumberFields fields) :=
  have : Decidable (∀ item ∈ [fields.userIdItem, fields.serviceOwnerTokenIdItem,
    fields.serviceRegisterTokenIdItem, fields.publishStateItem, fields.dataLenItem],
    item.any Item.isNumber) := List.decidableBAll _ _
  have : Decidable (∀ item ∈ [fields.displayIdItem, fields.serviceIdItem, fields.timeStampItem],
    IsNumeral (valuestring item)) := List.decidableBAll _ _
  inferInstanceAs (Decidable (_ ∧ _))

/-- The fields of an object, if all of them are of the right kind. -/
def parseAndValidateJSON (members : Members) : Option ParsedJSONFields :=
  let fields := parseFields members
  if ValidateStringFields fields ∧ ValidateNumberFields fields then some fields else none

/-- Each number is converted to the width of its field. -/
def fillServiceInfo (fields : ParsedJSONFields) : ServiceInfo where
  udid := valuestring fields.udidItem
  userId := Int32.ofInt (valueint fields.userIdItem)
  displayId := atoll (valuestring fields.displayIdItem)
  serviceOwnerTokenId := Int32.ofInt (valueint fields.serviceOwnerTokenIdItem)
  serviceOwnerPkgName := valuestring fields.serviceOwnerPkgNameItem
  serviceRegisterTokenId := Int32.ofInt (valueint fields.serviceRegisterTokenIdItem)
  serviceId := atoll (valuestring fields.serviceIdItem)
  timeStamp := atoll (valuestring fields.timeStampItem)
  publishState := Int8.ofInt (valueint fields.publishStateItem)
  serviceType := valuestring fields.serviceTypeItem
  serviceName := valuestring fields.serviceNameItem
  serviceDisplayName := valuestring fields.serviceDisplayNameItem
  customData := valuestring fields.customDataItem
  serviceCode := valuestring fields.serviceCodeItem
  dataLen := UInt32.ofInt (valueint fields.dataLenItem)
  extraData := valuestring fields.extraDataItem
  version := valuestring fields.versionItem
  description := valuestring fields.descriptionItem

/-! ## What is read back -/

/-- The largest data length that an int holds. -/
def MAX_INT : Nat := 2147483647

/-- The info that a record holds: text up to a NUL, and at most the largest int as length. -/
def ServiceInfo.stored (s : ServiceInfo) : ServiceInfo where
  udid := cStr s.udid
  userId := s.userId
  displayId := s.displayId
  serviceOwnerTokenId := s.serviceOwnerTokenId
  serviceOwnerPkgName := cStr s.serviceOwnerPkgName
  serviceRegisterTokenId := s.serviceRegisterTokenId
  serviceId := s.serviceId
  timeStamp := s.timeStamp
  publishState := s.publishState
  serviceType := cStr s.serviceType
  serviceName := cStr s.serviceName
  serviceDisplayName := cStr s.serviceDisplayName
  customData := cStr s.customData
  serviceCode := cStr s.serviceCode
  dataLen := UInt32.ofNat (min MAX_INT s.dataLen.toNat)
  extraData := cStr s.extraData
  version := cStr s.version
  description := cStr s.description

/-- No string field has a NUL. -/
def ServiceInfo.HasNoNul (s : ServiceInfo) : Prop :=
  ∀ text ∈ [s.udid, s.serviceOwnerPkgName, s.serviceType, s.serviceName, s.serviceDisplayName,
    s.customData, s.serviceCode, s.extraData, s.version, s.description], '\x00' ∉ text

instance (s : ServiceInfo) : Decidable s.HasNoNul := List.decidableBAll _ _

/-- The fields of a printed record, by name. -/
theorem parseFields_members (s : ServiceInfo) :
    parseFields s.members =
      { udidItem := some (.string (cStr s.udid))
        userIdItem := some (.number s.userId.toInt)
        serviceIdItem := some (.string (numeral s.serviceId.toInt))
        displayIdItem := some (.string (numeral s.displayId.toInt))
        serviceOwnerTokenIdItem := some (.number s.serviceOwnerTokenId.toInt)
        serviceOwnerPkgNameItem := some (.string (cStr s.serviceOwnerPkgName))
        serviceRegisterTokenIdItem := some (.number s.serviceRegisterTokenId.toInt)
        timeStampItem := some (.string (numeral s.timeStamp.toInt))
        publishStateItem := some (.number s.publishState.toInt)
        serviceTypeItem := some (.string (cStr s.serviceType))
        serviceNameItem := some (.string (cStr s.serviceName))
        serviceDisplayNameItem := some (.string (cStr s.serviceDisplayName))
        customDataItem := some (.string (cStr s.customData))
        serviceCodeItem := some (.string (cStr s.serviceCode))
        dataLenItem := some (.number s.dataLen.toNat)
        extraDataItem := some (.string (cStr s.extraData))
        versionItem := some (.string (cStr s.version))
        descriptionItem := some (.string (cStr s.description)) } := by
  rfl

theorem natAbs_toInt_le_of_range {n : Int} (h : -2 ^ 31 ≤ n) (h' : n < 2 ^ 31) :
    n.natAbs ≤ MAX_PRINTED := by
  have hmax : MAX_PRINTED = 1000000000000000 := rfl
  omega

/-- Every member of a record is printed as it is. -/
theorem isPlain_members (s : ServiceInfo) {m : Text × Item} (hm : m ∈ s.members) :
    '\x00' ∉ m.1 ∧ m.2.IsPlain := by
  have hnumeral : ∀ n : Int, '\x00' ∉ numeral n := not_mem_numeral (by decide) (by decide)
  have hstate : s.publishState.toInt.natAbs ≤ MAX_PRINTED :=
    natAbs_toInt_le_of_range (by have := s.publishState.le_toInt; omega)
      (by have := s.publishState.toInt_lt; omega)
  have hlen : (s.dataLen.toNat : Int).natAbs ≤ MAX_PRINTED := by
    have hlt := s.dataLen.toNat_lt
    have hmax : MAX_PRINTED = 1000000000000000 := rfl
    omega
  have hint : ∀ n : Int32, n.toInt.natAbs ≤ MAX_PRINTED :=
    fun n => natAbs_toInt_le_of_range n.le_toInt n.toInt_lt
  simp only [ServiceInfo.members, List.mem_cons, List.not_mem_nil, or_false] at hm
  rcases hm with rfl | rfl | rfl | rfl | rfl | rfl | rfl | rfl | rfl | rfl | rfl | rfl | rfl |
    rfl | rfl | rfl | rfl | rfl
  all_goals refine ⟨by dsimp only; decide, ?_⟩
  all_goals first
    | exact not_mem_cStr _
    | exact hnumeral _
    | exact hint _
    | exact hstate
    | exact hlen

/-- A faithful library reads the members of a printed info back. -/
theorem parse_print_members {json : Json} (h : json.IsFaithful) (s : ServiceInfo) :
    json.parse (json.print s.members) = some s.members :=
  h _ fun _ hm => isPlain_members s hm

/-- A printed record passes the checks of the reader. -/
theorem parseAndValidateJSON_members (s : ServiceInfo) :
    parseAndValidateJSON s.members = some (parseFields s.members) := by
  have hstrings : ValidateStringFields (parseFields s.members) := by
    intro item hitem
    rw [parseFields_members] at hitem
    simp only [List.mem_cons, List.not_mem_nil, or_false] at hitem
    rcases hitem with rfl | rfl | rfl | rfl | rfl | rfl | rfl | rfl | rfl | rfl | rfl | rfl | rfl
    all_goals rfl
  have hnumbers : ValidateNumberFields (parseFields s.members) := by
    rw [parseFields_members]
    constructor
    · intro item hitem
      simp only [List.mem_cons, List.not_mem_nil, or_false] at hitem
      rcases hitem with rfl | rfl | rfl | rfl | rfl
      all_goals rfl
    · intro item hitem
      simp only [List.mem_cons, List.not_mem_nil, or_false] at hitem
      rcases hitem with rfl | rfl | rfl
      all_goals exact isNumeral_numeral _
  exact if_pos ⟨hstrings, hnumbers⟩

theorem valueint_of_range {n : Int} (h : -2 ^ 31 ≤ n) (h' : n < 2 ^ 31) :
    valueint (some (.number n)) = n := by
  change max (-2147483648) (min 2147483647 n) = n
  omega

/-- What is filled in from a printed record. -/
theorem fillServiceInfo_members (s : ServiceInfo) :
    fillServiceInfo (parseFields s.members) = s.stored := by
  have hint : ∀ n : Int32, Int32.ofInt (valueint (some (.number n.toInt))) = n := by
    intro n
    rw [valueint_of_range n.le_toInt n.toInt_lt, Int32.ofInt_toInt]
  have hstate : Int8.ofInt (valueint (some (.number s.publishState.toInt))) = s.publishState := by
    rw [valueint_of_range (by have := s.publishState.le_toInt; omega)
      (by have := s.publishState.toInt_lt; omega), Int8.ofInt_toInt]
  have hlen : UInt32.ofInt (valueint (some (.number s.dataLen.toNat))) =
      UInt32.ofNat (min MAX_INT s.dataLen.toNat) := by
    have hvalue :
        valueint (some (.number s.dataLen.toNat)) = (min MAX_INT s.dataLen.toNat : Nat) := by
      change max (-2147483648) (min 2147483647 (s.dataLen.toNat : Int)) = _
      have hmax : MAX_INT = 2147483647 := rfl
      omega
    have hmod : (((min MAX_INT s.dataLen.toNat : Nat) : Int) % 2 ^ 32).toNat =
        min MAX_INT s.dataLen.toNat := by
      have hmax : MAX_INT = 2147483647 := rfl
      omega
    rw [hvalue, UInt32.ofInt, hmod]
  rw [parseFields_members, fillServiceInfo, ServiceInfo.stored]
  simp only [hint, hstate, hlen, atoll_numeral, valuestring, Option.bind_some, Item.valuestring,
    Option.getD_some]

/-- A record holds its info unless a field has a NUL or the length is too large. -/
theorem stored_eq_self_iff {s : ServiceInfo} :
    s.stored = s ↔ s.HasNoNul ∧ s.dataLen.toNat ≤ MAX_INT := by
  have hlen :
      UInt32.ofNat (min MAX_INT s.dataLen.toNat) = s.dataLen ↔ s.dataLen.toNat ≤ MAX_INT := by
    have hlt := s.dataLen.toNat_lt
    have hmax : MAX_INT = 2147483647 := rfl
    rw [← UInt32.toNat_inj, UInt32.toNat_ofNat_of_lt' (by rw [UInt32.size]; omega)]
    omega
  obtain ⟨udid, userId, displayId, owner, pkg, register, serviceId, time, state, type, name,
    display, custom, code, len, extra, version, description⟩ := s
  simp only [ServiceInfo.stored, ServiceInfo.mk.injEq, ServiceInfo.HasNoNul, cStr_eq_self_iff,
    List.forall_mem_cons, hlen, true_and, List.not_mem_nil]
  tauto

end DeviceProfile.Info
