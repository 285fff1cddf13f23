import DeviceProfile.Library.Decimal
import DeviceProfile.Trust.Data

/-!
# Keys of the profile store

Device, service and characteristic profiles are stored as one entry for each
property. The key of an entry joins the kind, the device id, the service name and the
characteristic key of the profile, the name of the property and, for a profile of one
user, the user id. One character stands for one byte, so lengths count bytes.
-/

namespace DeviceProfile

open Library

/-- The character between the segments of a key. -/
def separator : Char := '#'

/-- The text between two segments of a key. -/
def SEPARATOR : Text := [separator]

/-- The first segment of the keys of devices. -/
def DEV_PREFIX : Text := ("dev" : Text)

/-- The first segment of the keys of services. -/
def SVR_PREFIX : Text := ("svr" : Text)

/-- The first segment of the keys of characteristics. -/
def CHAR_PREFIX : Text := ("char" : Text)

/-- The name of the property that holds the capability of a device. -/
def OS_SYS_CAPACITY : Text := ("osSysCapacity" : Text)

/-- The name of the property that holds the version of an operating system. -/
def OS_VERSION : Text := ("osVersion" : Text)

/-- The name of the property that holds the number of an operating system. -/
def OS_TYPE : Text := ("osType" : Text)

/-- The name of the property that holds the name of a service. -/
def SERVICE_NAME : Text := ("serviceName" : Text)

/-- The name of the property that holds the type of a service. -/
def SERVICE_TYPE : Text := ("serviceType" : Text)

/-- The name of the property that holds the key of a characteristic. -/
def CHARACTERISTIC_KEY : Text := ("characteristicKey" : Text)

/-- The name of the property that holds the value of a characteristic. -/
def CHARACTERISTIC_VALUE : Text := ("characteristicValue" : Text)

/-- The suffix of what this system writes under a name that others write as well. -/
def OH_PROFILE_SUFFIX : Text := ("_OH" : Text)

/-- The most characters of a segment of a key. -/
def MAX_STRING_LEN : Nat := 4096

/-- The limit on devices, in the cache and in one call. -/
def MAX_DEVICE_SIZE : Nat := 1000

/-- The limit on services in the cache. -/
def MAX_SERVICE_SIZE : Nat := 5000

/-- The user id of profiles that belong to no user. -/
def DEFAULT_USER_ID : Int32 := -1

/-! ## Strings -/

/-- The segments of a text between separators; an empty text is refused. -/
def splitString (str : Text) : Option (List Text) :=
  if str = [] then none else some (str.splitOn separator)

/-- Join segments with separators. -/
def joinString (strs : List Text) : Text := SEPARATOR.intercalate strs

/-- Not empty, and not too long for the checks of keys. -/
def HasKeyLength (str : Text) : Prop := str.length ≠ 0 ∧ str.length ≤ MAX_STRING_LEN

instance (str : Text) : Decidable (HasKeyLength str) := inferInstanceAs (Decidable (_ ∧ _))

/-- A text that can be a segment of a key. -/
def IsKeyValid (key : Text) : Prop := HasKeyLength key ∧ separator ∉ key

instance (key : Text) : Decidable (IsKeyValid key) := inferInstanceAs (Decidable (_ ∧ _))

/-- The text is the id of this device. -/
def IsLocalUdid (localUdid udid : Text) : Prop := HasKeyLength udid ∧ localUdid = udid

instance (localUdid udid : Text) : Decidable (IsLocalUdid localUdid udid) :=
  inferInstanceAs (Decidable (_ ∧ _))

/-! ## The suffix of service names -/

/-- The service names that are stored with the suffix. -/
def NEED_ADD_OH_SUFFIX_SVR_NAMES : List Text :=
  [("DistributeModemService" : Text), ("multiScreenAssistantService" : Text), ("appInfo" : Text)]

/-- The device properties that are stored with the suffix as well. -/
def NEED_ADD_OH_SUFFIX_DEV_PROFILES : List Text := [OS_TYPE, OS_VERSION]

/-- The names that get the suffix; services and device properties have a table each. -/
def IsNeedAddOhSuffix (profileName : Text) (isSvr : Bool) : Prop :=
  HasKeyLength profileName ∧
    if isSvr then profileName ∈ NEED_ADD_OH_SUFFIX_SVR_NAMES
    else profileName ∈ NEED_ADD_OH_SUFFIX_DEV_PROFILES

instance (profileName : Text) (isSvr : Bool) : Decidable (IsNeedAddOhSuffix profileName isSvr) :=
  inferInstanceAs (Decidable (_ ∧ _))

/-- Adds the suffix to a name of the table and leaves every other name. -/
def checkAndAddOhSuffix (profileName : Text) (isSvr : Bool) : Text :=
  if IsNeedAddOhSuffix profileName isSvr then profileName ++ OH_PROFILE_SUFFIX else profileName

/-- Unlike the addition, the removal does not ask which name it is. -/
def checkAndRemoveOhSuffix (profileName : Text) : Text :=
  if OH_PROFILE_SUFFIX <:+ profileName then
    profileName.take (profileName.length - OH_PROFILE_SUFFIX.length)
  else profileName

/-! ## Writing keys -/

/-- The start of the keys of a device. -/
def generateDeviceProfileKey (deviceId : Text) : Text := DEV_PREFIX ++ SEPARATOR ++ deviceId

/-- The start of the keys of a service. -/
def generateServiceProfileKey (deviceId serviceName : Text) : Text :=
  SVR_PREFIX ++ SEPARATOR ++ deviceId ++ SEPARATOR ++ serviceName

/-- The start of the keys of a characteristic. -/
def generateCharProfileKey (deviceId serviceName charKey : Text) : Text :=
  CHAR_PREFIX ++ SEPARATOR ++ deviceId ++ SEPARATOR ++ serviceName ++ SEPARATOR ++ charKey

/-- The key of one property. The user is its last segment unless it is the default one. -/
def generateDBKey (profileKey profileProperty : Text) (userId : Int32 := DEFAULT_USER_ID) : Text :=
  if userId ≠ DEFAULT_USER_ID then
    profileKey ++ SEPARATOR ++ profileProperty ++ SEPARATOR ++ numeral userId.toInt
  else profileKey ++ SEPARATOR ++ profileProperty

/-- The keys of a service profile, for a user or for no user. -/
def generateServiceDBkeys (deviceId serviceName : Text) (isMultiUser : Bool := false)
    (userId : Int32 := DEFAULT_USER_ID) : List Text :=
  let serviceProfileKey :=
    generateServiceProfileKey deviceId (checkAndAddOhSuffix serviceName true)
  if isMultiUser then
    [generateDBKey serviceProfileKey SERVICE_NAME userId,
      generateDBKey serviceProfileKey SERVICE_TYPE userId]
  else
    [generateDBKey serviceProfileKey SERVICE_NAME, generateDBKey serviceProfileKey SERVICE_TYPE]

/-- The keys of a characteristic profile, for a user or for no user. -/
def generateCharacteristicDBkeys (deviceId serviceName characteristicKey : Text)
    (isMultiUser : Bool := false) (userId : Int32 := DEFAULT_USER_ID) : List Text :=
  let charProfileKey :=
    generateCharProfileKey deviceId (checkAndAddOhSuffix serviceName true) characteristicKey
  if isMultiUser then
    [generateDBKey charProfileKey CHARACTERISTIC_KEY userId,
      generateDBKey charProfileKey CHARACTERISTIC_VALUE userId]
  else
    [generateDBKey charProfileKey CHARACTERISTIC_KEY,
      generateDBKey charProfileKey CHARACTERISTIC_VALUE]

/-! ## Reading keys -/

/-- A segment of a key, empty when the key is refused or has too few of them. -/
def segmentByDBKey (i : Nat) (dbKey : Text) : Text :=
  if HasKeyLength dbKey then
    match splitString dbKey with
    | none => []
    | some res => res[i]?.getD []
  else []

/-- The device is the second segment of a key. -/
def getDeviceIdByDBKey (dbKey : Text) : Text := segmentByDBKey 1 dbKey

/-- The service is the third segment of a key. -/
def getServiceNameByDBKey (dbKey : Text) : Text := segmentByDBKey 2 dbKey

/-- The key of a characteristic is the fourth segment of a key. -/
def getCharKeyByDBKey (dbKey : Text) : Text := segmentByDBKey 3 dbKey

/-- The service of a key, without the suffix. -/
def getNonOhSuffixServiceNameByDBKey (dbKey : Text) : Text :=
  let serviceName := getServiceNameByDBKey dbKey
  if serviceName = [] then [] else checkAndRemoveOhSuffix serviceName

/-- The number in segment `i` of a key of the given kind, or what was there before. -/
def userIdAt (splitKeys : List Text) (kind : Text) (i : Nat) (userId : Int32) : Int32 :=
  match splitKeys[i]? with
  | some segment =>
    if splitKeys.head? = some kind ∧ IsNumeral segment then atoi segment else userId
  | none => userId

/-- The user of a key: a numeral that stands where keys of that kind have their user, read by
`atoi`. -/
def getUserIdFromDbKey (dbKey : Text) : Int32 :=
  match splitString dbKey with
  | none => DEFAULT_USER_ID
  | some splitKeys =>
    if splitKeys.length < 3 then DEFAULT_USER_ID
    else
      let userId := userIdAt splitKeys DEV_PREFIX 3 DEFAULT_USER_ID
      let userId := userIdAt splitKeys SVR_PREFIX 4 userId
      userIdAt splitKeys CHAR_PREFIX 5 userId

/-- Leave out segment `i` of a key of the given kind, if it is a number. -/
def dropUserIdAt (kind : Text) (i : Nat) (splitKeys : List Text) : List Text :=
  match splitKeys[i]? with
  | some segment =>
    if splitKeys.head? = some kind ∧ IsNumeral segment then splitKeys.eraseIdx i else splitKeys
  | none => splitKeys

/-- A key without its user. A text that is no key gives the empty text. -/
def removeUserIdFromDbKey (dbKey : Text) : Text :=
  match splitString dbKey with
  | none => []
  | some splitKeys =>
    if splitKeys.length < 3 then []
    else
      let splitKeys := dropUserIdAt DEV_PREFIX 3 splitKeys
      let splitKeys := dropUserIdAt SVR_PREFIX 4 splitKeys
      joinString (dropUserIdAt CHAR_PREFIX 5 splitKeys)

/-- A profile of one user shows that user's entries and those of no user. -/
def visibleProperty (property : Text) (userId getUserId : Int32) : Text :=
  if userId ≠ DEFAULT_USER_ID ∧ getUserId = DEFAULT_USER_ID then property
  else if userId = getUserId then property else []

/-- The property an entry holds for a user, empty when it is not visible to the user. -/
def getProfileProperty (dbKey : Text) (userId : Int32) : Text :=
  if HasKeyLength dbKey then
    let getUserId := getUserIdFromDbKey dbKey
    match splitString dbKey with
    | none => []
    | some splitKeys =>
      if splitKeys.length < 3 then []
      else if splitKeys.head? = some DEV_PREFIX then
        visibleProperty (splitKeys[2]?.getD []) userId getUserId
      else if splitKeys.head? = some SVR_PREFIX ∧ 4 ≤ splitKeys.length then
        visibleProperty (splitKeys[3]?.getD []) userId getUserId
      else if splitKeys.head? = some CHAR_PREFIX ∧ 5 ≤ splitKeys.length then
        visibleProperty (splitKeys[4]?.getD []) userId getUserId
      else []
  else []

end DeviceProfile
