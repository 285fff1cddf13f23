import DeviceProfile.Library.OrderedMap
import DeviceProfile.Profile.DbKey

/-!
# Entries of profiles

The encoders write one entry for each property of a profile, the decoders fill a profile
from entries. A decoder shows the view of the user whose id the profile to fill has: that
user's entries where there are any, the entries of no user otherwise.
-/

namespace DeviceProfile

open Library Std

/-- Keys and values of the profile store, in the order of the keys. -/
abbrev Entries := ExtTreeMap Text Text

/-- The most entries that are decoded at once. -/
def MAX_DB_RECORD_SIZE : Nat := 10000

/-- The smallest number of an operating system. -/
def MIN_OS_TYPE : Int32 := 0

/-- The largest number of an operating system. -/
def MAX_OS_TYPE : Int32 := 10000

/-- The part of a `DeviceProfile` that the profile store keeps. -/
structure DevProfile where
  deviceId : Text := []
  osSysCap : Text := []
  osVersion : Text := []
  osType : Int32 := MIN_OS_TYPE
  userId : Int32 := DEFAULT_USER_ID
  deriving DecidableEq, Repr

/-- A service of a device, with the values of a fresh object. -/
structure ServiceProfile where
  deviceId : Text := []
  serviceName : Text := []
  serviceType : Text := []
  userId : Int32 := DEFAULT_USER_ID
  deriving DecidableEq, Repr

/-- One value of a service, under a key of its own. -/
structure CharacteristicProfile where
  deviceId : Text := []
  serviceName : Text := []
  characteristicKey : Text := []
  characteristicValue : Text := []
  userId : Int32 := DEFAULT_USER_ID
  deriving DecidableEq, Repr

/-- The error code of the decoders. -/
inductive CodecError where
  | invalidParams
  deriving DecidableEq, Repr

/-! ## Validity -/

section Validity

variable (localUdid : Text)

/-- A device profile can be put when its device id is a key and this device. -/
def IsDevProfileValid (devProfile : DevProfile) : Prop :=
  IsKeyValid devProfile.deviceId ∧ IsLocalUdid localUdid devProfile.deviceId

/-- A service can be put when it is of this device and its ids are keys. -/
def IsSvrProfileValid (svrProfile : ServiceProfile) : Prop :=
  IsKeyValid svrProfile.deviceId ∧ IsLocalUdid localUdid svrProfile.deviceId ∧
    IsKeyValid svrProfile.serviceName

/-- A characteristic can be put when it is of this device and its ids are keys. -/
def IsCharProfileValid (charProfile : CharacteristicProfile) : Prop :=
  IsKeyValid charProfile.deviceId ∧ IsLocalUdid localUdid charProfile.deviceId ∧
    IsKeyValid charProfile.serviceName ∧ IsKeyValid charProfile.characteristicKey

instance (p : DevProfile) : Decidable (IsDevProfileValid localUdid p) :=
  inferInstanceAs (Decidable (_ ∧ _))

instance (p : ServiceProfile) : Decidable (IsSvrProfileValid localUdid p) :=
  inferInstanceAs (Decidable (_ ∧ _))

instance (p : CharacteristicProfile) : Decidable (IsCharProfileValid localUdid p) :=
  inferInstanceAs (Decidable (_ ∧ _))

end Validity

/-! ## Encoding -/

/-- Write properties of a profile, for a user or for no user. -/
def putProperties (profileKey : Text) (userId : Int32) (properties : List (Text × Text))
    (values : Entries) : Entries :=
  properties.foldl (fun values x => values.insert (generateDBKey profileKey x.1 userId) x.2) values

/-- The user id in the keys: only profiles of multiple users have one. -/
def writtenUserId (userId : Int32) (isMultiUser : Bool) : Int32 :=
  if isMultiUser then userId else DEFAULT_USER_ID

/-- The version and the type of the system are written with and without the suffix. -/
def DevProfile.properties (profile : DevProfile) : List (Text × Text) :=
  [(OS_SYS_CAPACITY, profile.osSysCap),
    (OS_VERSION, profile.osVersion),
    (OS_TYPE, numeral profile.osType.toInt),
    (OS_VERSION ++ OH_PROFILE_SUFFIX, profile.osVersion),
    (OS_TYPE ++ OH_PROFILE_SUFFIX, numeral profile.osType.toInt)]

/-- The value of the service name is written without the suffix. -/
def ServiceProfile.properties (profile : ServiceProfile) : List (Text × Text) :=
  [(SERVICE_NAME, profile.serviceName), (SERVICE_TYPE, profile.serviceType)]

/-- The two properties that are stored for a characteristic. -/
def CharacteristicProfile.properties (profile : CharacteristicProfile) : List (Text × Text) :=
  [(CHARACTERISTIC_KEY, profile.characteristicKey),
    (CHARACTERISTIC_VALUE, profile.characteristicValue)]

/-- The entries of a device profile, put over those that are there. -/
def deviceProfileToEntries (profile : DevProfile) (values : Entries)
    (isMultiUser : Bool := false) : Entries :=
  putProperties (generateDeviceProfileKey profile.deviceId)
    (writtenUserId profile.userId isMultiUser) profile.properties values

/-- The entries of a service, under its name with the suffix where the table asks for one. -/
def serviceProfileToEntries (profile : ServiceProfile) (values : Entries)
    (isMultiUser : Bool := false) : Entries :=
  let serviceName := checkAndAddOhSuffix profile.serviceName true
  putProperties (generateServiceProfileKey profile.deviceId serviceName)
    (writtenUserId profile.userId isMultiUser) profile.properties values

/-- The entries of a characteristic, under the name of its service with the suffix. -/
def characteristicProfileToEntries (profile : CharacteristicProfile) (values : Entries)
    (isMultiUser : Bool := false) : Entries :=
  let serviceName := checkAndAddOhSuffix profile.serviceName true
  putProperties (generateCharProfileKey profile.deviceId serviceName profile.characteristicKey)
    (writtenUserId profile.userId isMultiUser) profile.properties values

/-! ## Decoding -/

/-- The properties a user sees: the user's own entries if there are any, else those of no user. -/
def getProfilePropertiesMap (dbEntries : Entries) (userId : Int32) : Entries :=
  if userId ≤ 0 ∧ userId ≠ DEFAULT_USER_ID then ∅
  else
    let maps := dbEntries.foldl (fun (maps : Entries × Entries) key value =>
      let profileProperty := getProfileProperty key userId
      if profileProperty = [] then maps
      else if getUserIdFromDbKey key = DEFAULT_USER_ID then
        (maps.1.insert profileProperty value, maps.2)
      else (maps.1, maps.2.insert profileProperty value)) (∅, ∅)
    if userId ≠ DEFAULT_USER_ID ∧ ¬maps.2.isEmpty then maps.2 else maps.1

/-- A property that is there, not empty and not too long. -/
def validProperty (propertiesMap : Entries) (property : Text) : Option Text :=
  propertiesMap[property]?.filter fun value => 0 < value.length ∧ value.length < MAX_STRING_LEN

/-- A property that is a number between the bounds. -/
def validNumber (propertiesMap : Entries) (property : Text) (minValue maxValue : Int32) :
    Option Int32 :=
  (propertiesMap[property]?.filter fun value =>
    IsNumeral value ∧ minValue < atoi value ∧ atoi value < maxValue).map atoi

/-- Refuse no entries, and too many of them. -/
def checkEntriesSize (values : Entries) : Except CodecError Unit :=
  if values.isEmpty ∨ MAX_DB_RECORD_SIZE < values.size then throw .invalidParams else pure ()

/-- The first key. -/
def beginKey (values : Entries) : Text := (values.toList.head?.map Prod.fst).getD []

/-- Reads a device profile back. A property with the suffix counts before one without. -/
def entriesToDeviceProfile (values : Entries) (profile : DevProfile) :
    Except CodecError DevProfile := do
  checkEntriesSize values
  let propertiesMap := getProfilePropertiesMap values profile.userId
  let osVersion := (validProperty propertiesMap OS_VERSION).getD profile.osVersion
  let osType := (validNumber propertiesMap OS_TYPE MIN_OS_TYPE MAX_OS_TYPE).getD profile.osType
  return { profile with
    osSysCap := (validProperty propertiesMap OS_SYS_CAPACITY).getD profile.osSysCap
    osVersion := (validProperty propertiesMap (OS_VERSION ++ OH_PROFILE_SUFFIX)).getD osVersion
    osType := (validNumber propertiesMap (OS_TYPE ++ OH_PROFILE_SUFFIX) MIN_OS_TYPE
      MAX_OS_TYPE).getD osType }

/-- Reads a service back: its device stands in the first key, its name in the property without the
suffix. -/
def entriesToServiceProfile (values : Entries) (profile : ServiceProfile) :
    Except CodecError ServiceProfile := do
  checkEntriesSize values
  let propertiesMap := getProfilePropertiesMap values profile.userId
  return { profile with
    deviceId := getDeviceIdByDBKey (beginKey values)
    serviceName :=
      ((validProperty propertiesMap SERVICE_NAME).map checkAndRemoveOhSuffix).getD
        profile.serviceName
    serviceType := (validProperty propertiesMap SERVICE_TYPE).getD profile.serviceType }

/-- Reads a characteristic back: its device and its service stand in the first key. -/
def entriesToCharProfile (values : Entries) (profile : CharacteristicProfile) :
    Except CodecError CharacteristicProfile := do
  checkEntriesSize values
  let propertiesMap := getProfilePropertiesMap values profile.userId
  return { profile with
    deviceId := getDeviceIdByDBKey (beginKey values)
    serviceName := getNonOhSuffixServiceNameByDBKey (beginKey values)
    characteristicKey :=
      (validProperty propertiesMap CHARACTERISTIC_KEY).getD profile.characteristicKey
    characteristicValue :=
      (validProperty propertiesMap CHARACTERISTIC_VALUE).getD profile.characteristicValue }

end DeviceProfile
