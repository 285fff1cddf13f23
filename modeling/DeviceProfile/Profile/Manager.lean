import DeviceProfile.Cache.SwitchStatus
import DeviceProfile.Profile.KeySpace
import DeviceProfile.Profile.Store

/-!
# The profile manager

Puts, gets and deletions of profiles, the cache of the puts of the start-up phase, and the
exchange of the entries of no user when another user comes to the foreground.
-/

namespace DeviceProfile

open Library Std

/-- The size above which no more puts are kept for the start. -/
def MAX_MAP_LEN : Nat := 1000

/-- The key of the characteristic that holds the static capability. -/
def STATIC_CHARACTERISTIC_KEY : Text := ("static_capability" : Text)

/-- What the system says about this device. -/
structure LocalDevice where
  udid : Text
  uuid : Text
  /-- The user that the system has in the foreground, the default id where it does not say. -/
  osForegroundUserId : Int32 := DEFAULT_USER_ID

/-- A device. -/
def sampleDevice : LocalDevice := { udid := ("udid" : Text), uuid := ("uuid" : Text) }

/-- The error codes of the manager. -/
inductive ManagerError where
  | invalidParams
  | putKvDbFail
  | getKvDbFail
  | delKvDbFail
  | getDeviceEntriesFail
  | getMultiUserProfileParamsInvalid
  | getLocalProfileIsNotForegroundId
  | kv (e : KvError)
  deriving DecidableEq, Repr

/-- The state of the profile manager and of the manager of users. -/
structure Manager where
  isFirst : Bool := false
  putTempCache : Entries := ∅
  store : KvStore := ∅
  foregroundUserId : Int32 := DEFAULT_USER_ID

namespace Manager

variable (device : LocalDevice)

/-! ## The foreground user -/

/-- As long as no user is known the system is asked. -/
def getCurrentForegroundUserID (m : Manager) : Int32 × Manager :=
  if m.foregroundUserId = DEFAULT_USER_ID then
    (device.osForegroundUserId, { m with foregroundUserId := device.osForegroundUserId })
  else (m.foregroundUserId, m)

/-! ## Putting profiles -/

/-- A full cache drops the values. -/
def addToPutTempCache (values : Entries) (m : Manager) : Manager :=
  if values.isEmpty then m
  else if MAX_MAP_LEN < m.putTempCache.size then m
  else { m with putTempCache := m.putTempCache ∪ values }

/-- Add the entries of a profile: those of its user and, for the foreground user, those of no
user. -/
def addEntries (toEntries : Entries → Bool → Entries) (userId : Int32) (isMultiUser : Bool)
    (entries : Entries) (m : Manager) : Entries × Manager :=
  if isMultiUser then
    let foreground := m.getCurrentForegroundUserID device
    (if foreground.1 = userId then toEntries (toEntries entries true) false
      else toEntries entries true, foreground.2)
  else (toEntries entries false, m)

/-- In the start-up phase the entries are only cached. -/
def putEntries (stored : Bool) (x : Entries × Manager) : Except ManagerError Unit × Manager :=
  if x.2.isFirst then (.ok (), x.2.addToPutTempCache x.1)
  else
    match x.2.store.putBatch device.uuid stored x.1 with
    | .error _ => (.error .putKvDbFail, x.2)
    | .ok store => (.ok (), { x.2 with store })

/-- The entries that a put of a device profile adds. -/
def addDeviceProfile (p : Flagged DevProfile) (entries : Entries) (m : Manager) :
    Entries × Manager :=
  m.addEntries device
    (fun values isMultiUser => deviceProfileToEntries p.profile values isMultiUser)
    p.profile.userId p.isMultiUser entries

/-- The entries that a put of a service adds. -/
def addServiceProfile (p : Flagged ServiceProfile) (entries : Entries) (m : Manager) :
    Entries × Manager :=
  m.addEntries device
    (fun values isMultiUser => serviceProfileToEntries p.profile values isMultiUser)
    p.profile.userId p.isMultiUser entries

/-- The entries that a put of a characteristic adds. -/
def addCharacteristicProfile (p : Flagged CharacteristicProfile) (entries : Entries)
    (m : Manager) : Entries × Manager :=
  m.addEntries device
    (fun values isMultiUser => characteristicProfileToEntries p.profile values isMultiUser)
    p.profile.userId p.isMultiUser entries

/-- Puts a device profile of this device. -/
def putDeviceProfile (stored : Bool) (p : Flagged DevProfile) (m : Manager) :
    Except ManagerError Unit × Manager :=
  if ¬IsDevProfileValid device.udid p.profile then (.error .invalidParams, m)
  else putEntries device stored (m.addDeviceProfile device p ∅)

/-- Puts a service of this device. -/
def putServiceProfile (stored : Bool) (p : Flagged ServiceProfile) (m : Manager) :
    Except ManagerError Unit × Manager :=
  if ¬IsSvrProfileValid device.udid p.profile then (.error .invalidParams, m)
  else putEntries device stored (m.addServiceProfile device p ∅)

/-- Puts a characteristic of this device. -/
def putCharacteristicProfile (stored : Bool) (p : Flagged CharacteristicProfile) (m : Manager) :
    Except ManagerError Unit × Manager :=
  if ¬IsCharProfileValid device.udid p.profile then (.error .invalidParams, m)
  else putEntries device stored (m.addCharacteristicProfile device p ∅)

/-- A batch passes over invalid profiles. -/
def putServiceProfileBatch (stored : Bool) (serviceProfiles : List (Flagged ServiceProfile))
    (m : Manager) : Except ManagerError Unit × Manager :=
  putEntries device stored (serviceProfiles.foldl (fun x p =>
    if ¬IsSvrProfileValid device.udid p.profile then x
    else x.2.addServiceProfile device p x.1) (∅, m))

/-- A batch passes over invalid profiles. -/
def putCharacteristicProfileBatch (stored : Bool)
    (charProfiles : List (Flagged CharacteristicProfile)) (m : Manager) :
    Except ManagerError Unit × Manager :=
  putEntries device stored (charProfiles.foldl (fun x p =>
    if ¬IsCharProfileValid device.udid p.profile then x
    else x.2.addCharacteristicProfile device p x.1) (∅, m))

/-! ## The end of the start-up phase -/

/-- The manager stops keeping its puts for the start. -/
def resetFirst (m : Manager) : Manager := { m with isFirst := false }

/-- Store the cached entries together with those that are passed in, which are changed too. -/
def savePutTempCache (stored : Bool) (entries : Entries) (m : Manager) :
    Except ManagerError Unit × Entries × Manager :=
  let entries := entries ∪ m.putTempCache
  if entries.isEmpty then (.ok (), entries, { m.resetFirst with putTempCache := ∅ })
  else
    match m.store.putBatch device.uuid stored entries with
    | .error e => (.error (.kv e), entries, m)
    | .ok store => (.ok (), entries, { m.resetFirst with store, putTempCache := ∅ })

/-! ## Getting profiles -/

/-- A user reads the own profiles; on this device only while in the foreground. -/
def isMultiUserValid (deviceId : Text) (isMultiUser : Bool) (userId : Int32) (m : Manager) :
    Except ManagerError Unit × Manager :=
  if deviceId = [] ∨ (isMultiUser ∧ userId ≤ 0) ∨ (¬isMultiUser ∧ userId ≠ DEFAULT_USER_ID) then
    (.error .getMultiUserProfileParamsInvalid, m)
  else if isMultiUser ∧ deviceId = device.udid then
    let foreground := m.getCurrentForegroundUserID device
    if userId ≠ foreground.1 then (.error .getLocalProfileIsNotForegroundId, foreground.2)
    else (.ok (), foreground.2)
  else (.ok (), m)

end Manager

namespace ProfileControlUtils

/-- Reads a service from the cache, or from the store where the cache has none. -/
def getServiceProfile (c : ProfileCache) (kvStore : KvStore) (deviceId serviceName : Text)
    (serviceProfile : Flagged ServiceProfile) : Except ManagerError (Flagged ServiceProfile) :=
  if ¬IsKeyValid deviceId ∨ ¬IsKeyValid serviceName then .error .invalidParams
  else
    match c.getServiceProfile deviceId serviceName with
    | .ok cached => .ok cached
    | .error _ =>
      match kvStore.getByPrefix (generateServiceProfileKey deviceId serviceName) with
      | .error _ => .error .getKvDbFail
      | .ok values =>
        let profile := (entriesToServiceProfile values serviceProfile.profile).toOption.getD
          serviceProfile.profile
        if profile.serviceName = [] ∨ profile.serviceType = [] then .error .getKvDbFail
        else .ok { serviceProfile with profile }

/-- The entries that are read for a characteristic: those under the name with the suffix, if the
name gets one and they can be read, else those under the name. -/
def characteristicValues (kvStore : KvStore) (deviceId serviceName characteristicKey : Text) :
    Except KvError Entries :=
  let values :=
    if IsNeedAddOhSuffix serviceName true then
      (kvStore.getByPrefix (generateCharProfileKey deviceId (checkAndAddOhSuffix serviceName true)
        characteristicKey)).toOption.getD ∅
    else ∅
  if values.isEmpty then
    kvStore.getByPrefix (generateCharProfileKey deviceId serviceName characteristicKey) values
  else .ok values

/-- Reads a characteristic. The cache is asked only for the static capability and for switches. -/
def getCharacteristicProfile (c : ProfileCache) (kvStore : KvStore)
    (deviceId serviceName characteristicKey : Text) (charProfile : Flagged CharacteristicProfile) :
    Except ManagerError (Flagged CharacteristicProfile) :=
  if ¬IsKeyValid deviceId ∨ ¬IsKeyValid serviceName ∨ ¬IsKeyValid characteristicKey then
    .error .invalidParams
  else
    let cached :=
      if characteristicKey = STATIC_CHARACTERISTIC_KEY ∨ characteristicKey = SWITCH_STATUS then
        (c.getCharacteristicProfile deviceId serviceName characteristicKey).toOption
      else none
    match cached with
    | some cached => .ok cached
    | none =>
      match characteristicValues kvStore deviceId serviceName characteristicKey with
      | .error _ => .error .getKvDbFail
      | .ok values =>
        let profile := (entriesToCharProfile values charProfile.profile).toOption.getD
          charProfile.profile
        if profile.characteristicKey = [] ∨ profile.characteristicValue = [] then
          .error .getKvDbFail
        else .ok { charProfile with profile }

end ProfileControlUtils

namespace Manager

variable (device : LocalDevice)

/-- Reads a service of a device once the user it is read for has been checked. -/
def getServiceProfile (c : ProfileCache) (deviceId serviceName : Text)
    (serviceProfile : Flagged ServiceProfile) (m : Manager) :
    Except ManagerError (Flagged ServiceProfile) × Manager :=
  let serviceProfile :=
    { serviceProfile with profile := { serviceProfile.profile with deviceId } }
  match m.isMultiUserValid device deviceId serviceProfile.isMultiUser
    serviceProfile.profile.userId with
  | (.error e, m) => (.error e, m)
  | (.ok _, m) =>
    (ProfileControlUtils.getServiceProfile c m.store deviceId serviceName serviceProfile, m)

/-- Reads a characteristic of a device once the user it is read for has been checked. -/
def getCharacteristicProfile (c : ProfileCache) (deviceId serviceName characteristicKey : Text)
    (charProfile : Flagged CharacteristicProfile) (m : Manager) :
    Except ManagerError (Flagged CharacteristicProfile) × Manager :=
  let charProfile := { charProfile with profile := { charProfile.profile with deviceId } }
  match m.isMultiUserValid device deviceId charProfile.isMultiUser charProfile.profile.userId with
  | (.error e, m) => (.error e, m)
  | (.ok _, m) =>
    (ProfileControlUtils.getCharacteristicProfile c m.store deviceId serviceName
      characteristicKey charProfile, m)

/-! ## Deleting profiles -/

/-- The keys to delete: those of the user and, for the foreground user, those of no user. -/
def deletedKeys (keys : Bool → Int32 → List Text) (isMultiUser : Bool) (userId : Int32)
    (m : Manager) : List Text × Manager :=
  if isMultiUser then
    let foreground := m.getCurrentForegroundUserID device
    (if foreground.1 = userId then keys true userId ++ keys false DEFAULT_USER_ID
      else keys true userId, foreground.2)
  else (keys false DEFAULT_USER_ID, m)

/-- Deletes the keys of a service from the store, then the service from the cache. -/
def deleteServiceProfile (deviceId serviceName : Text) (isMultiUser : Bool) (userId : Int32)
    (c : ProfileCache) (m : Manager) : Except ManagerError Unit × ProfileCache × Manager :=
  if ¬IsKeyValid deviceId ∨ ¬IsLocalUdid device.udid deviceId ∨ ¬IsKeyValid serviceName then
    (.error .invalidParams, c, m)
  else
    let x := m.deletedKeys device
      (fun isMultiUser userId => generateServiceDBkeys deviceId serviceName isMultiUser userId)
      isMultiUser userId
    match x.2.store.deleteBatch x.1 with
    | .error _ => (.error .delKvDbFail, c, x.2)
    | .ok store => (.ok (), (c.deleteServiceProfile deviceId serviceName).toOption.getD c,
        { x.2 with store })

/-- Deletes the keys of a characteristic from the store, then the characteristic from the cache. -/
def deleteCharacteristicProfile (deviceId serviceName characteristicKey : Text)
    (isMultiUser : Bool) (userId : Int32) (c : ProfileCache) (m : Manager) :
    Except ManagerError Unit × ProfileCache × Manager :=
  if ¬IsKeyValid deviceId ∨ ¬IsLocalUdid device.udid deviceId ∨ ¬IsKeyValid serviceName ∨
      ¬IsKeyValid characteristicKey then
    (.error .invalidParams, c, m)
  else
    let x := m.deletedKeys device
      (fun isMultiUser userId =>
        generateCharacteristicDBkeys deviceId serviceName characteristicKey isMultiUser userId)
      isMultiUser userId
    match x.2.store.deleteBatch x.1 with
    | .error _ => (.error .delKvDbFail, c, x.2)
    | .ok store => (.ok (),
        (c.deleteCharProfile deviceId serviceName characteristicKey).toOption.getD c,
        { x.2 with store })

/-! ## Requests for many keys -/

/-- The keys of a device are looked for without the separator that ends the id. -/
def getProfilesByKeyPrefix (udid : Text) (kvStore : KvStore) : Except ManagerError Entries :=
  if udid = [] then .error .invalidParams
  else
    match kvStore.getByPrefix (DEV_PREFIX ++ SEPARATOR ++ udid) with
    | .error _ => .error .getKvDbFail
    | .ok values =>
      match kvStore.getByPrefix (SVR_PREFIX ++ SEPARATOR ++ udid) values with
      | .error _ => .error .getKvDbFail
      | .ok values =>
        match kvStore.getByPrefix (CHAR_PREFIX ++ SEPARATOR ++ udid) values with
        | .error _ => .error .getKvDbFail
        | .ok values => .ok values

/-- Writes entries as one batch; there is nothing to do for none. -/
def saveBatchByKeys (stored : Bool) (entries : Entries) (m : Manager) :
    Except ManagerError Manager :=
  if entries.isEmpty then .ok m
  else
    match m.store.putBatch device.uuid stored entries with
    | .error e => .error (.kv e)
    | .ok store => .ok { m with store }

/-- Deletes keys as one batch; there is nothing to do for none. -/
def deleteBatchByKeys (delKeys : List Text) (m : Manager) : Except ManagerError Manager :=
  if delKeys = [] then .ok m
  else
    match m.store.deleteBatch delKeys with
    | .error _ => .error .delKvDbFail
    | .ok store => .ok { m with store }

/-! ## Changing the foreground user -/

/-- The key of no user for a key, if there is one. -/
def withoutUID (key : Text) : Option Text :=
  if removeUserIdFromDbKey key = [] then none else some (removeUserIdFromDbKey key)

/-- The entries of a user under the keys of no user. -/
def entriesWithoutUID (userId : Int32) (profileMap : Entries) : Entries :=
  collect withoutUID (profileMap.filter fun key _ =>
    getUserIdFromDbKey key ≠ DEFAULT_USER_ID ∧ getUserIdFromDbKey key = userId)

/-- The keys of no user that only the last user has. -/
def lastUserKeys (lastUserId curUserId : Int32) (profileMap : Entries) : List Text :=
  (entriesWithoutUID lastUserId profileMap).keys.filter
    (· ∉ entriesWithoutUID curUserId profileMap)

/-- The profiles of this device are walked once: those of the new user are written over the plain
keys, and plain keys that only the last user has are deleted. -/
def onUserChange (stored : Bool) (lastUserId curUserId : Int32) (m : Manager) : Manager :=
  if lastUserId = curUserId then m
  else if device.udid = [] then m
  else
    match getProfilesByKeyPrefix device.udid m.store with
    | .error _ => m
    | .ok profileMap =>
      if profileMap.isEmpty then m
      else
        match m.saveBatchByKeys device stored (entriesWithoutUID curUserId profileMap) with
        | .error _ => m
        | .ok m =>
          match m.deleteBatchByKeys (lastUserKeys lastUserId curUserId profileMap) with
          | .error _ => m
          | .ok m => m

/-- The change handles the profiles first and records the new user last, also when the handling
stopped early. -/
def setCurrentForegroundUserID (stored : Bool) (userId : Int32) (m : Manager) : Manager :=
  { m.onUserChange device stored m.foregroundUserId userId with foregroundUserId := userId }

end Manager

end DeviceProfile
