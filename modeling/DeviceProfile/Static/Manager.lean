import DeviceProfile.Cache.StoreAgreement
import DeviceProfile.Library.ReadThrough
import DeviceProfile.Profile.Lookup
import DeviceProfile.Profile.Repair
import DeviceProfile.Static.Loader

/-!
# Getting static capabilities

A get expands the record of a device and keeps all profiles of it in a cache of its own. Nothing
takes them out again: what a device is able to do is taken to stay the same, so a record that is
replaced or removed shows only for devices of which nothing is cached.
-/

namespace DeviceProfile

open Library Std

/-! ## Synchronisation -/

/-- Another device, with the id under which it writes. -/
structure Peer (device : LocalDevice) where
  deviceId : Text
  uuid : Text
  isValid : IsKeyValid deviceId
  ne_udid : deviceId ≠ device.udid

namespace Peer

variable {device : LocalDevice}

/-- The static capability record of a device. -/
def record (peer : Peer device) (value : Text) : CharacteristicProfile where
  deviceId := peer.deviceId
  serviceName := STATIC_CAPABILITY_SVR_ID
  characteristicKey := STATIC_CAPABILITY_CHAR_ID
  characteristicValue := value

/-- The store after a synchronisation brings the record of a device, or its removal. -/
def synced (peer : Peer device) (value : Option Text) (store : KvStore) : KvStore :=
  match value with
  | some value =>
    store ∪ (characteristicProfileToEntries (peer.record value) ∅).map
      fun _ value => { value, writer := peer.uuid }
  | none =>
    (characteristicProfileToEntries (peer.record []) ∅).keys.foldl ExtTreeMap.erase store

end Peer

/-! ## The cache of expanded profiles -/

/-- The order in which the entries of a hash map are visited. -/
structure HashOrder where
  walk : StaticProfiles → List (Text × Flagged CharacteristicProfile)
  perm : ∀ profiles, (walk profiles).Perm profiles.toList

/-- The order of the keys. -/
def HashOrder.sorted : HashOrder where
  walk profiles := profiles.toList
  perm _ := List.Perm.refl _

namespace StaticProfiles

/-- Reads a static profile out of the map. -/
def getStaticCharacteristicProfile (deviceId serviceName charKey : Text)
    (profiles : StaticProfiles) : Except CacheError (Flagged CharacteristicProfile) :=
  if ¬AreCharKeysValid deviceId serviceName charKey then .error .invalidParams
  else
    match profiles[generateCharProfileKey deviceId serviceName charKey]? with
    | none => .error .notFoundFail
    | some charProfile => .ok charProfile

/-- The bound is checked before it is known whether the key is new. -/
def addStaticCharProfile (p : Flagged CharacteristicProfile) (profiles : StaticProfiles) :
    Except CacheError StaticProfiles :=
  if ¬AreCharKeysValid p.profile.deviceId p.profile.serviceName p.profile.characteristicKey then
    .error .invalidParams
  else if MAX_CHAR_SIZE < profiles.size then .error .exceedMaxSizeFail
  else .ok (profiles.insert p.profile.cacheKey p)

/-- Nobody looks at the error codes of the single profiles. -/
def addStaticCharProfileBatch (order : HashOrder) (charProfiles profiles : StaticProfiles) :
    Except CacheError StaticProfiles :=
  if MAX_CHAR_SIZE < charProfiles.size then .error .invalidParams
  else .ok ((order.walk charProfiles).foldl (fun profiles item =>
    (addStaticCharProfile item.2 profiles).toOption.getD profiles) profiles)

end StaticProfiles

/-! ## The manager -/

/-- The store of static profiles behind the profile cache, and the expanded profiles. -/
structure StaticState extends ControlState where
  staticCharProfileMap : StaticProfiles := ∅

/-- The record of a device: of this device as it is cached, otherwise as it is stored. -/
def ControlState.staticCapabilityProfile (s : ControlState) (deviceId : Text) :
    Except ManagerError (Flagged CharacteristicProfile) :=
  ProfileControlUtils.getCharacteristicProfile s.cache.toProfileCache s.manager.store deviceId
    STATIC_CAPABILITY_SVR_ID STATIC_CAPABILITY_CHAR_ID { profile := {} }

/-- The record of a device as it is stored. -/
def KvStore.staticCapabilityProfile (store : KvStore) (deviceId : Text) :
    Except ManagerError (Flagged CharacteristicProfile) :=
  ControlState.staticCapabilityProfile { manager := { store } } deviceId

namespace StaticState

/-- A put of a characteristic, which keeps the map of static profiles. -/
def putCharacteristicProfile (device : LocalDevice) (p : Flagged CharacteristicProfile)
    (s : StaticState) : PutAnswer × StaticState :=
  let x := s.toControlState.putCharacteristicProfile device p
  (x.1, { s with toControlState := x.2 })

/-- Reads a static profile: from the map, else from the store and the file, whose profiles are then
kept. -/
def getCharacteristicProfile (loader : StaticCapabilityLoader) (order : HashOrder)
    (deviceId serviceName characteristicKey : Text) (s : StaticState) :
    Except StaticError (Flagged CharacteristicProfile) × StaticState :=
  if ¬AreCharKeysValid deviceId serviceName characteristicKey then
    (.error (.control .invalidParams), s)
  else
    match s.staticCharProfileMap.getStaticCharacteristicProfile deviceId serviceName
      characteristicKey with
    | .ok charProfile => (.ok charProfile, s)
    | .error _ =>
      match s.staticCapabilityProfile deviceId with
      | .error e => (.error (.control e), s)
      | .ok staticCapabilityProfile =>
        match loader.generateStaticInfoProfile staticCapabilityProfile.profile with
        | .error e => (.error e, s)
        | .ok staticInfoProfiles =>
          match staticInfoProfiles[generateCharProfileKey deviceId serviceName
            characteristicKey]? with
          | none => (.error .notFoundFail, s)
          | some charProfile => (.ok charProfile, { s with
              staticCharProfileMap := (StaticProfiles.addStaticCharProfileBatch order
                staticInfoProfiles s.staticCharProfileMap).toOption.getD s.staticCharProfileMap })

/-- The state with an empty cache of expanded profiles. -/
def uncached (s : StaticState) : StaticState := { s with staticCharProfileMap := ∅ }

/-- The state before the first call: the store is there, nothing is cached. -/
def start (store : KvStore) : StaticState := { manager := { store } }

end StaticState

/-- What happens to the static profiles. -/
inductive StaticCall (device : LocalDevice) where
  | put (p : Flagged CharacteristicProfile)
  | sync (peer : Peer device) (value : Option Text)
  | get (order : HashOrder) (deviceId serviceName characteristicKey : Text)

/-- The state after a call. -/
def StaticCall.step {device : LocalDevice} (loader : StaticCapabilityLoader) (s : StaticState) :
    StaticCall device → StaticState
  | .put p => (s.putCharacteristicProfile device p).2
  | .sync peer value =>
    { s with manager := { s.manager with store := peer.synced value s.manager.store } }
  | .get order deviceId serviceName characteristicKey =>
    (s.getCharacteristicProfile loader order deviceId serviceName characteristicKey).2

/-! ## Keys of a device -/

/-- The key of the record of a device. -/
def staticCapabilityKey (deviceId : Text) : Text :=
  generateCharProfileKey deviceId STATIC_CAPABILITY_SVR_ID STATIC_CAPABILITY_CHAR_ID

/-- A key of the static capability names its device. -/
theorem deviceSegment_of_keyStart {deviceId key : Text} (hdevice : separator ∉ deviceId)
    (h : staticCapabilityKey deviceId <+: key) : deviceSegment key = some deviceId := by
  obtain ⟨rest, rfl⟩ := h
  have hkey : staticCapabilityKey deviceId ++ rest =
      CHAR_PREFIX ++ separator :: (deviceId ++ separator ::
        (STATIC_CAPABILITY_SVR_ID ++ separator :: (STATIC_CAPABILITY_CHAR_ID ++ rest))) := by
    simp [staticCapabilityKey, generateCharProfileKey, SEPARATOR]
  have hne : staticCapabilityKey deviceId ++ rest ≠ [] := by simp [hkey]
  rw [deviceSegment, splitString, if_neg hne, hkey,
    List.splitOn_append_cons_self_of_not_mem (by decide),
    List.splitOn_append_cons_self_of_not_mem hdevice]
  rfl

/-- The entries of a profile have the id of its device in their keys. -/
theorem deviceSegment_of_mem_pairs {p : StoredProfile} {localUdid : Text}
    (hp : p.IsValid localUdid) {userId : Int32} {r : Text × Text} (hr : r ∈ p.pairs userId) :
    deviceSegment r.1 = some localUdid := by
  obtain ⟨name, hmem, hkey⟩ := StoredProfile.mem_pairs.mp hr
  have hname := StoredProfile.mem_propertyNames hmem
  rw [← hkey, p.generateDBKey_eq_entryKey hp hname, deviceSegment_render]
  have hpath : (p.key hp).path.head? = some p.deviceId := by cases p <;> rfl
  exact hpath.trans (congrArg some (p.deviceId_eq hp))

namespace Peer

variable {device : LocalDevice} {peer : Peer device}

/-- A record of a peer is valid for that peer. -/
theorem isValid_record (peer : Peer device) (value : Text) :
    (StoredProfile.char (peer.record value)).IsValid peer.deviceId := by
  have hnames : IsKeyValid STATIC_CAPABILITY_SVR_ID ∧ IsKeyValid STATIC_CAPABILITY_CHAR_ID := by
    decide
  exact ⟨peer.isValid, ⟨peer.isValid.1, rfl⟩, hnames⟩

/-- The entries of a record name its peer. -/
theorem deviceSegment_of_mem_entries {value key : Text}
    (h : key ∈ characteristicProfileToEntries (peer.record value) ∅) :
    deviceSegment key = some peer.deviceId := by
  obtain ⟨v, hv⟩ := mem_iff_exists_getElem?.mp h
  exact deviceSegment_of_mem_pairs (r := (key, v)) (peer.isValid_record value)
    ((StoredProfile.getElem?_toEntries (peer.isValid_record value)).mp hv)

/-- A synchronisation leaves the entries of all other devices as they are. -/
theorem valueAt_synced {value : Option Text} {store : KvStore} {key : Text}
    (h : deviceSegment key ≠ some peer.deviceId) :
    (peer.synced value store).valueAt key = store.valueAt key := by
  cases value with
  | some value =>
    have hnone : (characteristicProfileToEntries (peer.record value) ∅)[key]? = none :=
      ExtTreeMap.getElem?_eq_none (mt deviceSegment_of_mem_entries h)
    rw [synced, KvStore.valueAt, ExtTreeMap.getElem?_union, ExtTreeMap.getElem?_map, hnone]
    rfl
  | none =>
    have hkeys : key ∉ (characteristicProfileToEntries (peer.record []) ∅).keys :=
      fun hmem => h (deviceSegment_of_mem_entries (ExtTreeMap.mem_keys.mp hmem))
    rw [synced, KvStore.valueAt, getElem?_foldl_erase, if_neg hkeys]
    rfl

end Peer

/-! ## Records -/

/-- The values of the static capability are read under its own start. -/
theorem characteristicValues_staticCapability (store : KvStore) (deviceId : Text) :
    ProfileControlUtils.characteristicValues store deviceId STATIC_CAPABILITY_SVR_ID
        STATIC_CAPABILITY_CHAR_ID =
      store.getByPrefix (staticCapabilityKey deviceId) := by
  have hneed : ¬IsNeedAddOhSuffix STATIC_CAPABILITY_SVR_ID true := by decide
  rw [characteristicValues_eq, charKeyStart, if_neg fun h => hneed h.1, staticCapabilityKey]

/-- The record that is stored depends on the entries of the device only. -/
theorem KvStore.staticCapabilityProfile_congr {store store' : KvStore} {deviceId : Text}
    (h : ∀ key, staticCapabilityKey deviceId <+: key → store'.valueAt key = store.valueAt key) :
    store'.staticCapabilityProfile deviceId = store.staticCapabilityProfile deviceId := by
  have hentries : store'.getEntries (staticCapabilityKey deviceId) =
      store.getEntries (staticCapabilityKey deviceId) := by
    ext key : 1
    rw [KvStore.getElem?_getEntries, KvStore.getElem?_getEntries]
    split
    · rename_i hprefix
      exact h key hprefix
    · rfl
  simp only [KvStore.staticCapabilityProfile, ControlState.staticCapabilityProfile,
    ProfileControlUtils.getCharacteristicProfile, characteristicValues_staticCapability,
    KvStore.getByPrefix, hentries]

theorem areCharKeysValid_staticCapability {deviceId : Text} (h : IsKeyValid deviceId) :
    AreCharKeysValid deviceId STATIC_CAPABILITY_SVR_ID STATIC_CAPABILITY_CHAR_ID :=
  ⟨h, by decide, by decide⟩

/-- The record is one of the characteristics that are also looked for in the cache. -/
theorem ControlState.staticCapabilityProfile_of_isKeyValid (s : ControlState) {deviceId : Text}
    (h : IsKeyValid deviceId) :
    s.staticCapabilityProfile deviceId =
      match s.cache.charProfileMap[staticCapabilityKey deviceId]? with
      | some cached => .ok cached
      | none =>
        match s.manager.store.getByPrefix (staticCapabilityKey deviceId) with
        | .error _ => .error .getKvDbFail
        | .ok values =>
          let profile := (entriesToCharProfile values {}).toOption.getD {}
          if profile.characteristicKey = [] ∨ profile.characteristicValue = [] then
            .error .getKvDbFail
          else .ok { profile } := by
  have hnames := areCharKeysValid_staticCapability h
  have hvalid : ¬(¬IsKeyValid deviceId ∨ ¬IsKeyValid STATIC_CAPABILITY_SVR_ID ∨
      ¬IsKeyValid STATIC_CAPABILITY_CHAR_ID) := by
    simp only [not_or, not_not]
    exact hnames
  have hcached : STATIC_CAPABILITY_CHAR_ID = STATIC_CHARACTERISTIC_KEY ∨
      STATIC_CAPABILITY_CHAR_ID = SWITCH_STATUS := by decide
  have hlookup : (s.cache.getCharacteristicProfile deviceId STATIC_CAPABILITY_SVR_ID
      STATIC_CAPABILITY_CHAR_ID).toOption =
        s.cache.charProfileMap[staticCapabilityKey deviceId]? := by
    rw [ProfileCache.getCharacteristicProfile, if_neg (not_not.mpr hnames), staticCapabilityKey]
    split
    · rename_i hnone
      rw [hnone]
      rfl
    · rename_i hsome
      rw [hsome]
      rfl
  have hread : s.staticCapabilityProfile deviceId =
      ProfileControlUtils.getCharacteristicProfile s.cache.toProfileCache s.manager.store deviceId
        STATIC_CAPABILITY_SVR_ID STATIC_CAPABILITY_CHAR_ID { profile := {} } := rfl
  simp only [ProfileControlUtils.getCharacteristicProfile, if_neg hvalid, if_pos hcached, hlookup,
    characteristicValues_staticCapability] at hread
  exact hread

/-- The record in the cache comes first. -/
theorem ControlState.staticCapabilityProfile_eq (s : ControlState) {deviceId : Text}
    (h : IsKeyValid deviceId) :
    s.staticCapabilityProfile deviceId =
      match s.cache.charProfileMap[staticCapabilityKey deviceId]? with
      | some cached => .ok cached
      | none => s.manager.store.staticCapabilityProfile deviceId := by
  rw [KvStore.staticCapabilityProfile, staticCapabilityProfile_of_isKeyValid _ h,
    staticCapabilityProfile_of_isKeyValid _ h]
  simp only [ExtTreeMap.getElem?_empty]

/-- The device id that is read from a key. -/
theorem getDeviceIdByDBKey_of_deviceSegment {key deviceId : Text}
    (h : deviceSegment key = some deviceId) :
    getDeviceIdByDBKey key = deviceId ∨ getDeviceIdByDBKey key = [] := by
  obtain ⟨res, hsplit, hsegment⟩ := Option.bind_eq_some_iff.mp h
  rw [getDeviceIdByDBKey, segmentByDBKey]
  by_cases hlength : HasKeyLength key
  · rw [if_pos hlength]
    simp only [hsplit, hsegment, Option.getD_some, true_or]
  · rw [if_neg hlength]
    exact .inr rfl

/-- A record that is stored has the id of its device, or none. -/
theorem KvStore.deviceId_of_staticCapabilityProfile {store : KvStore} {deviceId : Text}
    {record : Flagged CharacteristicProfile} (hdevice : IsKeyValid deviceId)
    (h : store.staticCapabilityProfile deviceId = .ok record) :
    record.profile.deviceId = deviceId ∨ record.profile.deviceId = [] := by
  rw [KvStore.staticCapabilityProfile, ControlState.staticCapabilityProfile_of_isKeyValid _ hdevice]
    at h
  simp only [ExtTreeMap.getElem?_empty] at h
  by_cases haccepted : store.IsAccepted (staticCapabilityKey deviceId)
  · simp only [KvStore.getByPrefix_of_isAccepted haccepted, entriesToCharProfile,
      checkEntriesSize_of_isAccepted haccepted] at h
    split at h
    · cases h
    · rw [← Except.ok.inj h]
      change getDeviceIdByDBKey (beginKey _) = _ ∨ getDeviceIdByDBKey (beginKey _) = _
      rw [beginKey]
      cases hhead : (store.getEntries (staticCapabilityKey deviceId)).toList.head? with
      | none => exact .inr rfl
      | some x =>
        have hentry := mem_of_head?_toList hhead
        rw [KvStore.getElem?_getEntries] at hentry
        split at hentry
        · rename_i hprefix
          exact getDeviceIdByDBKey_of_deviceSegment (deviceSegment_of_keyStart hdevice.2 hprefix)
        · cases hentry
  · rw [KvStore.getByPrefix_of_not_isAccepted haccepted] at h
    cases h

end DeviceProfile
