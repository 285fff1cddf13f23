import DeviceProfile.Cache.SwitchStatus
import DeviceProfile.Profile.KeySpace
import DeviceProfile.Subscribe.Table

/-!
# Who hears of a change

A change in the store comes as a key and a value. The key is turned into the key of the
subscriptions for it and into the profile they receive. Three codecs have to agree for this: the
one of the store, which adds the suffix and the user, the one of the subscriptions, and the
readers of stored keys, which remove the suffix from every name.
-/

namespace DeviceProfile

open Library Std

/-! ## The keys of subscriptions -/

namespace SubscribeInfo

/-- The key of a subscription, with the user as its last part unless it is the default one. -/
def setSubscribeKey (info : SubscribeInfo) (subscribeKey : Text)
    (userId : Int32 := DEFAULT_USER_ID) : SubscribeInfo :=
  { info with
    subscribeKey :=
      if userId ≠ DEFAULT_USER_ID then subscribeKey ++ SEPARATOR ++ numeral userId.toInt
      else subscribeKey }

/-- Subscribes to an attribute of a device. -/
def setDeviceSubscribeKey (info : SubscribeInfo) (deviceId deviceAttribute : Text)
    (userId : Int32 := DEFAULT_USER_ID) : SubscribeInfo :=
  info.setSubscribeKey (DEV_PREFIX ++ SEPARATOR ++ deviceId ++ SEPARATOR ++ deviceAttribute) userId

/-- Subscribes to an attribute of a service. -/
def setServiceSubscribeKey (info : SubscribeInfo) (deviceId serviceName serviceAttribute : Text)
    (userId : Int32 := DEFAULT_USER_ID) : SubscribeInfo :=
  info.setSubscribeKey
    (SVR_PREFIX ++ SEPARATOR ++ deviceId ++ SEPARATOR ++ serviceName ++ SEPARATOR ++
      serviceAttribute) userId

/-- Subscribes to an attribute of a characteristic. -/
def setCharSubscribeKey (info : SubscribeInfo)
    (deviceId serviceName characteristicKey characteristicAttribute : Text)
    (userId : Int32 := DEFAULT_USER_ID) : SubscribeInfo :=
  info.setSubscribeKey
    (CHAR_PREFIX ++ SEPARATOR ++ deviceId ++ SEPARATOR ++ serviceName ++ SEPARATOR ++
      characteristicKey ++ SEPARATOR ++ characteristicAttribute) userId

end SubscribeInfo

/-- Only a key of more than two segments has a name to normalise; in the key of a device profile
this is the attribute. -/
def dbKeyToSubcribeKey (dbkey : Text) : Text :=
  match splitString dbkey with
  | none => dbkey
  | some res =>
    if 2 < res.length then joinString (res.set 2 (checkAndRemoveOhSuffix (res[2]?.getD [])))
    else dbkey

/-! ## Kinds of changes -/

/-- The kinds of profiles that subscribers hear of. -/
inductive ProfileType where
  | PROFILE_TYPE_MIN
  | TRUST_DEVICE_PROFILE
  | ACCESS_CONTROL_PROFILE
  | DEVICE_PROFILE
  | SERVICE_PROFILE
  | CHAR_PROFILE
  deriving DecidableEq, Repr

/-- The number of a kind in the code of a notice. -/
def ProfileType.value : ProfileType → Nat
  | PROFILE_TYPE_MIN => 0x00
  | TRUST_DEVICE_PROFILE => 0x10
  | ACCESS_CONTROL_PROFILE => 0x20
  | DEVICE_PROFILE => 0x30
  | SERVICE_PROFILE => 0x40
  | CHAR_PROFILE => 0x50

/-- The kinds of changes. -/
inductive ChangeType where
  | ADD
  | UPDATE
  | DELETE
  deriving DecidableEq, Repr

/-- The number of a change in the code of a notice. -/
def ChangeType.value : ChangeType → Nat
  | ADD => 1
  | UPDATE => 2
  | DELETE => 3

/-- The kind of the profile that a key is for. -/
def getProfileType (key : Text) : ProfileType :=
  if ¬HasKeyLength key then .PROFILE_TYPE_MIN
  else
    let profileType : ProfileType :=
      if DEV_PREFIX <+: key then .DEVICE_PROFILE else .PROFILE_TYPE_MIN
    let profileType := if SVR_PREFIX <+: key then .SERVICE_PROFILE else profileType
    if CHAR_PREFIX <+: key then .CHAR_PROFILE else profileType

/-! ## Notifications -/

/-- What a notification reads: the table, the cached profiles of services and characteristics,
and those of devices. -/
structure NotifyState where
  table : SubscribeInfoMap
  cache : ProfileCache
  deviceProfileMap : ExtTreeMap Text (Flagged DevProfile)

/-- What a listener is told: the profile, and at an update also the old one. -/
structure ProfileNotice where
  oldProfile : Option (Flagged StoredProfile) := none
  profile : Flagged StoredProfile

/-- A call of the listener of a subscription. -/
structure Callback where
  subscriberInfo : SubscribeInfo
  listener : Nat
  notice : ProfileNotice

/-- The error code of a notification. -/
inductive NotifyError where
  | invalidParams
  deriving DecidableEq, Repr

/-- Call back the subscriptions of a set that have a listener and contain the change type. -/
def callBack (subscriberInfos : SubscribeSet) (changeType : ProfileChangeType)
    (notice : ProfileNotice) : List Callback :=
  subscriberInfos.elems.filterMap fun subscriberInfo =>
    match subscriberInfo.listener with
    | none => none
    | some listener =>
      if changeType ∈ subscriberInfo.subscribeChangeTypes then
        some { subscriberInfo, listener, notice }
      else none

section Changed

variable (dbKey dbValue : Text)

/-- The device profile that a change is announced with; nobody looks at the error code of the
decoder. -/
def changedDeviceProfile : Flagged StoredProfile :=
  let deviceProfile : DevProfile :=
    { deviceId := getDeviceIdByDBKey dbKey, userId := getUserIdFromDbKey dbKey }
  let values : Entries := (∅ : Entries).insert dbKey dbValue
  { profile := .dev ((entriesToDeviceProfile values deviceProfile).toOption.getD deviceProfile)
    isMultiUser := deviceProfile.userId ≠ DEFAULT_USER_ID }

/-- The service that an entry of the store stands for, decoded from that one entry. -/
def changedServiceProfile : Flagged StoredProfile :=
  let serviceProfile : ServiceProfile :=
    { deviceId := getDeviceIdByDBKey dbKey
      serviceName := getNonOhSuffixServiceNameByDBKey dbKey
      userId := getUserIdFromDbKey dbKey }
  let values : Entries := (∅ : Entries).insert dbKey dbValue
  { profile := .svr ((entriesToServiceProfile values serviceProfile).toOption.getD serviceProfile)
    isMultiUser := serviceProfile.userId ≠ DEFAULT_USER_ID }

/-- The user of a switch is not read. -/
def changedCharProfile : Flagged StoredProfile :=
  let named : CharacteristicProfile :=
    { deviceId := getDeviceIdByDBKey dbKey
      serviceName := getNonOhSuffixServiceNameByDBKey dbKey
      characteristicKey := getCharKeyByDBKey dbKey }
  let charProfile : CharacteristicProfile :=
    if named.characteristicKey ≠ SWITCH_STATUS then
      { named with userId := getUserIdFromDbKey dbKey }
    else named
  let values : Entries := (∅ : Entries).insert dbKey dbValue
  { profile := .char ((entriesToCharProfile values charProfile).toOption.getD charProfile)
    isMultiUser := charProfile.userId ≠ DEFAULT_USER_ID }

variable (s : NotifyState)

/-- The cached profile of the device, or one without content. -/
def oldDeviceProfile : Flagged StoredProfile :=
  let deviceId := getDeviceIdByDBKey dbKey
  let found : Option (Flagged DevProfile) :=
    if IsKeyValid deviceId then s.deviceProfileMap[generateDeviceProfileKey deviceId]? else none
  let oldProfile : Flagged DevProfile := found.getD { profile := {} }
  { profile := .dev oldProfile.profile, isMultiUser := oldProfile.isMultiUser }

/-- The service as the cache still has it; a fresh one where it has none. -/
def oldServiceProfile : Flagged StoredProfile :=
  let found := s.cache.getServiceProfile (getDeviceIdByDBKey dbKey)
    (getNonOhSuffixServiceNameByDBKey dbKey)
  let oldProfile : Flagged ServiceProfile := found.toOption.getD { profile := {} }
  { profile := .svr oldProfile.profile, isMultiUser := oldProfile.isMultiUser }

/-- The characteristic as the cache still has it; a fresh one where it has none. -/
def oldCharProfile : Flagged StoredProfile :=
  let found := s.cache.getCharacteristicProfile (getDeviceIdByDBKey dbKey)
    (getNonOhSuffixServiceNameByDBKey dbKey) (getCharKeyByDBKey dbKey)
  let oldProfile : Flagged CharacteristicProfile := found.toOption.getD { profile := {} }
  { profile := .char oldProfile.profile, isMultiUser := oldProfile.isMultiUser }

/-- The subscriptions for a key of the store. -/
def subscriberInfosOf : SubscribeSet := getSubscribeInfos (dbKeyToSubcribeKey dbKey) s.table

/-- A new entry of a device calls its subscribers back with the decoded profile. -/
def notifyDeviceProfileAdd : List Callback :=
  callBack (subscriberInfosOf dbKey s) .DEVICE_PROFILE_ADD
    { profile := changedDeviceProfile dbKey dbValue }

/-- A changed entry of a device calls its subscribers back with the old and the new profile. -/
def notifyDeviceProfileUpdate : List Callback :=
  callBack (subscriberInfosOf dbKey s) .DEVICE_PROFILE_UPDATE
    { oldProfile := oldDeviceProfile dbKey s, profile := changedDeviceProfile dbKey dbValue }

/-- A deleted entry of a device calls its subscribers back with the profile decoded from what was
deleted. -/
def notifyDeviceProfileDelete : List Callback :=
  callBack (subscriberInfosOf dbKey s) .DEVICE_PROFILE_DELETE
    { profile := changedDeviceProfile dbKey dbValue }

/-- A new entry of a service calls its subscribers back with the decoded profile. -/
def notifyServiceProfileAdd : List Callback :=
  callBack (subscriberInfosOf dbKey s) .SERVICE_PROFILE_ADD
    { profile := changedServiceProfile dbKey dbValue }

/-- A changed entry of a service calls its subscribers back with the old and the new profile. -/
def notifyServiceProfileUpdate : List Callback :=
  callBack (subscriberInfosOf dbKey s) .SERVICE_PROFILE_UPDATE
    { oldProfile := oldServiceProfile dbKey s, profile := changedServiceProfile dbKey dbValue }

/-- A deleted entry of a service calls its subscribers back with the profile decoded from what was
deleted. -/
def notifyServiceProfileDelete : List Callback :=
  callBack (subscriberInfosOf dbKey s) .SERVICE_PROFILE_DELETE
    { profile := changedServiceProfile dbKey dbValue }

/-- A new entry of a characteristic calls its subscribers back with the decoded profile. -/
def notifyCharProfileAdd : List Callback :=
  callBack (subscriberInfosOf dbKey s) .CHAR_PROFILE_ADD
    { profile := changedCharProfile dbKey dbValue }

/-- A changed entry of a characteristic calls its subscribers back with the old and the new profile.
-/
def notifyCharProfileUpdate : List Callback :=
  callBack (subscriberInfosOf dbKey s) .CHAR_PROFILE_UPDATE
    { oldProfile := oldCharProfile dbKey s, profile := changedCharProfile dbKey dbValue }

/-- A deleted entry of a characteristic calls its subscribers back with the profile decoded from
what was deleted. -/
def notifyCharProfileDelete : List Callback :=
  callBack (subscriberInfosOf dbKey s) .CHAR_PROFILE_DELETE
    { profile := changedCharProfile dbKey dbValue }

end Changed

/-- The two types are told apart by the product of their numbers. -/
def notifyProfileChange (profileType : ProfileType) (changeType : ChangeType)
    (dbKey dbValue : Text) (s : NotifyState) : Except NotifyError (List Callback) :=
  let code := profileType.value * changeType.value
  let isFor (type : ProfileType) (change : ChangeType) : Bool := code = type.value * change.value
  if isFor .DEVICE_PROFILE .ADD then .ok (notifyDeviceProfileAdd dbKey dbValue s)
  else if isFor .DEVICE_PROFILE .UPDATE then .ok (notifyDeviceProfileUpdate dbKey dbValue s)
  else if isFor .DEVICE_PROFILE .DELETE then .ok (notifyDeviceProfileDelete dbKey dbValue s)
  else if isFor .SERVICE_PROFILE .ADD then .ok (notifyServiceProfileAdd dbKey dbValue s)
  else if isFor .SERVICE_PROFILE .UPDATE then .ok (notifyServiceProfileUpdate dbKey dbValue s)
  else if isFor .SERVICE_PROFILE .DELETE then .ok (notifyServiceProfileDelete dbKey dbValue s)
  else if isFor .CHAR_PROFILE .ADD then .ok (notifyCharProfileAdd dbKey dbValue s)
  else if isFor .CHAR_PROFILE .UPDATE then .ok (notifyCharProfileUpdate dbKey dbValue s)
  else if isFor .CHAR_PROFILE .DELETE then .ok (notifyCharProfileDelete dbKey dbValue s)
  else .error .invalidParams

/-! ## Reading a changed key -/

/-- The type of the profiles of a kind. -/
def Kind.profileType : Kind → ProfileType
  | .dev => .DEVICE_PROFILE
  | .svr => .SERVICE_PROFILE
  | .char => .CHAR_PROFILE

/-- The kind of a notice is that of its key. -/
theorem getProfileType_render {k : DbKey} (h : k.render.length ≤ MAX_STRING_LEN) :
    getProfileType k.render = k.kind.profileType := by
  have hkey : HasKeyLength k.render := ⟨by simpa using k.render_ne_nil, h⟩
  have hdev := k.tag_prefix_render_iff .dev
  have hsvr := k.tag_prefix_render_iff .svr
  have hchar := k.tag_prefix_render_iff .char
  simp only [Kind.tag] at hdev hsvr hchar
  rw [getProfileType, if_neg (not_not.mpr hkey)]
  simp only [hdev, hsvr, hchar]
  cases k.kind <;> rfl

/-- A key that is too long is of no type. -/
theorem getProfileType_of_long {key : Text} (h : MAX_STRING_LEN < key.length) :
    getProfileType key = .PROFILE_TYPE_MIN := by
  rw [getProfileType, if_pos fun hkey => absurd hkey.2 (Nat.not_le.mpr h)]

/-- What is read from a single entry is its value, under the property that is visible. -/
theorem eq_of_getElem?_getProfilePropertiesMap {key value q v : Text} {viewer : Int32}
    (h : (getProfilePropertiesMap ((∅ : Entries).insert key value) viewer)[q]? = some v) :
    q = getProfileProperty key viewer ∧ v = value := by
  have hempty : ∀ m : Entries, m = ∅ → m[q]? ≠ some v := by
    rintro m rfl hsome
    rw [ExtTreeMap.getElem?_empty] at hsome
    cases hsome
  have hsingle :
      ∀ q' : Text, ((∅ : Entries).insert q' value)[q]? = some v → q = q' ∧ v = value := by
    intro q' hsome
    rw [ExtTreeMap.getElem?_insert] at hsome
    split at hsome
    · rename_i heq
      exact ⟨(LawfulEqCmp.compare_eq_iff_eq.mp heq).symm, (Option.some.inj hsome).symm⟩
    · exact absurd hsome (hempty _ rfl)
  rw [getProfilePropertiesMap] at h
  split at h
  · exact absurd h (hempty _ rfl)
  rw [ExtTreeMap.foldl_eq_foldl_toList, toList_insert_empty] at h
  simp only [List.foldl_cons, List.foldl_nil] at h
  by_cases hproperty : getProfileProperty key viewer = []
  · rw [if_pos hproperty] at h
    split at h <;> exact absurd h (hempty _ rfl)
  · rw [if_neg hproperty] at h
    by_cases huser : getUserIdFromDbKey key = DEFAULT_USER_ID
    · rw [if_pos huser] at h
      split at h
      · exact absurd h (hempty _ rfl)
      · exact hsingle _ h
    · rw [if_neg huser] at h
      split at h
      · exact hsingle _ h
      · exact absurd h (hempty _ rfl)

/-- A property of a single entry that is found is the one the key names. -/
theorem DbKey.validProperty_single {k : DbKey} (h : k.render.length ≤ MAX_STRING_LEN)
    {value q v : Text} {viewer : Int32} (hq : q ≠ [])
    (hv : validProperty (getProfilePropertiesMap ((∅ : Entries).insert k.render value) viewer) q =
      some v) : q = k.property ∧ v = value := by
  obtain ⟨hget, -⟩ := Option.filter_eq_some_iff.mp hv
  obtain ⟨hproperty, hvalue⟩ := eq_of_getElem?_getProfilePropertiesMap hget
  rw [getProfileProperty_render h, visibleProperty] at hproperty
  refine ⟨?_, hvalue⟩
  split at hproperty
  · exact hproperty
  · split at hproperty
    · exact hproperty
    · exact absurd hproperty hq

theorem checkEntriesSize_single (key value : Text) :
    checkEntriesSize ((∅ : Entries).insert key value) = .ok () := by
  have hsize : ((∅ : Entries).insert key value).size = 1 := by
    rw [← ExtTreeMap.length_toList, toList_insert_empty]
    rfl
  have hempty : ¬((∅ : Entries).insert key value).isEmpty := by simp
  rw [checkEntriesSize, hsize, if_neg]
  · rfl
  · exact not_or.mpr ⟨hempty, by decide⟩

theorem beginKey_single (key value : Text) : beginKey ((∅ : Entries).insert key value) = key := by
  rw [beginKey, toList_insert_empty]
  rfl

namespace StoredProfile

variable {localUdid : Text} {p : StoredProfile} {h : p.IsValid localUdid} {isMultiUser : Bool}
  {name : Text} {hname : name ∈ p.kind.propertyNames}

theorem getDeviceIdByDBKey_dbKey
    (hshort : (p.dbKey h isMultiUser hname).render.length ≤ MAX_STRING_LEN) :
    getDeviceIdByDBKey (p.dbKey h isMultiUser hname).render = p.deviceId := by
  have harity : 0 < (p.dbKey h isMultiUser hname).kind.arity := by
    cases (p.dbKey h isMultiUser hname).kind <;> decide
  rw [getDeviceIdByDBKey, DbKey.segmentByDBKey_render hshort harity]
  cases p <;> rfl

/-- The name that is read has lost the suffix, whoever added it. -/
theorem getNonOhSuffixServiceNameByDBKey_dbKey (hkind : p.kind ≠ .dev)
    (hshort : (p.dbKey h isMultiUser hname).render.length ≤ MAX_STRING_LEN) :
    getNonOhSuffixServiceNameByDBKey (p.dbKey h isMultiUser hname).render =
      checkAndRemoveOhSuffix p.serviceName := by
  have hread : getServiceNameByDBKey (p.dbKey h isMultiUser hname).render =
      checkAndAddOhSuffix p.serviceName true := by
    cases p with
    | dev p => exact absurd rfl hkind
    | svr p =>
      rw [getServiceNameByDBKey,
        DbKey.segmentByDBKey_render hshort (show 1 < Kind.svr.arity by decide)]
      rfl
    | char p =>
      rw [getServiceNameByDBKey,
        DbKey.segmentByDBKey_render hshort (show 1 < Kind.char.arity by decide)]
      rfl
  have hne : checkAndAddOhSuffix p.serviceName true ≠ [] := by
    refine checkAndAddOhSuffix_ne_nil fun hnil => ?_
    cases p with
    | dev p => exact hkind rfl
    | svr p => exact h.2.2.1.1 (List.length_eq_zero_iff.mpr hnil)
    | char p => exact h.2.2.1.1.1 (List.length_eq_zero_iff.mpr hnil)
  simp only [getNonOhSuffixServiceNameByDBKey, hread, if_neg hne, checkAndRemoveOhSuffix_add]

theorem getCharKeyByDBKey_dbKey (hkind : p.kind = .char)
    (hshort : (p.dbKey h isMultiUser hname).render.length ≤ MAX_STRING_LEN) :
    getCharKeyByDBKey (p.dbKey h isMultiUser hname).render = p.characteristicKey := by
  cases p with
  | dev p => cases hkind
  | svr p => cases hkind
  | char p =>
    rw [getCharKeyByDBKey,
      DbKey.segmentByDBKey_render hshort (show 2 < Kind.char.arity by decide)]
    rfl

/-- The user id a listener is shown: that of the key, but for a switch that of no user. -/
def shownUserId (p : StoredProfile) (isMultiUser : Bool) : Int32 :=
  if p.characteristicKey = SWITCH_STATUS then DEFAULT_USER_ID
  else writtenUserId p.userId isMultiUser

end StoredProfile

/-- The profile that a change of a kind is announced with. -/
def Kind.changedProfile (kind : Kind) (dbKey dbValue : Text) : Flagged StoredProfile :=
  match kind with
  | .dev => changedDeviceProfile dbKey dbValue
  | .svr => changedServiceProfile dbKey dbValue
  | .char => changedCharProfile dbKey dbValue

namespace StoredProfile

variable {localUdid : Text} {p : StoredProfile} {h : p.IsValid localUdid} {isMultiUser : Bool}
  {name value : Text} {hname : name ∈ p.kind.propertyNames}

/-- The service name that is found in an entry is the one that was written, without the suffix. -/
theorem foundServiceName_eq {p : ServiceProfile} {k : DbKey}
    (hshort : k.render.length ≤ MAX_STRING_LEN) (hvalue : (k.property, value) ∈ p.properties)
    (viewer : Int32) :
    ((validProperty (getProfilePropertiesMap ((∅ : Entries).insert k.render value) viewer)
      SERVICE_NAME).map checkAndRemoveOhSuffix).getD (checkAndRemoveOhSuffix p.serviceName) =
        checkAndRemoveOhSuffix p.serviceName := by
  cases hfound : validProperty
      (getProfilePropertiesMap ((∅ : Entries).insert k.render value) viewer) SERVICE_NAME with
  | none => rfl
  | some v =>
    obtain ⟨hproperty, rfl⟩ := DbKey.validProperty_single hshort (by decide) hfound
    rw [← hproperty] at hvalue
    have hother : SERVICE_NAME ≠ SERVICE_TYPE := by decide
    simp only [ServiceProfile.properties, List.mem_cons, Prod.mk.injEq, true_and, hother,
      false_and, List.not_mem_nil, or_false] at hvalue
    rw [hvalue]
    rfl

/-- The characteristic key that is found in an entry is the one that was written. -/
theorem foundCharacteristicKey_eq {p : CharacteristicProfile} {k : DbKey}
    (hshort : k.render.length ≤ MAX_STRING_LEN) (hvalue : (k.property, value) ∈ p.properties)
    (viewer : Int32) :
    (validProperty (getProfilePropertiesMap ((∅ : Entries).insert k.render value) viewer)
      CHARACTERISTIC_KEY).getD p.characteristicKey = p.characteristicKey := by
  cases hfound : validProperty
      (getProfilePropertiesMap ((∅ : Entries).insert k.render value) viewer)
      CHARACTERISTIC_KEY with
  | none => rfl
  | some v =>
    obtain ⟨hproperty, rfl⟩ := DbKey.validProperty_single hshort (by decide) hfound
    rw [← hproperty] at hvalue
    have hother : CHARACTERISTIC_KEY ≠ CHARACTERISTIC_VALUE := by decide
    simp only [CharacteristicProfile.properties, List.mem_cons, Prod.mk.injEq, true_and, hother,
      false_and, List.not_mem_nil, or_false] at hvalue
    rw [hvalue]
    rfl

/-- The profile that is announced for an entry of a service or characteristic profile has the
names of this profile, without the suffix. -/
theorem changedProfile_dbKey (h : p.IsValid localUdid) (hname : name ∈ p.kind.propertyNames)
    (hkind : p.kind ≠ .dev)
    (hshort : (p.dbKey h isMultiUser hname).render.length ≤ MAX_STRING_LEN)
    (hvalue : (name, value) ∈ p.properties) :
    let changed := (p.kind.changedProfile (p.dbKey h isMultiUser hname).render value).profile
    changed.kind = p.kind ∧ changed.deviceId = p.deviceId ∧
      changed.serviceName = checkAndRemoveOhSuffix p.serviceName ∧
      changed.characteristicKey = p.characteristicKey ∧
      changed.userId = p.shownUserId isMultiUser := by
  intro changed
  have hdevice := getDeviceIdByDBKey_dbKey hshort
  have hservice := getNonOhSuffixServiceNameByDBKey_dbKey hkind hshort
  have huser : getUserIdFromDbKey (p.dbKey h isMultiUser hname).render =
      writtenUserId p.userId isMultiUser := by
    rw [DbKey.getUserIdFromDbKey_render]
    rfl
  cases p with
  | dev p => exact absurd rfl hkind
  | svr p =>
    have hshown : shownUserId (.svr p) isMultiUser = writtenUserId p.userId isMultiUser :=
      if_neg (show ([] : Text) ≠ SWITCH_STATUS by decide)
    have hfound := foundServiceName_eq hshort hvalue (writtenUserId p.userId isMultiUser)
    have hchanged : changed = .svr
        { deviceId := p.deviceId, serviceName := checkAndRemoveOhSuffix p.serviceName
          serviceType := (validProperty (getProfilePropertiesMap ((∅ : Entries).insert
            (dbKey (.svr p) h isMultiUser hname).render value)
              (writtenUserId p.userId isMultiUser)) SERVICE_TYPE).getD []
          userId := writtenUserId p.userId isMultiUser } := by
      rw [← hfound]
      simp only [changed, Kind.changedProfile, changedServiceProfile, entriesToServiceProfile,
        hdevice, hservice, huser, checkEntriesSize_single, beginKey_single]
      rfl
    rw [hchanged]
    exact ⟨rfl, rfl, rfl, rfl, hshown.symm⟩
  | char p =>
    have hcharKey := getCharKeyByDBKey_dbKey rfl hshort
    have hfound := foundCharacteristicKey_eq hshort hvalue (shownUserId (.char p) isMultiUser)
    have hchanged : changed = .char
        { deviceId := p.deviceId, serviceName := checkAndRemoveOhSuffix p.serviceName
          characteristicKey := p.characteristicKey
          characteristicValue := (validProperty (getProfilePropertiesMap ((∅ : Entries).insert
            (dbKey (.char p) h isMultiUser hname).render value)
              (shownUserId (.char p) isMultiUser)) CHARACTERISTIC_VALUE).getD []
          userId := shownUserId (.char p) isMultiUser } := by
      rw [← hfound]
      simp only [changed, Kind.changedProfile, changedCharProfile, entriesToCharProfile,
        hdevice, hservice, huser, hcharKey, checkEntriesSize_single, beginKey_single]
      by_cases hswitch : (StoredProfile.char p).characteristicKey = SWITCH_STATUS
      · have hshown : shownUserId (.char p) isMultiUser = DEFAULT_USER_ID := if_pos hswitch
        simp only [if_neg (not_not.mpr hswitch), hshown]
        rfl
      · have hshown : shownUserId (.char p) isMultiUser = writtenUserId p.userId isMultiUser :=
          if_neg hswitch
        simp only [if_pos hswitch, hshown]
        rfl
    rw [hchanged]
    exact ⟨rfl, rfl, rfl, rfl, rfl⟩

/-! ## The key of the subscriptions for a change -/

/-- Build the key of a subscription for an attribute of this profile. -/
def setSubscribeKey (p : StoredProfile) (info : SubscribeInfo) (property : Text) (userId : Int32) :
    SubscribeInfo :=
  match p with
  | dev p => info.setDeviceSubscribeKey p.deviceId property userId
  | svr p => info.setServiceSubscribeKey p.deviceId p.serviceName property userId
  | char p =>
    info.setCharSubscribeKey p.deviceId p.serviceName p.characteristicKey property userId

/-- The segments of a key for an attribute of a service or characteristic profile, under a
service name. -/
def subscribeSegments (p : StoredProfile) (serviceName property : Text) (userId : Int32) :
    List Text :=
  p.kind.tag :: p.deviceId :: serviceName ::
    ((match p with
      | char p => [p.characteristicKey]
      | _ => []) ++ property :: DbKey.userSegment userId)

/-- No part of a subscribed key holds a separator. -/
theorem clean_subscribeSegments (h : p.IsValid localUdid) {serviceName property : Text}
    (hservice : separator ∉ serviceName) (hproperty : separator ∉ property) (userId : Int32) :
    ∀ segment ∈ p.subscribeSegments serviceName property userId, separator ∉ segment := by
  intro segment hsegment
  simp only [subscribeSegments, List.mem_cons, List.mem_append] at hsegment
  rcases hsegment with rfl | rfl | rfl | hcharKey | rfl | huser
  · exact DbKey.separator_not_mem_tag p.kind
  · cases p with
    | dev p => exact h.1.2
    | svr p => exact h.1.2
    | char p => exact h.1.2
  · exact hservice
  · cases p with
    | dev p => cases hcharKey
    | svr p => cases hcharKey
    | char p =>
      rw [List.mem_singleton.mp hcharKey]
      exact h.2.2.2.2
  · exact hproperty
  · rw [DbKey.userSegment] at huser
    split at huser
    · rw [List.mem_singleton.mp huser]
      exact DbKey.separator_not_mem_numeral userId.toInt
    · cases huser

/-- The key of a subscription joins the segments, with the service name as it is. -/
theorem subscribeKey_setSubscribeKey (hkind : p.kind ≠ .dev) (info : SubscribeInfo)
    (property : Text) (userId : Int32) :
    (p.setSubscribeKey info property userId).subscribeKey =
      joinString (p.subscribeSegments p.serviceName property userId) := by
  cases p with
  | dev p => exact absurd rfl hkind
  | svr p =>
    by_cases huser : userId = DEFAULT_USER_ID <;>
      simp [setSubscribeKey, SubscribeInfo.setServiceSubscribeKey, SubscribeInfo.setSubscribeKey,
        subscribeSegments, DbKey.userSegment, joinString, huser, kind, Kind.tag, deviceId,
        serviceName]
  | char p =>
    by_cases huser : userId = DEFAULT_USER_ID <;>
      simp [setSubscribeKey, SubscribeInfo.setCharSubscribeKey, SubscribeInfo.setSubscribeKey,
        subscribeSegments, DbKey.userSegment, joinString, huser, kind, Kind.tag, deviceId,
        serviceName]

/-- The key of the subscriptions for a change joins the same segments, but with the suffix
removed from the service name. -/
theorem dbKeyToSubcribeKey_dbKey (hkind : p.kind ≠ .dev) :
    dbKeyToSubcribeKey (p.dbKey h isMultiUser hname).render =
      joinString (p.subscribeSegments (checkAndRemoveOhSuffix p.serviceName) name
        (writtenUserId p.userId isMultiUser)) := by
  have hsegments : (p.dbKey h isMultiUser hname).segments =
      p.subscribeSegments (checkAndAddOhSuffix p.serviceName true) name
        (writtenUserId p.userId isMultiUser) := by
    cases p with
    | dev p => exact absurd rfl hkind
    | svr p => rfl
    | char p => rfl
  have hlength : 2 < (p.subscribeSegments (checkAndAddOhSuffix p.serviceName true) name
      (writtenUserId p.userId isMultiUser)).length := by
    simp only [subscribeSegments, List.length_cons]
    omega
  rw [dbKeyToSubcribeKey, DbKey.splitString_render]
  simp only [hsegments, if_pos hlength]
  rw [← checkAndRemoveOhSuffix_add p.serviceName]
  rfl

/-- The two keys are the same exactly where the service name does not end in the suffix. -/
theorem dbKeyToSubcribeKey_eq_iff (h : p.IsValid localUdid) (isMultiUser : Bool)
    (hname : name ∈ p.kind.propertyNames) (hkind : p.kind ≠ .dev) (info : SubscribeInfo) :
    dbKeyToSubcribeKey (p.dbKey h isMultiUser hname).render =
        (p.setSubscribeKey info name (writtenUserId p.userId isMultiUser)).subscribeKey ↔
      ¬OH_PROFILE_SUFFIX <:+ p.serviceName := by
  rw [dbKeyToSubcribeKey_dbKey hkind, subscribeKey_setSubscribeKey hkind,
    ← checkAndRemoveOhSuffix_eq_iff]
  constructor
  · intro heq
    have hvalid : separator ∉ p.serviceName := by
      cases p with
      | dev p => exact absurd rfl hkind
      | svr p => exact h.2.2.2
      | char p => exact h.2.2.1.2
    have hremoved : separator ∉ checkAndRemoveOhSuffix p.serviceName := by
      rw [checkAndRemoveOhSuffix]
      split
      · exact fun hmem => hvalid (List.mem_of_mem_take hmem)
      · exact hvalid
    have hproperty := (clean_propertyNames p.kind name hname).1
    have hsegments := joinString_injective (List.cons_ne_nil _ _) (List.cons_ne_nil _ _)
      (clean_subscribeSegments h hremoved hproperty _)
      (clean_subscribeSegments h hvalid hproperty _) heq
    exact (List.cons.inj (List.cons.inj (List.cons.inj hsegments).2).2).1
  · intro hname
    rw [hname]

end StoredProfile

/-! ## Who is called back -/

/-- The kind of a change to a profile of this kind. -/
def Kind.profileChangeType : Kind → ChangeType → ProfileChangeType
  | .dev, .ADD => .DEVICE_PROFILE_ADD
  | .dev, .UPDATE => .DEVICE_PROFILE_UPDATE
  | .dev, .DELETE => .DEVICE_PROFILE_DELETE
  | .svr, .ADD => .SERVICE_PROFILE_ADD
  | .svr, .UPDATE => .SERVICE_PROFILE_UPDATE
  | .svr, .DELETE => .SERVICE_PROFILE_DELETE
  | .char, .ADD => .CHAR_PROFILE_ADD
  | .char, .UPDATE => .CHAR_PROFILE_UPDATE
  | .char, .DELETE => .CHAR_PROFILE_DELETE

/-- A change of a profile calls back the subscriptions for its key and its kind of change, and
shows them the profile that is read from the entry. -/
theorem notifyProfileChange_eq (kind : Kind) (changeType : ChangeType) (dbKey dbValue : Text)
    (s : NotifyState) :
    ∃ oldProfile, notifyProfileChange kind.profileType changeType dbKey dbValue s =
      .ok (callBack (subscriberInfosOf dbKey s) (kind.profileChangeType changeType)
        { oldProfile, profile := kind.changedProfile dbKey dbValue }) := by
  cases kind <;> cases changeType <;> exact ⟨_, rfl⟩

/-- A key of no known kind calls nobody back. -/
theorem notifyProfileChange_min (changeType : ChangeType) (dbKey dbValue : Text)
    (s : NotifyState) :
    notifyProfileChange .PROFILE_TYPE_MIN changeType dbKey dbValue s = .error .invalidParams := by
  cases changeType <;> rfl

/-- A subscription is in the table. -/
def SubscribeInfoMap.Contains (m : SubscribeInfoMap) (info : SubscribeInfo) : Prop :=
  ∃ key, info ∈ (getSubscribeInfos key m).elems

/-- The callbacks for a change of an entry are those of exactly the subscriptions whose key was
built from the names of the profile, the property and the user, and that contain the change type;
each is made once, to the subscription's own listener, and shows these names. -/
structure StoredProfile.IsAnnounced (p : StoredProfile) (property : Text) (userId shown : Int32)
    (changeType : ProfileChangeType) (m : SubscribeInfoMap) (callbacks : List Callback) :
    Prop where
  reached : ∀ info, info ∈ callbacks.map Callback.subscriberInfo ↔
    m.Contains info ∧ p.setSubscribeKey info property userId = info ∧
      changeType ∈ info.subscribeChangeTypes ∧ info.listener.isSome
  once : (callbacks.map Callback.subscriberInfo).Nodup
  own : ∀ c ∈ callbacks, c.subscriberInfo.listener = some c.listener
  names : ∀ c ∈ callbacks, c.notice.profile.profile.kind = p.kind ∧
    c.notice.profile.profile.deviceId = p.deviceId ∧
    c.notice.profile.profile.serviceName = p.serviceName ∧
    c.notice.profile.profile.characteristicKey = p.characteristicKey
  user : ∀ c ∈ callbacks, c.notice.profile.profile.userId = shown

section CallBack

variable (set : SubscribeSet) (changeType : ProfileChangeType) (notice : ProfileNotice)

/-- Those called back are the subscribers to the change that can be called. -/
theorem mem_callBack {c : Callback} :
    c ∈ callBack set changeType notice ↔
      c.subscriberInfo ∈ set.elems ∧ changeType ∈ c.subscriberInfo.subscribeChangeTypes ∧
        c.subscriberInfo.listener = some c.listener ∧ c.notice = notice := by
  rw [callBack, List.mem_filterMap]
  constructor
  · rintro ⟨info, hinfo, hcall⟩
    split at hcall
    · cases hcall
    · rename_i listener hlistener
      split at hcall
      · rename_i hcontains
        cases hcall
        exact ⟨hinfo, hcontains, hlistener, rfl⟩
      · cases hcall
  · rintro ⟨hinfo, hcontains, hlistener, hnotice⟩
    refine ⟨c.subscriberInfo, hinfo, ?_⟩
    simp only [hlistener, if_pos hcontains, ← hnotice]

/-- The subscriptions that are called back are filtered from the set. -/
theorem map_subscriberInfo_callBack :
    (callBack set changeType notice).map Callback.subscriberInfo =
      set.elems.filter fun info =>
        changeType ∈ info.subscribeChangeTypes ∧ info.listener.isSome := by
  rw [callBack, List.map_filterMap, ← List.filterMap_eq_filter]
  refine congrArg (List.filterMap · set.elems) (funext fun info => ?_)
  cases hlistener : info.listener with
  | none => simp [Option.guard, hlistener]
  | some listener =>
    by_cases hcontains : changeType ∈ info.subscribeChangeTypes <;>
      simp [Option.guard, hlistener, hcontains]

/-- No subscription is called back twice. -/
theorem nodup_callBack : ((callBack set changeType notice).map Callback.subscriberInfo).Nodup := by
  have hdistinct : set.elems.Nodup := set.distinct.imp fun hkey heq => hkey (congrArg _ heq)
  rw [map_subscriberInfo_callBack]
  exact hdistinct.filter _

end CallBack

/-- After a subscription the table contains it. -/
theorem contains_subscribe (info : SubscribeInfo) :
    ([SubscribeEvent.call (.subscribe info)].foldl Subscriptions.step {}).table.Contains info := by
  have hroom : SubscribeInfoMap.HasRoomFor ∅ info := by
    refine ⟨by simp, ?_⟩
    rw [SubscribeInfoMap.bucket_of_not_mem ExtTreeMap.not_mem_empty, KeyedSet.size_empty]
    exact Nat.zero_le _
  have htable : ([SubscribeEvent.call (.subscribe info)].foldl Subscriptions.step {}).table =
      (subscribeDeviceProfile info ∅).2 := by
    simp only [List.foldl_cons, List.foldl_nil, Subscriptions.step, Subscriptions.run]
    rw [SubscribeInfoMap.subscribeDeviceProfile_of_room hroom]
  have hheld := SubscribeInfoMap.held_subscribe hroom info.subscribeKey info.saId
  rw [if_pos ⟨rfl, rfl⟩, ← htable] at hheld
  refine ⟨info.subscribeKey, ?_⟩
  rw [SubscribeInfoMap.getSubscribeInfos_eq_bucket]
  exact KeyedSet.mem_of_find? hheld

namespace StoredProfile

variable {localUdid : Text} {p : StoredProfile} {isMultiUser : Bool} {name value : Text}

/-- A key is the one that is built where the text is. -/
theorem setSubscribeKey_eq_iff (p : StoredProfile) (info other : SubscribeInfo) (property : Text)
    (userId : Int32) :
    p.setSubscribeKey info property userId = info ↔
      info.subscribeKey = (p.setSubscribeKey other property userId).subscribeKey := by
  have hset : p.setSubscribeKey info property userId =
      { info with subscribeKey := (p.setSubscribeKey other property userId).subscribeKey } := by
    cases p <;> rfl
  constructor
  · intro heq
    rw [← heq, hset]
  · intro hkey
    rw [hset, ← hkey]

/-- The change of an entry of a profile that comes with a key is announced to its subscriptions
in every table that calls can leave, and shows the given user id. -/
def ReachesSubscribers (p : StoredProfile) (h : p.IsValid localUdid) (isMultiUser : Bool)
    (key value : Text) (shown : Int32) : Prop :=
  ∃ name, ∃ hname : name ∈ p.kind.propertyNames, (p.dbKey h isMultiUser hname).render = key ∧
    ∀ (changeType : ChangeType) (events : List SubscribeEvent) (cache : ProfileCache)
      (deviceProfileMap : ExtTreeMap Text (Flagged DevProfile)),
      let table := (events.foldl Subscriptions.step {}).table
      ∃ callbacks, notifyProfileChange (getProfileType key) changeType key value
          { table, cache, deviceProfileMap } = .ok callbacks ∧
        p.IsAnnounced name (writtenUserId p.userId isMultiUser) shown
          (p.kind.profileChangeType changeType) table callbacks

/-- An entry of a profile is that of one of its properties. -/
theorem property_of_entry (h : p.IsValid localUdid) {key : Text}
    (hentry : (p.toEntries isMultiUser)[key]? = some value) :
    ∃ name, ∃ hname : name ∈ p.kind.propertyNames, (p.dbKey h isMultiUser hname).render = key ∧
      (name, value) ∈ p.properties := by
  have hnodup : (p.properties.map Prod.fst).Nodup :=
    p.map_fst_properties ▸ nodup_propertyNames p.kind
  rw [p.toEntries_eq h, getElem?_putProperties hnodup] at hentry
  rcases hentry with ⟨name, hkey, hmem⟩ | ⟨-, hnone⟩
  · have hname : name ∈ p.kind.propertyNames :=
      p.map_fst_properties ▸ List.mem_map_of_mem hmem
    exact ⟨name, hname,
      (generateDBKey_eq_render (p.dbKey h isMultiUser hname)).symm.trans hkey, hmem⟩
  · rw [ExtTreeMap.getElem?_empty] at hnone
    cases hnone

/-- Two properties of a profile have different keys. -/
theorem name_of_render_eq {h : p.IsValid localUdid} {name' : Text}
    {hname : name ∈ p.kind.propertyNames} {hname' : name' ∈ p.kind.propertyNames}
    (heq : (p.dbKey h isMultiUser hname').render = (p.dbKey h isMultiUser hname).render) :
    name' = name :=
  congrArg DbKey.property (DbKey.render_injective heq)

/-- In a sound table the change of an entry whose service name has no suffix is announced. -/
theorem isAnnounced_callBack {h : p.IsValid localUdid} {hname : name ∈ p.kind.propertyNames}
    (hkind : p.kind ≠ .dev) (hsuffix : ¬OH_PROFILE_SUFFIX <:+ p.serviceName)
    (hshort : (p.dbKey h isMultiUser hname).render.length ≤ MAX_STRING_LEN)
    (hvalue : (name, value) ∈ p.properties) (changeType : ProfileChangeType)
    (oldProfile : Option (Flagged StoredProfile)) {s : NotifyState} (hsound : s.table.IsSound) :
    let key := (p.dbKey h isMultiUser hname).render
    p.IsAnnounced name (writtenUserId p.userId isMultiUser) (p.shownUserId isMultiUser) changeType
      s.table (callBack (subscriberInfosOf key s) changeType
        { oldProfile, profile := p.kind.changedProfile key value }) := by
  intro key
  obtain ⟨hshownKind, hdevice, hservice, hcharKey, huser⟩ :=
    changedProfile_dbKey h hname hkind hshort hvalue
  rw [(checkAndRemoveOhSuffix_eq_iff _).mpr hsuffix] at hservice
  have hfor : ∀ info, info ∈ (subscriberInfosOf key s).elems ↔ s.table.Contains info ∧
      p.setSubscribeKey info name (writtenUserId p.userId isMultiUser) = info := by
    intro info
    have hkey := (dbKeyToSubcribeKey_eq_iff h isMultiUser hname hkind info).mpr hsuffix
    rw [setSubscribeKey_eq_iff p info info, ← hkey, subscriberInfosOf]
    constructor
    · intro hinfo
      refine ⟨⟨_, hinfo⟩, ?_⟩
      rw [SubscribeInfoMap.getSubscribeInfos_eq_bucket] at hinfo
      exact hsound.own _ info hinfo
    · rintro ⟨⟨other, hinfo⟩, hsame⟩
      have hother := hsound.own other info
      rw [← SubscribeInfoMap.getSubscribeInfos_eq_bucket] at hother
      rw [← hsame, hother hinfo]
      exact hinfo
  constructor
  case reached =>
    intro info
    rw [map_subscriberInfo_callBack, List.mem_filter, hfor, decide_eq_true_eq, and_assoc]
  case once => exact nodup_callBack _ _ _
  case own => exact fun c hc => ((mem_callBack _ _ _).mp hc).2.2.1
  case names =>
    intro c hc
    rw [((mem_callBack _ _ _).mp hc).2.2.2]
    exact ⟨hshownKind, hdevice, hservice, hcharKey⟩
  case user =>
    intro c hc
    rw [((mem_callBack _ _ _).mp hc).2.2.2]
    exact huser

/-- A subscription for the additions of a property of a profile. -/
def subscriptionFor (p : StoredProfile) (property : Text) (userId : Int32) : SubscribeInfo :=
  p.setSubscribeKey
    { saId := 4801, subscribeChangeTypes := {p.kind.profileChangeType .ADD}, listener := some 0 }
    property userId

/-- The change of an entry is announced exactly where its key can be read, the service name has no
suffix and the user id is the one that is read. -/
theorem reachesSubscribers_iff (h : p.IsValid localUdid) (hkind : p.kind ≠ .dev) {key : Text}
    (hentry : (p.toEntries isMultiUser)[key]? = some value) (shown : Int32) :
    p.ReachesSubscribers h isMultiUser key value shown ↔
      key.length ≤ MAX_STRING_LEN ∧ ¬OH_PROFILE_SUFFIX <:+ p.serviceName ∧
        shown = p.shownUserId isMultiUser := by
  obtain ⟨name, hname, rfl, hvalue⟩ := property_of_entry h hentry
  have htype : ∀ hshort : (p.dbKey h isMultiUser hname).render.length ≤ MAX_STRING_LEN,
      getProfileType (p.dbKey h isMultiUser hname).render = p.kind.profileType := fun hshort =>
    (getProfileType_render hshort).trans (congrArg Kind.profileType (p.kind_key h))
  constructor
  · rintro ⟨name', hname', hkey, hannounced⟩
    obtain rfl := name_of_render_eq hkey
    -- one subscription, for just this property, is enough
    let info := p.subscriptionFor name' (writtenUserId p.userId isMultiUser)
    obtain ⟨callbacks, hnotify, hcallbacks⟩ := hannounced .ADD [.call (.subscribe info)] {} ∅
    have hshort : (p.dbKey h isMultiUser hname).render.length ≤ MAX_STRING_LEN := by
      by_contra hlong
      rw [getProfileType_of_long (Nat.not_le.mp hlong), notifyProfileChange_min] at hnotify
      cases hnotify
    obtain ⟨oldProfile, heq⟩ := notifyProfileChange_eq p.kind .ADD
      (p.dbKey h isMultiUser hname).render value
      { table := ([SubscribeEvent.call (.subscribe info)].foldl Subscriptions.step {}).table
        cache := {}, deviceProfileMap := ∅ }
    rw [htype hshort, heq] at hnotify
    obtain rfl := Except.ok.inj hnotify
    have hinfo : p.setSubscribeKey info name' (writtenUserId p.userId isMultiUser) = info :=
      (setSubscribeKey_eq_iff p info _ name' _).mpr rfl
    have hreached := (hcallbacks.reached info).mpr
      ⟨contains_subscribe info, hinfo, by cases p <;> exact Finset.mem_singleton_self _,
        by cases p <;> rfl⟩
    obtain ⟨c, hc, hsubscriber⟩ := List.mem_map.mp hreached
    obtain ⟨hmem, -, -, hnotice⟩ := (mem_callBack _ _ _).mp hc
    have hsuffix : ¬OH_PROFILE_SUFFIX <:+ p.serviceName := by
      rw [← dbKeyToSubcribeKey_eq_iff h isMultiUser hname hkind info, hinfo]
      rw [hsubscriber, subscriberInfosOf, SubscribeInfoMap.getSubscribeInfos_eq_bucket] at hmem
      exact ((Subscriptions.isHistory_run _).sound.own _ info hmem).symm
    refine ⟨hshort, hsuffix, ?_⟩
    obtain ⟨-, -, -, -, huser⟩ := changedProfile_dbKey h hname hkind hshort hvalue
    rw [← hcallbacks.user c hc, hnotice]
    exact huser
  · rintro ⟨hshort, hsuffix, rfl⟩
    refine ⟨name, hname, rfl, fun changeType events cache deviceProfileMap => ?_⟩
    intro table
    obtain ⟨oldProfile, heq⟩ := notifyProfileChange_eq p.kind changeType
      (p.dbKey h isMultiUser hname).render value { table, cache, deviceProfileMap }
    refine ⟨_, (htype hshort).symm ▸ heq, ?_⟩
    have hsound : (NotifyState.mk table cache deviceProfileMap).table.IsSound :=
      (Subscriptions.isHistory_run events).sound
    exact isAnnounced_callBack hkind hsuffix hshort hvalue _ oldProfile hsound

/-- The change of an entry of a service or characteristic profile, whose service name does not end
in the suffix, is announced to exactly its subscriptions, with the names of the profile and its
user; but the user of a switch is not shown, and a key that is too long is refused. -/
theorem changes_reach_subscribers (h : p.IsValid localUdid) (hkind : p.kind ≠ .dev)
    (isMultiUser : Bool) (hsuffix : ¬OH_PROFILE_SUFFIX <:+ p.serviceName) (key value : Text)
    (hentry : (p.toEntries isMultiUser)[key]? = some value) :
    (key.length ≤ MAX_STRING_LEN →
      p.ReachesSubscribers h isMultiUser key value (p.shownUserId isMultiUser)) ∧
    (MAX_STRING_LEN < key.length → ∀ (changeType : ChangeType) (s : NotifyState),
      notifyProfileChange (getProfileType key) changeType key value s = .error .invalidParams) := by
  constructor
  · intro hshort
    exact (reachesSubscribers_iff h hkind hentry _).mpr ⟨hshort, hsuffix, rfl⟩
  · intro hlong changeType s
    rw [getProfileType_of_long hlong]
    exact notifyProfileChange_min changeType key value s

/-- The change of the name of a service is announced. -/
theorem camera_reaches_subscribers :
    ∃ h : (svr (namedService ("camera" : Text))).IsValid ("udid" : Text),
      (svr (namedService ("camera" : Text))).ReachesSubscribers h true
        ("svr#udid#camera#serviceName#100" : Text) ("camera" : Text) 100 := by
  have hvalid : (svr (namedService ("camera" : Text))).IsValid ("udid" : Text) := by decide
  have hentry : ((svr (namedService ("camera" : Text))).toEntries true)[
      ("svr#udid#camera#serviceName#100" : Text)]? = some ("camera" : Text) := by decide +kernel
  exact ⟨hvalid, (changes_reach_subscribers hvalid (by decide) true (by decide) _ _ hentry).1
    (by decide)⟩

/-- The characteristic that keeps the switch of a service, put for a user. -/
def userSwitch : CharacteristicProfile :=
  { deviceId := ("udid" : Text), serviceName := ("camera" : Text)
    characteristicKey := SWITCH_STATUS, characteristicValue := ("1" : Text), userId := 100 }

/-- A joined text is at least as long as each of its segments. -/
theorem length_le_length_joinString {strs : List Text} {str : Text} (h : str ∈ strs) :
    str.length ≤ (joinString strs).length := by
  induction strs with
  | nil => cases h
  | cons first rest ih =>
    cases rest with
    | nil =>
      rw [List.mem_singleton.mp h, joinString, List.intercalate_singleton]
    | cons second more =>
      rw [joinString, List.intercalate_cons_cons, List.length_append, List.length_append]
      rcases List.mem_cons.mp h with rfl | hmem
      · omega
      · have hle := ih hmem
        rw [joinString] at hle
        omega

/-- A service whose name is as long as a name may be. -/
def longNamedService : ServiceProfile := namedService (List.replicate MAX_STRING_LEN 'x')

theorem longNamedService_isValid : (svr longNamedService).IsValid ("udid" : Text) := by
  have hlength : HasKeyLength (List.replicate MAX_STRING_LEN 'x') := by
    rw [HasKeyLength, List.length_replicate]
    decide
  have hclean : separator ∉ List.replicate MAX_STRING_LEN 'x' := fun hmem =>
    absurd (List.eq_of_mem_replicate hmem) (by decide)
  exact ⟨by decide, by decide, hlength, hclean⟩

/-- Every key of this service is too long. -/
theorem longNamedService_key_is_long {key : Text}
    (h : ((svr longNamedService).toEntries true)[key]? = some value) :
    MAX_STRING_LEN < key.length := by
  obtain ⟨name, hname, rfl, -⟩ := property_of_entry longNamedService_isValid h
  have hstored :
      MAX_STRING_LEN ≤ (checkAndAddOhSuffix longNamedService.serviceName true).length := by
    have hlength : longNamedService.serviceName.length = MAX_STRING_LEN := List.length_replicate
    rw [checkAndAddOhSuffix]
    split
    · rw [List.length_append]
      omega
    · omega
  let segments := ((svr longNamedService).dbKey longNamedService_isValid true hname).segments
  have hjoin : joinString segments = SVR_PREFIX ++ SEPARATOR ++ joinString segments.tail :=
    List.intercalate_cons_cons ..
  have hmem : checkAndAddOhSuffix longNamedService.serviceName true ∈ segments.tail :=
    List.mem_cons_of_mem _ List.mem_cons_self
  have hle := length_le_length_joinString hmem
  have hprefix : SVR_PREFIX.length = 3 := rfl
  rw [DbKey.render, hjoin, List.length_append, List.length_append]
  omega

/-- The change of a switch that was put for a user does not show this user, and changes under a
name so long that no key can be read are not announced at all. -/
theorem switch_hides_user :
    (∃ h : (char userSwitch).IsValid ("udid" : Text),
      ((char userSwitch).toEntries true)[
        ("char#udid#camera#SwitchStatus#characteristicValue#100" : Text)]? = some ("1" : Text) ∧
      ¬(char userSwitch).ReachesSubscribers h true
        ("char#udid#camera#SwitchStatus#characteristicValue#100" : Text) ("1" : Text)
        (writtenUserId userSwitch.userId true)) ∧
    ∃ h : (svr longNamedService).IsValid ("udid" : Text), ∃ key value,
      ((svr longNamedService).toEntries true)[key]? = some value ∧
      ¬(svr longNamedService).ReachesSubscribers h true key value
        (writtenUserId longNamedService.userId true) := by
  constructor
  · have hvalid : (char userSwitch).IsValid ("udid" : Text) := by decide
    have hentry : ((char userSwitch).toEntries true)[
        ("char#udid#camera#SwitchStatus#characteristicValue#100" : Text)]? =
          some ("1" : Text) := by decide +kernel
    refine ⟨hvalid, hentry, fun hreaches => ?_⟩
    have hshown := ((reachesSubscribers_iff hvalid (by decide) hentry _).mp hreaches).2.2
    revert hshown
    decide
  · obtain ⟨value, hentry⟩ : ∃ value, ((svr longNamedService).toEntries true)[
        ((svr longNamedService).dbKey longNamedService_isValid true
          (show SERVICE_NAME ∈ Kind.svr.propertyNames by decide)).render]? = some value := by
      rw [← Option.isSome_iff_exists, ← ExtTreeMap.mem_iff_isSome_getElem?]
      exact (mem_toEntries _ longNamedService_isValid true _).mpr ⟨_, _, rfl⟩
    refine ⟨longNamedService_isValid, _, value, hentry, fun hreaches => ?_⟩
    have hshort := ((reachesSubscribers_iff longNamedService_isValid (by decide) hentry _).mp
      hreaches).1
    exact absurd hshort (Nat.not_le.mpr (longNamedService_key_is_long hentry))

end StoredProfile

end DeviceProfile
