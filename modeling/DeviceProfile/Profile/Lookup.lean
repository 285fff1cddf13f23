import DeviceProfile.Library.Run
import DeviceProfile.Profile.Put

/-!
# Getting what was put

A profile is read by a scan over all keys that start with its names. The scan does not stop
at the separator, so it also finds the entries of profiles whose last name is longer, and of
several entries that show the same property the last one in the order of the keys counts.
-/

namespace DeviceProfile

open Library Std

/-! ## What a scan shows -/

/-- The reader is a user with entries of its own. -/
def HasOwn (values : Entries) (viewer : Int32) : Prop :=
  viewer ≠ DEFAULT_USER_ID ∧ ∃ key ∈ values, userProperty viewer key ≠ none

/-- The reader is shown the property under the key. -/
def IsShown (values : Entries) (viewer : Int32) (property key : Text) : Prop :=
  HasOwn values viewer ∧ userProperty viewer key = some property ∨
    ¬HasOwn values viewer ∧ plainProperty viewer key = some property

/-- The last key under which the reader is shown the property has the value. -/
def IsLastShown (values : Entries) (viewer : Int32) (property value : Text) : Prop :=
  ∃ key, values[key]? = some value ∧ IsShown values viewer property key ∧
    ∀ other ∈ values, IsShown values viewer property other → (compare other key).isLE

section Scan

variable {values : Entries} {viewer : Int32} {property value key : Text}

/-- The reader sees each property with the value under the last key that shows it. -/
theorem getElem?_getProfilePropertiesMap (h : IsUserId viewer) :
    (getProfilePropertiesMap values viewer)[property]? = some value ↔
      IsLastShown values viewer property value := by
  have hown : (viewer ≠ DEFAULT_USER_ID ∧ ¬(collect (userProperty viewer) values).isEmpty) ↔
      HasOwn values viewer := by
    rw [isEmpty_collect_iff, HasOwn]
    simp only [not_forall, exists_prop, ne_eq]
  rw [getProfilePropertiesMap_eq h]
  by_cases hHas : HasOwn values viewer
  · rw [if_pos (hown.mpr hHas), getElem?_collect_last]
    simp only [IsLastShown, IsShown, hHas, true_and, not_true_eq_false, false_and, or_false]
    exact exists_congr fun k => and_left_comm
  · rw [if_neg (mt hown.mp hHas), getElem?_collect_last]
    simp only [IsLastShown, IsShown, hHas, true_and, not_false_eq_true, false_and, false_or]
    exact exists_congr fun k => and_left_comm

/-- A property is read when it is the last that the viewer is shown and has a value. -/
theorem validProperty_eq_some_iff (h : IsUserId viewer) :
    validProperty (getProfilePropertiesMap values viewer) property = some value ↔
      IsLastShown values viewer property value ∧ IsValue value := by
  rw [validProperty, Option.filter_eq_some_iff, getElem?_getProfilePropertiesMap h,
    decide_eq_true_eq]
  exact and_congr_right fun _ => and_congr_right fun _ => Nat.lt_succ_iff

/-- A property is shown by its name. -/
theorem getProfileProperty_of_isShown (h : IsShown values viewer property key) :
    getProfileProperty key viewer = property ∧ property ≠ [] := by
  rcases h with ⟨-, h⟩ | ⟨-, h⟩
  · rw [userProperty] at h
    split at h
    · cases h
    · rename_i hnot
      exact Option.some.inj h ▸ ⟨rfl, (not_or.mp hnot).1⟩
  · rw [plainProperty] at h
    split at h
    · cases h
    · rename_i hnot
      exact Option.some.inj h ▸ ⟨rfl, (not_or.mp hnot).1⟩

end Scan

/-! ## Reading -/

/-- What the scan shows last as name and as value can be returned, and the value is the given
one. -/
structure ReadsAs (kvStore : KvStore) (keyStart : Text) (viewer : Int32)
    (nameProperty valueProperty : Text) (IsName : Text → Prop) (value : Text) : Prop where
  size : (kvStore.getEntries keyStart).size ≤ MAX_DB_SIZE
  name : ∃ name, IsLastShown (kvStore.getEntries keyStart) viewer nameProperty name ∧
    IsValue name ∧ IsName name
  shown : IsLastShown (kvStore.getEntries keyStart) viewer valueProperty value
  isValue : IsValue value

theorem IsLastShown.size_ne_zero {values : Entries} {viewer : Int32} {property value : Text}
    (h : IsLastShown values viewer property value) : values.size ≠ 0 := by
  obtain ⟨key, hkey, -⟩ := h
  intro hsize
  rw [ExtTreeMap.eq_empty_iff_size_eq_zero.mpr hsize, ExtTreeMap.getElem?_empty] at hkey
  cases hkey

/-- A scan that is not refused is not refused by the decoders either. -/
theorem checkEntriesSize_of_isAccepted {s : KvStore} {keyStart : Text}
    (h : s.IsAccepted keyStart) : checkEntriesSize (s.getEntries keyStart) = .ok () := by
  have hempty : ¬(s.getEntries keyStart).isEmpty := by
    rw [ExtTreeMap.isEmpty_iff, ExtTreeMap.eq_empty_iff_size_eq_zero]
    exact h.1
  have hbound : (MAX_DB_SIZE : Nat) ≤ MAX_DB_RECORD_SIZE := by decide
  exact if_neg (not_or.mpr ⟨hempty, Nat.not_lt.mpr (h.2.trans hbound)⟩)

/-- Where the entries of a characteristic are looked for. -/
def charKeyStart (kvStore : KvStore) (deviceId serviceName characteristicKey : Text) : Text :=
  let suffixed :=
    generateCharProfileKey deviceId (checkAndAddOhSuffix serviceName true) characteristicKey
  if IsNeedAddOhSuffix serviceName true ∧ kvStore.IsAccepted suffixed then suffixed
  else generateCharProfileKey deviceId serviceName characteristicKey

/-- The values of a characteristic are read under the start of its keys. -/
theorem characteristicValues_eq (kvStore : KvStore)
    (deviceId serviceName characteristicKey : Text) :
    ProfileControlUtils.characteristicValues kvStore deviceId serviceName characteristicKey =
      kvStore.getByPrefix (charKeyStart kvStore deviceId serviceName characteristicKey) := by
  unfold ProfileControlUtils.characteristicValues charKeyStart
  by_cases hneed : IsNeedAddOhSuffix serviceName true
  · by_cases haccepted : kvStore.IsAccepted
      (generateCharProfileKey deviceId (checkAndAddOhSuffix serviceName true) characteristicKey)
    · have hne : ¬(kvStore.getEntries (generateCharProfileKey deviceId
          (checkAndAddOhSuffix serviceName true) characteristicKey)).isEmpty := by
        rw [ExtTreeMap.isEmpty_iff, ExtTreeMap.eq_empty_iff_size_eq_zero]
        exact haccepted.1
      simp only [hneed, haccepted, and_self, if_true, KvStore.getByPrefix_of_isAccepted haccepted,
        Except.toOption, Option.getD_some, hne, Bool.false_eq_true, if_false]
    · simp only [hneed, haccepted, and_false, if_true, if_false,
        KvStore.getByPrefix_of_not_isAccepted haccepted, Except.toOption, Option.getD_none,
        ExtTreeMap.isEmpty_empty]
  · simp only [hneed, false_and, if_false, ExtTreeMap.isEmpty_empty, if_true]

/-! ## Getting -/

/-- A profile with this value is returned. -/
def Gets {α : Type} (value : α → Text) (r : Except ManagerError (Flagged α)) (v : Text) : Prop :=
  r.toOption.map (fun p => value p.profile) = some v

instance {α : Type} (value : α → Text) (r : Except ManagerError (Flagged α)) (v : Text) :
    Decidable (Gets value r v) :=
  inferInstanceAs (Decidable (_ = _))

theorem not_gets_error {α : Type} {value : α → Text} {e : ManagerError} {v : Text} :
    ¬Gets value (.error e) v :=
  (Option.some_ne_none v).symm

/-- A profile that is returned has a name and the value. -/
theorem gets_ite_iff {α : Type} {value : α → Text} {p : Flagged α} {name v v' : Text}
    {e : ManagerError} (h : value p.profile = v) :
    Gets value (if name = [] ∨ v = [] then .error e else .ok p) v' ↔
      name ≠ [] ∧ v ≠ [] ∧ v = v' := by
  by_cases hempty : name = [] ∨ v = []
  · rw [if_pos hempty]
    refine iff_of_false not_gets_error fun hne => ?_
    rcases hempty with hname | hv
    · exact hne.1 hname
    · exact hne.2.1 hv
  · rw [if_neg hempty, Gets]
    simp only [Except.toOption, Option.map_some, h, Option.some.injEq]
    exact ⟨fun heq => ⟨(not_or.mp hempty).1, (not_or.mp hempty).2, heq⟩, fun hne => hne.2.2⟩

/-- Only the suffix alone leaves nothing when it is removed. -/
theorem checkAndRemoveOhSuffix_ne_nil_iff {name : Text} (h : name ≠ []) :
    checkAndRemoveOhSuffix name ≠ [] ↔ name ≠ OH_PROFILE_SUFFIX := by
  unfold checkAndRemoveOhSuffix
  split
  · rename_i hsuffix
    obtain ⟨front, rfl⟩ := hsuffix
    rw [List.length_append, Nat.add_sub_cancel, List.take_left, ne_eq, ne_eq,
      List.append_left_eq_self]
  · rename_i hsuffix
    refine iff_of_true h ?_
    rintro rfl
    exact hsuffix (List.suffix_refl _)

section Getting

variable {c : ProfileCache} {kvStore : KvStore} {deviceId serviceName characteristicKey : Text}
  {value : Text}

/-- What reads as a profile has been accepted. -/
theorem ReadsAs.isAccepted {keyStart : Text} {viewer : Int32} {nameProperty valueProperty : Text}
    {IsName : Text → Prop}
    (h : ReadsAs kvStore keyStart viewer nameProperty valueProperty IsName value) :
    kvStore.IsAccepted keyStart :=
  ⟨h.shown.size_ne_zero, h.size⟩

/-- What is decoded from an accepted scan is valid, and has the value, where a name and the value
are shown last. -/
theorem readsAs_iff {keyStart : Text} {viewer : Int32} (hviewer : IsUserId viewer)
    (hscan : kvStore.IsAccepted keyStart) {nameProperty valueProperty : Text}
    {IsName : Text → Prop} (decode : Text → Text)
    (hdecode : ∀ name : Text, IsValue name → (decode name ≠ [] ↔ IsName name)) :
    ReadsAs kvStore keyStart viewer nameProperty valueProperty IsName value ↔
      let propertiesMap := getProfilePropertiesMap (kvStore.getEntries keyStart) viewer
      ((validProperty propertiesMap nameProperty).map decode).getD [] ≠ [] ∧
        (validProperty propertiesMap valueProperty).getD [] ≠ [] ∧
        (validProperty propertiesMap valueProperty).getD [] = value := by
  have hproperty : ∀ property v : Text,
      validProperty (getProfilePropertiesMap (kvStore.getEntries keyStart) viewer) property =
          some v ↔
        IsLastShown (kvStore.getEntries keyStart) viewer property v ∧ IsValue v := fun _ _ =>
    validProperty_eq_some_iff hviewer
  have hname := hproperty nameProperty
  have hvalue := hproperty valueProperty
  constructor
  · intro h
    obtain ⟨name, hshown, hvalid, hisName⟩ := h.name
    simp only [(hname name).mpr ⟨hshown, hvalid⟩, (hvalue value).mpr ⟨h.shown, h.isValue⟩,
      Option.map_some, Option.getD_some, and_true]
    exact ⟨(hdecode name hvalid).mpr hisName, List.ne_nil_of_length_pos h.isValue.pos⟩
  · rintro ⟨hn, hv, heq⟩
    cases hname' : validProperty (getProfilePropertiesMap (kvStore.getEntries keyStart) viewer)
      nameProperty with
    | none =>
      rw [hname'] at hn
      exact absurd rfl hn
    | some name =>
      cases hvalue' : validProperty (getProfilePropertiesMap (kvStore.getEntries keyStart) viewer)
        valueProperty with
      | none =>
        rw [hvalue'] at hv
        exact absurd rfl hv
      | some v =>
        rw [hname'] at hn
        rw [hvalue', Option.getD_some] at heq
        obtain ⟨hshownName, hvalidName⟩ := (hname name).mp hname'
        obtain ⟨hshown, hvalid⟩ := (hvalue v).mp hvalue'
        exact ⟨hscan.2, ⟨name, hshownName, hvalidName, (hdecode name hvalidName).mp hn⟩,
          heq ▸ hshown, heq ▸ hvalid⟩

/-- What a service that is not cached is read as. -/
theorem gets_service_iff (hdevice : IsKeyValid deviceId) (hservice : IsKeyValid serviceName)
    (hmiss : (c.getServiceProfile deviceId serviceName).toOption = none)
    {target : Flagged ServiceProfile} (hname : target.profile.serviceName = [])
    (htype : target.profile.serviceType = []) (huser : IsUserId target.profile.userId) :
    Gets ServiceProfile.serviceType
        (ProfileControlUtils.getServiceProfile c kvStore deviceId serviceName target) value ↔
      ReadsAs kvStore (generateServiceProfileKey deviceId serviceName) target.profile.userId
        SERVICE_NAME SERVICE_TYPE (· ≠ OH_PROFILE_SUFFIX) value := by
  have hmiss' : ∃ e, c.getServiceProfile deviceId serviceName = .error e := by
    cases hcache : c.getServiceProfile deviceId serviceName with
    | error e => exact ⟨e, rfl⟩
    | ok p =>
      rw [hcache] at hmiss
      cases hmiss
  obtain ⟨e, he⟩ := hmiss'
  have hvalid : ¬(¬IsKeyValid deviceId ∨ ¬IsKeyValid serviceName) := by
    rw [not_or, not_not, not_not]
    exact ⟨hdevice, hservice⟩
  simp only [ProfileControlUtils.getServiceProfile, if_neg hvalid, he]
  by_cases hscan : kvStore.IsAccepted (generateServiceProfileKey deviceId serviceName)
  · rw [readsAs_iff huser hscan checkAndRemoveOhSuffix fun name hvalue =>
      checkAndRemoveOhSuffix_ne_nil_iff (List.ne_nil_of_length_pos hvalue.pos)]
    simp only [KvStore.getByPrefix_of_isAccepted hscan, entriesToServiceProfile,
      checkEntriesSize_of_isAccepted hscan, hname, htype]
    exact gets_ite_iff rfl
  · rw [KvStore.getByPrefix_of_not_isAccepted hscan]
    exact iff_of_false not_gets_error fun h => hscan h.isAccepted

/-- What a characteristic that is not cached is read as. -/
theorem gets_characteristic_iff (hdevice : IsKeyValid deviceId)
    (hservice : IsKeyValid serviceName) (hkey : IsKeyValid characteristicKey)
    (hmiss : characteristicKey = STATIC_CHARACTERISTIC_KEY ∨ characteristicKey = SWITCH_STATUS →
      (c.getCharacteristicProfile deviceId serviceName characteristicKey).toOption = none)
    {target : Flagged CharacteristicProfile} (hname : target.profile.characteristicKey = [])
    (hvalue : target.profile.characteristicValue = []) (huser : IsUserId target.profile.userId) :
    Gets CharacteristicProfile.characteristicValue
        (ProfileControlUtils.getCharacteristicProfile c kvStore deviceId serviceName
          characteristicKey target) value ↔
      ReadsAs kvStore (charKeyStart kvStore deviceId serviceName characteristicKey)
        target.profile.userId CHARACTERISTIC_KEY CHARACTERISTIC_VALUE (fun _ => True) value := by
  have hvalid :
      ¬(¬IsKeyValid deviceId ∨ ¬IsKeyValid serviceName ∨ ¬IsKeyValid characteristicKey) := by
    simp only [hdevice, hservice, hkey, not_true_eq_false, or_self, not_false_eq_true]
  have hcached : (if characteristicKey = STATIC_CHARACTERISTIC_KEY ∨
      characteristicKey = SWITCH_STATUS then
        (c.getCharacteristicProfile deviceId serviceName characteristicKey).toOption
      else none) = none := by
    split
    · rename_i hcacheable
      exact hmiss hcacheable
    · rfl
  simp only [ProfileControlUtils.getCharacteristicProfile, if_neg hvalid, hcached,
    characteristicValues_eq]
  by_cases hscan :
      kvStore.IsAccepted (charKeyStart kvStore deviceId serviceName characteristicKey)
  · rw [readsAs_iff huser hscan id fun name hvalue =>
      iff_of_true (List.ne_nil_of_length_pos hvalue.pos) trivial]
    simp only [KvStore.getByPrefix_of_isAccepted hscan, entriesToCharProfile,
      checkEntriesSize_of_isAccepted hscan, hname, hvalue, Option.map_id_fun, id]
    exact gets_ite_iff rfl
  · rw [KvStore.getByPrefix_of_not_isAccepted hscan]
    exact iff_of_false not_gets_error fun h => hscan h.isAccepted

end Getting

/-! ## The reader -/

section Reader

variable {device : LocalDevice} {c : ProfileCache} {m : Manager} {deviceId value : Text}
  {isMultiUser : Bool} {userId : Int32}

/-- An empty profile of a user, which is to be filled. -/
def serviceOf (isMultiUser : Bool) (userId : Int32) : Flagged ServiceProfile :=
  { profile := { userId }, isMultiUser }

/-- An empty profile of a user, which is to be filled. -/
def characteristicOf (isMultiUser : Bool) (userId : Int32) : Flagged CharacteristicProfile :=
  { profile := { userId }, isMultiUser }

/-- A reader is admitted to the profiles of a device. -/
def IsAdmitted (device : LocalDevice) (m : Manager) (deviceId : Text) (isMultiUser : Bool)
    (userId : Int32) : Prop :=
  (m.isMultiUserValid device deviceId isMultiUser userId).1 = .ok ()

instance (device : LocalDevice) (m : Manager) (deviceId : Text) (isMultiUser : Bool)
    (userId : Int32) : Decidable (IsAdmitted device m deviceId isMultiUser userId) :=
  inferInstanceAs (Decidable (_ = _))

/-- An admitted reader has the id of a user or of no user. -/
theorem IsAdmitted.isUserId (h : IsAdmitted device m deviceId isMultiUser userId) :
    IsUserId userId := by
  rw [IsAdmitted, Manager.isMultiUserValid] at h
  split at h
  · cases h
  · rename_i hnot
    simp only [not_or, not_and] at hnot
    cases isMultiUser with
    | true => exact .inr (Int32.not_le.mp (hnot.2.1 rfl))
    | false => exact .inl (not_not.mp (hnot.2.2 Bool.false_ne_true))

/-- An admitted reader gets what is read from the store. -/
theorem gets_service_iff_admitted {serviceName : Text} (hdevice : IsKeyValid deviceId)
    (hservice : IsKeyValid serviceName)
    (hmiss : (c.getServiceProfile deviceId serviceName).toOption = none) :
    Gets ServiceProfile.serviceType
        (m.getServiceProfile device c deviceId serviceName (serviceOf isMultiUser userId)).1
        value ↔
      IsAdmitted device m deviceId isMultiUser userId ∧
        ReadsAs m.store (generateServiceProfileKey deviceId serviceName) userId SERVICE_NAME
          SERVICE_TYPE (· ≠ OH_PROFILE_SUFFIX) value := by
  have hstore := (Manager.isAsked_isMultiUserValid device m deviceId isMultiUser userId).store
  have huser : IsAdmitted device m deviceId isMultiUser userId → IsUserId userId :=
    IsAdmitted.isUserId
  rw [IsAdmitted] at huser ⊢
  simp only [Manager.getServiceProfile, serviceOf]
  rcases hvalid : m.isMultiUserValid device deviceId isMultiUser userId with ⟨_ | _, m'⟩
  · exact iff_of_false nofun fun h => nomatch h.1
  · rw [hvalid] at hstore huser
    simp only [true_and, ← hstore]
    exact gets_service_iff hdevice hservice hmiss rfl rfl (huser rfl)

/-- An admitted reader gets what is read from the store. -/
theorem gets_characteristic_iff_admitted {serviceName characteristicKey : Text}
    (hdevice : IsKeyValid deviceId) (hservice : IsKeyValid serviceName)
    (hkey : IsKeyValid characteristicKey)
    (hmiss : characteristicKey = STATIC_CHARACTERISTIC_KEY ∨ characteristicKey = SWITCH_STATUS →
      (c.getCharacteristicProfile deviceId serviceName characteristicKey).toOption = none) :
    Gets CharacteristicProfile.characteristicValue
        (m.getCharacteristicProfile device c deviceId serviceName characteristicKey
          (characteristicOf isMultiUser userId)).1 value ↔
      IsAdmitted device m deviceId isMultiUser userId ∧
        ReadsAs m.store (charKeyStart m.store deviceId serviceName characteristicKey) userId
          CHARACTERISTIC_KEY CHARACTERISTIC_VALUE (fun _ => True) value := by
  have hstore := (Manager.isAsked_isMultiUserValid device m deviceId isMultiUser userId).store
  have huser : IsAdmitted device m deviceId isMultiUser userId → IsUserId userId :=
    IsAdmitted.isUserId
  rw [IsAdmitted] at huser ⊢
  simp only [Manager.getCharacteristicProfile, characteristicOf]
  rcases hvalid : m.isMultiUserValid device deviceId isMultiUser userId with ⟨_ | _, m'⟩
  · exact iff_of_false nofun fun h => nomatch h.1
  · rw [hvalid] at hstore huser
    simp only [true_and, ← hstore]
    exact gets_characteristic_iff hdevice hservice hkey hmiss rfl rfl (huser rfl)

end Reader

/-! ## Reading without disturbance -/

/-- A reader of the kind of the profile is admitted, the profile was stored under readable keys
and with values of the lengths that are read, no other name of the profile was put, and the scan
shows nothing but the entries of the profile. -/
structure IsUndisturbed (device : LocalDevice) (m m' : Manager) (p : Flagged StoredProfile)
    (puts : List (Bool × PutCall)) (keyStart : Text) (viewer : Int32) : Prop where
  started : m.isFirst = false
  viewer_eq : viewer = writtenUserId p.profile.userId p.isMultiUser
  admitted : IsAdmitted device m' p.profile.deviceId p.isMultiUser viewer
  noTwin : ∀ x ∈ puts, ∀ q ∈ x.2.profiles, ¬p.profile.IsTwin q.profile
  values : ∀ x ∈ p.profile.properties, IsValue x.2
  short : ∀ x ∈ p.profile.properties,
    (generateDBKey p.profile.profileKey x.1 viewer).length ≤ MAX_STRING_LEN
  size : (m'.store.getEntries keyStart).size ≤ MAX_DB_SIZE
  alone : ∀ key ∈ m'.store.getEntries keyStart, getProfileProperty key viewer ≠ [] →
    ∃ name ∈ p.profile.kind.propertyNames, ∃ u, generateDBKey p.profile.profileKey name u = key

section Undisturbed

variable {localUdid : Text} {p : StoredProfile} {values : Entries} {viewer : Int32}

/-- A key of a profile shows its property, to a user if it is the user's, and to the others if it
is no user's. -/
theorem shown_generateDBKey (hp : p.IsValid localUdid) {name : Text}
    (hname : name ∈ p.kind.propertyNames) {u : Int32}
    (hshort : (generateDBKey p.profileKey name u).length ≤ MAX_STRING_LEN) (viewer : Int32) :
    (userProperty viewer (generateDBKey p.profileKey name u) =
        if u ≠ DEFAULT_USER_ID ∧ u = viewer then some name else none) ∧
      plainProperty viewer (generateDBKey p.profileKey name u) =
        if u = DEFAULT_USER_ID then some name else none := by
  have hne := (clean_propertyNames p.kind name hname).2
  rw [p.generateDBKey_eq_entryKey hp hname] at hshort ⊢
  have huser : getUserIdFromDbKey (p.entryKey hp hname u).render = u :=
    DbKey.getUserIdFromDbKey_render _
  have hproperty : getProfileProperty (p.entryKey hp hname u).render viewer =
      visibleProperty name viewer u := DbKey.getProfileProperty_render hshort viewer
  rw [userProperty, plainProperty, huser, hproperty, visibleProperty]
  by_cases hplain : u = DEFAULT_USER_ID
  · by_cases hviewer : viewer = DEFAULT_USER_ID <;> simp [hplain, hviewer, hne]
  · by_cases hviewer : u = viewer
    · simp [hviewer, hne]
    · simp [hplain, hviewer, Ne.symm hviewer]

/-- A key under which a property is shown is not too long. -/
theorem length_le_of_isShown {property key : Text} (h : IsShown values viewer property key) :
    key.length ≤ MAX_STRING_LEN := by
  obtain ⟨hproperty, hne⟩ := getProfileProperty_of_isShown h
  by_contra hlong
  rw [getProfileProperty, if_neg fun hkey => hlong hkey.2] at hproperty
  exact hne hproperty.symm

/-- Where a scan shows nothing but the entries of a profile, each of its properties is shown last
with its value. -/
theorem isLastShown_of_alone (hp : p.IsValid localUdid)
    (hshort : ∀ x ∈ p.properties, (generateDBKey p.profileKey x.1 viewer).length ≤ MAX_STRING_LEN)
    (hstored : ∀ x ∈ p.properties, values[generateDBKey p.profileKey x.1 viewer]? = some x.2)
    (halone : ∀ key ∈ values, getProfileProperty key viewer ≠ [] →
      ∃ name ∈ p.kind.propertyNames, ∃ u, generateDBKey p.profileKey name u = key)
    {x : Text × Text} (hx : x ∈ p.properties) : IsLastShown values viewer x.1 x.2 := by
  have hname := StoredProfile.mem_propertyNames hx
  have hmem : generateDBKey p.profileKey x.1 viewer ∈ values := by
    exact mem_iff_exists_getElem?.mpr ⟨_, hstored x hx⟩
  obtain ⟨hown, hplain⟩ := shown_generateDBKey hp hname (hshort x hx) viewer
  -- the keys of the viewer show the property, and of the keys of the profile only they do
  have hview : HasOwn values viewer ↔ viewer ≠ DEFAULT_USER_ID := by
    refine ⟨fun h => h.1, fun h => ⟨h, _, hmem, ?_⟩⟩
    rw [hown, if_pos ⟨h, rfl⟩]
    exact Option.some_ne_none _
  refine ⟨_, hstored x hx, ?_, fun other hother hshown => ?_⟩
  · by_cases hviewer : viewer = DEFAULT_USER_ID
    · exact .inr ⟨fun h => h.1 hviewer, by rw [hplain, if_pos hviewer]⟩
    · exact .inl ⟨hview.mpr hviewer, by rw [hown, if_pos ⟨hviewer, rfl⟩]⟩
  · obtain ⟨hproperty, hne⟩ := getProfileProperty_of_isShown hshown
    have hlength := length_le_of_isShown hshown
    obtain ⟨name, hname', u, rfl⟩ := halone other hother (hproperty.symm ▸ hne)
    obtain ⟨hown', hplain'⟩ := shown_generateDBKey hp hname' hlength viewer
    have hsame : name = x.1 ∧ u = viewer := by
      rcases hshown with ⟨-, h⟩ | ⟨hnot, h⟩
      · rw [hown'] at h
        split at h
        · rename_i hu
          exact ⟨Option.some.inj h, hu.2⟩
        · cases h
      · rw [hplain'] at h
        split at h
        · rename_i hu
          exact ⟨Option.some.inj h, hu.trans (not_not.mp (mt hview.mpr hnot)).symm⟩
        · cases h
    rw [hsame.1, hsame.2]
    exact ReflOrd.isLE_rfl

/-- An undisturbed profile is read with its name and its value. -/
theorem IsUndisturbed.readsAs {device : LocalDevice} {m m' : Manager}
    {p : Flagged StoredProfile} {puts : List (Bool × PutCall)} {keyStart : Text}
    (h : IsUndisturbed device m m' p puts keyStart viewer) (hp : p.profile.IsValid device.udid)
    (hstart : keyStart <+: p.profile.profileKey)
    (hstored : ∀ x ∈ p.profile.properties,
      m'.store.valueAt (generateDBKey p.profile.profileKey x.1 viewer) = some x.2)
    {nameProperty valueProperty name value : Text} {IsName : Text → Prop}
    (hname : (nameProperty, name) ∈ p.profile.properties)
    (hvalue : (valueProperty, value) ∈ p.profile.properties) (hisName : IsName name) :
    ReadsAs m'.store keyStart viewer nameProperty valueProperty IsName value := by
  have hscanned : ∀ x ∈ p.profile.properties,
      (m'.store.getEntries keyStart)[generateDBKey p.profile.profileKey x.1 viewer]? =
        some x.2 := by
    intro x hx
    have hprefix : keyStart <+: generateDBKey p.profile.profileKey x.1 viewer := by
      refine hstart.trans ?_
      unfold generateDBKey
      split
      · simp only [List.append_assoc]
        exact List.prefix_append _ _
      · rw [List.append_assoc]
        exact List.prefix_append _ _
    rw [KvStore.getElem?_getEntries, if_pos hprefix]
    exact hstored x hx
  have hshown := fun x hx => isLastShown_of_alone hp h.short hscanned h.alone (x := x) hx
  exact ⟨h.size, ⟨name, hshown _ hname, h.values _ hname, hisName⟩, hshown _ hvalue,
    h.values _ hvalue⟩

end Undisturbed

/-! ## Get returns what was put -/

/-- The puts are of profiles with other names. -/
def ArePutsOfOthers (p : StoredProfile) (puts : List (Bool × PutCall)) : Prop :=
  ∀ x ∈ puts, ∀ q ∈ x.2.profiles, ¬p.IsSame q.profile

instance (p : StoredProfile) (puts : List (Bool × PutCall)) :
    Decidable (ArePutsOfOthers p puts) :=
  inferInstanceAs (Decidable (∀ x ∈ puts, ∀ q ∈ x.2.profiles, _))

section Returned

variable {device : LocalDevice} {m : Manager} {x : Bool × PutCall} {p : Flagged StoredProfile}
  {puts : List (Bool × PutCall)} {keyStart : Text} {viewer : Int32}

/-- What was put is stored after the puts that follow. -/
theorem IsUndisturbed.stored (hx : x.2.profiles = [p]) (hput : PutSucceeds device m x)
    (hputs : Admits (putStep device) (PutSucceeds device) (putStep device m x) puts)
    (hothers : ArePutsOfOthers p.profile puts) (hp : p.profile.IsValid device.udid)
    (h : IsUndisturbed device m (puts.foldl (putStep device) (putStep device m x)) p puts keyStart
      viewer) :
    ∀ y ∈ p.profile.properties,
      (puts.foldl (putStep device) (putStep device m x)).store.valueAt
        (generateDBKey p.profile.profileKey y.1 viewer) = some y.2 := by
  intro y hy
  have hfirst : (putStep device m x).isFirst = false := (isFirst_putStep hput).trans h.started
  have hapart : ∀ z ∈ puts, ∀ q ∈ z.2.profiles, ∀ hq : q.profile.IsValid device.udid,
      p.profile.key hp ≠ q.profile.key hq := fun z hz q hq hvalid =>
    StoredProfile.key_ne hp hvalid (hothers z hz q hq) (h.noTwin z hz q hq)
  have hviewer : viewer ∈ p.writtenUsers (m.currentUser device) := by
    rw [h.viewer_eq, Flagged.writtenUsers, writtenUserId]
    cases p.isMultiUser with
    | false => exact List.mem_singleton_self _
    | true =>
      simp only [if_true]
      split
      · exact List.mem_cons_self
      · exact List.mem_cons_self
  have hentry : (generateDBKey p.profile.profileKey y.1 viewer, y.2) ∈ p.profile.pairs viewer :=
    StoredProfile.mem_pairs.mpr ⟨y.1, hy, rfl⟩
  rw [valueAt_foldl_putStep hputs hfirst hp hapart (StoredProfile.mem_propertyNames hy),
    valueAt_putStep hput h.started, PutCall.getElem?_entries_of_singleton hx hp hviewer hentry]
  rfl

end Returned

/-- A profile that was put successfully, and then others, is returned with its value exactly when
an admitted reader's scan is not too large and shows last the value, and a name that can be
returned. That is so where the profile was not disturbed. -/
theorem get_returns_what_was_put_iff (device : LocalDevice) (c : ProfileCache) (stored : Bool)
    (m : Manager) (puts : List (Bool × PutCall)) (isMultiUser : Bool) (viewer : Int32) :
    (∀ p : Flagged ServiceProfile,
      let m₁ := putStep device m (stored, .service p)
      let m' := puts.foldl (putStep device) m₁
      let keyStart := generateServiceProfileKey p.profile.deviceId p.profile.serviceName
      let Returned := Gets ServiceProfile.serviceType (m'.getServiceProfile device c
        p.profile.deviceId p.profile.serviceName (serviceOf isMultiUser viewer)).1
        p.profile.serviceType
      PutSucceeds device m (stored, .service p) →
      Admits (putStep device) (PutSucceeds device) m₁ puts →
      ArePutsOfOthers (.svr p.profile) puts →
      (c.getServiceProfile p.profile.deviceId p.profile.serviceName).toOption = none →
      (Returned ↔ IsAdmitted device m' p.profile.deviceId isMultiUser viewer ∧
        ReadsAs m'.store keyStart viewer SERVICE_NAME SERVICE_TYPE (· ≠ OH_PROFILE_SUFFIX)
          p.profile.serviceType) ∧
      (isMultiUser = p.isMultiUser → p.profile.serviceName ≠ OH_PROFILE_SUFFIX →
        IsUndisturbed device m m' (p.map .svr) puts keyStart viewer → Returned)) ∧
    (∀ p : Flagged CharacteristicProfile,
      let m₁ := putStep device m (stored, .characteristic p)
      let m' := puts.foldl (putStep device) m₁
      let Returned := Gets CharacteristicProfile.characteristicValue
        (m'.getCharacteristicProfile device c p.profile.deviceId p.profile.serviceName
          p.profile.characteristicKey (characteristicOf isMultiUser viewer)).1
        p.profile.characteristicValue
      PutSucceeds device m (stored, .characteristic p) →
      Admits (putStep device) (PutSucceeds device) m₁ puts →
      ArePutsOfOthers (.char p.profile) puts →
      (p.profile.characteristicKey = STATIC_CHARACTERISTIC_KEY ∨
        p.profile.characteristicKey = SWITCH_STATUS →
        (c.getCharacteristicProfile p.profile.deviceId p.profile.serviceName
          p.profile.characteristicKey).toOption = none) →
      (Returned ↔ IsAdmitted device m' p.profile.deviceId isMultiUser viewer ∧
        ReadsAs m'.store (charKeyStart m'.store p.profile.deviceId p.profile.serviceName
          p.profile.characteristicKey) viewer CHARACTERISTIC_KEY CHARACTERISTIC_VALUE
          (fun _ => True) p.profile.characteristicValue) ∧
      (isMultiUser = p.isMultiUser →
        IsUndisturbed device m m' (p.map .char) puts (StoredProfile.char p.profile).profileKey
          viewer → Returned)) := by
  constructor
  · intro p m₁ m' keyStart Returned hput hputs hothers hmiss
    have hp : IsSvrProfileValid device.udid p.profile := (PutCall.run_ok hput.run_eq).1
    have hiff : Returned ↔ _ := gets_service_iff_admitted hp.1 hp.2.2 hmiss
    refine ⟨hiff, fun hflag hname h => hiff.mpr ⟨hflag ▸ h.admitted, ?_⟩⟩
    have hstart : keyStart <+: (StoredProfile.svr p.profile).profileKey := by
      rw [StoredProfile.profileKey, checkAndAddOhSuffix]
      split
      · simp only [generateServiceProfileKey, ← List.append_assoc]
        exact List.prefix_append _ _
      · exact List.prefix_refl _
    exact h.readsAs hp hstart (IsUndisturbed.stored rfl hput hputs hothers hp h)
      List.mem_cons_self (List.mem_cons_of_mem _ List.mem_cons_self) hname
  · intro p m₁ m' Returned hput hputs hothers hmiss
    have hp : IsCharProfileValid device.udid p.profile := (PutCall.run_ok hput.run_eq).1
    have hiff : Returned ↔ _ := gets_characteristic_iff_admitted hp.1 hp.2.2.1 hp.2.2.2 hmiss
    refine ⟨hiff, fun hflag h => hiff.mpr ⟨hflag ▸ h.admitted, ?_⟩⟩
    have hread : ReadsAs m'.store (StoredProfile.char p.profile).profileKey viewer
        CHARACTERISTIC_KEY CHARACTERISTIC_VALUE (fun _ => True)
        p.profile.characteristicValue :=
      h.readsAs hp (List.prefix_refl _) (IsUndisturbed.stored rfl hput hputs hothers hp h)
        List.mem_cons_self (List.mem_cons_of_mem _ List.mem_cons_self) trivial
    have hstart : charKeyStart m'.store p.profile.deviceId p.profile.serviceName
        p.profile.characteristicKey = (StoredProfile.char p.profile).profileKey := by
      rw [charKeyStart, StoredProfile.profileKey]
      by_cases hneed : IsNeedAddOhSuffix p.profile.serviceName true
      · exact if_pos ⟨hneed, hread.isAccepted⟩
      · rw [if_neg fun hboth => hneed hboth.1, checkAndAddOhSuffix, if_neg hneed]
    rw [hstart]
    exact hread

/-- A characteristic of the camera of the device. -/
def cameraProfile (characteristicKey characteristicValue : Text) : CharacteristicProfile :=
  { deviceId := ("udid" : Text), serviceName := ("camera" : Text), characteristicKey
    characteristicValue }

/-- A put of a characteristic of the camera, which the store answers. -/
def cameraPut (characteristicKey characteristicValue : Text) : Bool × PutCall :=
  (true, .characteristic { profile := cameraProfile characteristicKey characteristicValue })

/-- The state in which the range was put, and then another characteristic. -/
def afterPuts (other : Text) : Manager :=
  [cameraPut other ("9" : Text)].foldl (putStep sampleDevice)
    (putStep sampleDevice {} (cameraPut ("range" : Text) ("5" : Text)))

/-- The range is returned after the put of a characteristic with another name. -/
theorem get_returns_range :
    Gets CharacteristicProfile.characteristicValue
      ((afterPuts ("zoom" : Text)).getCharacteristicProfile sampleDevice {} ("udid" : Text)
        ("camera" : Text) ("range" : Text) (characteristicOf false DEFAULT_USER_ID)).1
      ("5" : Text) := by
  have hiff := (get_returns_what_was_put_iff sampleDevice {} true {}
    [cameraPut ("zoom" : Text) ("9" : Text)] false DEFAULT_USER_ID).2
    { profile := cameraProfile ("range" : Text) ("5" : Text) } (by decide +kernel)
    (by decide +kernel) (by decide +kernel) (by decide +kernel)
  refine hiff.2 rfl ⟨rfl, rfl, by decide +kernel, by decide +kernel, ?_, by decide +kernel,
    by decide +kernel, ?_⟩
  · change ∀ x ∈ _, 1 ≤ _ ∧ _
    decide
  · intro key hkey _
    have hall : ∀ key ∈ ((afterPuts ("zoom" : Text)).store.getEntries (StoredProfile.char
        (cameraProfile ("range" : Text) ("5" : Text))).profileKey).keys,
        ∃ name ∈ Kind.propertyNames .char, generateDBKey (StoredProfile.char
          (cameraProfile ("range" : Text) ("5" : Text))).profileKey name DEFAULT_USER_ID =
            key := by decide +kernel
    obtain ⟨name, hname, heq⟩ := hall key (ExtTreeMap.mem_keys.mpr hkey)
    exact ⟨name, hname, DEFAULT_USER_ID, heq⟩

/-- The value of a characteristic whose name extends the name takes the place of the value. -/
theorem not_get_returns_range :
    Admits (putStep sampleDevice) (PutSucceeds sampleDevice) {}
      [cameraPut ("range" : Text) ("5" : Text), cameraPut ("rangeMax" : Text) ("9" : Text)] ∧
    ArePutsOfOthers (.char (cameraProfile ("range" : Text) ("5" : Text)))
      [cameraPut ("rangeMax" : Text) ("9" : Text)] ∧
    ¬Gets CharacteristicProfile.characteristicValue
      ((afterPuts ("rangeMax" : Text)).getCharacteristicProfile sampleDevice {} ("udid" : Text)
        ("camera" : Text) ("range" : Text) (characteristicOf false DEFAULT_USER_ID)).1
      ("5" : Text) := by
  refine ⟨by decide +kernel, by decide +kernel, by decide +kernel⟩

end DeviceProfile
