import DeviceProfile.Profile.View

/-!
# Decoding what was encoded

A profile that is decoded from its own entries comes back up to the suffix of its
service name: the encoders add the suffix to three names only, the decoders remove it
from every name.
-/

namespace DeviceProfile

open Library Std

variable {localUdid : Text} {isMultiUser : Bool}

/-! ## The suffix -/

/-- No name that gets the suffix has it already. -/
theorem not_suffix_of_needAdd {name : Text} (h : name ∈ NEED_ADD_OH_SUFFIX_SVR_NAMES) :
    ¬OH_PROFILE_SUFFIX <:+ name := by
  revert name
  decide

/-- The removal keeps exactly the names without the suffix. -/
theorem checkAndRemoveOhSuffix_eq_iff (name : Text) :
    checkAndRemoveOhSuffix name = name ↔ ¬OH_PROFILE_SUFFIX <:+ name := by
  unfold checkAndRemoveOhSuffix
  split
  · rename_i hsuffix
    refine iff_of_false (fun heq => ?_) (not_not.mpr hsuffix)
    have hlength := congrArg List.length heq
    have hle := hsuffix.length_le
    have hpos : 0 < OH_PROFILE_SUFFIX.length := by decide
    rw [List.length_take] at hlength
    omega
  · rename_i hsuffix
    exact iff_of_true rfl hsuffix

/-- The removal does not see whether the suffix was added. -/
theorem checkAndRemoveOhSuffix_add (name : Text) :
    checkAndRemoveOhSuffix (checkAndAddOhSuffix name true) = checkAndRemoveOhSuffix name := by
  unfold checkAndAddOhSuffix
  split
  · rename_i hneed
    have hplain := (checkAndRemoveOhSuffix_eq_iff name).mpr (not_suffix_of_needAdd hneed.2)
    rw [hplain, checkAndRemoveOhSuffix, if_pos (List.suffix_append _ _), List.length_append,
      Nat.add_sub_cancel, List.take_left]
  · rfl

theorem checkAndAddOhSuffix_ne_nil {name : Text} (h : name ≠ []) :
    checkAndAddOhSuffix name true ≠ [] := by
  unfold checkAndAddOhSuffix
  split
  · exact List.append_ne_nil_of_left_ne_nil h _
  · exact h

theorem separator_not_mem_checkAndAddOhSuffix {name : Text} (h : separator ∉ name) :
    separator ∉ checkAndAddOhSuffix name true := by
  unfold checkAndAddOhSuffix
  split
  · rw [List.mem_append, not_or]
    exact ⟨h, by decide⟩
  · exact h

/-! ## The keys of valid profiles -/

/-- The profile key of a service profile. -/
def ServiceProfile.key (p : ServiceProfile) (h : IsSvrProfileValid localUdid p) : ProfileKey where
  kind := .svr
  path := [p.deviceId, checkAndAddOhSuffix p.serviceName true]
  length_path := rfl
  clean_path := by
    simp only [List.forall_mem_cons, List.not_mem_nil, false_implies, implies_true, and_true]
    exact ⟨h.1.2, separator_not_mem_checkAndAddOhSuffix h.2.2.2⟩

/-- The profile key of a characteristic profile. -/
def CharacteristicProfile.key (p : CharacteristicProfile) (h : IsCharProfileValid localUdid p) :
    ProfileKey where
  kind := .char
  path := [p.deviceId, checkAndAddOhSuffix p.serviceName true, p.characteristicKey]
  length_path := rfl
  clean_path := by
    simp only [List.forall_mem_cons, List.not_mem_nil, false_implies, implies_true, and_true]
    exact ⟨h.1.2, separator_not_mem_checkAndAddOhSuffix h.2.2.1.2, h.2.2.2.2⟩

/-- The profile key of a device profile. -/
def DevProfile.key (p : DevProfile) (h : IsDevProfileValid localUdid p) : ProfileKey where
  kind := .dev
  path := [p.deviceId]
  length_path := rfl
  clean_path := by
    simp only [List.forall_mem_cons, List.not_mem_nil, false_implies, implies_true, and_true]
    exact h.1.2

theorem serviceProfileToEntries_eq {p : ServiceProfile} (h : IsSvrProfileValid localUdid p) :
    serviceProfileToEntries p ∅ isMultiUser =
      written (p.key h) (writtenUserId p.userId isMultiUser) p.properties := by
  rw [serviceProfileToEntries, generateServiceProfileKey_eq]
  rfl

theorem characteristicProfileToEntries_eq {p : CharacteristicProfile}
    (h : IsCharProfileValid localUdid p) :
    characteristicProfileToEntries p ∅ isMultiUser =
      written (p.key h) (writtenUserId p.userId isMultiUser) p.properties := by
  rw [characteristicProfileToEntries, generateCharProfileKey_eq]
  rfl

theorem deviceProfileToEntries_eq {p : DevProfile} (h : IsDevProfileValid localUdid p) :
    deviceProfileToEntries p ∅ isMultiUser =
      written (p.key h) (writtenUserId p.userId isMultiUser) p.properties := by
  rw [deviceProfileToEntries, generateDeviceProfileKey_eq]
  rfl

/-- The names of the properties that are written for a kind of profiles. -/
def Kind.propertyNames : Kind → List Text
  | .dev => [OS_SYS_CAPACITY, OS_VERSION, OS_TYPE, OS_VERSION ++ OH_PROFILE_SUFFIX,
      OS_TYPE ++ OH_PROFILE_SUFFIX]
  | .svr => [SERVICE_NAME, SERVICE_TYPE]
  | .char => [CHARACTERISTIC_KEY, CHARACTERISTIC_VALUE]

theorem nodup_propertyNames (kind : Kind) : kind.propertyNames.Nodup := by
  cases kind <;> decide

theorem exists_mem_propertyNames (kind : Kind) : ∃ name, name ∈ kind.propertyNames := by
  cases kind <;> exact ⟨_, List.mem_cons_self⟩

theorem clean_propertyNames (kind : Kind) :
    ∀ name ∈ kind.propertyNames, separator ∉ name ∧ name ≠ [] := by
  cases kind <;> decide

/-- No key of the entries is too long to be read. -/
def ShortKeys (values : Entries) : Prop := ∀ k ∈ values, k.length ≤ MAX_STRING_LEN

/-- The properties of a profile can be read where the keys are short. -/
theorem writable_of_shortKeys (kind : Kind) {key : ProfileKey} {userId : Int32}
    {properties : List (Text × Text)} (hnames : properties.map Prod.fst = kind.propertyNames)
    (hshort : ShortKeys (written key userId properties)) : Writable key userId properties := by
  have hnodup : (properties.map Prod.fst).Nodup := hnames ▸ nodup_propertyNames kind
  have hclean : ∀ x ∈ properties, separator ∉ x.1 ∧ x.1 ≠ [] := fun x hx =>
    clean_propertyNames kind x.1 (hnames ▸ List.mem_map_of_mem hx)
  refine ⟨hnodup, fun x hx => (hclean x hx).1, fun x hx => (hclean x hx).2, fun x hx => ?_⟩
  refine hshort _ ?_
  have hget : (written key userId properties)[generateDBKey key.render x.1 userId]? = some x.2 :=
    (getElem?_putProperties hnodup ∅ _ _).mpr (.inl ⟨x.1, rfl, hx⟩)
  exact mem_iff_exists_getElem?.mpr ⟨_, hget⟩

/-- The keys of written entries are those of the properties. -/
theorem shortKeys_putProperties {profileKey : Text} {userId : Int32}
    {properties : List (Text × Text)} (hnodup : (properties.map Prod.fst).Nodup)
    (h : ∀ x ∈ properties, (generateDBKey profileKey x.1 userId).length ≤ MAX_STRING_LEN) :
    ShortKeys (putProperties profileKey userId properties ∅) := by
  intro k hk
  obtain ⟨v, hv⟩ := mem_iff_exists_getElem?.mp hk
  rcases (getElem?_putProperties hnodup ∅ k v).mp hv with ⟨p, rfl, hmem⟩ | ⟨-, hv⟩
  · exact h _ hmem
  · rw [ExtTreeMap.getElem?_empty] at hv
    cases hv

/-- A user id of no user, or of a user. -/
def IsUserId (userId : Int32) : Prop := userId = DEFAULT_USER_ID ∨ 0 < userId

/-- A profile is written for its own user or for none. -/
theorem writtenUserId_cases (userId : Int32) (isMultiUser : Bool) :
    writtenUserId userId isMultiUser = DEFAULT_USER_ID ∨
      writtenUserId userId isMultiUser = userId := by
  cases isMultiUser
  · exact .inl rfl
  · exact .inr rfl

/-- A value of the lengths that are stored. -/
def IsValue (value : Text) : Prop := 1 ≤ value.length ∧ value.length ≤ 4095

theorem IsValue.pos {value : Text} (h : IsValue value) : 0 < value.length := h.1

theorem IsValue.lt {value : Text} (h : IsValue value) : value.length < MAX_STRING_LEN :=
  Nat.lt_succ_of_le h.2

/-! ## Decoding -/

/-- A service profile that can be encoded and read. -/
structure ServiceProfile.Storable (localUdid : Text) (p : ServiceProfile) (isMultiUser : Bool) :
    Prop where
  valid : IsSvrProfileValid localUdid p
  userId : IsUserId p.userId
  serviceName : IsValue p.serviceName
  serviceType : IsValue p.serviceType
  short : ShortKeys (serviceProfileToEntries p ∅ isMultiUser)

/-- A characteristic profile that can be encoded and read. -/
structure CharacteristicProfile.Storable (localUdid : Text) (p : CharacteristicProfile)
    (isMultiUser : Bool) : Prop where
  valid : IsCharProfileValid localUdid p
  userId : IsUserId p.userId
  serviceName : IsValue p.serviceName
  characteristicKey : IsValue p.characteristicKey
  characteristicValue : IsValue p.characteristicValue
  short : ShortKeys (characteristicProfileToEntries p ∅ isMultiUser)

/-- A service profile comes back with the suffix removed from its name. -/
theorem entriesToServiceProfile_eq {p target : ServiceProfile}
    (h : p.Storable localUdid isMultiUser) (htarget : target.userId = p.userId) :
    entriesToServiceProfile (serviceProfileToEntries p ∅ isMultiUser) target =
      .ok { p with serviceName := checkAndRemoveOhSuffix p.serviceName } := by
  have hshort := h.short
  rw [serviceProfileToEntries_eq h.valid] at hshort ⊢
  have hwritable := writable_of_shortKeys .svr rfl hshort
  have hviewer := writtenUserId_cases p.userId isMultiUser
  have hname : (SERVICE_NAME, p.serviceName) ∈ p.properties := List.mem_cons_self
  have htype : (SERVICE_TYPE, p.serviceType) ∈ p.properties :=
    List.mem_cons_of_mem _ List.mem_cons_self
  have hsize : p.properties.length ≤ MAX_DB_RECORD_SIZE := by
    change 2 ≤ 10000
    decide
  obtain ⟨k, hk, hbegin, hlength⟩ := beginKey_written hwritable (List.ne_nil_of_mem hname)
  have hdevice : getDeviceIdByDBKey k.render = p.deviceId := by
    have hpath : 0 < k.kind.arity := by
      rw [hk]
      exact Nat.zero_lt_two
    rw [getDeviceIdByDBKey, DbKey.segmentByDBKey_render hlength hpath, hk]
    rfl
  rw [entriesToServiceProfile, checkEntriesSize_written hwritable (List.ne_nil_of_mem hname) hsize]
  simp only [htarget, hbegin, hdevice,
    validProperty_written hwritable hviewer h.userId hname h.serviceName.pos h.serviceName.lt,
    validProperty_written hwritable hviewer h.userId htype h.serviceType.pos h.serviceType.lt]
  rfl

/-- A characteristic profile comes back with the suffix removed from its service name. -/
theorem entriesToCharProfile_eq {p target : CharacteristicProfile}
    (h : p.Storable localUdid isMultiUser) (htarget : target.userId = p.userId) :
    entriesToCharProfile (characteristicProfileToEntries p ∅ isMultiUser) target =
      .ok { p with serviceName := checkAndRemoveOhSuffix p.serviceName } := by
  have hshort := h.short
  rw [characteristicProfileToEntries_eq h.valid] at hshort ⊢
  have hwritable := writable_of_shortKeys .char rfl hshort
  have hviewer := writtenUserId_cases p.userId isMultiUser
  have hkey : (CHARACTERISTIC_KEY, p.characteristicKey) ∈ p.properties := List.mem_cons_self
  have hvalue : (CHARACTERISTIC_VALUE, p.characteristicValue) ∈ p.properties :=
    List.mem_cons_of_mem _ List.mem_cons_self
  have hsize : p.properties.length ≤ MAX_DB_RECORD_SIZE := by
    change 2 ≤ 10000
    decide
  obtain ⟨k, hk, hbegin, hlength⟩ := beginKey_written hwritable (List.ne_nil_of_mem hkey)
  have hpath : k.kind.arity = 3 := by
    rw [hk]
    rfl
  have hdevice : getDeviceIdByDBKey k.render = p.deviceId := by
    rw [getDeviceIdByDBKey, DbKey.segmentByDBKey_render hlength (by omega), hk]
    rfl
  have hname : getNonOhSuffixServiceNameByDBKey k.render =
      checkAndRemoveOhSuffix p.serviceName := by
    have hstored : getServiceNameByDBKey k.render = checkAndAddOhSuffix p.serviceName true := by
      rw [getServiceNameByDBKey, DbKey.segmentByDBKey_render hlength (by omega), hk]
      rfl
    have hne : p.serviceName ≠ [] := List.ne_nil_of_length_pos h.serviceName.pos
    simp only [getNonOhSuffixServiceNameByDBKey, hstored, if_neg (checkAndAddOhSuffix_ne_nil hne),
      checkAndRemoveOhSuffix_add]
  rw [entriesToCharProfile, checkEntriesSize_written hwritable (List.ne_nil_of_mem hkey) hsize]
  simp only [htarget, hbegin, hdevice, hname,
    validProperty_written hwritable hviewer h.userId hkey h.characteristicKey.pos
      h.characteristicKey.lt,
    validProperty_written hwritable hviewer h.userId hvalue h.characteristicValue.pos
      h.characteristicValue.lt]
  rfl

/-! ## The round trip -/

/-- Decoding the entries of a service profile gives the profile back, whatever profile of the
same user is filled. -/
def ServiceProfile.RoundTrips (p : ServiceProfile) (isMultiUser : Bool) : Prop :=
  ∀ target : ServiceProfile, target.userId = p.userId →
    entriesToServiceProfile (serviceProfileToEntries p ∅ isMultiUser) target = .ok p

/-- Decoding the entries of a characteristic profile gives the profile back, whatever profile of
the same user is filled. -/
def CharacteristicProfile.RoundTrips (p : CharacteristicProfile) (isMultiUser : Bool) : Prop :=
  ∀ target : CharacteristicProfile, target.userId = p.userId →
    entriesToCharProfile (characteristicProfileToEntries p ∅ isMultiUser) target = .ok p

/-- Profiles come back exactly when their service name does not end in the suffix. -/
theorem roundTrips_iff (localUdid : Text) (isMultiUser : Bool) :
    (∀ p : ServiceProfile, p.Storable localUdid isMultiUser →
      (p.RoundTrips isMultiUser ↔ ¬OH_PROFILE_SUFFIX <:+ p.serviceName)) ∧
    (∀ p : CharacteristicProfile, p.Storable localUdid isMultiUser →
      (p.RoundTrips isMultiUser ↔ ¬OH_PROFILE_SUFFIX <:+ p.serviceName)) := by
  constructor
  · intro p h
    rw [← checkAndRemoveOhSuffix_eq_iff]
    constructor
    · intro hround
      have heq := (entriesToServiceProfile_eq h rfl).symm.trans (hround p rfl)
      exact congrArg ServiceProfile.serviceName (Except.ok.inj heq)
    · intro hname target htarget
      rw [entriesToServiceProfile_eq h htarget, hname]
  · intro p h
    rw [← checkAndRemoveOhSuffix_eq_iff]
    constructor
    · intro hround
      have heq := (entriesToCharProfile_eq h rfl).symm.trans (hround p rfl)
      exact congrArg CharacteristicProfile.serviceName (Except.ok.inj heq)
    · intro hname target htarget
      rw [entriesToCharProfile_eq h htarget, hname]

/-- A service profile of this device under the given name. -/
def namedService (serviceName : Text) : ServiceProfile :=
  { deviceId := ("udid" : Text), serviceName, serviceType := ("sensor" : Text), userId := 100 }

/-- A characteristic profile of this device under the given service name. -/
def namedCharacteristic (serviceName : Text) : CharacteristicProfile :=
  { deviceId := ("udid" : Text), serviceName, characteristicKey := ("range" : Text)
    characteristicValue := ("5" : Text), userId := 100 }

/-- The profiles of a service whose name has no suffix come back. -/
theorem roundTrips_camera :
    (namedService ("camera" : Text)).RoundTrips true ∧
      (namedCharacteristic ("camera" : Text)).RoundTrips true := by
  have hround := roundTrips_iff ("udid" : Text) true
  constructor
  · refine (hround.1 _ ⟨by decide, .inr (by decide), ⟨by decide, by decide⟩,
      ⟨by decide, by decide⟩, ?_⟩).mpr (by decide)
    exact shortKeys_putProperties (by decide) (by decide)
  · refine (hround.2 _ ⟨by decide, .inr (by decide), ⟨by decide, by decide⟩,
      ⟨by decide, by decide⟩, ⟨by decide, by decide⟩, ?_⟩).mpr (by decide)
    exact shortKeys_putProperties (by decide) (by decide)

/-- A service whose own name ends in the suffix comes back under another name. -/
theorem not_roundTrips_camera_OH :
    (namedService ("camera_OH" : Text)).Storable ("udid" : Text) true ∧
      ¬(namedService ("camera_OH" : Text)).RoundTrips true := by
  have hstorable : (namedService ("camera_OH" : Text)).Storable ("udid" : Text) true := by
    refine ⟨by decide, .inr (by decide), ⟨by decide, by decide⟩, ⟨by decide, by decide⟩, ?_⟩
    exact shortKeys_putProperties (by decide) (by decide)
  refine ⟨hstorable, fun hround => ?_⟩
  have heq := (entriesToServiceProfile_eq hstorable rfl).symm.trans (hround _ rfl)
  have hname := congrArg ServiceProfile.serviceName (Except.ok.inj heq)
  revert hname
  decide

end DeviceProfile
