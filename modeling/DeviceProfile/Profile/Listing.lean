import Mathlib.Data.List.DropRight
import DeviceProfile.Library.Grouping
import DeviceProfile.Profile.Writes

/-!
# Listing all profiles

A listing scans the entries of a kind, puts together those whose keys agree up to the last
separator, and decodes each group for no user. In the key of a user's entry the user id is the
last segment, so these entries are put together by property instead of profile, and the decoder
does not see them.
-/

namespace DeviceProfile

open Library Std ProfileControlUtils StoredProfile

/-- The part of a key in front of the last separator. -/
def getProfileKey (dbKey : Text) : Text :=
  if HasKeyLength dbKey then (dbKey.rdropWhile (· ≠ separator)).dropLast else []

namespace ProfileControlUtils

/-- The entries of a scan, put together by profile key. -/
def profileEntries (values : Entries) : ExtTreeMap Text Entries := groupBy getProfileKey values

/-- Decode each group of the entries whose keys start with a text, behind the profiles that are
passed in. -/
def getAllProfiles {α : Type} (keyStart : Text) (toProfile : Entries → α) (kvStore : KvStore)
    (profiles : List α) : Except ManagerError (List α) :=
  match kvStore.getByPrefix keyStart with
  | .error _ => .error .getKvDbFail
  | .ok values =>
    .ok (profiles ++ (profileEntries values).toList.map fun item => toProfile item.2)

/-- A new profile, filled from entries; what the decoder returns is not looked at. -/
def newDeviceProfile (values : Entries) : DevProfile :=
  (entriesToDeviceProfile values {}).toOption.getD {}

/-- A service decoded into a fresh object; entries that do not decode leave it as it is. -/
def newServiceProfile (values : Entries) : ServiceProfile :=
  (entriesToServiceProfile values {}).toOption.getD {}

/-- A characteristic decoded into a fresh object. -/
def newCharacteristicProfile (values : Entries) : CharacteristicProfile :=
  (entriesToCharProfile values {}).toOption.getD {}

/-- Lists all services of a store after those already in the list. -/
def getAllServiceProfile (kvStore : KvStore) (serviceProfiles : List ServiceProfile := []) :
    Except ManagerError (List ServiceProfile) :=
  getAllProfiles SVR_PREFIX newServiceProfile kvStore serviceProfiles

/-- Lists all characteristics of a store after those already in the list. -/
def getAllCharacteristicProfile (kvStore : KvStore)
    (charProfiles : List CharacteristicProfile := []) :
    Except ManagerError (List CharacteristicProfile) :=
  getAllProfiles CHAR_PREFIX newCharacteristicProfile kvStore charProfiles

end ProfileControlUtils

/-! ## Profile keys -/

/-- The start of a key is what stands before its last segment. -/
theorem getProfileKey_append {start last : Text} (hlast : separator ∉ last)
    (h : (start ++ SEPARATOR ++ last).length ≤ MAX_STRING_LEN) :
    getProfileKey (start ++ SEPARATOR ++ last) = start := by
  have hkey : HasKeyLength (start ++ SEPARATOR ++ last) := ⟨by simp [SEPARATOR], h⟩
  have hdrop : ∀ c ∈ last.reverse, decide (c ≠ separator) = true := by
    intro c hc
    simp only [decide_eq_true_eq]
    rintro rfl
    exact hlast (List.mem_reverse.mp hc)
  rw [getProfileKey, if_pos hkey, List.rdropWhile, List.reverse_append,
    List.dropWhile_append_of_pos hdrop]
  simp [SEPARATOR]

/-- A key that is too long has no start. -/
theorem getProfileKey_of_long {key : Text} (h : ¬key.length ≤ MAX_STRING_LEN) :
    getProfileKey key = [] := by
  rw [getProfileKey, if_neg fun hkey => h hkey.2]

namespace DbKey

/-- The key can be read and is of no user. -/
def IsPlain (k : DbKey) : Prop :=
  k.render.length ≤ MAX_STRING_LEN ∧ k.userId = DEFAULT_USER_ID

variable {k k' : DbKey}

/-- A plain key is its start and its property. -/
theorem render_of_plain (h : k.userId = DEFAULT_USER_ID) :
    k.render = k.toProfileKey.render ++ SEPARATOR ++ k.property := by
  rw [← generateDBKey_eq_render, generateDBKey, if_neg (not_not.mpr h)]

/-- A key for a user has the user as its last segment. -/
theorem render_of_user (h : k.userId ≠ DEFAULT_USER_ID) :
    k.render = k.toProfileKey.render ++ SEPARATOR ++ k.property ++ SEPARATOR ++
      numeral k.userId.toInt := by
  rw [← generateDBKey_eq_render, generateDBKey, if_pos h]

/-- The group of a key of no user is that of its profile. -/
theorem IsPlain.getProfileKey_eq (h : k.IsPlain) :
    getProfileKey k.render = k.toProfileKey.render := by
  have hshort := h.1
  rw [render_of_plain h.2] at hshort ⊢
  exact getProfileKey_append k.clean_property hshort

/-- A property is hidden from no user exactly when its key is plain. -/
theorem getProfileProperty_eq_nil_iff (hproperty : k.property ≠ []) :
    getProfileProperty k.render DEFAULT_USER_ID = [] ↔ ¬k.IsPlain := by
  by_cases hshort : k.render.length ≤ MAX_STRING_LEN
  · rw [getProfileProperty_render hshort, visibleProperty, if_neg fun h => h.1 rfl]
    by_cases huser : DEFAULT_USER_ID = k.userId
    · rw [if_pos huser]
      exact iff_of_false hproperty (not_not.mpr ⟨hshort, huser.symm⟩)
    · rw [if_neg huser]
      exact iff_of_true rfl fun h => huser h.2.symm
  · rw [getProfileProperty, if_neg fun h => hshort h.2]
    exact iff_of_true rfl fun h => hshort h.1

end DbKey

/-- In the group of a plain key are only plain keys of the same profile. -/
theorem DbKey.IsPlain.of_getProfileKey_eq {k k' : DbKey} (h : k.IsPlain) (hkind : k'.kind = k.kind)
    (heq : getProfileKey k'.render = getProfileKey k.render) :
    k'.IsPlain ∧ k'.toProfileKey = k.toProfileKey := by
  rw [h.getProfileKey_eq] at heq
  by_cases hshort : k'.render.length ≤ MAX_STRING_LEN
  · by_cases huser : k'.userId = DEFAULT_USER_ID
    · have hplain : k'.IsPlain := ⟨hshort, huser⟩
      rw [hplain.getProfileKey_eq] at heq
      exact ⟨hplain, ProfileKey.render_injective heq⟩
    · -- the group of a user's key has one segment more
      rw [render_of_user huser] at heq hshort
      rw [getProfileKey_append (separator_not_mem_numeral _) hshort, ProfileKey.render,
        ← joinString_concat _ (List.cons_ne_nil _ _)] at heq
      have hclean : ∀ segment ∈ k'.kind.tag :: k'.path ++ [k'.property], separator ∉ segment := by
        intro segment hsegment
        rcases List.mem_append.mp hsegment with hsegment | hsegment
        · exact k'.toProfileKey.clean_segments segment hsegment
        · rw [List.mem_singleton.mp hsegment]
          exact k'.clean_property
      have hsegments := joinString_injective (by simp) (List.cons_ne_nil _ _) hclean
        k.toProfileKey.clean_segments heq
      have hlength := congrArg List.length hsegments
      simp only [List.length_append, List.length_cons, List.length_nil, k.length_path,
        k'.length_path, hkind] at hlength
      omega
  · rw [getProfileKey_of_long hshort] at heq
    exact absurd heq.symm (ProfileKey.render_ne_nil _)

/-! ## Groups with hidden entries -/

namespace ProfileControlUtils

/-- The profile that a listing makes of a group of entries of a kind. -/
def newProfile : Kind → Entries → StoredProfile
  | .dev, values => .dev (newDeviceProfile values)
  | .svr, values => .svr (newServiceProfile values)
  | .char, values => .char (newCharacteristicProfile values)

/-- Entries that are hidden from no user make no valid profile. -/
theorem not_isValid_newProfile {localUdid : Text} (kind : Kind) {values : Entries}
    (h : ∀ k ∈ values, getProfileProperty k DEFAULT_USER_ID = []) :
    ¬(newProfile kind values).IsValid localUdid := by
  have hempty : getProfilePropertiesMap values DEFAULT_USER_ID = ∅ := by
    have hnone : Library.collect (plainProperty DEFAULT_USER_ID) values = ∅ := by
      rw [← ExtTreeMap.isEmpty_iff, isEmpty_collect_iff]
      intro k hk
      rw [plainProperty, if_pos (.inl (h k hk))]
    rw [getProfilePropertiesMap_eq (.inl rfl), if_neg fun h => h.1 rfl, hnone]
  have hnil : ¬IsKeyValid [] := fun h => h.1.1 rfl
  have hproperty : ∀ property, validProperty (∅ : Entries) property = none := by
    intro property
    simp [validProperty]
  cases kind with
  | dev =>
    refine fun hvalid => hnil ?_
    have hdevice : (newDeviceProfile values).deviceId = [] := by
      rw [newDeviceProfile, entriesToDeviceProfile]
      cases checkEntriesSize values <;> rfl
    exact hdevice ▸ hvalid.1
  | svr =>
    refine fun hvalid => hnil ?_
    have hname : (newServiceProfile values).serviceName = [] := by
      rw [newServiceProfile, entriesToServiceProfile]
      cases checkEntriesSize values with
      | error e => rfl
      | ok u =>
        change (Option.map _
          (validProperty (getProfilePropertiesMap values DEFAULT_USER_ID) _)).getD [] = []
        rw [hempty, hproperty]
        rfl
    exact hname ▸ hvalid.2.2
  | char =>
    refine fun hvalid => hnil ?_
    have hkey : (newCharacteristicProfile values).characteristicKey = [] := by
      rw [newCharacteristicProfile, entriesToCharProfile]
      cases checkEntriesSize values with
      | error e => rfl
      | ok u =>
        change (validProperty (getProfilePropertiesMap values DEFAULT_USER_ID) _).getD [] = []
        rw [hempty, hproperty]
        rfl
    exact hkey ▸ hvalid.2.2.2

end ProfileControlUtils

/-- The profile is of no user, and its keys can be read. -/
structure StoredProfile.IsPlain (p : StoredProfile) : Prop where
  userId : p.userId = DEFAULT_USER_ID
  short : ∀ name ∈ p.kind.propertyNames,
    (generateDBKey p.profileKey name p.userId).length ≤ MAX_STRING_LEN

/-- The profile is plain, its name has no suffix, and its values can be read. -/
structure StoredProfile.IsListable (p : StoredProfile) : Prop extends p.IsPlain where
  name : ¬OH_PROFILE_SUFFIX <:+ p.serviceName
  values : ∀ x ∈ p.properties, x.2.length < MAX_STRING_LEN

/-- The list has the stored profiles and nothing else, each of them once. -/
def ListsOnce {α : Type} (listed : Except ManagerError (List α)) (stored : α → Prop) : Prop :=
  ∃ ps, listed = .ok ps ∧ ps.Nodup ∧ ∀ p, p ∈ ps ↔ stored p

section Groups

variable {localUdid : Text} {s : KvStore} {writes : List StoredProfile} {kind : Kind}

/-- The entries are grouped by the starts of their keys. -/
theorem mem_toList_profileEntries {values group : Entries} {g : Text} :
    (g, group) ∈ (profileEntries values).toList ↔
      (∃ k ∈ values, getProfileKey k = g) ∧
        group = groupOf getProfileKey g values := by
  rw [ExtTreeMap.mem_toList_iff_getElem?_eq_some, profileEntries, getElem?_groupBy_eq_some_iff]

/-- The keys of a plain profile are plain. -/
theorem isPlain_entryKey {w : StoredProfile} {hw : w.IsValid localUdid} {name : Text}
    {hname : name ∈ w.kind.propertyNames} (h : w.IsPlain) :
    (w.entryKey hw hname w.userId).IsPlain :=
  ⟨w.generateDBKey_eq_entryKey hw hname w.userId ▸ h.short name hname, h.userId⟩

/-- A profile that is not plain has a key that is not. -/
theorem exists_not_isPlain {w : StoredProfile} (hw : w.IsValid localUdid) (h : ¬w.IsPlain) :
    ∃ name, ∃ hname : name ∈ w.kind.propertyNames, ¬(w.entryKey hw hname w.userId).IsPlain := by
  by_contra hall
  push Not at hall
  obtain ⟨name, hname⟩ := exists_mem_propertyNames w.kind
  refine h ⟨(hall name hname).2, fun name hname => ?_⟩
  rw [w.generateDBKey_eq_entryKey hw hname]
  exact (hall name hname).1

/-- If a profile is not plain, the listing shows an invalid one. -/
theorem HoldsWrites.exists_not_isValid (h : HoldsWrites localUdid s writes) {w : StoredProfile}
    (hmem : w ∈ writes) (hkind : w.kind = kind) (hplain : ¬w.IsPlain) :
    ∃ item ∈ (profileEntries (s.getEntries kind.tag)).toList,
      ¬(newProfile kind item.2).IsValid localUdid := by
  have hw := h.valid w hmem
  obtain ⟨name, hname, hkey⟩ := exists_not_isPlain hw hplain
  have hscan := h.mem_scan.mpr ⟨w, hmem, hkind, hw, name, hname, rfl⟩
  refine ⟨(_, _), mem_toList_profileEntries.mpr ⟨⟨_, hscan, rfl⟩, rfl⟩, ?_⟩
  apply not_isValid_newProfile
  intro k hk
  obtain ⟨hgroup, hk⟩ := mem_groupOf.mp hk
  obtain ⟨w', -, hkind', hw', name', hname', rfl⟩ := h.mem_scan.mp hk
  refine (DbKey.getProfileProperty_eq_nil_iff (clean_propertyNames _ name' hname').2).mpr ?_
  intro hplain'
  have hsame : (w.entryKey hw hname w.userId).kind = (w'.entryKey hw' hname' w'.userId).kind :=
    (w.kind_key hw).trans ((hkind.trans hkind'.symm).trans (w'.kind_key hw').symm)
  exact hkey (hplain'.of_getProfileKey_eq hsame hgroup.symm).1

end Groups

/-! ## Plain profiles -/

/-- A value that is too long is not read. -/
def readValue (value : Text) : Text := if value.length < MAX_STRING_LEN then value else []

/-- What a listing shows of a plain profile. -/
def StoredProfile.shown : StoredProfile → StoredProfile
  | dev p => dev p
  | svr p => svr { p with
      serviceName := checkAndRemoveOhSuffix (readValue p.serviceName)
      serviceType := readValue p.serviceType }
  | char p => char { p with
      serviceName := checkAndRemoveOhSuffix p.serviceName
      characteristicKey := readValue p.characteristicKey
      characteristicValue := readValue p.characteristicValue }

/-- How much the shown fields of a profile hold. -/
def StoredProfile.size : StoredProfile → Nat
  | dev _ => 0
  | svr p => p.serviceName.length + p.serviceType.length
  | char p => p.serviceName.length + p.characteristicKey.length + p.characteristicValue.length

section Shown

theorem length_readValue_le (value : Text) : (readValue value).length ≤ value.length := by
  unfold readValue
  split
  · exact Nat.le_refl _
  · exact Nat.zero_le _

/-- A value is read as it is when it is short enough. -/
theorem readValue_eq_iff (value : Text) :
    readValue value = value ↔ value.length < MAX_STRING_LEN := by
  unfold readValue
  split
  · rename_i hlt
    exact iff_of_true rfl hlt
  · rename_i hlt
    refine iff_of_false (fun heq => hlt ?_) hlt
    rw [← heq]
    decide

theorem readValue_eq_of_length {value : Text} (h : (readValue value).length = value.length) :
    readValue value = value := by
  unfold readValue at h ⊢
  split at h
  · rename_i hlt
    rw [if_pos hlt]
  · rename_i hlt
    rw [if_neg hlt, List.eq_nil_of_length_eq_zero h.symm]

theorem length_checkAndRemoveOhSuffix_le (name : Text) :
    (checkAndRemoveOhSuffix name).length ≤ name.length := by
  unfold checkAndRemoveOhSuffix
  split
  · exact List.length_take_le' _ _
  · exact Nat.le_refl _

theorem checkAndRemoveOhSuffix_eq_of_length {name : Text}
    (h : (checkAndRemoveOhSuffix name).length = name.length) :
    checkAndRemoveOhSuffix name = name := by
  rw [checkAndRemoveOhSuffix_eq_iff]
  intro hsuffix
  have hle := hsuffix.length_le
  have hpos : 0 < OH_PROFILE_SUFFIX.length := by decide
  rw [checkAndRemoveOhSuffix, if_pos hsuffix, List.length_take] at h
  omega

namespace StoredProfile

theorem size_shown_le (p : StoredProfile) : p.shown.size ≤ p.size := by
  cases p with
  | dev p => exact Nat.le_refl _
  | svr p =>
    have hname := length_checkAndRemoveOhSuffix_le (readValue p.serviceName)
    have hread := length_readValue_le p.serviceName
    have htype := length_readValue_le p.serviceType
    simp only [shown, size]
    omega
  | char p =>
    have hname := length_checkAndRemoveOhSuffix_le p.serviceName
    have hkey := length_readValue_le p.characteristicKey
    have hvalue := length_readValue_le p.characteristicValue
    simp only [shown, size]
    omega

/-- A profile that loses nothing is shown as it is. -/
theorem shown_eq_of_size {p : StoredProfile} (h : p.shown.size = p.size) : p.shown = p := by
  cases p with
  | dev p => rfl
  | svr p =>
    have hname := length_checkAndRemoveOhSuffix_le (readValue p.serviceName)
    have hread := length_readValue_le p.serviceName
    have htype := length_readValue_le p.serviceType
    simp only [shown, size] at h
    have hread' : readValue p.serviceName = p.serviceName := readValue_eq_of_length (by omega)
    have htype' : readValue p.serviceType = p.serviceType := readValue_eq_of_length (by omega)
    rw [hread'] at hname h
    have hname' : checkAndRemoveOhSuffix p.serviceName = p.serviceName :=
      checkAndRemoveOhSuffix_eq_of_length (by omega)
    simp only [shown, hread', hname', htype']
  | char p =>
    have hname := length_checkAndRemoveOhSuffix_le p.serviceName
    have hkey := length_readValue_le p.characteristicKey
    have hvalue := length_readValue_le p.characteristicValue
    simp only [shown, size] at h
    have hname' : checkAndRemoveOhSuffix p.serviceName = p.serviceName :=
      checkAndRemoveOhSuffix_eq_of_length (by omega)
    have hkey' : readValue p.characteristicKey = p.characteristicKey :=
      readValue_eq_of_length (by omega)
    have hvalue' : readValue p.characteristicValue = p.characteristicValue :=
      readValue_eq_of_length (by omega)
    simp only [shown, hname', hkey', hvalue']

/-- A plain profile is shown as it is exactly when it is listable. -/
theorem shown_eq_iff {p : StoredProfile} (hkind : p.kind ≠ .dev) (hplain : p.IsPlain) :
    p.shown = p ↔ p.IsListable := by
  have hlistable : p.IsListable ↔
      ¬OH_PROFILE_SUFFIX <:+ p.serviceName ∧ ∀ x ∈ p.properties, x.2.length < MAX_STRING_LEN :=
    ⟨fun h => ⟨h.name, h.values⟩, fun h => ⟨hplain, h.1, h.2⟩⟩
  rw [hlistable]
  cases p with
  | dev p => exact absurd rfl hkind
  | svr p =>
    obtain ⟨device, name, type, user⟩ := p
    simp only [shown, svr.injEq, ServiceProfile.mk.injEq, true_and, and_true, readValue_eq_iff,
      serviceName, properties, ServiceProfile.properties, List.forall_mem_cons,
      List.not_mem_nil, false_implies, implies_true]
    constructor
    · rintro ⟨hname, htype⟩
      have hread : readValue name = name := by
        have hle := length_checkAndRemoveOhSuffix_le (readValue name)
        rw [hname] at hle
        exact readValue_eq_of_length (Nat.le_antisymm (length_readValue_le name) hle)
      rw [hread, checkAndRemoveOhSuffix_eq_iff] at hname
      exact ⟨hname, (readValue_eq_iff _).mp hread, htype⟩
    · rintro ⟨hsuffix, hname, htype⟩
      rw [(readValue_eq_iff _).mpr hname, checkAndRemoveOhSuffix_eq_iff]
      exact ⟨hsuffix, htype⟩
  | char p =>
    obtain ⟨device, name, key, value, user⟩ := p
    simp only [shown, char.injEq, CharacteristicProfile.mk.injEq, true_and, and_true,
      readValue_eq_iff, checkAndRemoveOhSuffix_eq_iff, serviceName, properties,
      CharacteristicProfile.properties, List.forall_mem_cons, List.not_mem_nil, false_implies,
      implies_true]

end StoredProfile

end Shown

section Decode

variable {localUdid : Text}

/-- A property that was written is read, unless it is too long. -/
theorem getD_validProperty_written {key : ProfileKey} {properties : List (Text × Text)}
    (h : Writable key DEFAULT_USER_ID properties) (name value : Text)
    (hmem : (name, value) ∈ properties) :
    (validProperty (getProfilePropertiesMap (written key DEFAULT_USER_ID properties)
      DEFAULT_USER_ID) name).getD [] = readValue value := by
  have hget := (getElem?_getProfilePropertiesMap_written h (.inl rfl) (.inl rfl)).mpr hmem
  rw [validProperty, hget, Option.filter_some, readValue]
  by_cases hlength : value.length < MAX_STRING_LEN
  · cases value with
    | nil => rfl
    | cons c rest =>
      rw [List.length_cons] at hlength
      simp [hlength]
  · simp [hlength]

theorem StoredProfile.IsPlain.writable {w : StoredProfile} (h : w.IsPlain)
    (hw : w.IsValid localUdid) : Writable (w.key hw) DEFAULT_USER_ID w.properties := by
  have hclean := clean_propertyNames w.kind
  refine ⟨w.map_fst_properties ▸ nodup_propertyNames w.kind,
    fun x hx => (hclean _ (StoredProfile.mem_propertyNames hx)).1,
    fun x hx => (hclean _ (StoredProfile.mem_propertyNames hx)).2, fun x hx => ?_⟩
  rw [← w.profileKey_eq hw, ← h.userId]
  exact h.short _ (StoredProfile.mem_propertyNames hx)

/-- A listed service is decoded from its group of entries. -/
theorem newServiceProfile_eq {values : Entries} (h : checkEntriesSize values = .ok ()) :
    newServiceProfile values =
      { deviceId := getDeviceIdByDBKey (beginKey values)
        serviceName := checkAndRemoveOhSuffix
          ((validProperty (getProfilePropertiesMap values DEFAULT_USER_ID) SERVICE_NAME).getD [])
        serviceType :=
          (validProperty (getProfilePropertiesMap values DEFAULT_USER_ID)
            SERVICE_TYPE).getD [] } := by
  have hnil : checkAndRemoveOhSuffix [] = [] := by decide
  rw [newServiceProfile, entriesToServiceProfile, h,
    ← Option.getD_map checkAndRemoveOhSuffix, hnil]
  rfl

/-- A listed characteristic is decoded from its group of entries. -/
theorem newCharacteristicProfile_eq {values : Entries} (h : checkEntriesSize values = .ok ()) :
    newCharacteristicProfile values =
      { deviceId := getDeviceIdByDBKey (beginKey values)
        serviceName := getNonOhSuffixServiceNameByDBKey (beginKey values)
        characteristicKey :=
          (validProperty (getProfilePropertiesMap values DEFAULT_USER_ID)
            CHARACTERISTIC_KEY).getD []
        characteristicValue :=
          (validProperty (getProfilePropertiesMap values DEFAULT_USER_ID)
            CHARACTERISTIC_VALUE).getD [] } := by
  rw [newCharacteristicProfile, entriesToCharProfile, h]
  rfl

/-- The entries of a plain profile are decoded to what is shown of it. -/
theorem newProfile_written {w : StoredProfile} (hw : w.IsValid localUdid) (hkind : w.kind ≠ .dev)
    (hplain : w.IsPlain) :
    newProfile w.kind (written (w.key hw) DEFAULT_USER_ID w.properties) = w.shown := by
  have hwritable := hplain.writable hw
  have huser : w.userId = DEFAULT_USER_ID := hplain.userId
  obtain ⟨x, hx⟩ : ∃ x, x ∈ w.properties := by
    cases w <;> exact ⟨_, List.mem_cons_self⟩
  have hsize : w.properties.length ≤ MAX_DB_RECORD_SIZE := by
    rw [← List.length_map Prod.fst, w.map_fst_properties]
    cases w.kind <;> decide
  have hcheck := checkEntriesSize_written hwritable (List.ne_nil_of_mem hx) hsize
  obtain ⟨k, hk, hbegin, hlength⟩ := beginKey_written hwritable (List.ne_nil_of_mem hx)
  have hsegment : ∀ {i}, i < w.kind.arity →
      segmentByDBKey (i + 1) k.render = (w.key hw).path[i]?.getD [] := by
    intro i hi
    rw [← w.kind_key hw, ← hk] at hi
    rw [DbKey.segmentByDBKey_render hlength hi, hk]
  have hread := getD_validProperty_written hwritable
  cases w with
  | dev p => exact absurd rfl hkind
  | svr p =>
    obtain ⟨device, name, type, user⟩ := p
    have hdevice : getDeviceIdByDBKey k.render = device := hsegment Nat.zero_lt_two
    have hname := hread SERVICE_NAME name List.mem_cons_self
    have htype := hread SERVICE_TYPE type (List.mem_cons_of_mem _ List.mem_cons_self)
    obtain rfl : user = DEFAULT_USER_ID := huser
    apply congrArg svr
    exact (newServiceProfile_eq hcheck).trans (by rw [hbegin, hdevice, hname, htype])
  | char p =>
    obtain ⟨device, name, key, value, user⟩ := p
    have hdevice : getDeviceIdByDBKey k.render = device := hsegment (Nat.succ_pos 2)
    have hstored : getServiceNameByDBKey k.render = checkAndAddOhSuffix name true :=
      hsegment (Nat.lt_add_of_pos_left Nat.zero_lt_two)
    have hne : name ≠ [] := fun h => hw.2.2.1.1.1 (h ▸ rfl)
    have hname : getNonOhSuffixServiceNameByDBKey k.render = checkAndRemoveOhSuffix name := by
      simp only [getNonOhSuffixServiceNameByDBKey, hstored,
        if_neg (checkAndAddOhSuffix_ne_nil hne), checkAndRemoveOhSuffix_add]
    have hkey := hread CHARACTERISTIC_KEY key List.mem_cons_self
    have hvalue := hread CHARACTERISTIC_VALUE value (List.mem_cons_of_mem _ List.mem_cons_self)
    obtain rfl : user = DEFAULT_USER_ID := huser
    apply congrArg char
    exact (newCharacteristicProfile_eq hcheck).trans (by rw [hbegin, hdevice, hname, hkey, hvalue])

end Decode

section Listed

variable {localUdid : Text} {s : KvStore} {writes : List StoredProfile} {kind : Kind}

/-- Every profile of the kind that is written is plain. -/
def AllPlain (writes : List StoredProfile) (kind : Kind) : Prop :=
  ∀ w ∈ writes, w.kind = kind → w.IsPlain

/-- The entries of a plain profile are grouped under the start of its keys. -/
theorem getProfileKey_entryKey {w : StoredProfile} {hw : w.IsValid localUdid} {name : Text}
    {hname : name ∈ w.kind.propertyNames} (h : w.IsPlain) :
    getProfileKey (w.entryKey hw hname w.userId).render = w.profileKey :=
  (isPlain_entryKey h).getProfileKey_eq.trans (w.profileKey_eq hw).symm

/-- The group of a profile has the entries of the last profile with its profile key. -/
theorem HoldsWrites.groupOf_eq (h : HoldsWrites localUdid s writes) (hplain : AllPlain writes kind)
    {w : StoredProfile} (hw : IsLast StoredProfile.profileKey writes w) (hkind : w.kind = kind) :
    groupOf getProfileKey w.profileKey (s.getEntries kind.tag) =
      written (w.key (h.valid w hw.mem)) DEFAULT_USER_ID w.properties := by
  have hvalid := h.valid w hw.mem
  have hwritable := (hplain w hw.mem hkind).writable hvalid
  have huser := (hplain w hw.mem hkind).userId
  apply ExtTreeMap.ext_getElem?
  intro k
  apply Option.ext
  intro value
  rw [getElem?_groupOf, getElem?_written hwritable, ← w.profileKey_eq hvalid, ← huser]
  constructor
  · intro hget
    split at hget
    · rename_i hgroup
      have hk : k ∈ s.getEntries kind.tag := mem_iff_exists_getElem?.mpr ⟨_, hget⟩
      obtain ⟨w', hw', hkind', hvalid', name, hname, rfl⟩ := h.mem_scan.mp hk
      rw [getProfileKey_entryKey (hplain w' hw' hkind')] at hgroup
      rw [KvStore.getElem?_getEntries, ← w'.generateDBKey_eq_entryKey hvalid' hname, hgroup,
        (hplain w' hw' hkind').userId, ← huser] at hget
      have hname' : name ∈ w.kind.propertyNames := by
        rwa [hkind, ← hkind']
      obtain ⟨x, hx, rfl⟩ := List.mem_map.mp (w.map_fst_properties ▸ hname')
      rw [h.valueAt_of_isLast hw hx] at hget
      split at hget
      · refine ⟨x.1, ?_, Option.some.inj hget ▸ hx⟩
        rw [← w'.generateDBKey_eq_entryKey hvalid' hname, hgroup, (hplain w' hw' hkind').userId,
          huser]
      · cases hget
    · cases hget
  · rintro ⟨name, rfl, hmem⟩
    have hname := StoredProfile.mem_propertyNames hmem
    have hfound := h.valueAt_of_isLast hw hmem
    rw [w.generateDBKey_eq_entryKey hvalid hname] at hfound ⊢
    have hprefix : kind.tag <+: (w.entryKey hvalid hname w.userId).render :=
      w.tag_prefix_entryKey_iff.mpr hkind
    rw [if_pos (getProfileKey_entryKey (hplain w hw.mem hkind)), KvStore.getElem?_getEntries,
      if_pos hprefix, hfound]

/-- The groups of plain profiles are decoded to what is shown of the last profiles. -/
theorem HoldsWrites.mem_groups (h : HoldsWrites localUdid s writes) (hplain : AllPlain writes kind)
    (hdev : kind ≠ .dev) {g : Text} {group : Entries}
    (hitem : (g, group) ∈ (profileEntries (s.getEntries kind.tag)).toList) :
    ∃ w, IsLast StoredProfile.profileKey writes w ∧ w.kind = kind ∧ w.profileKey = g ∧
      newProfile kind group = w.shown := by
  obtain ⟨⟨k, hk, hgroup⟩, rfl⟩ := mem_toList_profileEntries.mp hitem
  obtain ⟨w', hw', hkind', hvalid', name, hname, rfl⟩ := h.mem_scan.mp hk
  rw [getProfileKey_entryKey (hplain w' hw' hkind')] at hgroup
  obtain ⟨w, hw, hkey⟩ := exists_isLast StoredProfile.profileKey hw'
  have hvalid := h.valid w hw.mem
  have hkind : w.kind = kind := by
    rw [← hkind', ← w.kind_key hvalid, ← w'.kind_key hvalid',
      (StoredProfile.key_eq_iff_profileKey hvalid hvalid').mpr hkey]
  refine ⟨w, hw, hkind, hkey.trans hgroup, ?_⟩
  rw [← hgroup, ← hkey, h.groupOf_eq hplain hw hkind]
  subst hkind
  exact newProfile_written hvalid hdev (hplain w hw.mem rfl)

/-- Each stored profile has its group. -/
theorem HoldsWrites.exists_group (h : HoldsWrites localUdid s writes)
    (hplain : AllPlain writes kind) (hdev : kind ≠ .dev) {w : StoredProfile}
    (hw : IsLast StoredProfile.profileKey writes w) (hkind : w.kind = kind) :
    ∃ item ∈ (profileEntries (s.getEntries kind.tag)).toList, newProfile kind item.2 = w.shown := by
  have hvalid := h.valid w hw.mem
  obtain ⟨name, hname⟩ := exists_mem_propertyNames w.kind
  have hscan := h.mem_scan.mpr ⟨w, hw.mem, hkind, hvalid, name, hname, rfl⟩
  refine ⟨(_, _), mem_toList_profileEntries.mpr
    ⟨⟨_, hscan, getProfileKey_entryKey (hplain w hw.mem hkind)⟩, rfl⟩, ?_⟩
  dsimp only
  rw [h.groupOf_eq hplain hw hkind]
  subst hkind
  exact newProfile_written hvalid hdev (hplain w hw.mem rfl)

/-- The profiles that a listing makes of the groups of a scan. -/
def shownProfiles (kind : Kind) (s : KvStore) : List StoredProfile :=
  (profileEntries (s.getEntries kind.tag)).toList.map fun item => newProfile kind item.2

/-- The listed profiles are those that were put last under their start. -/
theorem HoldsWrites.mem_shownProfiles (h : HoldsWrites localUdid s writes)
    (hplain : AllPlain writes kind) (hdev : kind ≠ .dev) {p : StoredProfile} :
    p ∈ shownProfiles kind s ↔
      ∃ w, IsLast StoredProfile.profileKey writes w ∧ w.kind = kind ∧ w.shown = p := by
  rw [shownProfiles, List.mem_map]
  constructor
  · rintro ⟨item, hitem, rfl⟩
    obtain ⟨w, hw, hkind, -, hshown⟩ := h.mem_groups hplain hdev hitem
    exact ⟨w, hw, hkind, hshown.symm⟩
  · rintro ⟨w, hw, hkind, rfl⟩
    exact h.exists_group hplain hdev hw hkind

/-- Where the profiles are shown as they are, each is shown once. -/
theorem HoldsWrites.nodup_shownProfiles (h : HoldsWrites localUdid s writes)
    (hplain : AllPlain writes kind) (hdev : kind ≠ .dev)
    (hshown : ∀ w, IsLast StoredProfile.profileKey writes w → w.kind = kind → w.shown = w) :
    (shownProfiles kind s).Nodup := by
  have hkeys : (profileEntries (s.getEntries kind.tag)).toList.Nodup := by
    refine ExtTreeMap.distinct_keys_toList.imp ?_
    rintro x y hne rfl
    exact hne ReflCmp.compare_self
  refine hkeys.map_on fun x hx y hy heq => ?_
  obtain ⟨w, hw, hkind, hxkey, hxshown⟩ := h.mem_groups hplain hdev hx
  obtain ⟨w', hw', hkind', hykey, hyshown⟩ := h.mem_groups hplain hdev hy
  obtain rfl : w = w' := by
    rw [← hshown w hw hkind, ← hshown w' hw' hkind', ← hxshown, ← hyshown, heq]
  have hget : x.1 = y.1 := hxkey.symm.trans hykey
  refine Prod.ext hget ?_
  rw [(mem_toList_profileEntries.mp hx).2, (mem_toList_profileEntries.mp hy).2, hget]

/-- Profiles with one identity have one kind, one user and one start of their keys. -/
theorem StoredProfile.eq_of_identity_eq {p q : StoredProfile} (h : p.identity = q.identity) :
    p.kind = q.kind ∧ p.userId = q.userId ∧ p.profileKey = q.profileKey := by
  refine ⟨congrArg ProfileIdentity.kind h, congrArg ProfileIdentity.userId h, ?_⟩
  have hkind := congrArg ProfileIdentity.kind h
  have hdevice : p.deviceId = q.deviceId := congrArg ProfileIdentity.deviceId h
  have hname : p.serviceName = q.serviceName := congrArg ProfileIdentity.serviceName h
  have hkey : p.characteristicKey = q.characteristicKey :=
    congrArg ProfileIdentity.characteristicKey h
  cases p <;> cases q <;> simp_all [identity, kind, deviceId, serviceName, characteristicKey,
    profileKey]

/-- Profiles with one identity are plain together. -/
theorem StoredProfile.isPlain_of_identity_eq {p q : StoredProfile} (h : p.identity = q.identity)
    (hp : p.IsPlain) : q.IsPlain := by
  obtain ⟨hkind, huser, hkey⟩ := eq_of_identity_eq h
  exact ⟨huser ▸ hp.userId, hkey ▸ huser ▸ hkind ▸ hp.short⟩

/-- A profile that is the last under its profile key is stored. -/
theorem isStored_of_isLast {w : StoredProfile} (h : IsLast StoredProfile.profileKey writes w) :
    IsStored writes w := by
  obtain ⟨before, after, rfl, hafter⟩ := h
  exact ⟨before, after, rfl, fun y hy hsame =>
    hafter y hy (StoredProfile.eq_of_identity_eq hsame).2.2⟩

/-- A stored profile is the last under its profile key, if none of its kind has the suffix. -/
theorem HoldsWrites.isLast_of_isStored (h : HoldsWrites localUdid s writes)
    (hlistable : ∀ p, p.kind = kind → IsStored writes p → p.IsListable) {p : StoredProfile}
    (hkind : p.kind = kind) (hp : IsStored writes p) :
    IsLast StoredProfile.profileKey writes p := by
  obtain ⟨y, hy, hkey⟩ := exists_isLast StoredProfile.profileKey hp.mem
  have hvalid := h.valid p hp.mem
  have hvalid' := h.valid y hy.mem
  have hkeys := (StoredProfile.key_eq_iff_profileKey hvalid' hvalid).mpr hkey
  obtain ⟨hsame, hdevice, hname, hchar⟩ := (StoredProfile.key_eq_iff hvalid' hvalid).mp hkeys
  have hlisted := hlistable p hkind hp
  have hlisted' := hlistable y (hsame.trans hkind) (isStored_of_isLast hy)
  have hvariant : ∀ {name other : Text}, ¬OH_PROFILE_SUFFIX <:+ other →
      ¬IsOhVariant name other := by
    rintro name other hsuffix ⟨-, rfl⟩
    exact hsuffix (List.suffix_append _ _)
  have hidentity : y.identity = p.identity := by
    have hserviceName : y.serviceName = p.serviceName := by
      rcases (checkAndAddOhSuffix_eq_iff _ _).mp hname with heq | hoh | hoh
      · exact heq
      · exact absurd hoh (hvariant hlisted.name)
      · exact absurd hoh (hvariant hlisted'.name)
    have huser : y.userId = p.userId := hlisted'.userId.trans hlisted.userId.symm
    simp only [StoredProfile.identity, hsame, hdevice, hserviceName, hchar, huser]
  rwa [← (isStored_of_isLast hy).eq_of_key_eq hp hidentity]

/-- An accepted listing shows what is stored. -/
theorem getAllProfiles_of_isAccepted (h : s.IsAccepted kind.tag) :
    getAllProfiles kind.tag (newProfile kind) s [] = .ok (shownProfiles kind s) := by
  rw [getAllProfiles, KvStore.getByPrefix_of_isAccepted h]
  rfl

/-- A listing shows each stored profile once exactly when the scan of the kind is accepted and
each of them is listable. -/
theorem HoldsWrites.listsOnce_iff (h : HoldsWrites localUdid s writes) (hdev : kind ≠ .dev) :
    ListsOnce (getAllProfiles kind.tag (newProfile kind) s [])
        (fun p => p.kind = kind ∧ IsStored writes p) ↔
      s.IsAccepted kind.tag ∧ ∀ p, p.kind = kind → IsStored writes p → p.IsListable := by
  constructor
  · rintro ⟨ps, hok, -, hmem⟩
    have haccepted : s.IsAccepted kind.tag := by
      by_contra hnot
      rw [getAllProfiles, KvStore.getByPrefix_of_not_isAccepted hnot] at hok
      cases hok
    rw [getAllProfiles_of_isAccepted haccepted] at hok
    obtain rfl := Except.ok.inj hok
    have hplain : AllPlain writes kind := by
      intro w hw hkind
      by_contra hnot
      obtain ⟨item, hitem, hinvalid⟩ := h.exists_not_isValid hw hkind hnot
      have hshown := (hmem _).mp (List.mem_map_of_mem hitem)
      exact hinvalid (h.valid _ hshown.2.mem)
    have hfinite : {w | IsLast StoredProfile.profileKey writes w ∧ w.kind = kind}.Finite :=
      writes.finite_toSet.subset fun w hw => hw.1.mem
    have hsub : {w | IsLast StoredProfile.profileKey writes w ∧ w.kind = kind} ⊆
        {p | p.kind = kind ∧ IsStored writes p} := fun w hw => ⟨hw.2, isStored_of_isLast hw.1⟩
    have himage : {p | p.kind = kind ∧ IsStored writes p} ⊆ Set.image StoredProfile.shown
        {w | IsLast StoredProfile.profileKey writes w ∧ w.kind = kind} := by
      intro p hp
      obtain ⟨w, hw, hkind, hshown⟩ := (h.mem_shownProfiles hplain hdev).mp ((hmem p).mpr hp)
      exact ⟨w, ⟨hw, hkind⟩, hshown⟩
    -- what is shown is never larger, so to show all that is stored nothing may get lost
    have hfixed := fixed_of_subset_image StoredProfile.shown StoredProfile.size hfinite
      (fun p _ => p.size_shown_le) (fun p _ => StoredProfile.shown_eq_of_size) hsub himage
    refine ⟨haccepted, fun p hkind hp => ?_⟩
    exact (StoredProfile.shown_eq_iff (hkind ▸ hdev) (hplain p hp.mem hkind)).mp
      (hfixed p ⟨hkind, hp⟩).2
  · rintro ⟨haccepted, hlistable⟩
    have hplain : AllPlain writes kind := by
      intro w hw hkind
      obtain ⟨y, hy, hidentity⟩ := exists_isLast StoredProfile.identity hw
      have hkind' := (StoredProfile.eq_of_identity_eq hidentity).1.trans hkind
      exact StoredProfile.isPlain_of_identity_eq hidentity (hlistable y hkind' hy).toIsPlain
    have hshown : ∀ w, IsLast StoredProfile.profileKey writes w → w.kind = kind → w.shown = w :=
      fun w hw hkind => (StoredProfile.shown_eq_iff (hkind ▸ hdev) (hplain w hw.mem hkind)).mpr
        (hlistable w hkind (isStored_of_isLast hw))
    refine ⟨_, getAllProfiles_of_isAccepted haccepted, h.nodup_shownProfiles hplain hdev hshown,
      fun p => ?_⟩
    rw [h.mem_shownProfiles hplain hdev]
    constructor
    · rintro ⟨w, hw, hkind, rfl⟩
      rw [hshown w hw hkind]
      exact ⟨hkind, isStored_of_isLast hw⟩
    · rintro ⟨hkind, hp⟩
      have hlast := h.isLast_of_isStored hlistable hkind hp
      exact ⟨p, hlast, hkind, hshown p hlast hkind⟩

end Listed

/-! ## The two listings -/

section Members

variable {localUdid : Text} {s : KvStore} {writes : List StoredProfile}

/-- A listing that transforms its profiles transforms the list. -/
theorem getAllProfiles_map {α β : Type} (f : α → β) (keyStart : Text) (toProfile : Entries → α)
    (s : KvStore) :
    getAllProfiles keyStart (fun values => f (toProfile values)) s [] =
      (getAllProfiles keyStart toProfile s []).map (List.map f) := by
  simp only [getAllProfiles]
  cases s.getByPrefix keyStart with
  | error e => rfl
  | ok values => simp [Except.map]

/-- Listing once is kept by an injective transformation. -/
theorem listsOnce_map_iff {α β : Type} {f : α → β} (hf : f.Injective) {stored : β → Prop}
    (hrange : ∀ b, stored b → ∃ a, f a = b) (listed : Except ManagerError (List α)) :
    ListsOnce (listed.map (List.map f)) stored ↔ ListsOnce listed fun a => stored (f a) := by
  cases listed with
  | error e => exact iff_of_false nofun nofun
  | ok ps =>
    constructor
    · rintro ⟨qs, hok, hnodup, hmem⟩
      obtain rfl := Except.ok.inj hok
      exact ⟨ps, rfl, hnodup.of_map f, fun p => (List.mem_map_of_injective hf).symm.trans (hmem _)⟩
    · rintro ⟨qs, hok, hnodup, hmem⟩
      obtain rfl := Except.ok.inj hok
      refine ⟨ps.map f, rfl, hnodup.map hf, fun q => ?_⟩
      constructor
      · intro hq
        obtain ⟨p, hp, rfl⟩ := List.mem_map.mp hq
        exact (hmem p).mp hp
      · intro hq
        obtain ⟨p, rfl⟩ := hrange q hq
        exact List.mem_map_of_mem ((hmem p).mpr hq)

/-- The listing of one kind is exact when the read is accepted and every stored profile can be
listed. -/
theorem HoldsWrites.listsOnce_member_iff {α : Type} {f : α → StoredProfile}
    {toProfile : Entries → α} (h : HoldsWrites localUdid s writes) (kind : Kind)
    (hdev : kind ≠ .dev) (hf : f.Injective) (hkind : ∀ a, (f a).kind = kind)
    (hrange : ∀ p : StoredProfile, p.kind = kind → ∃ a, f a = p)
    (hnew : newProfile kind = fun values => f (toProfile values)) :
    ListsOnce (getAllProfiles kind.tag toProfile s []) (fun a => IsStored writes (f a)) ↔
      s.IsAccepted kind.tag ∧ ∀ a, IsStored writes (f a) → (f a).IsListable := by
  have hlists := h.listsOnce_iff hdev
  rw [hnew, getAllProfiles_map, listsOnce_map_iff hf fun p hp => hrange p hp.1] at hlists
  simp only [hkind, true_and] at hlists
  rw [hlists]
  apply and_congr_right
  intro _
  constructor
  · exact fun hall a ha => hall (f a) (hkind a) ha
  · intro hall p hp hstored
    obtain ⟨a, rfl⟩ := hrange p hp
    exact hall a hstored

/-- The listing of services is exact when the read is accepted and every stored service can be
listed. -/
theorem HoldsWrites.listsOnce_service_iff (h : HoldsWrites localUdid s writes) :
    ListsOnce (getAllServiceProfile s) (fun p => IsStored writes (svr p)) ↔
      s.IsAccepted SVR_PREFIX ∧ ∀ p, IsStored writes (svr p) → (svr p).IsListable := by
  refine h.listsOnce_member_iff .svr nofun (fun p q heq => svr.inj heq) (fun _ => rfl) ?_ rfl
  rintro (p | p | p) hkind
  · cases hkind
  · exact ⟨p, rfl⟩
  · cases hkind

/-- The listing of characteristics is exact when the read is accepted and every stored
characteristic can be listed. -/
theorem HoldsWrites.listsOnce_characteristic_iff (h : HoldsWrites localUdid s writes) :
    ListsOnce (getAllCharacteristicProfile s) (fun p => IsStored writes (char p)) ↔
      s.IsAccepted CHAR_PREFIX ∧ ∀ p, IsStored writes (char p) → (char p).IsListable := by
  refine h.listsOnce_member_iff .char nofun (fun p q heq => char.inj heq) (fun _ => rfl) ?_ rfl
  rintro (p | p | p) hkind
  · cases hkind
  · cases hkind
  · exact ⟨p, rfl⟩

end Members

/-! ## Runs of puts -/

/-- After a run of puts the listings show each stored profile once exactly when the scans are
accepted and each stored profile is of no user, has no suffix in its name, and has keys and
values that can be read. -/
theorem listings_show_stored_once_iff {device : LocalDevice} {m : Manager}
    {puts : List (Bool × PutCall)} (hstore : m.store = ∅) (hfirst : m.isFirst = false)
    (hputs : Admits (putStep device) (PutSucceeds device) m puts) :
    (ListsOnce (getAllServiceProfile (puts.foldl (putStep device) m).store)
        (fun p => IsStored (writesOf device.udid (m.currentUser device) puts) (svr p)) ↔
      (puts.foldl (putStep device) m).store.IsAccepted SVR_PREFIX ∧
        ∀ p, IsStored (writesOf device.udid (m.currentUser device) puts) (svr p) →
          (svr p).IsListable) ∧
    (ListsOnce (getAllCharacteristicProfile (puts.foldl (putStep device) m).store)
        (fun p => IsStored (writesOf device.udid (m.currentUser device) puts) (char p)) ↔
      (puts.foldl (putStep device) m).store.IsAccepted CHAR_PREFIX ∧
        ∀ p, IsStored (writesOf device.udid (m.currentUser device) puts) (char p) →
          (char p).IsListable) := by
  have hstart : HoldsWrites device.udid m.store [] := by
    refine ⟨nofun, fun key => ?_⟩
    rw [hstore, KvStore.valueAt, ExtTreeMap.getElem?_empty]
    rfl
  have hholds := hstart.run hputs hfirst
  exact ⟨hholds.listsOnce_service_iff, hholds.listsOnce_characteristic_iff⟩

/-- Services whose names extend one another and their characteristics, put for no user; one of
them is put again. -/
def plainPuts : List (Bool × PutCall) :=
  [(true, .serviceBatch [{ profile := namedService ("camera" : Text) },
      { profile := namedService ("cameraFront" : Text) }]),
    (true, .characteristic { profile := namedCharacteristic ("camera" : Text) }),
    (true, .characteristic { profile := namedCharacteristic ("cameraFront" : Text) }),
    (true, .service { profile := namedService ("camera" : Text) })]

/-- A service, put for a user who is not in the foreground. -/
def userPuts : List (Bool × PutCall) :=
  [(true, .service { profile := namedService ("camera" : Text), isMultiUser := true })]

/-- The services and their characteristics are each listed once. -/
theorem listings_show_stored_once_plain :
    ListsOnce (getAllServiceProfile (plainPuts.foldl (putStep sampleDevice) {}).store)
        (fun p => IsStored (writesOf sampleDevice.udid
          (Manager.currentUser sampleDevice {}) plainPuts) (svr p)) ∧
      ListsOnce (getAllCharacteristicProfile (plainPuts.foldl (putStep sampleDevice) {}).store)
        (fun p => IsStored (writesOf sampleDevice.udid
          (Manager.currentUser sampleDevice {}) plainPuts) (char p)) := by
  have hputs : Admits (putStep sampleDevice) (PutSucceeds sampleDevice) {} plainPuts :=
    ⟨by decide +kernel, by decide +kernel, by decide +kernel, by decide +kernel, trivial⟩
  obtain ⟨hservice, hcharacteristic⟩ := listings_show_stored_once_iff rfl rfl hputs
  have hwrites : ∀ p ∈ writesOf sampleDevice.udid (Manager.currentUser sampleDevice {}) plainPuts,
      (p.userId = DEFAULT_USER_ID ∧ ∀ name ∈ p.kind.propertyNames,
        (generateDBKey p.profileKey name p.userId).length ≤ MAX_STRING_LEN) ∧
      ¬OH_PROFILE_SUFFIX <:+ p.serviceName ∧
      ∀ x ∈ p.properties, x.2.length < MAX_STRING_LEN := by
    decide +kernel
  have hlistable : ∀ p ∈ writesOf sampleDevice.udid (Manager.currentUser sampleDevice {}) plainPuts,
      p.IsListable := by
    intro p hp
    obtain ⟨⟨huser, hshort⟩, hname, hvalues⟩ := hwrites p hp
    exact ⟨⟨huser, hshort⟩, hname, hvalues⟩
  exact ⟨hservice.mpr ⟨by decide +kernel, fun _ hp => hlistable _ hp.mem⟩,
    hcharacteristic.mpr ⟨by decide +kernel, fun _ hp => hlistable _ hp.mem⟩⟩

/-- One profile of a user is listed as two without a name. -/
theorem not_listings_show_stored_once :
    ¬∀ (device : LocalDevice) (m : Manager) (puts : List (Bool × PutCall)), m.store = ∅ →
      m.isFirst = false → Admits (putStep device) (PutSucceeds device) m puts →
      ListsOnce (getAllServiceProfile (puts.foldl (putStep device) m).store)
          (fun p => IsStored (writesOf device.udid (m.currentUser device) puts) (svr p)) ∧
        ListsOnce (getAllCharacteristicProfile (puts.foldl (putStep device) m).store)
          (fun p => IsStored (writesOf device.udid (m.currentUser device) puts) (char p)) := by
  intro h
  obtain ⟨⟨ps, hok, hnodup, -⟩, -⟩ :=
    h sampleDevice {} userPuts rfl rfl ⟨by decide +kernel, trivial⟩
  have hlisted : (getAllServiceProfile (userPuts.foldl (putStep sampleDevice) {}).store).toOption =
      some [{ deviceId := ("udid" : Text) }, { deviceId := ("udid" : Text) }] := by
    decide +kernel
  rw [hok] at hlisted
  obtain rfl := Option.some.inj hlisted
  exact absurd hnodup (by decide)

end DeviceProfile
