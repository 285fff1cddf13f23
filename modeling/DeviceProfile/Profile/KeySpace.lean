import DeviceProfile.Profile.RoundTrip

/-!
# The keys of different profiles

Two profiles share a key exactly when they are of one kind and agree on the device, the
stored service name, the characteristic key and the user id that is written. Then they
share all of their keys.
-/

namespace DeviceProfile

open Library Std

/-- A profile of any kind. -/
inductive StoredProfile where
  | dev (p : DevProfile)
  | svr (p : ServiceProfile)
  | char (p : CharacteristicProfile)
  deriving DecidableEq, Repr

namespace StoredProfile

variable {localUdid : Text}

/-- The kind, which is the first segment of the key. -/
def kind : StoredProfile → Kind
  | dev _ => .dev
  | svr _ => .svr
  | char _ => .char

/-- The device that a profile is of. -/
def deviceId : StoredProfile → Text
  | dev p => p.deviceId
  | svr p => p.deviceId
  | char p => p.deviceId

/-- The service name, empty for a device profile. -/
def serviceName : StoredProfile → Text
  | dev _ => []
  | svr p => p.serviceName
  | char p => p.serviceName

/-- The characteristic key, empty for other profiles. -/
def characteristicKey : StoredProfile → Text
  | char p => p.characteristicKey
  | _ => []

/-- The user that a profile is of. -/
def userId : StoredProfile → Int32
  | dev p => p.userId
  | svr p => p.userId
  | char p => p.userId

/-- The validity check of the kind. -/
def IsValid (localUdid : Text) : StoredProfile → Prop
  | dev p => IsDevProfileValid localUdid p
  | svr p => IsSvrProfileValid localUdid p
  | char p => IsCharProfileValid localUdid p

instance (localUdid : Text) (p : StoredProfile) : Decidable (p.IsValid localUdid) := by
  cases p <;> exact inferInstanceAs (Decidable (_ ∧ _))

/-- The entries the encoder of the kind writes. -/
def toEntries (p : StoredProfile) (isMultiUser : Bool) : Entries :=
  match p with
  | dev p => deviceProfileToEntries p ∅ isMultiUser
  | svr p => serviceProfileToEntries p ∅ isMultiUser
  | char p => characteristicProfileToEntries p ∅ isMultiUser

/-- The property entries of the kind. -/
def properties : StoredProfile → List (Text × Text)
  | dev p => p.properties
  | svr p => p.properties
  | char p => p.properties

/-- The profile key of a valid profile. -/
def key (p : StoredProfile) (h : p.IsValid localUdid) : ProfileKey :=
  match p with
  | dev p => p.key h
  | svr p => p.key h
  | char p => p.key h

theorem kind_key (p : StoredProfile) (h : p.IsValid localUdid) : (p.key h).kind = p.kind := by
  cases p <;> rfl

theorem map_fst_properties (p : StoredProfile) :
    p.properties.map Prod.fst = p.kind.propertyNames := by
  cases p <;> rfl

/-- The entries of a profile are those written under its key. -/
theorem toEntries_eq (p : StoredProfile) (h : p.IsValid localUdid) (isMultiUser : Bool) :
    p.toEntries isMultiUser =
      written (p.key h) (writtenUserId p.userId isMultiUser) p.properties := by
  cases p with
  | dev p => exact deviceProfileToEntries_eq h
  | svr p => exact serviceProfileToEntries_eq h
  | char p => exact characteristicProfileToEntries_eq h

theorem clean_property {p : StoredProfile} {name : Text} (hname : name ∈ p.kind.propertyNames) :
    separator ∉ name :=
  (clean_propertyNames p.kind name hname).1

/-- The key of a property of a valid profile. -/
def dbKey (p : StoredProfile) (h : p.IsValid localUdid) (isMultiUser : Bool) {name : Text}
    (hname : name ∈ p.kind.propertyNames) : DbKey :=
  { p.key h with
    property := name
    userId := writtenUserId p.userId isMultiUser
    clean_property := clean_property hname }

/-- The keys of the entries are those of the properties. -/
theorem mem_toEntries (p : StoredProfile) (h : p.IsValid localUdid) (isMultiUser : Bool)
    (k : Text) :
    k ∈ p.toEntries isMultiUser ↔
      ∃ name, ∃ hname : name ∈ p.kind.propertyNames, (p.dbKey h isMultiUser hname).render = k := by
  have hnodup : (p.properties.map Prod.fst).Nodup :=
    p.map_fst_properties ▸ nodup_propertyNames p.kind
  have hrender : ∀ name (hname : name ∈ p.kind.propertyNames),
      generateDBKey (p.key h).render name (writtenUserId p.userId isMultiUser) =
        (p.dbKey h isMultiUser hname).render := fun name hname =>
    generateDBKey_eq_render (p.dbKey h isMultiUser hname)
  rw [p.toEntries_eq h, mem_iff_exists_getElem?]
  simp only [getElem?_putProperties hnodup, ExtTreeMap.getElem?_empty, reduceCtorEq, and_false,
    or_false]
  constructor
  · rintro ⟨v, name, hk, hmem⟩
    have hname : name ∈ p.kind.propertyNames :=
      p.map_fst_properties ▸ List.mem_map_of_mem hmem
    exact ⟨name, hname, (hrender name hname).symm.trans hk⟩
  · rintro ⟨name, hname, hk⟩
    obtain ⟨x, hx, rfl⟩ := List.mem_map.mp (p.map_fst_properties ▸ hname)
    exact ⟨x.2, x.1, (hrender x.1 hname).trans hk, hx⟩

/-- Two profiles share a key exactly when they have the same profile key and the same written
user id. -/
theorem shares_key_iff_key (p q : StoredProfile) (hp : p.IsValid localUdid)
    (hq : q.IsValid localUdid) (m m' : Bool) :
    (∃ k, k ∈ p.toEntries m ∧ k ∈ q.toEntries m') ↔
      p.key hp = q.key hq ∧ writtenUserId p.userId m = writtenUserId q.userId m' := by
  simp only [mem_toEntries _ hp, mem_toEntries _ hq]
  constructor
  · rintro ⟨k, ⟨name, hname, hk⟩, ⟨name', hname', hk'⟩⟩
    have hdb := DbKey.render_injective (hk.trans hk'.symm)
    exact ⟨congrArg DbKey.toProfileKey hdb, congrArg DbKey.userId hdb⟩
  · rintro ⟨hkey, huser⟩
    have hkind : p.kind = q.kind := by
      rw [← p.kind_key hp, ← q.kind_key hq, hkey]
    obtain ⟨name, hname⟩ := exists_mem_propertyNames p.kind
    have hdb : p.dbKey hp m hname = q.dbKey hq m' (hkind ▸ hname) :=
      DbKey.ext (congrArg ProfileKey.kind hkey) (congrArg ProfileKey.path hkey) rfl huser
    exact ⟨_, ⟨name, hname, rfl⟩, ⟨name, hkind ▸ hname, hdb ▸ rfl⟩⟩

end StoredProfile

/-! ## Stored service names -/

/-- The second name is the first one, which is on the list, with the suffix. -/
def IsOhVariant (name other : Text) : Prop :=
  name ∈ NEED_ADD_OH_SUFFIX_SVR_NAMES ∧ other = name ++ OH_PROFILE_SUFFIX

instance (name other : Text) : Decidable (IsOhVariant name other) :=
  inferInstanceAs (Decidable (_ ∧ _))

theorem isNeedAddOhSuffix_iff (name : Text) :
    IsNeedAddOhSuffix name true ↔ name ∈ NEED_ADD_OH_SUFFIX_SVR_NAMES := by
  have hlength : ∀ name ∈ NEED_ADD_OH_SUFFIX_SVR_NAMES, HasKeyLength name := by decide
  exact ⟨fun h => h.2, fun h => ⟨hlength name h, h⟩⟩

/-- Names are stored as one when they are the same or one is the other with its suffix. -/
theorem checkAndAddOhSuffix_eq_iff (name other : Text) :
    checkAndAddOhSuffix name true = checkAndAddOhSuffix other true ↔
      name = other ∨ IsOhVariant name other ∨ IsOhVariant other name := by
  have hadd : ∀ name, checkAndAddOhSuffix name true =
      if name ∈ NEED_ADD_OH_SUFFIX_SVR_NAMES then name ++ OH_PROFILE_SUFFIX else name := by
    intro name
    simp only [checkAndAddOhSuffix, isNeedAddOhSuffix_iff]
  have hvariant : ∀ name ∈ NEED_ADD_OH_SUFFIX_SVR_NAMES,
      name ++ OH_PROFILE_SUFFIX ∉ NEED_ADD_OH_SUFFIX_SVR_NAMES := by decide
  rw [hadd, hadd]
  constructor
  · intro h
    split at h <;> split at h
    · exact .inl (List.append_cancel_right h)
    · rename_i hname hother
      exact .inr (.inl ⟨hname, h.symm⟩)
    · rename_i hname hother
      exact .inr (.inr ⟨hother, h⟩)
    · exact .inl h
  · rintro (rfl | ⟨hname, rfl⟩ | ⟨hother, rfl⟩)
    · rfl
    · rw [if_pos hname, if_neg (hvariant name hname)]
    · rw [if_neg (hvariant other hother), if_pos hother]

namespace StoredProfile

variable {localUdid : Text} {p q : StoredProfile}

/-- The profile key says the kind, the device, the stored service name and the
characteristic key. -/
theorem key_eq_iff (hp : p.IsValid localUdid) (hq : q.IsValid localUdid) :
    p.key hp = q.key hq ↔
      p.kind = q.kind ∧ p.deviceId = q.deviceId ∧
        checkAndAddOhSuffix p.serviceName true = checkAndAddOhSuffix q.serviceName true ∧
        p.characteristicKey = q.characteristicKey := by
  rw [ProfileKey.ext_iff]
  cases p <;> cases q <;>
    simp only [key, DevProfile.key, ServiceProfile.key, CharacteristicProfile.key, kind, deviceId,
      serviceName, characteristicKey, List.cons.injEq, reduceCtorEq, and_true, true_and,
      false_and]

/-- Profiles share a key exactly when they agree on what is written into it. -/
theorem shares_key_iff (hp : p.IsValid localUdid) (hq : q.IsValid localUdid) (m m' : Bool) :
    (∃ k, k ∈ p.toEntries m ∧ k ∈ q.toEntries m') ↔
      (p.kind = q.kind ∧ p.deviceId = q.deviceId ∧
        (p.serviceName = q.serviceName ∨ IsOhVariant p.serviceName q.serviceName ∨
          IsOhVariant q.serviceName p.serviceName) ∧
        p.characteristicKey = q.characteristicKey) ∧
      writtenUserId p.userId m = writtenUserId q.userId m' := by
  rw [shares_key_iff_key p q hp hq, key_eq_iff, checkAndAddOhSuffix_eq_iff]

/-- Profiles that differ in what is written into their keys share none, where a name of the
suffix list and the same name with the suffix do not count as different. -/
theorem keys_disjoint (hp : p.IsValid localUdid) (hq : q.IsValid localUdid) (m m' : Bool)
    (hdiffer : p.kind ≠ q.kind ∨ p.deviceId ≠ q.deviceId ∨
      (p.serviceName ≠ q.serviceName ∧ ¬IsOhVariant p.serviceName q.serviceName ∧
        ¬IsOhVariant q.serviceName p.serviceName) ∨
      p.characteristicKey ≠ q.characteristicKey ∨
      writtenUserId p.userId m ≠ writtenUserId q.userId m') :
    ∀ k ∈ p.toEntries m, k ∉ q.toEntries m' := by
  intro k hk hk'
  obtain ⟨⟨hkind, hdevice, hname, hkey⟩, huser⟩ :=
    (shares_key_iff hp hq m m').mp ⟨k, hk, hk'⟩
  rcases hdiffer with h | h | ⟨h, hvariant, hvariant'⟩ | h | h
  · exact h hkind
  · exact h hdevice
  · rcases hname with hname | hname | hname
    · exact h hname
    · exact hvariant hname
    · exact hvariant' hname
  · exact h hkey
  · exact h huser

/-- The name entry of a service is no entry of a characteristic of that service. -/
theorem keys_disjoint_camera :
    generateDBKey (generateServiceProfileKey ("udid" : Text) ("camera" : Text)) SERVICE_NAME 100 ∉
      (char (namedCharacteristic ("camera" : Text))).toEntries true := by
  have hservice : (svr (namedService ("camera" : Text))).IsValid ("udid" : Text) := by decide
  have hchar : (char (namedCharacteristic ("camera" : Text))).IsValid ("udid" : Text) := by
    decide
  refine keys_disjoint hservice hchar true true (.inl (by decide)) _ ?_
  have hname : SERVICE_NAME ∈ (svr (namedService ("camera" : Text))).kind.propertyNames :=
    List.mem_cons_self
  rw [mem_toEntries _ hservice, generateServiceProfileKey_eq]
  exact ⟨SERVICE_NAME, hname, (generateDBKey_eq_render (dbKey _ hservice true hname)).symm⟩

/-- A name of the suffix list shares its keys with the name that has the suffix, and profiles
that are written for no user share theirs whatever their user ids are. -/
theorem shares_key_appInfo :
    (∃ p q : StoredProfile, p.IsValid ("udid" : Text) ∧ q.IsValid ("udid" : Text) ∧
      p.serviceName ≠ q.serviceName ∧ ∃ k, k ∈ p.toEntries true ∧ k ∈ q.toEntries true) ∧
    ∃ p q : StoredProfile, p.IsValid ("udid" : Text) ∧ q.IsValid ("udid" : Text) ∧
      p.userId ≠ q.userId ∧ ∃ k, k ∈ p.toEntries false ∧ k ∈ q.toEntries false := by
  have happ : (svr (namedService ("appInfo" : Text))).IsValid ("udid" : Text) := by decide
  have hsuffixed : (svr (namedService ("appInfo_OH" : Text))).IsValid ("udid" : Text) := by
    decide
  have hother : (svr { namedService ("appInfo" : Text) with userId := 101 }).IsValid
      ("udid" : Text) := by decide
  refine ⟨⟨_, _, happ, hsuffixed, by decide, ?_⟩, ⟨_, _, happ, hother, by decide, ?_⟩⟩
  · rw [shares_key_iff happ hsuffixed]
    decide
  · rw [shares_key_iff happ hother]
    decide

end StoredProfile

end DeviceProfile
