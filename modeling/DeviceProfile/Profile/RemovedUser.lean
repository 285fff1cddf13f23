import DeviceProfile.Profile.UserChange

/-!
# The data of a removed user

When a user is removed, the entries of this device are collected with one query for each kind,
and those with the user id in their keys are deleted in one batch. A kind without entries makes
the queries fail, and then nothing is deleted. The queries ask for keys that start like those of
this device, so they also find the keys of a device whose id only starts like this one's, and the
user id is read as an `int`, so a larger number can be read as the user's.
-/

namespace DeviceProfile

open Library Std

/-- The smallest user that can be removed. -/
def MIN_USER_ID : Int32 := 0

/-- The largest user that can be removed. -/
def MAX_USER_ID : Int32 := 100000

/-! ## The users and the devices of keys -/

/-- The second segment of the key is the id of the device. -/
def IsOfDevice (udid key : Text) : Prop :=
  ∃ segments ∈ splitString key, segments[1]? = some udid

/-- The segment behind the property is a number with the property `P`. -/
def HasNumber (P : Text → Prop) (key : Text) : Prop :=
  ∃ segments ∈ splitString key, ∃ kind : Kind, segments[0]? = some kind.tag ∧
    ∃ segment ∈ segments[kind.arity + 2]?, IsNumeral segment ∧ P segment

/-- The segment behind the property is the number of the user. -/
def HasUserSegment (userId : Int32) : Text → Prop :=
  HasNumber fun segment => readInt segment = userId.toInt

/-- The segment behind the property is a number that becomes the user's in an `int`. -/
def IsReadAs (userId : Int32) : Text → Prop := HasNumber fun segment => atoi segment = userId

/-- The number of the user is read as the user's. -/
theorem HasUserSegment.isReadAs {userId : Int32} {key : Text} (h : HasUserSegment userId key) :
    IsReadAs userId key := by
  obtain ⟨segments, hsplit, kind, hkind, segment, hsegment, hnumeral, hread⟩ := h
  exact ⟨segments, hsplit, kind, hkind, segment, hsegment, hnumeral,
    (congrArg Int32.ofInt hread).trans (Int32.ofInt_toInt userId)⟩

theorem userIdAt_of_ne {splitKeys : List Text} {kind : Text} {i : Nat} {userId : Int32}
    (h : splitKeys[0]? ≠ some kind) : userIdAt splitKeys kind i userId = userId := by
  rw [userIdAt]
  split
  · exact if_neg fun hkind => h (List.head?_eq_getElem? ▸ hkind.1)
  · rfl

/-- The user of a key is the numeral that stands where its kind has the user. -/
theorem userIdAt_eq_iff {splitKeys : List Text} {kind : Text} {i : Nat} {userId : Int32}
    (h : splitKeys[0]? = some kind) (huser : userId ≠ DEFAULT_USER_ID) :
    userIdAt splitKeys kind i DEFAULT_USER_ID = userId ↔
      ∃ segment ∈ splitKeys[i]?, IsNumeral segment ∧ atoi segment = userId := by
  rw [userIdAt]
  cases hsegment : splitKeys[i]? with
  | none =>
    refine iff_of_false huser.symm ?_
    rintro ⟨segment, hnone, -⟩
    cases hnone
  | some segment =>
    have hhead : splitKeys.head? = some kind := List.head?_eq_getElem? ▸ h
    by_cases hnumeral : IsNumeral segment
    · simp [hhead, hnumeral]
    · simp [hnumeral, huser.symm]

/-- Of the three tests for the user only the one of the key's own kind finds something. -/
theorem userIdAt_of_kind {splitKeys : List Text} {kind : Kind}
    (hkind : splitKeys[0]? = some kind.tag) :
    userIdAt splitKeys CHAR_PREFIX 5 (userIdAt splitKeys SVR_PREFIX 4
        (userIdAt splitKeys DEV_PREFIX 3 DEFAULT_USER_ID)) =
      userIdAt splitKeys kind.tag (kind.arity + 2) DEFAULT_USER_ID := by
  have hother : ∀ (kind' : Kind) {i : Nat} {u : Int32}, kind' ≠ kind →
      userIdAt splitKeys kind'.tag i u = u := fun _ _ _ hne =>
    userIdAt_of_ne fun h => hne (DbKey.tag_injective (Option.some.inj (h.symm.trans hkind)))
  cases kind with
  | dev => exact (hother .char (by decide)).trans (hother .svr (by decide))
  | svr =>
    rw [show DEV_PREFIX = Kind.dev.tag from rfl, hother .dev (by decide)]
    exact hother .char (by decide)
  | char =>
    rw [show DEV_PREFIX = Kind.dev.tag from rfl, hother .dev (by decide),
      show SVR_PREFIX = Kind.svr.tag from rfl, hother .svr (by decide)]
    rfl

/-- The user of a key is read from the segment behind the property. -/
theorem getUserIdFromDbKey_eq_iff {userId : Int32} (huser : userId ≠ DEFAULT_USER_ID) (key : Text) :
    getUserIdFromDbKey key = userId ↔ IsReadAs userId key := by
  rw [getUserIdFromDbKey, IsReadAs, HasNumber]
  cases hsplit : splitString key with
  | none =>
    refine iff_of_false huser.symm ?_
    rintro ⟨segments, hnone, -⟩
    cases hnone
  | some segments =>
    have hhas : (∃ segments' ∈ some segments, ∃ kind : Kind, segments'[0]? = some kind.tag ∧
        ∃ segment ∈ segments'[kind.arity + 2]?, IsNumeral segment ∧ atoi segment = userId) ↔
        ∃ kind : Kind, segments[0]? = some kind.tag ∧
          ∃ segment ∈ segments[kind.arity + 2]?, IsNumeral segment ∧ atoi segment = userId := by
      constructor
      · rintro ⟨_, hsome, h⟩
        exact Option.some.inj hsome ▸ h
      · exact fun h => ⟨segments, rfl, h⟩
    rw [hhas]
    dsimp only
    by_cases hlength : segments.length < 3
    · rw [if_pos hlength]
      refine iff_of_false huser.symm ?_
      rintro ⟨kind, -, segment, hsegment, -⟩
      obtain ⟨hlt, -⟩ := List.getElem?_eq_some_iff.mp hsegment
      omega
    rw [if_neg hlength]
    by_cases hkind : ∃ kind : Kind, segments[0]? = some kind.tag
    · obtain ⟨kind, hkind⟩ := hkind
      rw [userIdAt_of_kind hkind, userIdAt_eq_iff hkind huser]
      constructor
      · exact fun h => ⟨kind, hkind, h⟩
      · rintro ⟨kind', hkind', h⟩
        rwa [← DbKey.tag_injective (Option.some.inj (hkind'.symm.trans hkind))]
    · have hnone : ∀ (kind : Kind) {i : Nat} {u : Int32},
          userIdAt segments kind.tag i u = u := fun kind => userIdAt_of_ne fun h => hkind ⟨kind, h⟩
      refine iff_of_false ?_ fun h => hkind (h.imp fun _ => And.left)
      rw [show DEV_PREFIX = Kind.dev.tag from rfl, hnone .dev,
        show SVR_PREFIX = Kind.svr.tag from rfl, hnone .svr,
        show CHAR_PREFIX = Kind.char.tag from rfl, hnone .char]
      exact huser.symm

/-- A key of the device with a user starts like the keys of the device. -/
theorem isKeyOf_of_isOfDevice {udid key : Text} {userId : Int32} (hdevice : IsOfDevice udid key)
    (huser : HasUserSegment userId key) : IsKeyOf udid key := by
  obtain ⟨segments, hsplit, hudid⟩ := hdevice
  obtain ⟨segments', hsplit', kind, hkind, -⟩ := huser
  obtain rfl : segments = segments' := Option.some.inj (hsplit.symm.trans hsplit')
  have hkey : joinString segments = key := by
    rw [splitString] at hsplit
    split at hsplit
    · cases hsplit
    · rw [← Option.some.inj hsplit]
      exact List.intercalate_splitOn separator
  obtain _ | ⟨first, _ | ⟨second, rest⟩⟩ := segments
  · cases hkind
  · cases hudid
  · obtain rfl : first = kind.tag := Option.some.inj hkind
    obtain rfl : second = udid := Option.some.inj hudid
    have hstart : kind.tag ++ SEPARATOR ++ second <+: key := by
      rw [← hkey, joinString]
      cases rest with
      | nil => exact ⟨[], by simp [List.intercalate_cons_cons]⟩
      | cons third rest =>
        exact ⟨SEPARATOR ++ SEPARATOR.intercalate (third :: rest),
          by simp [List.intercalate_cons_cons]⟩
    cases kind with
    | dev => exact .inl hstart
    | svr => exact .inr (.inl hstart)
    | char => exact .inr (.inr hstart)

/-! ## The call -/

/-- The error codes of `DeleteRemovedUserData`. -/
inductive RemoveError where
  | invalidParam
  | getLocalUdidFailed
  | manager (e : ManagerError)
  deriving DecidableEq, Repr

/-- Deletes what this device stores for a removed user: the keys that carry the user, in one batch.
-/
def Manager.deleteRemovedUserData (device : LocalDevice) (userId : Int32) (m : Manager) :
    Except RemoveError Unit × Manager :=
  if userId < MIN_USER_ID ∨ MAX_USER_ID < userId then (.error .invalidParam, m)
  else if device.udid = [] then (.error .getLocalUdidFailed, m)
  else
    match getProfilesByKeyPrefix device.udid m.store with
    | .error e => (.error (.manager e), m)
    | .ok allLocalEntries =>
      let keysToDelete := allLocalEntries.keys.filter fun key => userId = getUserIdFromDbKey key
      if keysToDelete = [] then (.ok (), m)
      else
        match m.store.deleteBatch keysToDelete with
        | .error e => (.error (.manager (.kv e)), m)
        | .ok store => (.ok (), { m with store })

/-- The keys of a user that start like those of the device. -/
def KvStore.userKeys (udid : Text) (userId : Int32) (s : KvStore) : List Text :=
  s.keys.filter fun key => IsKeyOf udid key ∧ getUserIdFromDbKey key = userId

/-- The device knows its id, each of the queries finds entries and not too many, and the keys of
the user fit in one batch. -/
structure KvStore.IsRemovable (udid : Text) (userId : Int32) (s : KvStore) : Prop where
  known : udid ≠ []
  scan : IsScanAccepted udid s
  size : (s.userKeys udid userId).length ≤ MAX_PROFILE_SIZE

theorem KvStore.getElem?_eq_none_iff {s : KvStore} {key : Text} : s[key]? = none ↔ key ∉ s := by
  rw [ExtTreeMap.mem_iff_isSome_getElem?, Option.not_isSome_iff_eq_none]

section Removal

variable {device : LocalDevice} {userId : Int32} {m : Manager}

/-- The keys to delete are those of this device with the removed user. -/
theorem mem_userKeys {key : Text} :
    key ∈ m.store.userKeys device.udid userId ↔
      key ∈ m.store ∧ IsKeyOf device.udid key ∧ getUserIdFromDbKey key = userId := by
  rw [KvStore.userKeys, List.mem_filter, ExtTreeMap.mem_keys, decide_eq_true_iff]

/-- What is collected for the batch are the keys of the user. -/
theorem perm_userKeys {values : Entries}
    (hscan : Manager.getProfilesByKeyPrefix device.udid m.store = .ok values) (userId : Int32) :
    (values.keys.filter fun key => userId = getUserIdFromDbKey key).Perm
      (m.store.userKeys device.udid userId) := by
  refine (List.perm_ext_iff_of_nodup (ExtTreeMap.nodup_keys.filter _)
    (ExtTreeMap.nodup_keys.filter _)).mpr fun key => ?_
  rw [← KvStore.userKeys, mem_userKeys, List.mem_filter, ExtTreeMap.mem_keys,
    mem_getProfilesByKeyPrefix hscan, decide_eq_true_iff, and_assoc, eq_comm (a := userId)]

/-- A removal deletes the keys of the user, if the store is removable. -/
theorem store_deleteRemovedUserData (hrange : MIN_USER_ID ≤ userId ∧ userId ≤ MAX_USER_ID)
    (h : m.store.IsRemovable device.udid userId) (key : Text) :
    (m.deleteRemovedUserData device userId).2.store[key]? =
      if IsKeyOf device.udid key ∧ getUserIdFromDbKey key = userId then none
      else m.store[key]? := by
  obtain ⟨values, hscan⟩ : ∃ values, Manager.getProfilesByKeyPrefix device.udid m.store =
      .ok values := ⟨_, getProfilesByKeyPrefix_eq_ok_iff.mpr ⟨h.known, h.scan, rfl⟩⟩
  have hperm := perm_userKeys hscan userId
  have hmem : ∀ key, key ∈ (values.keys.filter fun key => userId = getUserIdFromDbKey key) ↔
      key ∈ m.store ∧ IsKeyOf device.udid key ∧ getUserIdFromDbKey key = userId := fun key =>
    hperm.mem_iff.trans mem_userKeys
  have habsent : IsKeyOf device.udid key ∧ getUserIdFromDbKey key = userId → key ∉ m.store →
      m.store[key]? = none := fun _ hkey => ExtTreeMap.getElem?_eq_none hkey
  have hvalid : ¬(userId < MIN_USER_ID ∨ MAX_USER_ID < userId) :=
    not_or.mpr ⟨Int32.not_lt.mpr hrange.1, Int32.not_lt.mpr hrange.2⟩
  rw [Manager.deleteRemovedUserData, if_neg hvalid, if_neg h.known, hscan]
  dsimp only
  by_cases hnil : (values.keys.filter fun key => userId = getUserIdFromDbKey key) = []
  · rw [if_pos hnil]
    split
    · rename_i hkey
      refine habsent hkey fun hstored => ?_
      exact List.not_mem_nil (hnil ▸ (hmem key).mpr ⟨hstored, hkey⟩)
    · rfl
  · obtain ⟨store, hdelete⟩ :=
      KvStore.deleteBatch_isOk hnil (hperm.length_eq ▸ h.size) m.store
    rw [if_neg hnil, hdelete]
    refine (KvStore.getElem?_deleteBatch hdelete key).trans ?_
    by_cases hkey : IsKeyOf device.udid key ∧ getUserIdFromDbKey key = userId
    · rw [if_pos hkey]
      by_cases hstored : key ∈ m.store
      · rw [if_pos ((hmem key).mpr ⟨hstored, hkey⟩)]
      · rw [if_neg fun hin => hstored ((hmem key).mp hin).1]
        exact habsent hkey hstored
    · rw [if_neg hkey, if_neg fun hin => hkey ((hmem key).mp hin).2]

/-- A store that is not removable keeps everything. -/
theorem deleteRemovedUserData_of_not_isRemovable (h : ¬m.store.IsRemovable device.udid userId) :
    (m.deleteRemovedUserData device userId).2 = m := by
  rw [Manager.deleteRemovedUserData]
  split
  · rfl
  split
  · rfl
  rename_i hudid
  split
  · rfl
  rename_i values hscan
  dsimp only
  split
  · rfl
  have hsize : ¬(m.store.userKeys device.udid userId).length ≤ MAX_PROFILE_SIZE := fun hle =>
    h ⟨hudid, (getProfilesByKeyPrefix_eq_ok_iff.mp hscan).2.1, hle⟩
  have hrefused : m.store.deleteBatch
      (values.keys.filter fun key => userId = getUserIdFromDbKey key) = .error .invalidParams :=
    if_pos (.inr (by rw [(perm_userKeys hscan userId).length_eq]; omega))
  rw [hrefused]

end Removal

/-! ## What remains -/

/-- The keys of the user on the device are gone, all others are there with their values. -/
structure RemovesExactly (udid : Text) (userId : Int32) (s s' : KvStore) : Prop where
  removed : ∀ key, IsOfDevice udid key → HasUserSegment userId key → key ∉ s'
  kept : ∀ key, ¬(IsOfDevice udid key ∧ HasUserSegment userId key) → s'[key]? = s[key]?

/-- A removal is exact if and only if the store is removable and all the keys that it finds and
reads as the user's are the device's and the user's, or it is not and there is nothing to
remove. -/
theorem deleteRemovedUserData_exact_iff (device : LocalDevice) (userId : Int32)
    (hrange : MIN_USER_ID ≤ userId ∧ userId ≤ MAX_USER_ID) (m : Manager) :
    RemovesExactly device.udid userId m.store (m.deleteRemovedUserData device userId).2.store ↔
      (m.store.IsRemovable device.udid userId ∧
        ∀ key ∈ m.store, IsKeyOf device.udid key → IsReadAs userId key →
          IsOfDevice device.udid key ∧ HasUserSegment userId key) ∨
      (¬m.store.IsRemovable device.udid userId ∧
        ∀ key ∈ m.store, ¬(IsOfDevice device.udid key ∧ HasUserSegment userId key)) := by
  have huser : userId ≠ DEFAULT_USER_ID := by
    rintro rfl
    exact absurd hrange.1 (by decide)
  by_cases h : m.store.IsRemovable device.udid userId
  · have hstore := store_deleteRemovedUserData (m := m) hrange h
    rw [or_iff_left fun hnot => hnot.1 h, and_iff_right h]
    constructor
    · intro hexact key hkey hstart hread
      by_contra hnot
      have hkept := hexact.kept key hnot
      rw [hstore, if_pos ⟨hstart, (getUserIdFromDbKey_eq_iff huser key).mpr hread⟩] at hkept
      exact KvStore.getElem?_eq_none_iff.mp hkept.symm hkey
    · refine fun hall => ⟨fun key hdevice hsegment => ?_, fun key hnot => ?_⟩
      · rw [← KvStore.getElem?_eq_none_iff, hstore]
        exact if_pos ⟨isKeyOf_of_isOfDevice hdevice hsegment,
          (getUserIdFromDbKey_eq_iff huser key).mpr hsegment.isReadAs⟩
      · rw [hstore]
        split
        · rename_i hkey
          have hread := (getUserIdFromDbKey_eq_iff huser key).mp hkey.2
          have habsent : key ∉ m.store := fun hin => hnot (hall key hin hkey.1 hread)
          exact (ExtTreeMap.getElem?_eq_none habsent).symm
        · rfl
  · rw [or_iff_right fun hyes => h hyes.1, and_iff_right h,
      deleteRemovedUserData_of_not_isRemovable h]
    constructor
    · exact fun hexact key hkey hboth => hexact.removed key hboth.1 hboth.2 hkey
    · exact fun hall => ⟨fun key hdevice hsegment hkey => hall key hkey ⟨hdevice, hsegment⟩,
        fun _ _ => rfl⟩

/-- A store with the given keys. -/
def managerWithKeys (keys : List Text) : Manager where
  store := insertAll id (fun _ => { value := [], writer := [] }) keys ∅

/-- Entries of each kind, of two users, of no user and of another device. -/
def mixedKeys : List Text :=
  [("dev#udid#osType" : Text), ("svr#udid#s#serviceType#100" : Text),
    ("char#udid#s#k#characteristicValue#100" : Text),
    ("char#udid#s#k#characteristicValue#101" : Text), ("svr#peer#s#serviceType#100" : Text)]

/-- Among keys of many users those of the removed one go, and no other. -/
theorem deleteRemovedUserData_mixedKeys :
    RemovesExactly sampleDevice.udid 100 (managerWithKeys mixedKeys).store
      ((managerWithKeys mixedKeys).deleteRemovedUserData sampleDevice 100).2.store := by
  refine (deleteRemovedUserData_exact_iff sampleDevice 100 (by decide) _).mpr
    (.inl ⟨⟨by decide, by decide +kernel, by decide +kernel⟩, fun key hkey hstart hread => ?_⟩)
  have huser := (getUserIdFromDbKey_eq_iff (by decide) key).mpr hread
  rcases mem_insertAll.mp hkey with ⟨x, hx, rfl⟩ | hnone
  · simp only [mixedKeys, List.mem_cons, List.not_mem_nil, or_false] at hx
    rcases hx with rfl | rfl | rfl | rfl | rfl
    · exact absurd huser (by decide)
    · exact ⟨⟨_, rfl, by decide⟩, _, rfl, .svr, by decide, ("100" : Text), by decide, by decide,
        by decide⟩
    · exact ⟨⟨_, rfl, by decide⟩, _, rfl, .char, by decide, ("100" : Text), by decide, by decide,
        by decide⟩
    · exact absurd huser (by decide)
    · exact absurd hstart (by decide)
  · exact absurd hnone ExtTreeMap.not_mem_empty

/-- Without a characteristic in the store the service of the user stays. -/
theorem not_deleteRemovedUserData_exact :
    ¬∀ (device : LocalDevice) (userId : Int32) (m : Manager),
      MIN_USER_ID ≤ userId ∧ userId ≤ MAX_USER_ID →
      RemovesExactly device.udid userId m.store
        (m.deleteRemovedUserData device userId).2.store := by
  intro h
  have hexact := h sampleDevice 100
    (managerWithKeys [("dev#udid#osType" : Text), ("svr#udid#s#serviceType#100" : Text)])
    (by decide)
  refine hexact.removed ("svr#udid#s#serviceType#100" : Text) ⟨_, rfl, by decide⟩
    ⟨_, rfl, .svr, by decide, ("100" : Text), by decide, by decide, by decide⟩ ?_
  decide +kernel

end DeviceProfile
