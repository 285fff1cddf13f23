import DeviceProfile.Profile.Put

/-!
# The change of the foreground user

When another user comes to the foreground, the entries of that user are copied to the keys of
no user, and the keys of no user that only the last user has are deleted. Both are computed
from one scan over the entries of the device.
-/

namespace DeviceProfile

open Library Std

/-- The key starts like the keys of a device, of some kind. -/
def IsKeyOf (udid key : Text) : Prop :=
  DEV_PREFIX ++ SEPARATOR ++ udid <+: key ∨ SVR_PREFIX ++ SEPARATOR ++ udid <+: key ∨
    CHAR_PREFIX ++ SEPARATOR ++ udid <+: key

instance (udid key : Text) : Decidable (IsKeyOf udid key) :=
  inferInstanceAs (Decidable (_ ∨ _ ∨ _))

theorem isKeyOf_render {k : DbKey} {udid : Text} (h : k.path.head? = some udid) :
    IsKeyOf udid k.render := by
  have hprefix := DbKey.prefix_render h
  cases hkind : k.kind <;> rw [hkind] at hprefix
  · exact .inl hprefix
  · exact .inr (.inl hprefix)
  · exact .inr (.inr hprefix)

theorem IsKeyOf.ne_nil {udid key : Text} (h : IsKeyOf udid key) : key ≠ [] := by
  rintro rfl
  rcases h with h | h | h <;> cases List.prefix_nil.mp h

/-! ## The scan over the entries of a device -/

section Scan

variable {udid key : Text} {kvStore : KvStore} {values : Entries}

/-- Each of the three queries finds entries, and not too many of them. -/
def IsScanAccepted (udid : Text) (kvStore : KvStore) : Prop :=
  kvStore.IsAccepted (DEV_PREFIX ++ SEPARATOR ++ udid) ∧
    kvStore.IsAccepted (SVR_PREFIX ++ SEPARATOR ++ udid) ∧
    kvStore.IsAccepted (CHAR_PREFIX ++ SEPARATOR ++ udid)

instance (udid : Text) (kvStore : KvStore) : Decidable (IsScanAccepted udid kvStore) :=
  inferInstanceAs (Decidable (_ ∧ _ ∧ _))

/-- The scan succeeds exactly when all of its queries do. -/
theorem getProfilesByKeyPrefix_eq_ok_iff :
    Manager.getProfilesByKeyPrefix udid kvStore = .ok values ↔
      udid ≠ [] ∧ IsScanAccepted udid kvStore ∧
        values = ∅ ∪ kvStore.getEntries (DEV_PREFIX ++ SEPARATOR ++ udid) ∪
          kvStore.getEntries (SVR_PREFIX ++ SEPARATOR ++ udid) ∪
          kvStore.getEntries (CHAR_PREFIX ++ SEPARATOR ++ udid) := by
  rw [Manager.getProfilesByKeyPrefix, IsScanAccepted]
  by_cases hudid : udid = []
  · simp [hudid]
  by_cases hdev : kvStore.IsAccepted (DEV_PREFIX ++ SEPARATOR ++ udid)
  · by_cases hsvr : kvStore.IsAccepted (SVR_PREFIX ++ SEPARATOR ++ udid)
    · by_cases hchar : kvStore.IsAccepted (CHAR_PREFIX ++ SEPARATOR ++ udid)
      · simp only [KvStore.getByPrefix_eq_of_isAccepted hdev,
          KvStore.getByPrefix_eq_of_isAccepted hsvr, KvStore.getByPrefix_eq_of_isAccepted hchar,
          ne_eq, hudid, not_false_eq_true, hdev, hsvr, hchar, and_self, true_and, if_false,
          Except.ok.injEq]
        exact eq_comm
      · simp only [if_neg hudid, KvStore.getByPrefix_eq_of_isAccepted hdev,
          KvStore.getByPrefix_eq_of_isAccepted hsvr, KvStore.getByPrefix_of_not_isAccepted hchar,
          hchar, and_false, false_and, reduceCtorEq]
    · simp only [if_neg hudid, KvStore.getByPrefix_eq_of_isAccepted hdev,
        KvStore.getByPrefix_of_not_isAccepted hsvr, hsvr, and_false, false_and, reduceCtorEq]
  · simp only [if_neg hudid, KvStore.getByPrefix_of_not_isAccepted hdev, hdev, and_false,
      false_and, reduceCtorEq]

/-- A scan that is not accepted fails. -/
theorem getProfilesByKeyPrefix_of_not_isScanAccepted (h : ¬IsScanAccepted udid kvStore) :
    ∃ e, Manager.getProfilesByKeyPrefix udid kvStore = .error e := by
  cases hscan : Manager.getProfilesByKeyPrefix udid kvStore with
  | error e => exact ⟨e, rfl⟩
  | ok values => exact absurd (getProfilesByKeyPrefix_eq_ok_iff.mp hscan).2.1 h

/-- The scan finds the entries of the device. -/
theorem getElem?_getProfilesByKeyPrefix
    (h : Manager.getProfilesByKeyPrefix udid kvStore = .ok values) (key : Text) :
    values[key]? = if IsKeyOf udid key then kvStore.valueAt key else none := by
  obtain ⟨-, -, rfl⟩ := getProfilesByKeyPrefix_eq_ok_iff.mp h
  have hor : ∀ (a b c : Prop) [Decidable a] [Decidable b] [Decidable c] (x : Option Text),
      (if c then x else none).or ((if b then x else none).or (if a then x else none)) =
        if a ∨ b ∨ c then x else none := by
    intro a b c _ _ _ x
    by_cases ha : a <;> by_cases hb : b <;> by_cases hc : c <;> cases x <;> simp [ha, hb, hc]
  simp only [ExtTreeMap.getElem?_union, KvStore.getElem?_getEntries, ExtTreeMap.getElem?_empty,
    Option.or_none]
  exact hor _ _ _ _

/-- The scan finds the keys that start like those of the device. -/
theorem mem_getProfilesByKeyPrefix
    (h : Manager.getProfilesByKeyPrefix udid kvStore = .ok values) {key : Text} :
    key ∈ values ↔ key ∈ kvStore ∧ IsKeyOf udid key := by
  rw [ExtTreeMap.mem_iff_isSome_getElem?, getElem?_getProfilesByKeyPrefix h,
    KvStore.mem_iff_valueAt]
  by_cases hkey : IsKeyOf udid key
  · rw [if_pos hkey, and_iff_left hkey]
  · rw [if_neg hkey]
    exact iff_of_false nofun fun h => hkey h.2

/-- A scan that succeeds finds entries. -/
theorem not_isEmpty_getProfilesByKeyPrefix
    (h : Manager.getProfilesByKeyPrefix udid kvStore = .ok values) : ¬values.isEmpty := by
  obtain ⟨-, haccepted, -⟩ := getProfilesByKeyPrefix_eq_ok_iff.mp h
  intro hempty
  refine haccepted.1.1 (ExtTreeMap.eq_empty_iff_size_eq_zero.mp (ExtTreeMap.ext_getElem? ?_))
  intro key
  have hget := getElem?_getProfilesByKeyPrefix h key
  rw [ExtTreeMap.isEmpty_iff.mp hempty] at hget
  rw [KvStore.getElem?_getEntries]
  split
  · rename_i hprefix
    rw [hget, if_pos (.inl hprefix)]
  · rfl

end Scan

/-! ## The entries of a user under the keys of no user -/

section WithoutUID

variable {userId : Int32} {profileMap : Entries} {k v : Text}

theorem withoutUID_render (k : DbKey) :
    Manager.withoutUID k.render = some (k.forUser DEFAULT_USER_ID).render := by
  rw [Manager.withoutUID, DbKey.removeUserIdFromDbKey_render, if_neg (DbKey.render_ne_nil _)]

/-- The keys of a user among those of a map. -/
def userEntries (userId : Int32) (profileMap : Entries) : Entries :=
  profileMap.filter fun key _ =>
    getUserIdFromDbKey key ≠ DEFAULT_USER_ID ∧ getUserIdFromDbKey key = userId

/-- The entries of a user in a map. -/
theorem getElem?_userEntries {key : Text} :
    (userEntries userId profileMap)[key]? = some v ↔
      profileMap[key]? = some v ∧ userId ≠ DEFAULT_USER_ID ∧ getUserIdFromDbKey key = userId := by
  rw [userEntries, ExtTreeMap.getElem?_filter', Option.filter_eq_some_iff, decide_eq_true_eq]
  exact and_congr_right fun _ => and_congr_left fun huser => by rw [huser]

/-- The keys of a user in a map. -/
theorem mem_userEntries {key : Text} :
    key ∈ userEntries userId profileMap ↔
      key ∈ profileMap ∧ userId ≠ DEFAULT_USER_ID ∧ getUserIdFromDbKey key = userId := by
  simp only [mem_iff_exists_getElem?, getElem?_userEntries, exists_and_right]

/-- A key of no user is found when some key of the user is left as it. -/
theorem mem_entriesWithoutUID :
    k ∈ Manager.entriesWithoutUID userId profileMap ↔
      ∃ key ∈ profileMap, (userId ≠ DEFAULT_USER_ID ∧ getUserIdFromDbKey key = userId) ∧
        Manager.withoutUID key = some k := by
  rw [Manager.entriesWithoutUID, ← userEntries, mem_collect]
  simp only [mem_userEntries, and_assoc]

/-- Where all keys of a user are well-formed, the values under the keys of no user are those of
the user. -/
theorem getElem?_entriesWithoutUID_render (huser : userId ≠ DEFAULT_USER_ID)
    (hformed : ∀ key ∈ profileMap, getUserIdFromDbKey key = userId → ∃ k : DbKey, k.render = key)
    (k : DbKey) :
    (Manager.entriesWithoutUID userId profileMap)[(k.forUser DEFAULT_USER_ID).render]? =
      profileMap[(k.forUser userId).render]? := by
  have hkey : ∀ key ∈ profileMap, getUserIdFromDbKey key = userId →
      Manager.withoutUID key = some (k.forUser DEFAULT_USER_ID).render →
        key = (k.forUser userId).render := by
    intro key hmem hid hwithout
    obtain ⟨k', rfl⟩ := hformed key hmem hid
    rw [withoutUID_render] at hwithout
    have hplain := DbKey.render_injective (Option.some.inj hwithout)
    rw [DbKey.getUserIdFromDbKey_render] at hid
    have heq := congrArg (fun k : DbKey => (k.forUser userId).render) hplain
    simp only [DbKey.forUser_forUser] at heq
    rw [← heq, ← hid, DbKey.forUser_userId]
  refine Option.ext fun v => ?_
  rw [Manager.entriesWithoutUID, ← userEntries, getElem?_collect_last]
  constructor
  · rintro ⟨key, hwithout, hget, -⟩
    obtain ⟨hvalue, -, hid⟩ := getElem?_userEntries.mp hget
    have hmem : key ∈ profileMap := by
      exact mem_iff_exists_getElem?.mpr ⟨_, hvalue⟩
    rw [← hkey key hmem hid hwithout]
    exact hvalue
  · intro hvalue
    refine ⟨(k.forUser userId).render, withoutUID_render (k.forUser userId),
      getElem?_userEntries.mpr ⟨hvalue, huser, ?_⟩, ?_⟩
    · exact DbKey.getUserIdFromDbKey_render _
    · intro key hmem hwithout
      obtain ⟨hmem, -, hid⟩ := mem_userEntries.mp hmem
      rw [hkey key hmem hid hwithout]
      exact ReflOrd.isLE_rfl

/-- The keys that only the last user has. -/
theorem mem_lastUserKeys {lastUserId curUserId : Int32} :
    k ∈ Manager.lastUserKeys lastUserId curUserId profileMap ↔
      k ∈ Manager.entriesWithoutUID lastUserId profileMap ∧
        k ∉ Manager.entriesWithoutUID curUserId profileMap := by
  rw [Manager.lastUserKeys, List.mem_filter, ExtTreeMap.mem_keys, decide_eq_true_eq]

/-- The keys of no user are not more than the keys of the user. -/
theorem size_entriesWithoutUID_le (userId : Int32) (profileMap : Entries) :
    (Manager.entriesWithoutUID userId profileMap).size ≤ (userEntries userId profileMap).size :=
  size_collect_le _ _

theorem length_lastUserKeys_le (lastUserId curUserId : Int32) (profileMap : Entries) :
    (Manager.lastUserKeys lastUserId curUserId profileMap).length ≤
      (Manager.entriesWithoutUID lastUserId profileMap).size := by
  rw [Manager.lastUserKeys, ← ExtTreeMap.length_keys]
  exact List.length_filter_le _ _

end WithoutUID

/-! ## The batches of the change -/

section Batches

variable {device : LocalDevice} {stored : Bool} {m m' : Manager}

/-- The copied values are found, and elsewhere the old ones. -/
theorem saveBatchByKeys_ok {entries : Entries}
    (h : m.saveBatchByKeys device stored entries = .ok m') :
    m' = { m with store := m'.store } ∧
      ∀ key, m'.store.valueAt key = entries[key]?.or (m.store.valueAt key) := by
  rw [Manager.saveBatchByKeys] at h
  split at h
  · rename_i hempty
    obtain rfl := Except.ok.inj h
    refine ⟨rfl, fun key => ?_⟩
    rw [ExtTreeMap.isEmpty_iff.mp hempty, ExtTreeMap.getElem?_empty, Option.none_or]
  · split at h
    · cases h
    · rename_i store hput
      obtain rfl := Except.ok.inj h
      exact ⟨rfl, KvStore.valueAt_putBatch hput⟩

theorem saveBatchByKeys_isOk (device : LocalDevice) {entries : Entries}
    (hsize : entries.size ≤ MAX_PROFILE_SIZE) (m : Manager) :
    ∃ m', m.saveBatchByKeys device true entries = .ok m' := by
  rw [Manager.saveBatchByKeys]
  split
  · exact ⟨_, rfl⟩
  · rename_i hempty
    obtain ⟨store, hput⟩ := KvStore.putBatch_isOk (mt ExtTreeMap.isEmpty_iff.mpr hempty) hsize
      device.uuid m.store
    rw [hput]
    exact ⟨_, rfl⟩

/-- The keys are gone, and all others are kept. -/
theorem deleteBatchByKeys_ok {keys : List Text} (h : m.deleteBatchByKeys keys = .ok m') :
    m' = { m with store := m'.store } ∧
      ∀ key, m'.store.valueAt key = if key ∈ keys then none else m.store.valueAt key := by
  rw [Manager.deleteBatchByKeys] at h
  split at h
  · rename_i hnil
    obtain rfl := Except.ok.inj h
    refine ⟨rfl, fun key => ?_⟩
    rw [hnil, if_neg List.not_mem_nil]
  · split at h
    · cases h
    · rename_i store hdelete
      obtain rfl := Except.ok.inj h
      exact ⟨rfl, KvStore.valueAt_deleteBatch hdelete⟩

theorem deleteBatchByKeys_isOk {keys : List Text} (hsize : keys.length ≤ MAX_PROFILE_SIZE)
    (m : Manager) : ∃ m', m.deleteBatchByKeys keys = .ok m' := by
  rw [Manager.deleteBatchByKeys]
  split
  · exact ⟨_, rfl⟩
  · rename_i hne
    obtain ⟨store, hdelete⟩ := KvStore.deleteBatch_isOk hne hsize m.store
    rw [hdelete]
    exact ⟨_, rfl⟩

/-- A change whose scan and batches succeed copies the entries of the current user to the keys of
no user and deletes those that only the last user has. -/
theorem onUserChange_eq {lastUserId curUserId : Int32} {profileMap : Entries}
    (huser : lastUserId ≠ curUserId)
    (hscan : Manager.getProfilesByKeyPrefix device.udid m.store = .ok profileMap)
    (hsave : (Manager.entriesWithoutUID curUserId profileMap).size ≤ MAX_PROFILE_SIZE)
    (hdelete : (Manager.lastUserKeys lastUserId curUserId profileMap).length ≤ MAX_PROFILE_SIZE) :
    ∃ store, m.onUserChange device true lastUserId curUserId = { m with store } ∧
      ∀ key, store.valueAt key = (Manager.entriesWithoutUID curUserId profileMap)[key]?.or
        (if key ∈ Manager.lastUserKeys lastUserId curUserId profileMap then none
          else m.store.valueAt key) := by
  obtain ⟨hudid, -⟩ := getProfilesByKeyPrefix_eq_ok_iff.mp hscan
  obtain ⟨m₁, hm₁⟩ := saveBatchByKeys_isOk device hsave m
  obtain ⟨m₂, hm₂⟩ := deleteBatchByKeys_isOk hdelete m₁
  obtain ⟨heq₁, hvalue₁⟩ := saveBatchByKeys_ok hm₁
  obtain ⟨heq₂, hvalue₂⟩ := deleteBatchByKeys_ok hm₂
  have hempty := not_isEmpty_getProfilesByKeyPrefix hscan
  refine ⟨m₂.store, ?_, fun key => ?_⟩
  · rw [Manager.onUserChange, if_neg huser, if_neg hudid, hscan]
    simp only [hempty, Bool.false_eq_true, if_false, hm₁, hm₂]
    rw [heq₂, heq₁]
  · rw [hvalue₂, hvalue₁]
    by_cases hkey : key ∈ Manager.lastUserKeys lastUserId curUserId profileMap
    · have hnone := (mem_lastUserKeys.mp hkey).2
      rw [ExtTreeMap.mem_iff_isSome_getElem?, Option.not_isSome_iff_eq_none] at hnone
      rw [if_pos hkey, if_pos hkey, hnone]
      rfl
    · rw [if_neg hkey, if_neg hkey]

end Batches

end DeviceProfile
