import DeviceProfile.Cache.Online
import DeviceProfile.Profile.UserChange

/-!
# The repair when a device comes online

The store holds entries of several devices, under keys that name a device. When a device comes
online, entries under keys of this device that another device wrote are deleted, and then
entries under keys of the online device, as far as its system calls for it.
-/

namespace DeviceProfile

open Library Std

/-- The services whose data a device of another system may not leave here. -/
def NON_OHBASE_NEED_CLEAR_SVR_NAMES : List Text :=
  [("collaborationFwk" : Text), ("Nfc_Publish_Br_Mac_Address" : Text)]

/-- The key is of a service that is deleted for a device of another system. -/
def IsNeedClear (key : Text) : Prop :=
  let res := (splitString key).getD []
  3 ≤ res.length ∧ (OH_PROFILE_SUFFIX <:+ res[2]?.getD [] ∨
    (res.head? = some SVR_PREFIX ∨ res.head? = some CHAR_PREFIX) ∧
      res[2]?.getD [] ∈ NON_OHBASE_NEED_CLEAR_SVR_NAMES)

instance (key : Text) : Decidable (IsNeedClear key) :=
  inferInstanceAs (Decidable (_ ∧ (_ ∨ (_ ∨ _) ∧ _)))

namespace Manager

/-- The entries that one device wrote. -/
def getProfilesByOwner (uuid : Text) (m : Manager) : Except ManagerError Entries :=
  if uuid = [] then .error .invalidParams
  else
    match m.store.getDeviceEntries uuid with
    | .error _ => .error .getDeviceEntriesFail
    | .ok values => .ok values

/-- Delete the keys that a repair has found; a failure is only noted. -/
def deleteFound (delKeys : List Text) (m : Manager) : Manager :=
  if delKeys = [] then m
  else
    match m.deleteBatchByKeys delKeys with
    | .error _ => m
    | .ok m => m

/-- The keys of a scan that are not among those of a device. -/
def foreignKeys (localDataByOwner localDataByKeyPrefix : Entries) : List Text :=
  localDataByKeyPrefix.keys.filter (· ∉ localDataByOwner)

/-- Deletes what bears the udid of this device but was written by another. -/
def fixLocalData (localUdid : Text) (localDataByOwner : Entries) (m : Manager) : Manager :=
  if localDataByOwner.isEmpty then m
  else
    match getProfilesByKeyPrefix localUdid m.store with
    | .error _ => m
    | .ok localDataByKeyPrefix =>
      if localDataByKeyPrefix.isEmpty then m
      else m.deleteFound (foreignKeys localDataByOwner localDataByKeyPrefix)

/-- The keys of a scan that are deleted for a device of another system. -/
def clearedKeys (remoteDataByKeyPrefix : Entries) : List Text :=
  remoteDataByKeyPrefix.keys.filter fun key => IsNeedClear key

/-- A peer of another system: its entries under the listed services are deleted. -/
def fixRemoteDataWhenPeerIsNonOH (remoteUdid : Text) (m : Manager) : Manager :=
  match getProfilesByKeyPrefix remoteUdid m.store with
  | .error _ => m
  | .ok remoteDataByKeyPrefix => m.deleteFound (clearedKeys remoteDataByKeyPrefix)

/-- The keys that contain the id of a device anywhere. -/
def containingKeys (remoteUdid : Text) (localDataByOwner : Entries) : List Text :=
  localDataByOwner.keys.filter fun key => remoteUdid <:+: key

/-- A peer of this system: what this device wrote under a key that contains the peer's udid is
deleted. -/
def fixRemoteDataWhenPeerIsOHBase (remoteUdid : Text) (localDataByOwner : Entries)
    (m : Manager) : Manager :=
  if containingKeys remoteUdid localDataByOwner = [] then m
  else
    match m.store.deleteBatch (containingKeys remoteUdid localDataByOwner) with
    | .error _ => m
    | .ok store => { m with store }

/-- The repair when a device comes online. It reads what this device wrote once, then cleans up
after itself and after the peer. -/
def fixDataOnDeviceOnline (device : LocalDevice) (deviceInfo : TrustedDeviceInfo) (m : Manager) :
    Manager :=
  if deviceInfo.networkId = [] then m
  else if device.udid = [] ∨ device.uuid = [] then m
  else
    match m.getProfilesByOwner device.uuid with
    | .error _ => m
    | .ok localDataByOwner =>
      let m := m.fixLocalData device.udid localDataByOwner
      if deviceInfo.udid = [] then m
      else if deviceInfo.osType ≠ OHOS_TYPE then m.fixRemoteDataWhenPeerIsNonOH deviceInfo.udid
      else m.fixRemoteDataWhenPeerIsOHBase deviceInfo.udid localDataByOwner

end Manager

/-! ## The segment of the device -/

/-- The segment of a key that names a device. -/
def deviceSegment (key : Text) : Option Text := (splitString key).bind fun res => res[1]?

/-- The device of a key is the first segment of its path. -/
theorem deviceSegment_render {k : DbKey} : deviceSegment k.render = k.path.head? := by
  have harity : 0 < k.kind.arity := by cases k.kind <;> decide
  rw [deviceSegment, DbKey.splitString_render, Option.bind_some,
    DbKey.getElem?_segments_path harity, List.head?_eq_getElem?]

theorem infix_joinString {strs : List Text} {str : Text} (h : str ∈ strs) :
    str <:+: joinString strs := by
  induction strs with
  | nil => cases h
  | cons first rest ih =>
    cases rest with
    | nil =>
      rw [List.mem_singleton.mp h, joinString, List.intercalate_singleton]
    | cons second rest =>
      rw [joinString, List.intercalate_cons_cons]
      rcases List.mem_cons.mp h with rfl | h
      · rw [List.append_assoc]
        exact (List.prefix_append _ _).isInfix
      · exact (ih h).trans (List.suffix_append _ _).isInfix

/-- A key contains its segments. -/
theorem infix_of_deviceSegment {key udid : Text} (h : deviceSegment key = some udid) :
    udid <:+: key ∧ key ≠ [] := by
  rw [deviceSegment, splitString] at h
  split at h
  · cases h
  · rename_i hne
    have hmem := List.mem_of_getElem? h
    have hpart := infix_joinString hmem
    rw [joinString, SEPARATOR, List.intercalate_splitOn] at hpart
    exact ⟨hpart, hne⟩

/-! ## What each repair deletes -/

namespace Manager

variable {device : LocalDevice} {m : Manager} {table : Entries}

/-- The keys that are found are deleted, unless there are too many. -/
theorem getElem?_deleteFound (delKeys : List Text) (m : Manager) (key : Text) :
    (m.deleteFound delKeys).store[key]? =
      if delKeys.length ≤ MAX_PROFILE_SIZE ∧ key ∈ delKeys then none else m.store[key]? := by
  unfold deleteFound
  split
  · rename_i hnil
    rw [hnil, if_neg fun h => List.not_mem_nil h.2]
  · rename_i hne
    rw [deleteBatchByKeys, if_neg hne]
    by_cases hsize : delKeys.length ≤ MAX_PROFILE_SIZE
    · obtain ⟨store, hdelete⟩ := KvStore.deleteBatch_isOk hne hsize m.store
      simp only [hdelete, hsize, true_and]
      exact KvStore.getElem?_deleteBatch hdelete key
    · have hrefused : m.store.deleteBatch delKeys = .error .invalidParams :=
        if_pos (.inr (Nat.not_le.mp hsize))
      simp only [hrefused, hsize, false_and, if_false]

/-- Deleting a batch directly has the same effect. -/
theorem fixRemoteDataWhenPeerIsOHBase_eq (remoteUdid : Text) (table : Entries) (m : Manager) :
    m.fixRemoteDataWhenPeerIsOHBase remoteUdid table =
      m.deleteFound (containingKeys remoteUdid table) := by
  unfold fixRemoteDataWhenPeerIsOHBase deleteFound
  split
  · rfl
  · rename_i hne
    rw [deleteBatchByKeys, if_neg hne]
    cases m.store.deleteBatch (containingKeys remoteUdid table) <;> rfl

end Manager

namespace KvStore

variable (uuid udid : Text) (s : KvStore)

/-- The device that wrote the entry under a key. -/
def writerAt (key : Text) : Option Text := s[key]?.map Cell.writer

/-- The entries that a device has written. -/
def ownEntries : KvStore := s.filter fun key cell => cell.writer = uuid ∧ key ≠ []

/-- The entries under keys that start like those of a device, by others. -/
def foreignEntries : KvStore :=
  s.filter fun key cell => IsKeyOf udid key ∧ cell.writer ≠ uuid

/-- The entries under keys that start like those of a device, of services that are deleted. -/
def clearedEntries : KvStore := s.filter fun key _ => IsKeyOf udid key ∧ IsNeedClear key

/-- The entries that a device has written under keys that contain an id. -/
def containingEntries : KvStore := (s.ownEntries uuid).filter fun key _ => udid <:+: key

/-- The entries of others are deleted: the device has written something, the queries find
entries, and there are not too many to delete. -/
def IsLocalFixed : Prop :=
  ¬(s.ownEntries uuid).isEmpty ∧ IsScanAccepted udid s ∧
    (s.foreignEntries uuid udid).size ≤ MAX_PROFILE_SIZE

instance : Decidable (s.IsLocalFixed uuid udid) := inferInstanceAs (Decidable (_ ∧ _))

/-- The store without the entries of others under keys of the device. -/
def withoutForeign : KvStore :=
  if s.IsLocalFixed uuid udid then
    s.filter fun key cell => ¬(IsKeyOf udid key ∧ cell.writer ≠ uuid)
  else s

variable {uuid udid s} {table : Entries} {key : Text}

theorem mem_iff_writerAt : key ∈ s ↔ ∃ writer, s.writerAt key = some writer := by
  rw [writerAt, ExtTreeMap.mem_iff_isSome_getElem?, ← Option.isSome_map (f := Cell.writer),
    Option.isSome_iff_exists]

/-- What a filter leaves in the store. -/
theorem mem_filter_iff {p : Text → Cell → Prop} [∀ key cell, Decidable (p key cell)] :
    key ∈ s.filter (fun key cell => p key cell) ↔ ∃ cell, s[key]? = some cell ∧ p key cell := by
  rw [mem_iff_exists_getElem?, ExtTreeMap.getElem?_filter']
  simp only [Option.filter_eq_some_iff, decide_eq_true_eq]

theorem mem_ownEntries : key ∈ s.ownEntries uuid ↔ s.writerAt key = some uuid ∧ key ≠ [] := by
  rw [ownEntries, mem_filter_iff, writerAt, Option.map_eq_some_iff]
  simp only [← and_assoc, exists_and_right]

theorem mem_foreignEntries :
    key ∈ s.foreignEntries uuid udid ↔ key ∈ s ∧ IsKeyOf udid key ∧ s.writerAt key ≠ some uuid := by
  rw [foreignEntries, mem_filter_iff, ExtTreeMap.mem_iff_isSome_getElem?, writerAt]
  cases s[key]? with
  | none => simp
  | some cell => simp

theorem mem_clearedEntries :
    key ∈ s.clearedEntries udid ↔ key ∈ s ∧ IsKeyOf udid key ∧ IsNeedClear key := by
  rw [clearedEntries, mem_filter_iff, exists_and_right, mem_iff_exists_getElem?]

theorem mem_containingEntries :
    key ∈ s.containingEntries uuid udid ↔ key ∈ s.ownEntries uuid ∧ udid <:+: key := by
  rw [containingEntries, mem_filter_iff, exists_and_right, ← mem_iff_exists_getElem?]

/-- The table of a device has the keys that it has written. -/
theorem mem_getDeviceEntries (h : s.getDeviceEntries uuid = .ok table) :
    key ∈ table ↔ key ∈ s.ownEntries uuid := by
  rw [mem_iff_exists_getElem?, mem_ownEntries, writerAt, Option.map_eq_some_iff]
  simp only [getElem?_getDeviceEntries h, exists_and_right]
  refine and_congr_left fun _ => ⟨fun ⟨value, hcell⟩ => ⟨_, hcell, rfl⟩, ?_⟩
  rintro ⟨⟨value, writer⟩, hcell, rfl⟩
  exact ⟨value, hcell⟩

/-- Without the entries of others all entries of the device are still there. -/
theorem getElem?_withoutForeign :
    (s.withoutForeign uuid udid)[key]? =
      if s.IsLocalFixed uuid udid ∧ key ∈ s.foreignEntries uuid udid then none else s[key]? := by
  rw [withoutForeign]
  by_cases hfixed : s.IsLocalFixed uuid udid
  · simp only [hfixed, if_true, true_and, ExtTreeMap.getElem?_filter']
    cases hcell : s[key]? with
    | none => simp
    | some cell =>
      have hforeign : key ∈ s.foreignEntries uuid udid ↔
          IsKeyOf udid key ∧ cell.writer ≠ uuid := by
        rw [foreignEntries, mem_filter_iff, hcell]
        simp
      by_cases hkey : key ∈ s.foreignEntries uuid udid
      · simp [hkey, hforeign.mp hkey]
      · have hkept := mt hforeign.mpr hkey
        simp only [hkey, hkept, not_false_eq_true, decide_true, Option.filter_some, if_true,
          if_false]
  · simp only [hfixed, if_false, false_and]

end KvStore

namespace Manager

variable {device : LocalDevice} {m : Manager} {uuid udid : Text} {table scan : Entries}

/-- The keys of a scan that are not in the table of the device are those of others. -/
theorem mem_foreignKeys (htable : m.store.getDeviceEntries uuid = .ok table)
    (hscan : getProfilesByKeyPrefix udid m.store = .ok scan) {key : Text} :
    key ∈ foreignKeys table scan ↔ key ∈ m.store.foreignEntries uuid udid := by
  rw [foreignKeys, List.mem_filter, ExtTreeMap.mem_keys, decide_eq_true_eq,
    KvStore.mem_getDeviceEntries htable, KvStore.mem_ownEntries, mem_getProfilesByKeyPrefix hscan,
    KvStore.mem_foreignEntries]
  constructor
  · rintro ⟨⟨hmem, hkey⟩, hother⟩
    exact ⟨hmem, hkey, fun hwriter => hother ⟨hwriter, hkey.ne_nil⟩⟩
  · rintro ⟨hmem, hkey, hwriter⟩
    exact ⟨⟨hmem, hkey⟩, fun hown => hwriter hown.1⟩

/-- A scan that finds nothing leaves nothing to delete. -/
theorem fixLocalData_eq (hempty : ¬table.isEmpty)
    (hscan : getProfilesByKeyPrefix udid m.store = .ok scan) :
    m.fixLocalData udid table = m.deleteFound (foreignKeys table scan) := by
  simp only [fixLocalData, hempty, hscan, Bool.false_eq_true, if_false]
  split
  · rename_i hnothing
    have hnil : foreignKeys table scan = [] := by
      rw [ExtTreeMap.isEmpty_iff.mp hnothing]
      rfl
    rw [hnil, deleteFound, if_pos rfl]
  · rfl

/-- The repair of the own entries leaves the store without those of others. -/
theorem store_fixLocalData (hudid : udid ≠ [])
    (htable : m.store.getDeviceEntries uuid = .ok table) :
    (m.fixLocalData udid table).store = m.store.withoutForeign uuid udid := by
  have hfixed : m.store.IsLocalFixed uuid udid ↔ ¬table.isEmpty ∧ IsScanAccepted udid m.store ∧
      (m.store.foreignEntries uuid udid).size ≤ MAX_PROFILE_SIZE := by
    simp only [KvStore.IsLocalFixed, ExtTreeMap.isEmpty_iff,
      ExtTreeMap.eq_empty_iff_forall_not_mem, KvStore.mem_getDeviceEntries htable]
  refine ExtTreeMap.ext_getElem? fun key => ?_
  rw [KvStore.getElem?_withoutForeign]
  by_cases hempty : table.isEmpty
  · simp only [fixLocalData, hfixed, hempty, if_true, not_true_eq_false, false_and, if_false]
  by_cases haccepted : IsScanAccepted udid m.store
  · obtain ⟨scan, hscan⟩ : ∃ scan, getProfilesByKeyPrefix udid m.store = .ok scan :=
      ⟨_, getProfilesByKeyPrefix_eq_ok_iff.mpr ⟨hudid, haccepted, rfl⟩⟩
    have hmem : ∀ key, key ∈ foreignKeys table scan ↔ key ∈ m.store.foreignEntries uuid udid :=
      fun key => mem_foreignKeys htable hscan
    have hlength : (foreignKeys table scan).length = (m.store.foreignEntries uuid udid).size :=
      length_filter_keys fun key => by
        rw [← hmem, foreignKeys, List.mem_filter, ExtTreeMap.mem_keys]
    rw [fixLocalData_eq hempty hscan, getElem?_deleteFound]
    simp only [hmem, hlength, hfixed, hempty, haccepted, Bool.false_eq_true, not_false_eq_true,
      true_and]
  · obtain ⟨e, hscan⟩ := getProfilesByKeyPrefix_of_not_isScanAccepted haccepted
    simp only [fixLocalData, hscan, hfixed, hempty, haccepted, Bool.false_eq_true, if_false,
      false_and, and_false]

/-- What the repair for a peer of another system deletes. -/
theorem getElem?_fixRemoteDataWhenPeerIsNonOH (hudid : udid ≠ []) (m : Manager) (key : Text) :
    (m.fixRemoteDataWhenPeerIsNonOH udid).store[key]? =
      if IsScanAccepted udid m.store ∧ (m.store.clearedEntries udid).size ≤ MAX_PROFILE_SIZE ∧
          key ∈ m.store.clearedEntries udid then none
      else m.store[key]? := by
  by_cases haccepted : IsScanAccepted udid m.store
  · obtain ⟨scan, hscan⟩ : ∃ scan, getProfilesByKeyPrefix udid m.store = .ok scan :=
      ⟨_, getProfilesByKeyPrefix_eq_ok_iff.mpr ⟨hudid, haccepted, rfl⟩⟩
    have hmem : ∀ key, key ∈ clearedKeys scan ↔ key ∈ m.store.clearedEntries udid := by
      intro key
      rw [clearedKeys, List.mem_filter, ExtTreeMap.mem_keys, decide_eq_true_eq,
        mem_getProfilesByKeyPrefix hscan, KvStore.mem_clearedEntries, and_assoc]
    have hlength : (clearedKeys scan).length = (m.store.clearedEntries udid).size :=
      length_filter_keys fun key => by
        rw [← hmem, clearedKeys, List.mem_filter, ExtTreeMap.mem_keys]
    simp only [fixRemoteDataWhenPeerIsNonOH, hscan, getElem?_deleteFound, hmem, hlength,
      haccepted, true_and]
  · obtain ⟨e, hscan⟩ := getProfilesByKeyPrefix_of_not_isScanAccepted haccepted
    simp only [fixRemoteDataWhenPeerIsNonOH, hscan, haccepted, if_false, false_and]

/-- What the repair for a peer of the same system deletes. -/
theorem getElem?_fixRemoteDataWhenPeerIsOHBase {s : KvStore}
    (htable : s.getDeviceEntries uuid = .ok table) (udid : Text) (m : Manager) (key : Text) :
    (m.fixRemoteDataWhenPeerIsOHBase udid table).store[key]? =
      if (s.containingEntries uuid udid).size ≤ MAX_PROFILE_SIZE ∧
          key ∈ s.containingEntries uuid udid then none
      else m.store[key]? := by
  have hmem : ∀ key, key ∈ containingKeys udid table ↔ key ∈ s.containingEntries uuid udid := by
    intro key
    rw [containingKeys, List.mem_filter, ExtTreeMap.mem_keys, decide_eq_true_eq,
      KvStore.mem_getDeviceEntries htable, KvStore.mem_containingEntries]
  have hlength : (containingKeys udid table).length = (s.containingEntries uuid udid).size :=
    length_filter_keys fun key => by
      rw [← hmem, containingKeys, List.mem_filter, ExtTreeMap.mem_keys]
  simp only [fixRemoteDataWhenPeerIsOHBase_eq, getElem?_deleteFound, hmem, hlength]

end Manager

/-! ## The entries of this device -/

section Own

variable (device : LocalDevice) (deviceInfo : TrustedDeviceInfo) (s : KvStore)

/-- This device has written the entry, under a key of its own. -/
def IsOwn (key : Text) : Prop :=
  s.writerAt key = some device.uuid ∧ deviceSegment key = some device.udid

instance (key : Text) : Decidable (IsOwn device s key) := inferInstanceAs (Decidable (_ ∧ _))

/-- The ids are known, so that the entries for the peer are repaired. -/
def IsPeerRepaired : Prop :=
  deviceInfo.networkId ≠ [] ∧ (device.udid ≠ [] ∧ device.uuid ≠ []) ∧ deviceInfo.udid ≠ []

instance : Decidable (IsPeerRepaired device deviceInfo) := inferInstanceAs (Decidable (_ ∧ _))

/-- An entry that this device has written is deleted in the repair for the peer: the key looks
like one of the peer, the queries succeed, and there are not too many entries to delete. -/
def IsClearedForPeer (key : Text) : Prop :=
  if deviceInfo.osType ≠ OHOS_TYPE then
    IsScanAccepted deviceInfo.udid (s.withoutForeign device.uuid device.udid) ∧
      ((s.withoutForeign device.uuid device.udid).clearedEntries deviceInfo.udid).size ≤
        MAX_PROFILE_SIZE ∧
      IsKeyOf deviceInfo.udid key ∧ IsNeedClear key
  else
    (s.containingEntries device.uuid deviceInfo.udid).size ≤ MAX_PROFILE_SIZE ∧
      deviceInfo.udid <:+: key

instance (key : Text) : Decidable (IsClearedForPeer device deviceInfo s key) :=
  inferInstanceAs (Decidable (if _ ≠ _ then _ ∧ _ ∧ _ ∧ _ else _ ∧ _))

/-- The keys of the device's entries that contain the id of the peer are those of the peer, or
there are too many to delete them and none is of the peer. -/
def OnlyPeerKeysContain (remoteUdid : Text) : Prop :=
  if (s.containingEntries device.uuid remoteUdid).size ≤ MAX_PROFILE_SIZE then
    ∀ key ∈ s.containingEntries device.uuid remoteUdid, deviceSegment key = some remoteUdid
  else ∀ key ∈ s.containingEntries device.uuid remoteUdid, deviceSegment key ≠ some remoteUdid

variable {device deviceInfo s} {key : Text}

theorem IsOwn.mem_ownEntries (h : IsOwn device s key) : key ∈ s.ownEntries device.uuid :=
  KvStore.mem_ownEntries.mpr ⟨h.1, (infix_of_deviceSegment h.2).2⟩

theorem IsOwn.mem (h : IsOwn device s key) : key ∈ s := KvStore.mem_iff_writerAt.mpr ⟨_, h.1⟩

/-- The own entries are not those of others. -/
theorem IsOwn.getElem?_withoutForeign (h : IsOwn device s key) (udid : Text) :
    (s.withoutForeign device.uuid udid)[key]? = s[key]? := by
  rw [KvStore.getElem?_withoutForeign]
  exact if_neg fun hforeign => (KvStore.mem_foreignEntries.mp hforeign.2).2.2 h.1

/-- Without the ids only the own entries are repaired, or none. -/
theorem fixDataOnDeviceOnline_of_not_isPeerRepaired {m : Manager}
    (h : ¬IsPeerRepaired device deviceInfo) :
    m.fixDataOnDeviceOnline device deviceInfo = m ∨ device.udid ≠ [] ∧
      ∃ table, m.store.getDeviceEntries device.uuid = .ok table ∧
        m.fixDataOnDeviceOnline device deviceInfo = m.fixLocalData device.udid table := by
  unfold Manager.fixDataOnDeviceOnline
  by_cases hnetworkId : deviceInfo.networkId = []
  · exact .inl (if_pos hnetworkId)
  by_cases hlocal : device.udid = [] ∨ device.uuid = []
  · rw [if_neg hnetworkId, if_pos hlocal]
    exact .inl rfl
  have hremote : deviceInfo.udid = [] := by
    by_contra hremote
    exact h ⟨hnetworkId, not_or.mp hlocal, hremote⟩
  rw [if_neg hnetworkId, if_neg hlocal, Manager.getProfilesByOwner,
    if_neg (not_or.mp hlocal).2]
  cases htable : m.store.getDeviceEntries device.uuid with
  | error e => exact .inl rfl
  | ok table => exact .inr ⟨(not_or.mp hlocal).1, table, rfl, if_pos hremote⟩

/-- With the ids the entries for the peer are repaired after the own ones. -/
theorem fixDataOnDeviceOnline_of_isPeerRepaired {m : Manager}
    (h : IsPeerRepaired device deviceInfo) :
    ∃ table, m.store.getDeviceEntries device.uuid = .ok table ∧
      m.fixDataOnDeviceOnline device deviceInfo =
        if deviceInfo.osType ≠ OHOS_TYPE then
          (m.fixLocalData device.udid table).fixRemoteDataWhenPeerIsNonOH deviceInfo.udid
        else
          (m.fixLocalData device.udid table).fixRemoteDataWhenPeerIsOHBase deviceInfo.udid
            table := by
  obtain ⟨hnetworkId, ⟨hudid, huuid⟩, hremote⟩ := h
  have htable : m.store.getDeviceEntries device.uuid = .ok _ := if_neg huuid
  refine ⟨_, htable, ?_⟩
  rw [Manager.fixDataOnDeviceOnline, if_neg hnetworkId, if_neg (not_or.mpr ⟨hudid, huuid⟩),
    Manager.getProfilesByOwner, if_neg huuid, htable]
  exact if_neg hremote

/-- What the repair does to an own entry. -/
theorem IsOwn.getElem?_fixDataOnDeviceOnline {m : Manager} (h : IsOwn device m.store key) :
    (m.fixDataOnDeviceOnline device deviceInfo).store[key]? =
      if IsPeerRepaired device deviceInfo ∧ IsClearedForPeer device deviceInfo m.store key then
        none
      else m.store[key]? := by
  have hkept := h.getElem?_withoutForeign device.udid
  by_cases hrepaired : IsPeerRepaired device deviceInfo
  · obtain ⟨table, htable, hfix⟩ :=
      fixDataOnDeviceOnline_of_isPeerRepaired (m := m) hrepaired
    have hudid : device.udid ≠ [] := hrepaired.2.1.1
    have hremote : deviceInfo.udid ≠ [] := hrepaired.2.2
    have hmem : key ∈ m.store.withoutForeign device.uuid device.udid := by
      rw [ExtTreeMap.mem_iff_isSome_getElem?, hkept, ← ExtTreeMap.mem_iff_isSome_getElem?]
      exact h.mem
    rw [hfix]
    by_cases hosType : deviceInfo.osType ≠ OHOS_TYPE
    · rw [if_pos hosType, Manager.getElem?_fixRemoteDataWhenPeerIsNonOH hremote,
        Manager.store_fixLocalData hudid htable, hkept]
      simp only [hrepaired, IsClearedForPeer, if_pos hosType, KvStore.mem_clearedEntries, hmem,
        true_and]
    · rw [if_neg hosType, Manager.getElem?_fixRemoteDataWhenPeerIsOHBase htable,
        Manager.store_fixLocalData hudid htable, hkept]
      simp only [hrepaired, IsClearedForPeer, if_neg hosType, KvStore.mem_containingEntries,
        h.mem_ownEntries, true_and]
  · have hif : ¬(IsPeerRepaired device deviceInfo ∧
        IsClearedForPeer device deviceInfo m.store key) := fun h => hrepaired h.1
    rw [if_neg hif]
    rcases fixDataOnDeviceOnline_of_not_isPeerRepaired (m := m) hrepaired with
      hfix | ⟨hudid, table, htable, hfix⟩
    · rw [hfix]
    · rw [hfix, Manager.store_fixLocalData hudid htable, hkept]

/-- The repair for a peer of the same system deletes exactly the entries under its keys when only
these contain its id. -/
theorem deletes_exactly_peer_iff {m : Manager} {table : Entries}
    (htable : m.store.getDeviceEntries device.uuid = .ok table) (remoteUdid : Text) :
    (∀ key, (m.fixRemoteDataWhenPeerIsOHBase remoteUdid table).store[key]? =
        if m.store.writerAt key = some device.uuid ∧ deviceSegment key = some remoteUdid then none
        else m.store[key]?) ↔
      OnlyPeerKeysContain device m.store remoteUdid := by
  have hpeer : ∀ key, m.store.writerAt key = some device.uuid ∧
      deviceSegment key = some remoteUdid ↔
        key ∈ m.store.containingEntries device.uuid remoteUdid ∧
          deviceSegment key = some remoteUdid := by
    intro key
    rw [KvStore.mem_containingEntries, KvStore.mem_ownEntries]
    refine and_congr_left fun hsegment => ?_
    obtain ⟨hpart, hne⟩ := infix_of_deviceSegment hsegment
    rw [and_iff_left hpart, and_iff_left hne]
  have hsome : ∀ key ∈ m.store.containingEntries device.uuid remoteUdid, m.store[key]? ≠ none := by
    intro key hkey hnone
    obtain ⟨hwriter, -⟩ := KvStore.mem_ownEntries.mp (KvStore.mem_containingEntries.mp hkey).1
    rw [KvStore.writerAt, hnone] at hwriter
    cases hwriter
  simp only [Manager.getElem?_fixRemoteDataWhenPeerIsOHBase htable, hpeer, OnlyPeerKeysContain]
  by_cases hsize : (m.store.containingEntries device.uuid remoteUdid).size ≤ MAX_PROFILE_SIZE
  · simp only [hsize, true_and, if_true]
    constructor
    · intro h key hkey
      by_contra hsegment
      have hgone := h key
      rw [if_pos hkey, if_neg fun hboth => hsegment hboth.2] at hgone
      exact hsome key hkey hgone.symm
    · intro h key
      by_cases hkey : key ∈ m.store.containingEntries device.uuid remoteUdid
      · rw [if_pos hkey, if_pos ⟨hkey, h key hkey⟩]
      · rw [if_neg hkey, if_neg fun hboth => hkey hboth.1]
  · simp only [hsize, false_and, if_false]
    constructor
    · intro h key hkey hsegment
      have hgone := h key
      rw [if_pos ⟨hkey, hsegment⟩] at hgone
      exact hsome key hkey hgone
    · intro h key
      exact (if_neg fun hboth => h key hboth.1 hboth.2).symm

/-- The repair spares the own entries exactly when none of them is deleted for the peer, and for a
peer of the same system exactly the entries under its keys are deleted when only these contain its
id. -/
theorem repair_spares_own_iff (device : LocalDevice) (deviceInfo : TrustedDeviceInfo)
    (m : Manager) :
    ((∀ key, IsOwn device m.store key →
        (m.fixDataOnDeviceOnline device deviceInfo).store[key]? = m.store[key]?) ↔
      (IsPeerRepaired device deviceInfo → ∀ key, IsOwn device m.store key →
        ¬IsClearedForPeer device deviceInfo m.store key)) ∧
    ∀ (remoteUdid : Text) (table : Entries), m.store.getDeviceEntries device.uuid = .ok table →
      ((∀ key, (m.fixRemoteDataWhenPeerIsOHBase remoteUdid table).store[key]? =
          if m.store.writerAt key = some device.uuid ∧ deviceSegment key = some remoteUdid then none
          else m.store[key]?) ↔
        OnlyPeerKeysContain device m.store remoteUdid) := by
  constructor
  · constructor
    · intro h hrepaired key hkey hcleared
      have hgone := h key hkey
      rw [hkey.getElem?_fixDataOnDeviceOnline, if_pos ⟨hrepaired, hcleared⟩] at hgone
      have hmem := ExtTreeMap.mem_iff_isSome_getElem?.mp hkey.mem
      rw [← hgone] at hmem
      cases hmem
    · intro h key hkey
      rw [hkey.getElem?_fixDataOnDeviceOnline]
      exact if_neg fun hcleared => h hcleared.1 key hkey hcleared.2
  · exact fun remoteUdid table htable => deletes_exactly_peer_iff htable remoteUdid

end Own

/-! ## A service with the id of a peer -/

/-- A device of the same system. -/
def samplePeer : TrustedDeviceInfo :=
  { networkId := ("network" : Text), osType := OHOS_TYPE, udid := ("peer" : Text) }

/-- This device has stored a service that has the id of another device as its name. -/
def peerNamedManager : Manager :=
  { store := (∅ : KvStore).insert ("svr#udid#peer#serviceName" : Text)
      ⟨("peer" : Text), ("uuid" : Text)⟩ }

/-- The own entry is deleted when the other device comes online. -/
theorem not_repair_spares_peerNamed :
    (IsOwn sampleDevice peerNamedManager.store ("svr#udid#peer#serviceName" : Text) ∧
      ("svr#udid#peer#serviceName" : Text) ∉
        (peerNamedManager.fixDataOnDeviceOnline sampleDevice samplePeer).store) ∧
    ∃ table, peerNamedManager.store.getDeviceEntries sampleDevice.uuid = .ok table ∧
      deviceSegment ("svr#udid#peer#serviceName" : Text) ≠ some samplePeer.udid ∧
      ("svr#udid#peer#serviceName" : Text) ∉
        (peerNamedManager.fixRemoteDataWhenPeerIsOHBase samplePeer.udid table).store := by
  refine ⟨by decide +kernel, _, rfl, by decide +kernel, by decide +kernel⟩

/-- An own key that names the peer is deleted when the peer comes online. -/
theorem repair_spares_peerNamed_iff :
    ((∀ key, IsOwn sampleDevice peerNamedManager.store key →
        (peerNamedManager.fixDataOnDeviceOnline sampleDevice samplePeer).store[key]? =
          peerNamedManager.store[key]?) ↔
      (IsPeerRepaired sampleDevice samplePeer →
        ∀ key, IsOwn sampleDevice peerNamedManager.store key →
        ¬IsClearedForPeer sampleDevice samplePeer peerNamedManager.store key)) ∧
    ∃ table, peerNamedManager.store.getDeviceEntries sampleDevice.uuid = .ok table ∧
      ((∀ key, (peerNamedManager.fixRemoteDataWhenPeerIsOHBase samplePeer.udid table).store[key]? =
          if peerNamedManager.store.writerAt key = some sampleDevice.uuid ∧
            deviceSegment key = some samplePeer.udid then none
          else peerNamedManager.store[key]?) ↔
        OnlyPeerKeysContain sampleDevice peerNamedManager.store samplePeer.udid) :=
  ⟨(repair_spares_own_iff sampleDevice samplePeer peerNamedManager).1, _, rfl,
    (repair_spares_own_iff sampleDevice samplePeer peerNamedManager).2 samplePeer.udid _ rfl⟩

end DeviceProfile
