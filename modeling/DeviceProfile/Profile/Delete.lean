import DeviceProfile.Profile.Put

/-!
# What a deletion removes

A deletion of a profile removes the keys of its properties from the store, for a user or for
no user, and for the foreground user also those of no user.
-/

namespace DeviceProfile

open Library Std

/-- The keys of the properties of a profile, for a user. -/
def StoredProfile.dbKeys (p : StoredProfile) (userId : Int32) : List Text :=
  p.kind.propertyNames.map fun name => generateDBKey p.profileKey name userId

/-- The deletions of the manager. -/
inductive DeleteCall where
  | service (deviceId serviceName : Text) (isMultiUser : Bool) (userId : Int32)
  | characteristic (deviceId serviceName characteristicKey : Text) (isMultiUser : Bool)
      (userId : Int32)
  deriving DecidableEq, Repr

namespace DeleteCall

variable {device : LocalDevice} {call : DeleteCall} {c c' : ProfileCache} {m m' : Manager}

/-- The profile of the names that a deletion is given. -/
def profile : DeleteCall → StoredProfile
  | .service deviceId serviceName _ _ => .svr { deviceId, serviceName }
  | .characteristic deviceId serviceName characteristicKey _ _ =>
    .char { deviceId, serviceName, characteristicKey }

/-- Whether the deletion is for a user of several. -/
def isMultiUser : DeleteCall → Bool
  | .service _ _ isMultiUser _ => isMultiUser
  | .characteristic _ _ _ isMultiUser _ => isMultiUser

/-- The user that the deletion names. -/
def userId : DeleteCall → Int32
  | .service _ _ _ userId => userId
  | .characteristic _ _ _ _ userId => userId

/-- Runs a deletion on the cache and the manager. -/
def run (device : LocalDevice) :
    DeleteCall → ProfileCache → Manager → Except ManagerError Unit × ProfileCache × Manager
  | .service deviceId serviceName isMultiUser userId, c, m =>
    Manager.deleteServiceProfile device deviceId serviceName isMultiUser userId c m
  | .characteristic deviceId serviceName characteristicKey isMultiUser userId, c, m =>
    Manager.deleteCharacteristicProfile device deviceId serviceName characteristicKey isMultiUser
      userId c m

/-- The users under whose ids the profile is deleted. -/
def deletedUsers (curUserId : Int32) (call : DeleteCall) : List Int32 :=
  if call.isMultiUser then
    if curUserId = call.userId then [call.userId, DEFAULT_USER_ID] else [call.userId]
  else [DEFAULT_USER_ID]

/-- The keys that a deletion removes. -/
def keys (curUserId : Int32) (call : DeleteCall) : List Text :=
  (call.deletedUsers curUserId).flatMap call.profile.dbKeys

/-- A deletion is one of a few keys. -/
theorem length_keys (call : DeleteCall) (curUserId : Int32) :
    0 < (call.keys curUserId).length ∧ (call.keys curUserId).length ≤ MAX_PROFILE_SIZE := by
  have hnames : call.profile.kind.propertyNames.length = 2 := by
    cases call <;> rfl
  have hlength : (call.keys curUserId).length = (call.deletedUsers curUserId).length * 2 := by
    simp [keys, StoredProfile.dbKeys, List.length_flatMap, hnames]
  have husers : 0 < (call.deletedUsers curUserId).length ∧
      (call.deletedUsers curUserId).length ≤ 2 := by
    unfold deletedUsers
    split_ifs <;> simp
  rw [hlength, MAX_PROFILE_SIZE]
  omega

theorem generateServiceDBkeys_eq (deviceId serviceName : Text) (isMultiUser : Bool)
    (userId : Int32) :
    generateServiceDBkeys deviceId serviceName isMultiUser userId =
      (StoredProfile.svr { deviceId, serviceName }).dbKeys (writtenUserId userId isMultiUser) := by
  cases isMultiUser <;> rfl

theorem generateCharacteristicDBkeys_eq (deviceId serviceName characteristicKey : Text)
    (isMultiUser : Bool) (userId : Int32) :
    generateCharacteristicDBkeys deviceId serviceName characteristicKey isMultiUser userId =
      (StoredProfile.char { deviceId, serviceName, characteristicKey }).dbKeys
        (writtenUserId userId isMultiUser) := by
  cases isMultiUser <;> rfl

/-- The keys of a deletion are those of its profile, for the users it is for. -/
theorem deletedKeys_eq (call : DeleteCall) {keysOf : Bool → Int32 → List Text}
    (hkeys : ∀ isMultiUser userId,
      keysOf isMultiUser userId = call.profile.dbKeys (writtenUserId userId isMultiUser))
    (m : Manager) :
    m.deletedKeys device keysOf call.isMultiUser call.userId =
      (call.keys (m.currentUser device), if call.isMultiUser then m.asked device else m) := by
  unfold Manager.deletedKeys keys deletedUsers
  rw [Manager.getCurrentForegroundUserID_eq]
  cases call.isMultiUser with
  | false => simp [hkeys, writtenUserId]
  | true =>
    by_cases hcur : m.currentUser device = call.userId
    · simp [hkeys, hcur, writtenUserId]
    · simp [hkeys, hcur, writtenUserId]

/-- The cache after a deletion. -/
def erased (c : ProfileCache) : DeleteCall → ProfileCache
  | .service deviceId serviceName _ _ =>
    (c.deleteServiceProfile deviceId serviceName).toOption.getD c
  | .characteristic deviceId serviceName characteristicKey _ _ =>
    (c.deleteCharProfile deviceId serviceName characteristicKey).toOption.getD c

/-- A deletion under valid names removes its keys. -/
theorem run_of_isValid (h : call.profile.IsValid device.udid) (c : ProfileCache) (m : Manager) :
    ∃ store, m.store.deleteBatch (call.keys (m.currentUser device)) = .ok store ∧
      call.run device c m = (.ok (), call.erased c,
        { (if call.isMultiUser then m.asked device else m) with store }) := by
  obtain ⟨hpos, hsize⟩ := call.length_keys (m.currentUser device)
  obtain ⟨store, hstore⟩ :=
    KvStore.deleteBatch_isOk (List.ne_nil_of_length_pos hpos) hsize m.store
  refine ⟨store, hstore, ?_⟩
  have hsame : ∀ b : Bool, (if b then m.asked device else m).store = m.store := by
    intro b
    cases b <;> rfl
  cases call with
  | service deviceId serviceName isMultiUser userId =>
    have hkeys : m.deletedKeys device (fun isMultiUser userId =>
        generateServiceDBkeys deviceId serviceName isMultiUser userId) isMultiUser userId = _ :=
      deletedKeys_eq (.service deviceId serviceName isMultiUser userId)
        (generateServiceDBkeys_eq deviceId serviceName) m
    have hvalid : ¬(¬IsKeyValid deviceId ∨ ¬IsLocalUdid device.udid deviceId ∨
        ¬IsKeyValid serviceName) := by
      simp only [not_or, not_not]
      exact h
    simp only [run, Manager.deleteServiceProfile, if_neg hvalid, hkeys, hsame, hstore]
    rfl
  | characteristic deviceId serviceName characteristicKey isMultiUser userId =>
    have hkeys : m.deletedKeys device (fun isMultiUser userId => generateCharacteristicDBkeys
        deviceId serviceName characteristicKey isMultiUser userId) isMultiUser userId = _ :=
      deletedKeys_eq (.characteristic deviceId serviceName characteristicKey isMultiUser userId)
        (generateCharacteristicDBkeys_eq deviceId serviceName characteristicKey) m
    have hvalid : ¬(¬IsKeyValid deviceId ∨ ¬IsLocalUdid device.udid deviceId ∨
        ¬IsKeyValid serviceName ∨ ¬IsKeyValid characteristicKey) := by
      simp only [not_or, not_not]
      exact h
    simp only [run, Manager.deleteCharacteristicProfile, if_neg hvalid, hkeys, hsame, hstore]
    rfl

/-- A deletion under other names is refused. -/
theorem run_of_not_isValid (h : ¬call.profile.IsValid device.udid) (c : ProfileCache)
    (m : Manager) : call.run device c m = (.error .invalidParams, c, m) := by
  cases call with
  | service deviceId serviceName isMultiUser userId =>
    have hinvalid : ¬IsKeyValid deviceId ∨ ¬IsLocalUdid device.udid deviceId ∨
        ¬IsKeyValid serviceName := by
      by_contra hvalid
      push Not at hvalid
      exact h hvalid
    exact if_pos hinvalid
  | characteristic deviceId serviceName characteristicKey isMultiUser userId =>
    have hinvalid : ¬IsKeyValid deviceId ∨ ¬IsLocalUdid device.udid deviceId ∨
        ¬IsKeyValid serviceName ∨ ¬IsKeyValid characteristicKey := by
      by_contra hvalid
      push Not at hvalid
      exact h hvalid
    exact if_pos hinvalid

/-- What a successful deletion does. -/
theorem run_ok (h : call.run device c m = (.ok (), c', m')) :
    call.profile.IsValid device.udid ∧ ∃ store,
      m.store.deleteBatch (call.keys (m.currentUser device)) = .ok store ∧
      m' = { (if call.isMultiUser then m.asked device else m) with store } := by
  by_cases hvalid : call.profile.IsValid device.udid
  · obtain ⟨store, hstore, hrun⟩ := run_of_isValid hvalid c m
    rw [hrun] at h
    exact ⟨hvalid, store, hstore, (congrArg (fun x => x.2.2) h).symm⟩
  · rw [run_of_not_isValid hvalid] at h
    cases h

/-- A deletion that fails at most asks for the foreground user. -/
theorem isAsked_of_run_ne_ok (h : (call.run device c m).1 ≠ .ok ()) :
    Manager.IsAsked device m (call.run device c m).2.2 := by
  by_cases hvalid : call.profile.IsValid device.udid
  · obtain ⟨store, -, hrun⟩ := run_of_isValid hvalid c m
    rw [hrun] at h
    exact absurd rfl h
  · rw [run_of_not_isValid hvalid]
    exact .inl rfl

/-- A key is removed when it is one of the profile, for a user the deletion is for. -/
theorem render_mem_keys (hp : call.profile.IsValid device.udid) {k : DbKey} {curUserId : Int32} :
    k.render ∈ call.keys curUserId ↔
      k.toProfileKey = call.profile.key hp ∧ k.userId ∈ call.deletedUsers curUserId ∧
        k.property ∈ call.profile.kind.propertyNames := by
  simp only [keys, StoredProfile.dbKeys, List.mem_flatMap, List.mem_map]
  constructor
  · rintro ⟨u, hu, name, hname, hk⟩
    rw [StoredProfile.generateDBKey_eq_entryKey _ hp hname] at hk
    obtain rfl := DbKey.render_injective hk
    exact ⟨rfl, hu, hname⟩
  · rintro ⟨hkey, hu, hname⟩
    refine ⟨k.userId, hu, k.property, hname, ?_⟩
    rw [call.profile.profileKey_eq hp, ← hkey]
    exact generateDBKey_eq_render k

end DeleteCall

end DeviceProfile
