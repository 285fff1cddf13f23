import DeviceProfile.Library.WriteThrough
import DeviceProfile.Profile.Delete

/-!
# The profile cache and the store behind it

Puts and deletions reach the store first and the cache afterwards. The store knows a service by
its name with the suffix and has no bound; the cache knows it by the name as it is given, and
refuses every profile once it holds too many. So a put or a deletion under one of two names that
are stored as one leaves the other name in the cache as it was, and a put to a full cache leaves
the old profile in it.
-/

namespace DeviceProfile

open Library Std

/-- A device profile with all that is compared of it. -/
structure DeviceRecord extends DevProfile where
  deviceName : Text := []
  manufactureName : Text := []
  deviceModel : Text := []
  storageCapability : Int := 0
  osApiLevel : Int := 0
  devType : Text := []
  manu : Text := []
  sn : Text := []
  productId : Text := []
  productName : Text := []
  subProductId : Text := []
  hiv : Text := []
  mac : Text := []
  fwv : Text := []
  hwv : Text := []
  swv : Text := []
  protType : Int := 0
  wiseUserId : Text := []
  wiseDeviceId : Text := []
  registerTime : Text := []
  internalModel : Text := []
  modifyTime : Text := []
  shareTime : Text := []
  accountId : Text := []
  id : Int := 0
  bleMac : Text := []
  brMac : Text := []
  sleMac : Text := []
  setupType : Int := 0
  deriving DecidableEq, Repr

/-- The cache with its device profiles. -/
structure ControlCache extends ProfileCache where
  deviceProfileMap : ExtTreeMap Text (Flagged DeviceRecord) := ∅

namespace ControlCache

/-- Caches a device profile unless the key is invalid or the map is over its size. -/
def addDeviceProfile (p : Flagged DeviceRecord) (c : ControlCache) :
    Except CacheError ControlCache :=
  if ¬IsKeyValid p.profile.deviceId then .error .invalidParams
  else if MAX_DEVICE_SIZE < c.deviceProfileMap.size then .error .exceedMaxSizeFail
  else .ok { c with
    deviceProfileMap :=
      c.deviceProfileMap.insert (generateDeviceProfileKey p.profile.deviceId) p }

/-- Caches a service profile beside the device profiles. -/
def addServiceProfile (p : Flagged ServiceProfile) (c : ControlCache) :
    Except CacheError ControlCache :=
  (c.toProfileCache.addServiceProfile p).map fun cache => { c with toProfileCache := cache }

/-- Caches a characteristic profile beside the device profiles. -/
def addCharProfile (p : Flagged CharacteristicProfile) (c : ControlCache) :
    Except CacheError ControlCache :=
  (c.toProfileCache.addCharProfile p).map fun cache => { c with toProfileCache := cache }

/-- The cache holds exactly this profile. -/
def IsDeviceProfileExist (c : ControlCache) (p : Flagged DeviceRecord) : Prop :=
  IsKeyValid p.profile.deviceId ∧
    c.deviceProfileMap[generateDeviceProfileKey p.profile.deviceId]? = some p

instance (c : ControlCache) (p : Flagged DeviceRecord) : Decidable (c.IsDeviceProfileExist p) :=
  inferInstanceAs (Decidable (_ ∧ _))

end ControlCache

/-! ## Puts -/

/-- The answers to a put. -/
inductive PutAnswer where
  | success
  | cacheExist
  | invalidParams
  | putKvDbFail
  deriving DecidableEq, Repr

/-- The cache, and the store with the manager of users. -/
structure ControlState where
  cache : ControlCache := {}
  manager : Manager := {}

namespace ControlState

variable (device : LocalDevice)

/-- The common body of the puts: what the cache holds already is not written again. -/
def putProfile (isValid isExist : Prop) [Decidable isValid] [Decidable isExist]
    (entries : Entries) (add : ControlCache → Except CacheError ControlCache) (s : ControlState) :
    PutAnswer × ControlState :=
  if ¬isValid then (.invalidParams, s)
  else if isExist then (.cacheExist, s)
  else
    match s.manager.store.putBatch device.uuid true entries with
    | .error _ => (.putKvDbFail, s)
    | .ok store => (.success,
        { cache := (add s.cache).toOption.getD s.cache, manager := { s.manager with store } })

/-- A put of a device profile: the validity check, the cache lookup and the entries are those of
devices. -/
def putDeviceProfile (p : Flagged DeviceRecord) (s : ControlState) : PutAnswer × ControlState :=
  s.putProfile device (IsDevProfileValid device.udid p.profile.toDevProfile)
    (s.cache.IsDeviceProfileExist p) (deviceProfileToEntries p.profile.toDevProfile ∅)
    (·.addDeviceProfile p)

/-- A put of a service profile: the validity check, the cache lookup and the entries are those of
services. -/
def putServiceProfile (p : Flagged ServiceProfile) (s : ControlState) : PutAnswer × ControlState :=
  s.putProfile device (IsSvrProfileValid device.udid p.profile)
    (s.cache.IsServiceProfileExist p) (serviceProfileToEntries p.profile ∅)
    (·.addServiceProfile p)

/-- A put of a characteristic profile: the validity check, the cache lookup and the entries are
those of characteristics. -/
def putCharacteristicProfile (p : Flagged CharacteristicProfile) (s : ControlState) :
    PutAnswer × ControlState :=
  s.putProfile device (IsCharProfileValid device.udid p.profile)
    (s.cache.IsCharProfileExist p) (characteristicProfileToEntries p.profile ∅)
    (·.addCharProfile p)

/-- A deletion. -/
def delete (call : DeleteCall) (s : ControlState) : ControlState :=
  let x := call.run device s.cache.toProfileCache s.manager
  { cache := { s.cache with toProfileCache := x.2.1 }, manager := x.2.2 }

end ControlState

/-- A profile of the cache. -/
inductive CachedProfile where
  | dev (p : Flagged DeviceRecord)
  | svr (p : Flagged ServiceProfile)
  | char (p : Flagged CharacteristicProfile)
  deriving DecidableEq, Repr

/-- The key of a profile in the cache. -/
def StoredProfile.cacheKey : StoredProfile → Text
  | dev p => generateDeviceProfileKey p.deviceId
  | svr p => p.cacheKey
  | char p => p.cacheKey

namespace CachedProfile

/-- The part of the profile that is stored. -/
def stored : CachedProfile → StoredProfile
  | dev p => .dev p.profile.toDevProfile
  | svr p => .svr p.profile
  | char p => .char p.profile

/-- What the store holds for a profile: its properties under the keys of no user. -/
def rows (x : CachedProfile) : List (Text × Text) := x.stored.pairs DEFAULT_USER_ID

/-- A put of a profile of any of the three kinds. -/
def put (device : LocalDevice) : CachedProfile → ControlState → PutAnswer × ControlState
  | dev p => ControlState.putDeviceProfile device p
  | svr p => ControlState.putServiceProfile device p
  | char p => ControlState.putCharacteristicProfile device p

end CachedProfile

namespace ControlCache

/-- The cache holds a profile under a key. -/
def HeldAt (c : ControlCache) (key : Text) : CachedProfile → Prop
  | .dev p => c.deviceProfileMap[key]? = some p
  | .svr p => c.serviceProfileMap[key]? = some p
  | .char p => c.charProfileMap[key]? = some p

instance (c : ControlCache) (key : Text) (x : CachedProfile) : Decidable (c.HeldAt key x) := by
  cases x <;> exact inferInstanceAs (Decidable (_ = _))

/-- The profiles that the cache holds. -/
def held (c : ControlCache) : Set CachedProfile := {x | ∃ key, c.HeldAt key x}

/-- The profiles of a kind are so many that no other is taken in. -/
def IsFull (c : ControlCache) : Kind → Prop
  | .dev => MAX_DEVICE_SIZE < c.deviceProfileMap.size
  | .svr => MAX_SERVICE_SIZE < c.serviceProfileMap.size
  | .char => MAX_CHAR_SIZE < c.charProfileMap.size

instance (c : ControlCache) (kind : Kind) : Decidable (c.IsFull kind) := by
  cases kind <;> exact inferInstanceAs (Decidable (_ < _))

/-- The cache after a profile is offered to it. -/
def added (c : ControlCache) : CachedProfile → ControlCache
  | .dev p => (c.addDeviceProfile p).toOption.getD c
  | .svr p => (c.addServiceProfile p).toOption.getD c
  | .char p => (c.addCharProfile p).toOption.getD c

/-- The place of a profile is taken by another one that is offered to the cache. -/
def Replaces (c : ControlCache) (x : CachedProfile) (key : Text) (y : CachedProfile) : Prop :=
  y.stored.kind = x.stored.kind ∧ key = x.stored.cacheKey ∧ ¬c.IsFull x.stored.kind

variable {localUdid : Text} {c : ControlCache} {x : CachedProfile}

/-- A full cache takes nothing. -/
theorem added_of_isFull (h : c.IsFull x.stored.kind) : c.added x = c := by
  cases x with
  | dev p =>
    rw [added, addDeviceProfile, if_pos (show MAX_DEVICE_SIZE < c.deviceProfileMap.size from h)]
    split <;> rfl
  | svr p =>
    rw [added, addServiceProfile, ProfileCache.addServiceProfile,
      if_pos (show MAX_SERVICE_SIZE < c.serviceProfileMap.size from h)]
    split <;> rfl
  | char p =>
    rw [added, addCharProfile, ProfileCache.addCharProfile,
      if_pos (show MAX_CHAR_SIZE < c.charProfileMap.size from h)]
    split <;> rfl

/-- What a profile that is offered to the cache changes. -/
theorem heldAt_added (hx : x.stored.IsValid localUdid) {key : Text} {y : CachedProfile} :
    (c.added x).HeldAt key y ↔
      (y = x ∧ key = x.stored.cacheKey ∧ ¬c.IsFull x.stored.kind) ∨
        (c.HeldAt key y ∧ ¬c.Replaces x key y) := by
  by_cases hfull : c.IsFull x.stored.kind
  · simp [added_of_isFull hfull, Replaces, hfull]
  · unfold Replaces
    simp only [hfull, not_false_eq_true, and_true]
    cases x with
    | dev p =>
      have hsize : ¬MAX_DEVICE_SIZE < c.deviceProfileMap.size := hfull
      rw [added, addDeviceProfile, if_neg (not_not.mpr hx.1), if_neg hsize]
      cases y with
      | dev q =>
        simp only [CachedProfile.dev.injEq, CachedProfile.stored, StoredProfile.kind, true_and]
        exact getElem?_insert_eq_some_iff
      | svr q => simp [HeldAt, CachedProfile.stored, StoredProfile.kind, Except.toOption]
      | char q => simp [HeldAt, CachedProfile.stored, StoredProfile.kind, Except.toOption]
    | svr p =>
      have hsize : ¬MAX_SERVICE_SIZE < c.serviceProfileMap.size := hfull
      have hnames : AreServiceKeysValid p.profile.deviceId p.profile.serviceName :=
        ⟨hx.1, hx.2.2⟩
      rw [added, addServiceProfile, ProfileCache.addServiceProfile, if_neg (not_not.mpr hnames),
        if_neg hsize]
      cases y with
      | svr q =>
        simp only [CachedProfile.svr.injEq, CachedProfile.stored, StoredProfile.kind, true_and]
        exact getElem?_insert_eq_some_iff
      | dev q =>
        simp [HeldAt, CachedProfile.stored, StoredProfile.kind, Except.toOption, Except.map]
      | char q =>
        simp [HeldAt, CachedProfile.stored, StoredProfile.kind, Except.toOption, Except.map]
    | char p =>
      have hsize : ¬MAX_CHAR_SIZE < c.charProfileMap.size := hfull
      have hnames : AreCharKeysValid p.profile.deviceId p.profile.serviceName
          p.profile.characteristicKey := ⟨hx.1, hx.2.2.1, hx.2.2.2⟩
      rw [added, addCharProfile, ProfileCache.addCharProfile, if_neg (not_not.mpr hnames),
        if_neg hsize]
      cases y with
      | char q =>
        simp only [CachedProfile.char.injEq, CachedProfile.stored, StoredProfile.kind, true_and]
        exact getElem?_insert_eq_some_iff
      | dev q =>
        simp [HeldAt, CachedProfile.stored, StoredProfile.kind, Except.toOption, Except.map]
      | svr q =>
        simp [HeldAt, CachedProfile.stored, StoredProfile.kind, Except.toOption, Except.map]

/-- The cache after a deletion. -/
def erased (c : ControlCache) : DeleteCall → ControlCache
  | .service deviceId serviceName _ _ =>
    { c with toProfileCache :=
        (c.deleteServiceProfile deviceId serviceName).toOption.getD c.toProfileCache }
  | .characteristic deviceId serviceName characteristicKey _ _ =>
    { c with toProfileCache := (c.deleteCharProfile deviceId serviceName
        characteristicKey).toOption.getD c.toProfileCache }

/-- What a deletion changes in the cache. -/
theorem heldAt_erased {call : DeleteCall} (hcall : call.profile.IsValid localUdid) {key : Text}
    {y : CachedProfile} :
    (c.erased call).HeldAt key y ↔
      c.HeldAt key y ∧ ¬(y.stored.kind = call.profile.kind ∧ key = call.profile.cacheKey) := by
  cases call with
  | service deviceId serviceName isMultiUser userId =>
    have hnames : AreServiceKeysValid deviceId serviceName := ⟨hcall.1, hcall.2.2⟩
    rw [erased, ProfileCache.deleteServiceProfile, if_neg (not_not.mpr hnames)]
    cases y with
    | svr q =>
      simp only [DeleteCall.profile, CachedProfile.stored, StoredProfile.kind, true_and]
      exact getElem?_erase_eq_some_iff
    | dev q => simp [HeldAt, CachedProfile.stored, StoredProfile.kind, DeleteCall.profile]
    | char q =>
      simp [HeldAt, CachedProfile.stored, StoredProfile.kind, Except.toOption, DeleteCall.profile]
  | characteristic deviceId serviceName characteristicKey isMultiUser userId =>
    have hnames : AreCharKeysValid deviceId serviceName characteristicKey :=
      ⟨hcall.1, hcall.2.2.1, hcall.2.2.2⟩
    rw [erased, ProfileCache.deleteCharProfile, if_neg (not_not.mpr hnames)]
    cases y with
    | char q =>
      simp only [DeleteCall.profile, CachedProfile.stored, StoredProfile.kind, true_and]
      exact getElem?_erase_eq_some_iff
    | dev q => simp [HeldAt, CachedProfile.stored, StoredProfile.kind, DeleteCall.profile]
    | svr q =>
      simp [HeldAt, CachedProfile.stored, StoredProfile.kind, Except.toOption, DeleteCall.profile]

end ControlCache

/-! ## Rows -/

namespace StoredProfile

variable {localUdid : Text} {p q : StoredProfile}

/-- The entries that are written without a user id are the pairs of no user. -/
theorem getElem?_toEntries (hp : p.IsValid localUdid) {k v : Text} :
    (p.toEntries false)[k]? = some v ↔ (k, v) ∈ p.pairs DEFAULT_USER_ID := by
  have hnodup : (p.properties.map Prod.fst).Nodup :=
    p.map_fst_properties ▸ nodup_propertyNames p.kind
  rw [p.toEntries_eq hp, mem_pairs, p.profileKey_eq hp]
  simp only [getElem?_putProperties hnodup, ExtTreeMap.getElem?_empty, reduceCtorEq, and_false,
    or_false, writtenUserId, Bool.false_eq_true, if_false]
  exact exists_congr fun name => and_comm

/-- Profiles have equal values under common keys when the values are part of one another
wherever they are stored as one. -/
theorem pairs_agree_iff (hp : p.IsValid localUdid) (hq : q.IsValid localUdid) {userId : Int32} :
    (∀ r ∈ q.pairs userId, ∀ r' ∈ p.pairs userId, r'.1 = r.1 → r'.2 = r.2) ↔
      (q.profileKey = p.profileKey → q.properties ⊆ p.properties) := by
  constructor
  · intro hagree hkey x hx
    have hkind : q.kind = p.kind := by
      have heq := (key_eq_iff_profileKey hq hp).mpr hkey
      rw [← q.kind_key hq, ← p.kind_key hp, heq]
    have hname : x.1 ∈ p.properties.map Prod.fst := by
      rw [p.map_fst_properties, ← hkind]
      exact mem_propertyNames hx
    obtain ⟨x', hx', hfst⟩ := List.mem_map.mp hname
    have hsnd := hagree (generateDBKey q.profileKey x.1 userId, x.2)
      (List.mem_map.mpr ⟨x, hx, rfl⟩) (generateDBKey p.profileKey x'.1 userId, x'.2)
      (List.mem_map.mpr ⟨x', hx', rfl⟩) (by rw [hfst, hkey])
    rw [show x = x' from Prod.ext hfst.symm hsnd.symm]
    exact hx'
  · intro hsubset r hr r' hr' hkey
    obtain ⟨name, hmem, hr⟩ := mem_pairs.mp hr
    obtain ⟨name', hmem', hr'⟩ := mem_pairs.mp hr'
    obtain ⟨hsame, rfl, -⟩ := eq_of_generateDBKey_eq hp hq (mem_propertyNames hmem')
      (mem_propertyNames hmem) (hr'.trans (hkey.trans hr.symm))
    have hprofileKey := ((key_eq_iff_profileKey hp hq).mp hsame).symm
    exact properties_functional hmem' (hsubset hprofileKey hmem)

/-- A profile has entries, and few of them. -/
theorem toEntries_isBatch (hp : p.IsValid localUdid) :
    p.toEntries false ≠ ∅ ∧ (p.toEntries false).size ≤ MAX_PROFILE_SIZE := by
  have hlength : 0 < p.properties.length ∧ p.properties.length ≤ 5 := by
    cases p <;> simp [properties, DevProfile.properties, ServiceProfile.properties,
      CharacteristicProfile.properties]
  constructor
  · intro hempty
    obtain ⟨x, hx⟩ := List.exists_mem_of_length_pos hlength.1
    have hstored := (getElem?_toEntries hp).mpr (List.mem_map.mpr ⟨x, hx, rfl⟩)
    rw [hempty, ExtTreeMap.getElem?_empty] at hstored
    cases hstored
  · have hsize := size_putProperties_le (p.key hp).render (writtenUserId p.userId false)
      p.properties ∅
    rw [ExtTreeMap.size_empty, Nat.zero_add] at hsize
    rw [p.toEntries_eq hp]
    exact hsize.trans (hlength.2.trans (by decide))

end StoredProfile

/-! ## What one call does -/

section Calls

variable {device : LocalDevice} {s : ControlState}

/-- The common body of the puts, where the batch is written. -/
theorem ControlState.putProfile_cases {isValid isExist isHeld : Prop} [Decidable isValid]
    [Decidable isExist] {entries : Entries} {store : KvStore} (hvalid : isValid)
    (hexist : isExist ↔ isHeld)
    (hstore : s.manager.store.putBatch device.uuid true entries = .ok store)
    (add : ControlCache → Except CacheError ControlCache) :
    (isHeld ∧ s.putProfile device isValid isExist entries add = (.cacheExist, s)) ∨
      (¬isHeld ∧ s.putProfile device isValid isExist entries add = (.success,
        { cache := (add s.cache).toOption.getD s.cache
          manager := { s.manager with store } })) := by
  rw [putProfile, if_neg (not_not.mpr hvalid)]
  by_cases hheld : isHeld
  · exact .inl ⟨hheld, if_pos (hexist.mpr hheld)⟩
  · rw [if_neg (mt hexist.mp hheld), hstore]
    exact .inr ⟨hheld, rfl⟩

/-- A put of a valid profile finds it in the cache, or writes it and offers it to the cache. -/
theorem CachedProfile.put_cases (x : CachedProfile) (hx : x.stored.IsValid device.udid)
    (s : ControlState) :
    ∃ store, s.manager.store.putBatch device.uuid true (x.stored.toEntries false) = .ok store ∧
      ((s.cache.HeldAt x.stored.cacheKey x ∧ x.put device s = (.cacheExist, s)) ∨
        (¬s.cache.HeldAt x.stored.cacheKey x ∧ x.put device s = (.success,
          { cache := s.cache.added x
            manager := { s.manager with store } }))) := by
  obtain ⟨hne, hsize⟩ := StoredProfile.toEntries_isBatch hx
  obtain ⟨store, hstore⟩ := KvStore.putBatch_isOk hne hsize device.uuid s.manager.store
  refine ⟨store, hstore, ?_⟩
  cases x with
  | dev p =>
    exact ControlState.putProfile_cases hx (and_iff_right hx.1) hstore (·.addDeviceProfile p)
  | svr p =>
    have hnames : AreServiceKeysValid p.profile.deviceId p.profile.serviceName :=
      ⟨hx.1, hx.2.2⟩
    have hexist : s.cache.IsServiceProfileExist p ↔ s.cache.HeldAt p.profile.cacheKey (.svr p) :=
      and_iff_right hnames
    exact ControlState.putProfile_cases hx hexist hstore (·.addServiceProfile p)
  | char p =>
    have hnames : AreCharKeysValid p.profile.deviceId p.profile.serviceName
        p.profile.characteristicKey := ⟨hx.1, hx.2.2.1, hx.2.2.2⟩
    have hexist : s.cache.IsCharProfileExist p ↔ s.cache.HeldAt p.profile.cacheKey (.char p) :=
      and_iff_right hnames
    exact ControlState.putProfile_cases hx hexist hstore (·.addCharProfile p)

/-- A put of an invalid profile is refused and changes nothing. -/
theorem CachedProfile.put_of_not_isValid (x : CachedProfile)
    (hx : ¬x.stored.IsValid device.udid) (s : ControlState) :
    x.put device s = (.invalidParams, s) := by
  cases x <;> exact if_pos hx

/-- A deletion under valid names. -/
theorem ControlState.delete_of_isValid {call : DeleteCall}
    (hcall : call.profile.IsValid device.udid) (s : ControlState) :
    ∃ store, s.manager.store.deleteBatch (call.keys (s.manager.currentUser device)) = .ok store ∧
      s.delete device call =
        { cache := s.cache.erased call
          manager := { (if call.isMultiUser then s.manager.asked device else s.manager) with
            store } } := by
  obtain ⟨store, hstore, hrun⟩ :=
    DeleteCall.run_of_isValid hcall s.cache.toProfileCache s.manager
  refine ⟨store, hstore, ?_⟩
  rw [delete, hrun]
  cases call <;> rfl

/-- A deletion with invalid keys changes nothing. -/
theorem ControlState.delete_of_not_isValid {call : DeleteCall}
    (hcall : ¬call.profile.IsValid device.udid) (s : ControlState) :
    s.delete device call = s := by
  rw [delete, DeleteCall.run_of_not_isValid hcall]

end Calls

/-! ## Agreement -/

namespace ControlState

variable {device : LocalDevice} {s : ControlState}

/-- Each profile in the cache equals what the store holds for it. -/
def CacheAgrees (s : ControlState) : Prop :=
  Agrees CachedProfile.rows s.cache.held s.manager.store.valueAt

/-- The profiles in the cache are valid, and under their keys. -/
def Keyed (device : LocalDevice) (s : ControlState) : Prop :=
  ∀ key y, s.cache.HeldAt key y → key = y.stored.cacheKey ∧ y.stored.IsValid device.udid

/-- No profile that is stored with the given one stays in the cache with other values: its
place is taken, or its values are part of the new ones. -/
def PutKeeps (s : ControlState) (x : CachedProfile) : Prop :=
  ∀ y ∈ s.cache.held, y.stored.profileKey = x.stored.profileKey →
    (y.stored.cacheKey = x.stored.cacheKey ∧ ¬s.cache.IsFull x.stored.kind) ∨
      y.stored.properties ⊆ x.stored.properties

/-- When the entries of no user are deleted, no profile that is stored with the given one is in
the cache under another name. -/
def DeleteKeeps (device : LocalDevice) (s : ControlState) (call : DeleteCall) : Prop :=
  DEFAULT_USER_ID ∈ call.deletedUsers (s.manager.currentUser device) →
    ∀ y ∈ s.cache.held, y.stored.profileKey = call.profile.profileKey →
      y.stored.cacheKey = call.profile.cacheKey

/-- The cache holds exactly what stands under its own cache key. -/
theorem Keyed.mem_held (h : s.Keyed device) {y : CachedProfile} :
    y ∈ s.cache.held ↔ s.cache.HeldAt y.stored.cacheKey y := by
  constructor
  · rintro ⟨key, hheld⟩
    rwa [← (h key y hheld).1]
  · exact fun hheld => ⟨_, hheld⟩

/-- What the cache holds is valid. -/
theorem Keyed.isValid (h : s.Keyed device) {y : CachedProfile} (hy : y ∈ s.cache.held) :
    y.stored.IsValid device.udid := by
  obtain ⟨key, hheld⟩ := hy
  exact (h key y hheld).2

/-- An accepted put keeps every entry under its own key. -/
theorem Keyed.added (h : s.Keyed device) {x : CachedProfile} (hx : x.stored.IsValid device.udid)
    (manager : Manager) :
    Keyed device { cache := s.cache.added x, manager } := by
  intro key y hheld
  rcases (ControlCache.heldAt_added hx).mp hheld with ⟨rfl, hkey, -⟩ | ⟨hold, -⟩
  · exact ⟨hkey, hx⟩
  · exact h key y hold

/-- A deletion keeps every entry under its own key. -/
theorem Keyed.erased (h : s.Keyed device) {call : DeleteCall}
    (hcall : call.profile.IsValid device.udid) (manager : Manager) :
    Keyed device { cache := s.cache.erased call, manager } :=
  fun key y hheld => h key y ((ControlCache.heldAt_erased hcall).mp hheld).1

/-- The agreement after a profile was written and offered to the cache. -/
theorem CacheAgrees.added_iff (h : s.CacheAgrees) (hkeyed : s.Keyed device) {x : CachedProfile}
    (hx : x.stored.IsValid device.udid) {store : KvStore}
    (hstore : s.manager.store.putBatch device.uuid true (x.stored.toEntries false) = .ok store) :
    CacheAgrees { cache := s.cache.added x, manager := { s.manager with store } } ↔
      s.PutKeeps x := by
  have hvalue : ∀ r ∈ x.rows, store.valueAt r.1 = some r.2 := by
    intro r hr
    rw [KvStore.valueAt_putBatch hstore, (StoredProfile.getElem?_toEntries hx).mpr hr,
      Option.some_or]
  have hother : ∀ k, (∀ r ∈ x.rows, r.1 ≠ k) → store.valueAt k = s.manager.store.valueAt k := by
    intro k hk
    have hnone : (x.stored.toEntries false)[k]? = none := by
      refine Option.eq_none_iff_forall_ne_some.mpr fun v hv => ?_
      exact hk (k, v) ((StoredProfile.getElem?_toEntries hx).mp hv) rfl
    rw [KvStore.valueAt_putBatch hstore, hnone, Option.none_or]
  have hkeyed' := hkeyed.added hx { s.manager with store }
  have hheld : ∀ y, y ∈ (s.cache.added x).held ↔ (y = x ∧ ¬s.cache.IsFull x.stored.kind) ∨
      (y ∈ s.cache.held ∧ ¬s.cache.Replaces x y.stored.cacheKey y) := by
    intro y
    rw [hkeyed.mem_held, hkeyed'.mem_held, ControlCache.heldAt_added hx]
    refine or_congr_left (and_congr_right fun heq => ?_)
    simp [heq]
  rw [CacheAgrees, h.write_iff hvalue hother hheld]
  refine forall₂_congr fun y hy => ?_
  have hvalid := hkeyed.isValid hy
  have hkind : y.stored.profileKey = x.stored.profileKey → y.stored.kind = x.stored.kind := by
    intro hkey
    have heq := (StoredProfile.key_eq_iff_profileKey hvalid hx).mpr hkey
    rw [← y.stored.kind_key hvalid, ← x.stored.kind_key hx, heq]
  rw [CachedProfile.rows, CachedProfile.rows, StoredProfile.pairs_agree_iff hx hvalid,
    ControlCache.Replaces]
  constructor
  · intro hkeep hkey
    by_cases hplace : y.stored.cacheKey = x.stored.cacheKey ∧ ¬s.cache.IsFull x.stored.kind
    · exact .inl hplace
    · exact .inr (hkeep (fun hreplaces => hplace hreplaces.2) hkey)
  · intro hkeep hstays hkey
    exact (hkeep hkey).resolve_left fun hplace => hstays ⟨hkind hkey, hplace⟩

/-- The rows of a profile have keys of a deletion when they are stored as what is deleted and
the entries of no user are. -/
theorem mem_keys_iff {call : DeleteCall} (hcall : call.profile.IsValid device.udid)
    {y : CachedProfile} (hy : y.stored.IsValid device.udid) {curUserId : Int32} :
    (∀ r ∈ y.rows, r.1 ∉ call.keys curUserId) ↔
      ¬(DEFAULT_USER_ID ∈ call.deletedUsers curUserId ∧
        y.stored.profileKey = call.profile.profileKey) := by
  have hrow : ∀ r ∈ y.rows, r.1 ∈ call.keys curUserId ↔
      DEFAULT_USER_ID ∈ call.deletedUsers curUserId ∧
        y.stored.profileKey = call.profile.profileKey := by
    intro r hr
    obtain ⟨name, hmem, hkey⟩ := StoredProfile.mem_pairs.mp hr
    have hname := StoredProfile.mem_propertyNames hmem
    rw [← hkey, y.stored.generateDBKey_eq_entryKey hy hname, DeleteCall.render_mem_keys hcall,
      ← StoredProfile.key_eq_iff_profileKey hy hcall]
    constructor
    · rintro ⟨hsame, huser, -⟩
      exact ⟨huser, hsame⟩
    · rintro ⟨huser, hsame⟩
      refine ⟨hsame, huser, ?_⟩
      rw [← call.profile.kind_key hcall, ← hsame, y.stored.kind_key hy]
      exact hname
  have hsome : ∃ r, r ∈ y.rows := by
    apply List.exists_mem_of_ne_nil
    cases y <;> simp [CachedProfile.rows, CachedProfile.stored, StoredProfile.pairs,
      StoredProfile.properties, DevProfile.properties, ServiceProfile.properties,
      CharacteristicProfile.properties]
  constructor
  · intro hkept hdeleted
    obtain ⟨r, hr⟩ := hsome
    exact hkept r hr ((hrow r hr).mpr hdeleted)
  · exact fun hkept r hr hdeleted => hkept ((hrow r hr).mp hdeleted)

/-- The agreement after a deletion. -/
theorem CacheAgrees.erased_iff (h : s.CacheAgrees) (hkeyed : s.Keyed device) {call : DeleteCall}
    (hcall : call.profile.IsValid device.udid) {store : KvStore}
    (hstore : s.manager.store.deleteBatch (call.keys (s.manager.currentUser device)) = .ok store)
    (manager : Manager) :
    CacheAgrees { cache := s.cache.erased call, manager := { manager with store } } ↔
      s.DeleteKeeps device call := by
  have hvalue : ∀ k ∈ call.keys (s.manager.currentUser device), store.valueAt k = none := by
    intro k hk
    rw [KvStore.valueAt_deleteBatch hstore, if_pos hk]
  have hother : ∀ k, k ∉ call.keys (s.manager.currentUser device) →
      store.valueAt k = s.manager.store.valueAt k := by
    intro k hk
    rw [KvStore.valueAt_deleteBatch hstore, if_neg hk]
  have hkeyed' := hkeyed.erased hcall { manager with store }
  have hheld : ∀ y, y ∈ (s.cache.erased call).held ↔ y ∈ s.cache.held ∧
      ¬(y.stored.kind = call.profile.kind ∧ y.stored.cacheKey = call.profile.cacheKey) := by
    intro y
    rw [hkeyed.mem_held, hkeyed'.mem_held, ControlCache.heldAt_erased hcall]
  rw [CacheAgrees, h.delete_iff hvalue hother hheld]
  constructor
  · intro hkept huser y hy hkey
    have hvalid := hkeyed.isValid hy
    by_contra hplace
    have hstays := hkept y hy fun hgone => hplace hgone.2
    exact (mem_keys_iff hcall hvalid).mp hstays ⟨huser, hkey⟩
  · intro hkeep y hy hstays
    have hvalid := hkeyed.isValid hy
    refine (mem_keys_iff hcall hvalid).mpr fun hdeleted => hstays ⟨?_, ?_⟩
    · have heq := (StoredProfile.key_eq_iff_profileKey hvalid hcall).mpr hdeleted.2
      rw [← y.stored.kind_key hvalid, ← call.profile.kind_key hcall, heq]
    · exact hkeep hdeleted.1 y hy hdeleted.2

end ControlState

/-! ## Runs -/

/-- A call of a run. -/
inductive ControlCall where
  | put (x : CachedProfile)
  | delete (call : DeleteCall)
  deriving DecidableEq, Repr

namespace ControlCall

variable {device : LocalDevice} {s : ControlState}

/-- The state after a call. -/
def step (device : LocalDevice) (s : ControlState) : ControlCall → ControlState
  | .put x => (x.put device s).2
  | .delete call => s.delete device call

/-- The profile of the names that a call is given. -/
def profile : ControlCall → StoredProfile
  | .put x => x.stored
  | .delete call => call.profile

/-- A valid call leaves no profile in the cache that differs from what the store holds then. -/
def Keeps (device : LocalDevice) (s : ControlState) : ControlCall → Prop
  | .put x => x.stored.IsValid device.udid → s.PutKeeps x
  | .delete call => call.profile.IsValid device.udid → s.DeleteKeeps device call

/-- What a call makes of the store when there is nothing in the cache. -/
def plainStep (device : LocalDevice) (m : Manager) (call : ControlCall) : Manager :=
  (call.step device { manager := m }).manager

/-- Every call keeps every entry under its own key. -/
theorem keyed_step (h : s.Keyed device) (call : ControlCall) :
    (call.step device s).Keyed device := by
  cases call with
  | put x =>
    by_cases hvalid : x.stored.IsValid device.udid
    · obtain ⟨store, -, ⟨-, hput⟩ | ⟨-, hput⟩⟩ := x.put_cases hvalid s
      · rw [step, hput]
        exact h
      · rw [step, hput]
        exact h.added hvalid _
    · rw [step, x.put_of_not_isValid hvalid]
      exact h
  | delete call =>
    by_cases hvalid : call.profile.IsValid device.udid
    · obtain ⟨store, -, hdelete⟩ := ControlState.delete_of_isValid hvalid s
      rw [step, hdelete]
      exact h.erased hvalid _
    · rw [step, ControlState.delete_of_not_isValid hvalid]
      exact h

/-- What is in the cache has the values of every profile that is stored as it. -/
theorem putKeeps_of_heldAt (h : s.CacheAgrees) (hkeyed : s.Keyed device) {x : CachedProfile}
    (hx : x ∈ s.cache.held) : s.PutKeeps x := by
  intro y hy hkey
  right
  have hagree : ∀ r ∈ y.rows, ∀ r' ∈ x.rows, r'.1 = r.1 → r'.2 = r.2 := by
    intro r hr r' hr' heq
    have hstored := h y hy r hr
    rw [← heq, h x hx r' hr'] at hstored
    exact Option.some.inj hstored
  exact (StoredProfile.pairs_agree_iff (hkeyed.isValid hx) (hkeyed.isValid hy)).mp hagree hkey

/-- The cache agrees after a call exactly when the call keeps it from differing. -/
theorem cacheAgrees_step_iff (h : s.CacheAgrees) (hkeyed : s.Keyed device) (call : ControlCall) :
    (call.step device s).CacheAgrees ↔ call.Keeps device s := by
  cases call with
  | put x =>
    by_cases hvalid : x.stored.IsValid device.udid
    · have hkeeps : Keeps device s (.put x) ↔ s.PutKeeps x := forall_prop_of_true hvalid
      rw [hkeeps, step]
      obtain ⟨store, hstore, ⟨hheld, hput⟩ | ⟨-, hput⟩⟩ := x.put_cases hvalid s
      · rw [hput]
        exact iff_of_true h (putKeeps_of_heldAt h hkeyed ⟨_, hheld⟩)
      · rw [hput]
        exact h.added_iff hkeyed hvalid hstore
    · rw [step, x.put_of_not_isValid hvalid]
      exact iff_of_true h fun hx => absurd hx hvalid
  | delete call =>
    by_cases hvalid : call.profile.IsValid device.udid
    · have hkeeps : Keeps device s (.delete call) ↔ s.DeleteKeeps device call :=
        forall_prop_of_true hvalid
      obtain ⟨store, hstore, hdelete⟩ := ControlState.delete_of_isValid hvalid s
      rw [hkeeps, step, hdelete]
      exact h.erased_iff hkeyed hvalid hstore _
    · rw [step, ControlState.delete_of_not_isValid hvalid]
      exact iff_of_true h fun hcall => absurd hcall hvalid

/-- As long as the cache agrees, the store becomes what it would become without a cache. -/
theorem manager_step (h : s.CacheAgrees) (call : ControlCall) :
    (call.step device s).manager = call.plainStep device s.manager := by
  unfold plainStep
  cases call with
  | put x =>
    by_cases hvalid : x.stored.IsValid device.udid
    · obtain ⟨store, hstore, hcases⟩ := x.put_cases hvalid s
      obtain ⟨store', hstore', ⟨hempty, -⟩ | ⟨-, hplain⟩⟩ :=
        x.put_cases hvalid { manager := s.manager }
      · exact absurd hempty (by cases x <;> simp [ControlCache.HeldAt])
      · obtain rfl := Except.ok.inj (hstore.symm.trans hstore')
        rw [step, step, hplain]
        rcases hcases with ⟨hheld, hput⟩ | ⟨-, hput⟩
        · have hsame := KvStore.putBatch_of_stored hstore fun k v hkv =>
            h x ⟨_, hheld⟩ (k, v) ((StoredProfile.getElem?_toEntries hvalid).mp hkv)
          rw [hput, hsame]
        · rw [hput]
    · rw [step, step, x.put_of_not_isValid hvalid, x.put_of_not_isValid hvalid]
  | delete call =>
    by_cases hvalid : call.profile.IsValid device.udid
    · obtain ⟨store, hstore, hdelete⟩ := ControlState.delete_of_isValid hvalid s
      obtain ⟨store', hstore', hplain⟩ :=
        ControlState.delete_of_isValid hvalid { manager := s.manager }
      obtain rfl := Except.ok.inj (hstore.symm.trans hstore')
      rw [step, step, hdelete, hplain]
    · rw [step, step, ControlState.delete_of_not_isValid hvalid,
        ControlState.delete_of_not_isValid hvalid]

/-- As long as the cache agrees, the store of a run is that of the run without a cache. -/
theorem manager_foldl (calls : List ControlCall)
    (h : ∀ n, ((calls.take n).foldl (step device) s).CacheAgrees) :
    (calls.foldl (step device) s).manager =
      calls.foldl (fun m call => call.plainStep device m) s.manager := by
  induction calls generalizing s with
  | nil => rfl
  | cons call rest ih =>
    have hs : s.CacheAgrees := h 0
    rw [List.foldl_cons, List.foldl_cons, ← manager_step hs]
    exact ih fun n => h (n + 1)

end ControlCall

/-- The state before the first call: nothing is cached or stored. -/
def ControlState.start (foregroundUserId : Int32) : ControlState where
  manager := { foregroundUserId }

/-- Each cached profile equals what the store holds for it after every call of exactly the runs
whose calls keep it so. In these runs the store is what it is without a cache, so that it and the
cache hold the last values put, and what a put finds in the cache is stored. -/
theorem cacheAgrees_iff (device : LocalDevice) (foregroundUserId : Int32)
    (calls : List ControlCall) :
    ((∀ n, ((calls.take n).foldl (ControlCall.step device)
        (.start foregroundUserId)).CacheAgrees) ↔
      Admits (ControlCall.step device) (fun s call => call.Keeps device s)
        (.start foregroundUserId) calls) ∧
    ((∀ n, ((calls.take n).foldl (ControlCall.step device)
        (.start foregroundUserId)).CacheAgrees) →
      ∀ n, ((calls.take n).foldl (ControlCall.step device) (.start foregroundUserId)).manager =
        (calls.take n).foldl (fun m call => call.plainStep device m) { foregroundUserId }) ∧
    ∀ (s : ControlState) (x : CachedProfile), s.CacheAgrees →
      (x.put device s).1 = .cacheExist → ∀ r ∈ x.rows, s.manager.store.valueAt r.1 = some r.2 := by
  have hempty : ∀ key y, ¬(ControlState.start foregroundUserId).cache.HeldAt key y := by
    intro key y
    cases y <;> simp [ControlCache.HeldAt, ControlState.start]
  refine ⟨?_, fun hagrees n => ?_, fun s x hagrees hanswer => ?_⟩
  · refine (admits_iff (I := ControlState.Keyed device)
      (fun s call hkeyed => ControlCall.keyed_step hkeyed call)
      (fun s call hkeyed h => ControlCall.cacheAgrees_step_iff h hkeyed call)
      (fun key y hheld => absurd hheld (hempty key y)) ?_).symm
    rintro y ⟨key, hheld⟩
    exact absurd hheld (hempty key y)
  · apply ControlCall.manager_foldl
    intro k
    rw [List.take_take]
    exact hagrees _
  · by_cases hvalid : x.stored.IsValid device.udid
    · obtain ⟨store, -, ⟨hheld, -⟩ | ⟨-, hput⟩⟩ := x.put_cases hvalid s
      · exact hagrees x ⟨_, hheld⟩
      · rw [hput] at hanswer
        cases hanswer
    · rw [x.put_of_not_isValid hvalid] at hanswer
      cases hanswer

/-- A service of the type. -/
def appInfoService (serviceName serviceType : Text) : CachedProfile :=
  .svr { profile := { deviceId := sampleDevice.udid, serviceName, serviceType } }

/-- A service and its name with the suffix are stored as one, but cached as two. -/
theorem not_cacheAgrees_appInfo :
    ¬∀ (device : LocalDevice) (foregroundUserId : Int32) (calls : List ControlCall),
      (∀ call ∈ calls, call.profile.IsValid device.udid) →
      ∀ n, ((calls.take n).foldl (ControlCall.step device)
        (.start foregroundUserId)).CacheAgrees := by
  intro h
  have hagrees := h sampleDevice 100 [.put (appInfoService "appInfo" "old"),
    .put (appInfoService "appInfo_OH" "new")] (by decide +kernel) 2
  have hheld : (((([.put (appInfoService "appInfo" "old"),
      .put (appInfoService "appInfo_OH" "new")] : List ControlCall).take 2).foldl
      (ControlCall.step sampleDevice) (.start 100)).cache.HeldAt
        (appInfoService "appInfo" "old").stored.cacheKey (appInfoService "appInfo" "old")) := by
    decide +kernel
  have hstored := hagrees _ ⟨_, hheld⟩
  revert hstored
  decide +kernel

end DeviceProfile
