import DeviceProfile.Library.Json
import DeviceProfile.Static.Manager

/-!
# What the cache of expanded profiles shows

A get shows what is expanded from the record of the device, now or at an earlier time of the run.
It is the present record as long as no put and no synchronisation changes what the record gives
for a profile that is cached.
-/

namespace DeviceProfile

open Library Std

/-! ## Gets -/

/-- Valid names of a characteristic. -/
structure CharNames where
  deviceId : Text
  serviceName : Text
  characteristicKey : Text
  isValid : AreCharKeysValid deviceId serviceName characteristicKey

/-- The key of the characteristic with these names. -/
def CharNames.key (names : CharNames) : Text :=
  generateCharProfileKey names.deviceId names.serviceName names.characteristicKey

/-- The profile under a key in what a record expands to. -/
def StaticCapabilityLoader.expandedProfile (loader : StaticCapabilityLoader)
    (record : Except ManagerError (Flagged CharacteristicProfile)) (charProfileKey : Text) :
    Except StaticError (Flagged CharacteristicProfile) :=
  match record with
  | .error e => .error (.control e)
  | .ok staticCapabilityProfile =>
    match loader.generateStaticInfoProfile staticCapabilityProfile.profile with
    | .error e => .error e
    | .ok staticInfoProfiles =>
      match staticInfoProfiles[charProfileKey]? with
      | none => .error .notFoundFail
      | some charProfile => .ok charProfile

/-- What a batch leaves in the cache was there, or is a valid profile of the batch under its own
key. -/
theorem StaticProfiles.getElem?_addStaticCharProfileBatch {order : HashOrder}
    {charProfiles profiles : StaticProfiles} {key : Text} {p : Flagged CharacteristicProfile}
    (h : ((addStaticCharProfileBatch order charProfiles profiles).toOption.getD profiles)[key]? =
      some p) :
    profiles[key]? = some p ∨ (key = p.profile.cacheKey ∧
      AreCharKeysValid p.profile.deviceId p.profile.serviceName p.profile.characteristicKey ∧
      ∃ key' : Text, charProfiles[key']? = some p) := by
  rw [addStaticCharProfileBatch] at h
  split at h
  · exact .inl h
  have hitems : ∀ item ∈ order.walk charProfiles, charProfiles[item.1]? = some item.2 :=
    fun item hitem => ExtTreeMap.mem_toList_iff_getElem?_eq_some.mp
      ((order.perm charProfiles).mem_iff.mp hitem)
  change (List.foldl _ profiles (order.walk charProfiles))[key]? = some p at h
  generalize order.walk charProfiles = items at h hitems
  induction items generalizing profiles with
  | nil => exact .inl h
  | cons item items ih =>
    rcases ih h (fun other hother => hitems other (List.mem_cons_of_mem item hother)) with
      hadded | hbatch
    · simp only [addStaticCharProfile] at hadded
      split at hadded
      · exact .inl hadded
      rename_i hvalid
      split at hadded
      · exact .inl hadded
      · rcases getElem?_insert_eq_some_iff.mp hadded with ⟨rfl, hkey⟩ | ⟨hold, -⟩
        · exact .inr ⟨hkey, not_not.mp hvalid, item.1, hitems item List.mem_cons_self⟩
        · exact .inl hold
    · exact .inr hbatch

namespace StaticState

variable {device : LocalDevice} {loader : StaticCapabilityLoader} {s : StaticState}

/-- The profile that is cached under names. -/
def cached (s : StaticState) (names : CharNames) : Option (Flagged CharacteristicProfile) :=
  s.staticCharProfileMap[names.key]?

/-- The profile that the record of the device gives for names. -/
def expanded (loader : StaticCapabilityLoader) (s : StaticState) (names : CharNames) :
    Except StaticError (Flagged CharacteristicProfile) :=
  loader.expandedProfile (s.staticCapabilityProfile names.deviceId) names.key

/-- A get reads through the cache. -/
theorem getCharacteristicProfile_fst (order : HashOrder) (names : CharNames) (s : StaticState) :
    (s.getCharacteristicProfile loader order names.deviceId names.serviceName
      names.characteristicKey).1 = readThrough s.cached (s.expanded loader) names := by
  rw [getCharacteristicProfile, if_neg (not_not.mpr names.isValid),
    StaticProfiles.getStaticCharacteristicProfile, if_neg (not_not.mpr names.isValid), readThrough,
    cached, expanded, StaticCapabilityLoader.expandedProfile.eq_def, CharNames.key]
  cases s.staticCharProfileMap[generateCharProfileKey names.deviceId names.serviceName
      names.characteristicKey]? with
  | some p => rfl
  | none =>
    cases s.staticCapabilityProfile names.deviceId with
    | error e => rfl
    | ok record =>
      simp only
      cases loader.generateStaticInfoProfile record.profile with
      | error e => rfl
      | ok profiles =>
        simp only
        cases profiles[generateCharProfileKey names.deviceId names.serviceName
          names.characteristicKey]? with
        | none => rfl
        | some p => rfl

/-- A get leaves the cache of expanded profiles as it is, or fills it with a record. -/
theorem getCharacteristicProfile_snd (loader : StaticCapabilityLoader) (order : HashOrder)
    (deviceId serviceName characteristicKey : Text) (s : StaticState) :
    (s.getCharacteristicProfile loader order deviceId serviceName characteristicKey).2 = s ∨
      ∃ record profiles, IsKeyValid deviceId ∧
        s.staticCapabilityProfile deviceId = .ok record ∧
        loader.generateStaticInfoProfile record.profile = .ok profiles ∧
        (s.getCharacteristicProfile loader order deviceId serviceName characteristicKey).2 =
          { s with staticCharProfileMap := (StaticProfiles.addStaticCharProfileBatch order
              profiles s.staticCharProfileMap).toOption.getD s.staticCharProfileMap } := by
  rw [getCharacteristicProfile]
  split
  · exact .inl rfl
  rename_i hvalid
  split
  · exact .inl rfl
  split
  · exact .inl rfl
  rename_i record hrecord
  split
  · exact .inl rfl
  rename_i profiles hprofiles
  split
  · exact .inl rfl
  · exact .inr ⟨record, profiles, (not_not.mp hvalid).1, hrecord, hprofiles, rfl⟩

/-- A get changes neither the profile cache nor the store. -/
theorem toControlState_getCharacteristicProfile (order : HashOrder)
    (deviceId serviceName characteristicKey : Text) (s : StaticState) :
    (s.getCharacteristicProfile loader order deviceId serviceName
      characteristicKey).2.toControlState = s.toControlState := by
  rcases s.getCharacteristicProfile_snd loader order deviceId serviceName characteristicKey with
    hsame | ⟨_, _, -, -, -, hfilled⟩
  · rw [hsame]
  · rw [hfilled]

end StaticState

/-! ## Records -/

namespace ControlState

variable {device : LocalDevice} {s : ControlState}

/-- Only this device has its record in the profile cache. -/
theorem Keyed.deviceId_of_cached (h : s.Keyed device) {deviceId : Text}
    (hdevice : IsKeyValid deviceId) {p : Flagged CharacteristicProfile}
    (hp : s.cache.charProfileMap[staticCapabilityKey deviceId]? = some p) :
    p.profile.deviceId = deviceId ∧ deviceId = device.udid := by
  obtain ⟨hkey, hvalid⟩ := h (staticCapabilityKey deviceId) (.char p) hp
  have hnames : AreCharKeysValid p.profile.deviceId p.profile.serviceName
      p.profile.characteristicKey := ⟨hvalid.1, hvalid.2.2.1, hvalid.2.2.2⟩
  obtain ⟨hsame, -⟩ := generateCharProfileKey_injective
    (areCharKeysValid_staticCapability hdevice) hnames hkey
  exact ⟨hsame.symm, hsame.trans hvalid.2.1.2.symm⟩

/-- The record of another device is the one that is stored. -/
theorem Keyed.staticCapabilityProfile_of_ne (h : s.Keyed device) {deviceId : Text}
    (hdevice : IsKeyValid deviceId) (hne : deviceId ≠ device.udid) :
    s.staticCapabilityProfile deviceId = s.manager.store.staticCapabilityProfile deviceId := by
  rw [s.staticCapabilityProfile_eq hdevice]
  cases hcached : s.cache.charProfileMap[staticCapabilityKey deviceId]? with
  | none => rfl
  | some p => exact absurd (h.deviceId_of_cached hdevice hcached).2 hne

/-- A record has the id of its device, or none. -/
theorem Keyed.deviceId_of_staticCapabilityProfile (h : s.Keyed device) {deviceId : Text}
    (hdevice : IsKeyValid deviceId) {record : Flagged CharacteristicProfile}
    (hrecord : s.staticCapabilityProfile deviceId = .ok record) :
    record.profile.deviceId = deviceId ∨ record.profile.deviceId = [] := by
  rw [s.staticCapabilityProfile_eq hdevice] at hrecord
  cases hcached : s.cache.charProfileMap[staticCapabilityKey deviceId]? with
  | none =>
    rw [hcached] at hrecord
    exact KvStore.deviceId_of_staticCapabilityProfile hdevice hrecord
  | some p =>
    rw [hcached] at hrecord
    rw [← Except.ok.inj hrecord]
    exact .inl (h.deviceId_of_cached hdevice hcached).1

/-- A put leaves the records of other devices as they are. -/
theorem Keyed.staticCapabilityProfile_put (h : s.Keyed device) (p : Flagged CharacteristicProfile)
    {deviceId : Text} (hdevice : IsKeyValid deviceId) (hne : deviceId ≠ device.udid) :
    (s.putCharacteristicProfile device p).2.staticCapabilityProfile deviceId =
      s.staticCapabilityProfile deviceId := by
  have hkeyed : (s.putCharacteristicProfile device p).2.Keyed device :=
    ControlCall.keyed_step h (.put (.char p))
  rw [hkeyed.staticCapabilityProfile_of_ne hdevice hne,
    h.staticCapabilityProfile_of_ne hdevice hne]
  apply KvStore.staticCapabilityProfile_congr
  intro key hprefix
  have hother : deviceSegment key ≠ some device.udid := by
    rw [deviceSegment_of_keyStart hdevice.2 hprefix]
    exact fun heq => hne (Option.some.inj heq)
  by_cases hvalid : (CachedProfile.char p).stored.IsValid device.udid
  · obtain ⟨store, hstore, ⟨-, hput⟩ | ⟨-, hput⟩⟩ := CachedProfile.put_cases (.char p) hvalid s
    · rw [show s.putCharacteristicProfile device p = _ from hput]
    · have hnone : ((CachedProfile.char p).stored.toEntries false)[key]? = none := by
        refine Option.eq_none_iff_forall_ne_some.mpr fun v hv => hother ?_
        exact deviceSegment_of_mem_pairs (r := (key, v)) hvalid
          ((StoredProfile.getElem?_toEntries hvalid).mp hv)
      rw [show s.putCharacteristicProfile device p = _ from hput]
      exact (KvStore.valueAt_putBatch hstore key).trans (by rw [hnone, Option.none_or])
  · rw [show s.putCharacteristicProfile device p = _ from
      CachedProfile.put_of_not_isValid (.char p) hvalid s]

end ControlState

/-! ## Calls -/

namespace StaticCall

variable {device : LocalDevice} {loader : StaticCapabilityLoader} {s : StaticState}

/-- The state after a run. -/
def run (loader : StaticCapabilityLoader) (store : KvStore) (calls : List (StaticCall device)) :
    StaticState :=
  calls.foldl (step loader) (.start store)

/-- The call can change the record of the device. -/
def Concerns (deviceId : Text) : StaticCall device → Prop
  | .put _ => deviceId = device.udid
  | .sync peer _ => deviceId = peer.deviceId
  | .get .. => False

/-- The call comes when no profile of its device is cached. -/
def Spares (s : StaticState) (call : StaticCall device) : Prop :=
  ∀ names, (s.cached names).isSome → ¬call.Concerns names.deviceId

/-- The call leaves what the records give for the cached profiles as it is. -/
def Keeps (loader : StaticCapabilityLoader) (s : StaticState) (call : StaticCall device) : Prop :=
  ∀ names, (s.cached names).isSome →
    (call.step loader s).expanded loader names = s.expanded loader names

/-- A put leaves no profile in the profile cache that differs from what is stored then. -/
def KeepsStored (s : StaticState) : StaticCall device → Prop
  | .put p => (ControlCall.put (.char p)).Keeps device s.toControlState
  | _ => True

/-- Every call keeps the static profiles under their own keys. -/
theorem keyed_step (h : s.Keyed device) (call : StaticCall device) :
    (call.step loader s).Keyed device := by
  cases call with
  | put p => exact ControlCall.keyed_step h (.put (.char p))
  | sync peer value => exact h
  | get order deviceId serviceName characteristicKey =>
    rw [step, StaticState.toControlState_getCharacteristicProfile]
    exact h

/-- A get does not change what the store says. -/
theorem expanded_get (order : HashOrder) (deviceId serviceName characteristicKey : Text) :
    (step loader s (.get order deviceId serviceName characteristicKey :
      StaticCall device)).expanded loader = s.expanded loader := by
  funext names
  rw [StaticState.expanded, step, StaticState.toControlState_getCharacteristicProfile,
    ← StaticState.expanded]

/-- What is cached after a call was cached before, or is what the record of the device gives. -/
theorem cached_step (hkeyed : s.Keyed device) (call : StaticCall device) (names : CharNames)
    (p : Flagged CharacteristicProfile) (h : (call.step loader s).cached names = some p) :
    s.cached names = some p ∨ s.expanded loader names = .ok p := by
  cases call with
  | put q => exact .inl h
  | sync peer value => exact .inl h
  | get order deviceId serviceName characteristicKey =>
    rw [step] at h
    rcases s.getCharacteristicProfile_snd loader order deviceId serviceName characteristicKey with
      hsame | ⟨record, profiles, hdevice, hrecord, hprofiles, hfilled⟩
    · rw [hsame] at h
      exact .inl h
    · rw [hfilled, StaticState.cached] at h
      rcases StaticProfiles.getElem?_addStaticCharProfileBatch h with
        hold | ⟨hkey, hvalid, key', hkey'⟩
      · exact .inl hold
      · obtain ⟨hown, hrecordDevice, hne⟩ :=
          StaticCapabilityLoader.key_of_generateStaticInfoProfile hprofiles hkey'
        obtain ⟨hsame, -⟩ := generateCharProfileKey_injective names.isValid hvalid hkey
        have hrecordId : record.profile.deviceId = deviceId :=
          (hkeyed.deviceId_of_staticCapabilityProfile hdevice hrecord).resolve_right hne
        have hdeviceId : names.deviceId = deviceId :=
          hsame.trans (hrecordDevice.trans hrecordId)
        right
        rw [StaticState.expanded, hdeviceId, hrecord, hkey, ← hown]
        simp only [StaticCapabilityLoader.expandedProfile, hprofiles, hkey']

/-- The cache mirrors the records after a call exactly when the call keeps what they give. -/
theorem mirrors_step_iff (hkeyed : s.Keyed device)
    (h : Mirrors s.cached (s.expanded loader)) (call : StaticCall device) :
    Mirrors (call.step loader s).cached ((call.step loader s).expanded loader) ↔
      call.Keeps loader s := by
  cases call with
  | put p => exact h.change_iff
  | sync peer value => exact h.change_iff
  | get order deviceId serviceName characteristicKey =>
    rw [expanded_get]
    refine iff_of_true (h.fill (cached_step hkeyed _)) fun names _ => ?_
    rw [expanded_get]

/-- A call that comes when no profile of its device is cached keeps what is cached. -/
theorem Spares.keeps (hkeyed : s.Keyed device) {call : StaticCall device} (h : call.Spares s) :
    call.Keeps loader s := by
  intro names hcached
  have hother := h names hcached
  cases call with
  | put p =>
    have hrecord := hkeyed.staticCapabilityProfile_put p names.isValid.1 hother
    exact congrArg (loader.expandedProfile · names.key) hrecord
  | sync peer value =>
    have hrecord : ((StaticCall.sync peer value).step loader s).staticCapabilityProfile
        names.deviceId = s.staticCapabilityProfile names.deviceId := by
      have hstored : (peer.synced value s.manager.store).staticCapabilityProfile names.deviceId =
          s.manager.store.staticCapabilityProfile names.deviceId := by
        apply KvStore.staticCapabilityProfile_congr
        intro key hprefix
        apply peer.valueAt_synced
        rw [deviceSegment_of_keyStart names.isValid.1.2 hprefix]
        exact fun heq => hother (Option.some.inj heq)
      rw [ControlState.staticCapabilityProfile_eq _ names.isValid.1,
        ControlState.staticCapabilityProfile_eq _ names.isValid.1]
      cases hlocal : s.cache.charProfileMap[staticCapabilityKey names.deviceId]? with
      | some p => simp only [step, hlocal]
      | none => simp only [step, hlocal, hstored]
    exact congrArg (loader.expandedProfile · names.key) hrecord
  | get order deviceId serviceName characteristicKey => rw [expanded_get]

/-- As long as puts keep it so, what is in the profile cache is stored. -/
theorem cacheAgrees_step (hkeyed : s.Keyed device) (h : s.CacheAgrees) {call : StaticCall device}
    (hkeeps : call.KeepsStored s) : (call.step loader s).CacheAgrees := by
  cases call with
  | put p => exact (ControlCall.cacheAgrees_step_iff h hkeyed (.put (.char p))).mpr hkeeps
  | sync peer value =>
    intro x hx r hr
    have hother : deviceSegment r.1 ≠ some peer.deviceId := by
      rw [deviceSegment_of_mem_pairs (hkeyed.isValid hx) hr]
      exact fun heq => peer.ne_udid (Option.some.inj heq).symm
    exact (peer.valueAt_synced hother).trans (h x hx r hr)
  | get order deviceId serviceName characteristicKey =>
    rw [step, StaticState.toControlState_getCharacteristicProfile]
    exact h

end StaticCall

/-! ## Runs -/

/-- With an empty cache a get gives what the record of the device gives. -/
theorem StaticState.uncached_getCharacteristicProfile_fst (loader : StaticCapabilityLoader)
    (order : HashOrder) (names : CharNames) (s : StaticState) :
    (s.uncached.getCharacteristicProfile loader order names.deviceId names.serviceName
      names.characteristicKey).1 = s.expanded loader names := by
  have hempty : s.uncached.cached names = none := ExtTreeMap.getElem?_empty
  rw [getCharacteristicProfile_fst, readThrough_of_not_cached hempty]
  rfl

/-- No get shows whether the cache of expanded profiles is there. -/
def StaticState.HidesCache (loader : StaticCapabilityLoader) (s : StaticState) : Prop :=
  ∀ (order : HashOrder) (deviceId serviceName characteristicKey : Text),
    (s.getCharacteristicProfile loader order deviceId serviceName characteristicKey).1 =
      (s.uncached.getCharacteristicProfile loader order deviceId serviceName characteristicKey).1

/-- The cache mirrors the store when it hides nothing of it. -/
theorem StaticState.mirrors_iff_hidesCache (loader : StaticCapabilityLoader) (s : StaticState) :
    Mirrors s.cached (s.expanded loader) ↔ s.HidesCache loader := by
  rw [mirrors_iff]
  constructor
  · intro h order deviceId serviceName characteristicKey
    by_cases hvalid : AreCharKeysValid deviceId serviceName characteristicKey
    · have hread := h ⟨deviceId, serviceName, characteristicKey, hvalid⟩
      rw [← getCharacteristicProfile_fst order,
        ← s.uncached_getCharacteristicProfile_fst loader order] at hread
      exact hread
    · rw [getCharacteristicProfile, getCharacteristicProfile, if_pos hvalid, if_pos hvalid]
  · intro h names
    rw [← getCharacteristicProfile_fst .sorted names, h,
      s.uncached_getCharacteristicProfile_fst loader .sorted names]

namespace StaticCall

variable {device : LocalDevice}

theorem keyed_start (store : KvStore) : (StaticState.start store).Keyed device := by
  intro key y hheld
  cases y <;> simp [ControlCache.HeldAt, StaticState.start] at hheld

/-- After every run the static profiles stand under their own keys. -/
theorem keyed_run (loader : StaticCapabilityLoader) (store : KvStore)
    (calls : List (StaticCall device)) : (run loader store calls).Keyed device := by
  have hstep : ∀ (s : StaticState) (call : StaticCall device), s.Keyed device → True →
      (call.step loader s).Keyed device := fun _ call h _ => keyed_step h call
  exact foldl_invariant hstep (keyed_start store) (admits_of_forall (fun _ _ => trivial) _ calls)

/-- Each get of a run shows what is expanded from the record at some time of the run. -/
theorem exists_expanded_of_getCharacteristicProfile (loader : StaticCapabilityLoader)
    (store : KvStore) (calls : List (StaticCall device)) (n : Nat) (order : HashOrder)
    (deviceId serviceName characteristicKey : Text) :
    ∃ m ≤ n, ((run loader store (calls.take n)).getCharacteristicProfile loader order deviceId
        serviceName characteristicKey).1 =
      ((run loader store (calls.take m)).uncached.getCharacteristicProfile loader order deviceId
        serviceName characteristicKey).1 := by
  by_cases hvalid : AreCharKeysValid deviceId serviceName characteristicKey
  · let names : CharNames := ⟨deviceId, serviceName, characteristicKey, hvalid⟩
    have hstep : ∀ (s : StaticState) (call : StaticCall device), s.Keyed device →
        (call.step loader s).Keyed device := fun _ call h => keyed_step h call
    have hfill : ∀ (s : StaticState) (call : StaticCall device) (k : CharNames)
        (v : Flagged CharacteristicProfile), s.Keyed device →
        (call.step loader s).cached k = some v →
          s.cached k = some v ∨ s.expanded loader k = .ok v :=
      fun _ call k v h => cached_step h call k v
    obtain ⟨m, hm, hread⟩ := exists_fetch_of_readThrough hstep hfill (keyed_start store)
      (fun _ => ExtTreeMap.getElem?_empty) calls n names
    rw [← StaticState.getCharacteristicProfile_fst order,
      ← StaticState.uncached_getCharacteristicProfile_fst loader order] at hread
    exact ⟨m, hm, hread⟩
  · refine ⟨n, Nat.le_refl n, ?_⟩
    rw [StaticState.getCharacteristicProfile, StaticState.getCharacteristicProfile, if_pos hvalid,
      if_pos hvalid]

/-- Gets show the records as they are in exactly the runs whose calls keep what the records give
for the cached profiles, and in all runs what they gave at some time. A record is the one that is
stored, in front of it for this device the one of the profile cache. -/
theorem hidesCache_run_iff (loader : StaticCapabilityLoader) (device : LocalDevice)
    (store : KvStore) (calls : List (StaticCall device)) :
    ((∀ n, (run loader store (calls.take n)).HidesCache loader) ↔
      Admits (step loader) (fun s call => call.Keeps loader s) (.start store) calls) ∧
    (Admits (step loader) (fun s call => call.Spares s) (.start store) calls →
      Admits (step loader) (fun s call => call.Keeps loader s) (.start store) calls) ∧
    (∀ (n : Nat) (order : HashOrder) (deviceId serviceName characteristicKey : Text), ∃ m ≤ n,
      ((run loader store (calls.take n)).getCharacteristicProfile loader order deviceId
          serviceName characteristicKey).1 =
        ((run loader store (calls.take m)).uncached.getCharacteristicProfile loader order deviceId
          serviceName characteristicKey).1) ∧
    (∀ (n : Nat) (order : HashOrder) (names : CharNames),
      let s := run loader store (calls.take n)
      (s.uncached.getCharacteristicProfile loader order names.deviceId names.serviceName
          names.characteristicKey).1 =
        loader.expandedProfile
          (match s.cache.charProfileMap[staticCapabilityKey names.deviceId]? with
            | some cached => .ok cached
            | none => s.manager.store.staticCapabilityProfile names.deviceId) names.key) ∧
    (∀ (n : Nat) (names : CharNames) (cached : Flagged CharacteristicProfile),
      let s := run loader store (calls.take n)
      s.cache.charProfileMap[staticCapabilityKey names.deviceId]? = some cached →
        names.deviceId = device.udid ∧
        (Admits (step loader) (fun s call => call.KeepsStored s) (.start store) calls →
          ∀ r ∈ (CachedProfile.char cached).rows, s.manager.store.valueAt r.1 = some r.2)) := by
  have hagrees : (StaticState.start store).CacheAgrees := by
    rintro x ⟨key, hheld⟩
    cases x <;> simp [ControlCache.HeldAt, StaticState.start] at hheld
  have hmirrors : Mirrors (StaticState.start store).cached
      ((StaticState.start store).expanded loader) := by
    intro names p hp
    rw [StaticState.cached, StaticState.start, ExtTreeMap.getElem?_empty] at hp
    cases hp
  have hkeyed : ∀ (s : StaticState) (call : StaticCall device), s.Keyed device →
      (call.step loader s).Keyed device := fun _ call h => keyed_step h call
  have hstep : ∀ (s : StaticState) (call : StaticCall device), s.Keyed device →
      s.HidesCache loader → ((call.step loader s).HidesCache loader ↔ call.Keeps loader s) := by
    intro s call hs h
    rw [← StaticState.mirrors_iff_hidesCache] at h ⊢
    exact mirrors_step_iff hs h call
  have hspares : ∀ (s : StaticState) (call : StaticCall device), s.Keyed device →
      call.Spares s → call.Keeps loader s := fun _ _ hs h => h.keeps hs
  refine ⟨?_, ?_, ?_, fun n order names => ?_, fun n names cached => ?_⟩
  · exact (admits_iff hkeyed hstep (keyed_start store)
      ((StaticState.mirrors_iff_hidesCache loader _).mp hmirrors)).symm
  · exact fun h => h.imp_of_invariant hkeyed hspares (keyed_start store)
  · exact exists_expanded_of_getCharacteristicProfile loader store calls
  · intro s
    have hrecord := s.staticCapabilityProfile_eq names.isValid.1
    exact (s.uncached_getCharacteristicProfile_fst loader order names).trans
      (congrArg (loader.expandedProfile · names.key) hrecord)
  · intro s hcached
    refine ⟨((keyed_run loader store _).deviceId_of_cached names.isValid.1 hcached).2, ?_⟩
    intro hadmits r hr
    have hboth : ∀ (s : StaticState) (call : StaticCall device),
        s.Keyed device ∧ s.CacheAgrees → call.KeepsStored s →
          (call.step loader s).Keyed device ∧ (call.step loader s).CacheAgrees :=
      fun _ call h hkeeps => ⟨keyed_step h.1 call, cacheAgrees_step h.1 h.2 hkeeps⟩
    have hrun := foldl_invariant hboth ⟨keyed_start store, hagrees⟩ (hadmits.take n)
    exact hrun.2 (.char cached) ⟨_, hcached⟩ r hr

end StaticCall

/-! ## A record that is replaced -/

/-- One ability of one version. -/
def sampleStaticInfo : Text :=
  ("\x7b\"static_info\":[\x7b\"DPVersion\":\"1.0.0.0\",\"abilities\":[\x7b\"abilityKey\":" ++
    "\"dmsfwk_svr_id\",\"abilityValue\":\x7b\x7d\x7d]\x7d]\x7d" : String).toList

/-- A loader that parses the file above and flat objects. -/
def sampleLoader : StaticCapabilityLoader where
  parse text :=
    if text = sampleStaticInfo then
      some (.object [(STATIC_INFO, .array [.object [(DP_VERSION, .string ("1.0.0.0" : Text)),
        (ABILITIES, .array [.object [(ABILITY_KEY, .string ("dmsfwk_svr_id" : Text)),
          (ABILITY_VALUE, .object [])]])]])])
    else (flatJson.parse text).map fun members => .object (members.map fun m =>
      (m.1, (m.2.valuestring.map StaticJson.string).getD .other))
  print _ := some ("\x7b\n\x7d" : Text)
  staticInfoFile := some sampleStaticInfo

/-- A device other than this one. -/
def staticPeer : Peer sampleDevice where
  deviceId := ("peer" : Text)
  uuid := ("peerUuid" : Text)
  isValid := by decide
  ne_udid := by decide

/-- A record with the flags. -/
def sampleRecord (staticCapability : Text) : Text :=
  flatJson.print [(STATIC_CAPABILITY_VERSION, .string ("1.0.0.0" : Text)),
    (STATIC_CAPABILITY_VALUE, .string staticCapability)]

/-- The record of a device comes, and is expanded. -/
def cachingRun : List (StaticCall sampleDevice) :=
  [.sync staticPeer (some (sampleRecord ("1000" : Text))),
    .get .sorted ("peer" : Text) ("dmsfwk_svr_id" : Text) STATIC_CHARACTERISTIC_KEY]

/-- After a cached get the cache hides nothing. -/
theorem hidesCache_cachingRun :
    (StaticCall.run sampleLoader ∅ (cachingRun.take 2)).HidesCache sampleLoader := by
  obtain ⟨hhides, hspares, -⟩ :=
    StaticCall.hidesCache_run_iff sampleLoader sampleDevice ∅ cachingRun
  apply hhides.mpr
  apply hspares
  refine ⟨fun names hcached => ?_, fun _ _ h => h, trivial⟩
  rw [StaticState.cached, StaticState.start, ExtTreeMap.getElem?_empty] at hcached
  cases hcached

/-- The profile of a service stays in the cache after its device gives it up. -/
theorem not_hidesCache_replaced :
    ¬∀ (loader : StaticCapabilityLoader) (device : LocalDevice) (store : KvStore)
      (calls : List (StaticCall device)) (n : Nat),
      (StaticCall.run loader store (calls.take n)).HidesCache loader := by
  intro h
  have hget := h sampleLoader sampleDevice ∅
    (cachingRun ++ [.sync staticPeer (some (sampleRecord ("0000" : Text)))]) 3 .sorted
    ("peer" : Text) ("dmsfwk_svr_id" : Text) STATIC_CHARACTERISTIC_KEY
  have hshown := congrArg (fun r => r.toOption.isSome) hget
  revert hshown
  decide +kernel

end DeviceProfile
