import DeviceProfile.Profile.Deferred

/-!
# The two maps of collected characteristics

The switches among the characteristics that come before the end of the initialisation are
collected in a map of profiles, the others in a map of entries. A call with a switch among its
profiles adds all of them to the map of switches. The keys of the maps do not say the user, and
the keys of entries have the service name with the suffix, so profiles that differ only in these
replace each other.
-/

namespace DeviceProfile

open Library Std

/-- Characteristics to collect, and what is cached when they come. -/
structure CollectCall where
  cache : ProfileCache := {}
  charProfiles : List (Flagged CharacteristicProfile)

/-- Which characteristic a profile is: its names and the user it belongs to. -/
structure CharIdentity where
  deviceId : Text
  serviceName : Text
  characteristicKey : Text
  userId : Int32
  deriving DecidableEq, Repr

/-- The identity of a characteristic that is put, with the user its keys are written for. -/
def charIdentity (p : Flagged CharacteristicProfile) : CharIdentity where
  deviceId := p.profile.deviceId
  serviceName := p.profile.serviceName
  characteristicKey := p.profile.characteristicKey
  userId := writtenUserId p.profile.userId p.isMultiUser

/-- What the key says under which a profile is collected. -/
def keptIdentity (p : Flagged CharacteristicProfile) : CharIdentity where
  deviceId := p.profile.deviceId
  serviceName :=
    if p.profile.characteristicKey = SWITCH_STATUS then p.profile.serviceName
    else checkAndAddOhSuffix p.profile.serviceName true
  characteristicKey := p.profile.characteristicKey
  userId := DEFAULT_USER_ID

section Calls

variable (device : LocalDevice)

/-- There are profiles, all of them are valid, and none of them is cached. -/
def CollectCall.IsAccepted (call : CollectCall) : Prop :=
  call.charProfiles ≠ [] ∧ ∀ p ∈ call.charProfiles,
    IsCharProfileValid device.udid p.profile ∧ ¬call.cache.IsCharProfileExist p

instance (call : CollectCall) : Decidable (call.IsAccepted device) :=
  inferInstanceAs (Decidable (_ ∧ _))

/-- The profiles that a call adds to the map of switches. -/
def CollectCall.kept (call : CollectCall) : List (Flagged CharacteristicProfile) :=
  if switchesOf call.charProfiles = [] then [] else call.charProfiles

/-- The service after a call of `AddCharProfilesToCache`, whatever it returns. -/
def collect (s : Service) (call : CollectCall) : Service :=
  (s.addCharProfilesToCache device.udid call.cache call.charProfiles).toOption.getD s

/-- The profiles of the accepted calls, in order. -/
def acceptedProfiles (calls : List CollectCall) : List (Flagged CharacteristicProfile) :=
  (calls.filter fun call => call.IsAccepted device).flatMap CollectCall.charProfiles

/-- What the accepted calls add to the map of switches. -/
def keptProfiles (calls : List CollectCall) : List (Flagged CharacteristicProfile) :=
  (calls.filter fun call => call.IsAccepted device).flatMap CollectCall.kept

end Calls

/-- The entries of the characteristics that are no switches. -/
def entriesOf (ps : List (Flagged CharacteristicProfile)) : List (Text × Text) :=
  (dynamicsOf ps).flatMap fun p => (StoredProfile.char p.profile).pairs DEFAULT_USER_ID

theorem switchesOf_cons {p : Flagged CharacteristicProfile}
    (h : p.profile.characteristicKey = SWITCH_STATUS) (ps : List (Flagged CharacteristicProfile)) :
    switchesOf (p :: ps) = p :: switchesOf ps := by
  simp [switchesOf, h]

theorem entriesOf_cons {p : Flagged CharacteristicProfile}
    (h : p.profile.characteristicKey ≠ SWITCH_STATUS) (ps : List (Flagged CharacteristicProfile)) :
    entriesOf (p :: ps) =
      (StoredProfile.char p.profile).pairs DEFAULT_USER_ID ++ entriesOf ps := by
  simp [entriesOf, dynamicsOf, h]

theorem entriesOf_append (ps ps' : List (Flagged CharacteristicProfile)) :
    entriesOf (ps ++ ps') = entriesOf ps ++ entriesOf ps' := by
  rw [entriesOf, dynamicsOf, List.filter_append, List.flatMap_append]
  rfl

/-! ## What a sequence of calls collects -/

section Collecting

variable {device : LocalDevice}

/-- Valid profiles that are not cached pass one after another. -/
theorem foldlM_charEntries_of_accepted {c : ProfileCache}
    {ps : List (Flagged CharacteristicProfile)}
    (h : ∀ p ∈ ps, IsCharProfileValid device.udid p.profile ∧ ¬c.IsCharProfileExist p)
    (x : List (Flagged CharacteristicProfile) × Entries) :
    ∃ x', ps.foldlM (Service.charEntries device.udid c) x = .ok x' := by
  induction ps generalizing x with
  | nil => exact ⟨x, rfl⟩
  | cons p rest ih =>
    obtain ⟨⟨hvalid, hexist⟩, hrest⟩ := List.forall_mem_cons.mp h
    rw [List.foldlM_cons, Service.charEntries, if_neg (not_not.mpr hvalid), if_neg hexist]
    split
    · exact ih hrest _
    · exact ih hrest _

/-- An accepted call adds its entries and its switches to the maps. -/
theorem collect_of_accepted {call : CollectCall} (h : call.IsAccepted device) (s : Service) :
    collect device s call = { s with
      dynamicProfileMap :=
        insertAll Prod.fst Prod.snd (entriesOf call.charProfiles) s.dynamicProfileMap
      switchProfileMap := withProfiles call.kept s.switchProfileMap } := by
  obtain ⟨x, hx⟩ := foldlM_charEntries_of_accepted h.2 ([], ∅)
  cases hadd : s.addCharProfilesToCache device.udid call.cache call.charProfiles with
  | error e =>
    rw [Service.addCharProfilesToCache, if_neg h.1, hx] at hadd
    obtain ⟨switchCharProfiles, entries⟩ := x
    by_cases hswitch : switchCharProfiles = []
    · cases (if_pos hswitch).symm.trans hadd
    · cases (if_neg hswitch).symm.trans hadd
  | ok s' =>
    obtain ⟨x', hx', rfl⟩ := Service.addCharProfilesToCache_eq_ok hadd
    obtain ⟨-, rfl⟩ := foldlM_charEntries_eq_ok hx'
    rw [collect, hadd, Except.toOption, Option.getD_some, CollectCall.kept]
    dsimp only
    rw [List.nil_append, union_insertAll]
    split
    · rfl
    · rfl

/-- A call that is not accepted changes nothing. -/
theorem collect_of_not_accepted {call : CollectCall} (h : ¬call.IsAccepted device) (s : Service) :
    collect device s call = s := by
  cases hadd : s.addCharProfilesToCache device.udid call.cache call.charProfiles with
  | error e =>
    rw [collect, hadd]
    rfl
  | ok s' =>
    obtain ⟨x, hx, -⟩ := Service.addCharProfilesToCache_eq_ok hadd
    refine absurd ⟨fun hnil => ?_, (foldlM_charEntries_eq_ok hx).1⟩ h
    rw [Service.addCharProfilesToCache, if_pos hnil] at hadd
    cases hadd

theorem acceptedProfiles_cons_of_accepted {call : CollectCall} (h : call.IsAccepted device)
    (calls : List CollectCall) : acceptedProfiles device (call :: calls) =
      call.charProfiles ++ acceptedProfiles device calls := by
  simp [acceptedProfiles, h]

theorem keptProfiles_cons_of_accepted {call : CollectCall} (h : call.IsAccepted device)
    (calls : List CollectCall) :
    keptProfiles device (call :: calls) = call.kept ++ keptProfiles device calls := by
  simp [keptProfiles, h]

theorem acceptedProfiles_cons_of_not_accepted {call : CollectCall} (h : ¬call.IsAccepted device)
    (calls : List CollectCall) :
    acceptedProfiles device (call :: calls) = acceptedProfiles device calls := by
  simp [acceptedProfiles, h]

theorem keptProfiles_cons_of_not_accepted {call : CollectCall} (h : ¬call.IsAccepted device)
    (calls : List CollectCall) :
    keptProfiles device (call :: calls) = keptProfiles device calls := by
  simp [keptProfiles, h]

/-- The maps after a sequence of calls. -/
theorem foldl_collect (calls : List CollectCall) (s : Service) :
    calls.foldl (collect device) s = { s with
      dynamicProfileMap := insertAll Prod.fst Prod.snd (entriesOf (acceptedProfiles device calls))
        s.dynamicProfileMap
      switchProfileMap := withProfiles (keptProfiles device calls) s.switchProfileMap } := by
  induction calls generalizing s with
  | nil => rfl
  | cons call calls ih =>
    rw [List.foldl_cons, ih]
    by_cases h : call.IsAccepted device
    · rw [collect_of_accepted h, acceptedProfiles_cons_of_accepted h,
        keptProfiles_cons_of_accepted h, entriesOf_append, insertAll_append]
      simp only [withProfiles, insertAll_append]
    · rw [collect_of_not_accepted h, acceptedProfiles_cons_of_not_accepted h,
        keptProfiles_cons_of_not_accepted h]

/-- Accepted profiles are valid. -/
theorem isCharProfileValid_of_mem_acceptedProfiles {calls : List CollectCall}
    {p : Flagged CharacteristicProfile} (hp : p ∈ acceptedProfiles device calls) :
    IsCharProfileValid device.udid p.profile := by
  obtain ⟨call, hcall, hmem⟩ := List.mem_flatMap.mp hp
  exact ((of_decide_eq_true (List.mem_filter.mp hcall).2).2 p hmem).1

end Collecting

/-! ## Keys -/

section Keys

variable {device : LocalDevice} {p q : Flagged CharacteristicProfile}

/-- A key of the map of switches says the names. -/
theorem cacheKey_eq_iff (hp : IsCharProfileValid device.udid p.profile)
    (hq : IsCharProfileValid device.udid q.profile) :
    p.profile.cacheKey = q.profile.cacheKey ↔
      p.profile.serviceName = q.profile.serviceName ∧
        p.profile.characteristicKey = q.profile.characteristicKey := by
  have hdevice : p.profile.deviceId = q.profile.deviceId := hp.2.1.2.symm.trans hq.2.1.2
  constructor
  · intro h
    exact (generateCharProfileKey_injective (areCharKeysValid hp) (areCharKeysValid hq) h).2
  · rintro ⟨hname, hkey⟩
    rw [CharacteristicProfile.cacheKey, CharacteristicProfile.cacheKey, hdevice, hname, hkey]

/-- A key of the map of entries says the names, the service name with the suffix. -/
theorem names_of_key_eq (hp : IsCharProfileValid device.udid p.profile)
    (hq : IsCharProfileValid device.udid q.profile) {x y : Text × Text}
    (hx : x ∈ (StoredProfile.char p.profile).pairs DEFAULT_USER_ID)
    (hy : y ∈ (StoredProfile.char q.profile).pairs DEFAULT_USER_ID) (h : x.1 = y.1) :
    checkAndAddOhSuffix p.profile.serviceName true =
        checkAndAddOhSuffix q.profile.serviceName true ∧
      p.profile.characteristicKey = q.profile.characteristicKey := by
  obtain ⟨name, hname, hkey⟩ := StoredProfile.mem_pairs.mp hx
  obtain ⟨name', hname', hkey'⟩ := StoredProfile.mem_pairs.mp hy
  have hp' : (StoredProfile.char p.profile).IsValid device.udid := hp
  have hq' : (StoredProfile.char q.profile).IsValid device.udid := hq
  have heq := StoredProfile.eq_of_generateDBKey_eq hp' hq' (StoredProfile.mem_propertyNames hname)
    (StoredProfile.mem_propertyNames hname') ((hkey.trans h).trans hkey'.symm)
  exact ((StoredProfile.key_eq_iff hp' hq').mp heq.1).2.2

/-- Kept profiles with one identity have one key. -/
theorem characteristicKey_of_keptIdentity_eq (h : keptIdentity p = keptIdentity q) :
    p.profile.characteristicKey = q.profile.characteristicKey :=
  congrArg CharIdentity.characteristicKey h

/-- Two switches are kept as one only if they have the same names. -/
theorem serviceName_of_keptIdentity_eq (h : keptIdentity p = keptIdentity q)
    (hswitch : p.profile.characteristicKey = SWITCH_STATUS) :
    p.profile.serviceName = q.profile.serviceName := by
  have hname := congrArg CharIdentity.serviceName h
  have hswitch' := (characteristicKey_of_keptIdentity_eq h).symm.trans hswitch
  simpa only [keptIdentity, hswitch, hswitch', if_true] using hname

/-- Two other characteristics are kept as one only if their services are stored as one. -/
theorem stored_of_keptIdentity_eq (h : keptIdentity p = keptIdentity q)
    (hswitch : p.profile.characteristicKey ≠ SWITCH_STATUS) :
    checkAndAddOhSuffix p.profile.serviceName true =
      checkAndAddOhSuffix q.profile.serviceName true := by
  have hname := congrArg CharIdentity.serviceName h
  have hswitch' : q.profile.characteristicKey ≠ SWITCH_STATUS :=
    characteristicKey_of_keptIdentity_eq h ▸ hswitch
  simpa only [keptIdentity, hswitch, hswitch', if_false] using hname

/-- Two kept profiles with the same key and the same stored name have one identity. -/
theorem keptIdentity_eq (hp : IsCharProfileValid device.udid p.profile)
    (hq : IsCharProfileValid device.udid q.profile)
    (hkey : p.profile.characteristicKey = q.profile.characteristicKey)
    (hname : if p.profile.characteristicKey = SWITCH_STATUS then
        p.profile.serviceName = q.profile.serviceName
      else checkAndAddOhSuffix p.profile.serviceName true =
        checkAndAddOhSuffix q.profile.serviceName true) :
    keptIdentity p = keptIdentity q := by
  have hdevice : p.profile.deviceId = q.profile.deviceId := hp.2.1.2.symm.trans hq.2.1.2
  rw [keptIdentity, keptIdentity, hdevice, ← hkey]
  by_cases hswitch : p.profile.characteristicKey = SWITCH_STATUS
  · rw [if_pos hswitch] at hname
    rw [if_pos hswitch, if_pos hswitch, hname]
  · rw [if_neg hswitch] at hname
    rw [if_neg hswitch, if_neg hswitch, hname]

end Keys

/-! ## Where a profile is found -/

/-- The value of the profile is in the map of switches. -/
def InSwitchMap (s : Service) (p : Flagged CharacteristicProfile) : Prop :=
  s.switchProfileMap[p.profile.cacheKey]?.map (·.profile.characteristicValue) =
    some p.profile.characteristicValue

/-- The entries of the profile are in the map of entries. -/
def InDynamicMap (s : Service) (p : Flagged CharacteristicProfile) : Prop :=
  ∀ x ∈ (StoredProfile.char p.profile).pairs DEFAULT_USER_ID, s.dynamicProfileMap[x.1]? = some x.2

/-- The entry with the value. -/
theorem value_mem_pairs (p : CharacteristicProfile) :
    (generateDBKey (StoredProfile.char p).profileKey CHARACTERISTIC_VALUE DEFAULT_USER_ID,
      p.characteristicValue) ∈ (StoredProfile.char p).pairs DEFAULT_USER_ID :=
  List.mem_cons_of_mem _ List.mem_cons_self

section Found

variable {device : LocalDevice} {s : Service} {ps : List (Flagged CharacteristicProfile)}
  {p q : Flagged CharacteristicProfile}

/-- An entry that is kept was written by a profile that is no switch. -/
theorem exists_of_getElem?_entriesOf {key value : Text}
    (h : (insertAll Prod.fst Prod.snd (entriesOf ps) ∅ : Entries)[key]? = some value) :
    ∃ p ∈ ps, p.profile.characteristicKey ≠ SWITCH_STATUS ∧
      (key, value) ∈ (StoredProfile.char p.profile).pairs DEFAULT_USER_ID := by
  rcases exists_of_getElem?_insertAll h with ⟨x, hx, rfl, rfl⟩ | hnone
  · obtain ⟨p, hp, hpair⟩ := List.mem_flatMap.mp hx
    obtain ⟨hmem, hswitch⟩ := List.mem_filter.mp hp
    exact ⟨p, hmem, of_decide_eq_true hswitch, hpair⟩
  · rw [ExtTreeMap.getElem?_empty] at hnone
    cases hnone

variable (hvalid : ∀ p ∈ ps, IsCharProfileValid device.udid p.profile)
include hvalid

/-- The entries of the last profile that is kept as one with it are found. -/
theorem getElem?_entriesOf_of_isLast (hq : IsLast keptIdentity ps q)
    (hswitch : q.profile.characteristicKey ≠ SWITCH_STATUS) {x : Text × Text}
    (hx : x ∈ (StoredProfile.char q.profile).pairs DEFAULT_USER_ID) :
    (insertAll Prod.fst Prod.snd (entriesOf ps) ∅ : Entries)[x.1]? = some x.2 := by
  have hvalidq := hvalid q hq.mem
  obtain ⟨before, after, rfl, hafter⟩ := hq
  have hlater : ∀ y ∈ entriesOf after, y.1 ≠ x.1 := by
    intro y hy heq
    obtain ⟨r, hr, hpair⟩ := List.mem_flatMap.mp hy
    obtain ⟨hmem, -⟩ := List.mem_filter.mp hr
    have hvalidr := hvalid r (List.mem_append_right _ (List.mem_cons_of_mem _ hmem))
    obtain ⟨hname, hkey⟩ := names_of_key_eq hvalidr hvalidq hpair hx heq
    refine hafter r hmem (keptIdentity_eq hvalidr hvalidq hkey ?_)
    rw [if_neg (hkey ▸ hswitch)]
    exact hname
  rw [entriesOf_append, entriesOf_cons hswitch, insertAll_append, insertAll_append,
    getElem?_insertAll_of_not_mem hlater]
  refine getElem?_insertAll_of_mem hx (fun y hy heq => ?_) _
  obtain ⟨name, hname, hkey⟩ := StoredProfile.mem_pairs.mp hx
  obtain ⟨name', hname', hkey'⟩ := StoredProfile.mem_pairs.mp hy
  have hvalid' : (StoredProfile.char q.profile).IsValid device.udid := hvalidq
  obtain ⟨-, rfl, -⟩ := StoredProfile.eq_of_generateDBKey_eq hvalid' hvalid'
    (StoredProfile.mem_propertyNames hname') (StoredProfile.mem_propertyNames hname)
    ((hkey'.trans heq).trans hkey.symm)
  exact StoredProfile.properties_functional hname' hname

/-- A characteristic that is no switch is found exactly when the last profile that is kept as one
with it has its value. -/
theorem inDynamicMap_iff
    (hmap : s.dynamicProfileMap = insertAll Prod.fst Prod.snd (entriesOf ps) ∅)
    (hq : IsLast keptIdentity ps q) (hsame : keptIdentity q = keptIdentity p)
    (hswitch : p.profile.characteristicKey ≠ SWITCH_STATUS) :
    InDynamicMap s p ↔ q.profile.characteristicValue = p.profile.characteristicValue := by
  have hkey := characteristicKey_of_keptIdentity_eq hsame
  have hswitchq : q.profile.characteristicKey ≠ SWITCH_STATUS := hkey ▸ hswitch
  have hdevice : q.profile.deviceId = p.profile.deviceId := congrArg CharIdentity.deviceId hsame
  have hprofile : (StoredProfile.char q.profile).profileKey =
      (StoredProfile.char p.profile).profileKey := by
    rw [StoredProfile.profileKey, StoredProfile.profileKey, hdevice, hkey,
      stored_of_keptIdentity_eq hsame hswitchq]
  have hfound := fun x hx => getElem?_entriesOf_of_isLast hvalid hq hswitchq (x := x) hx
  rw [InDynamicMap, hmap]
  constructor
  · intro h
    have hvalue := hfound _ (value_mem_pairs q.profile)
    rw [hprofile, h _ (value_mem_pairs p.profile)] at hvalue
    exact (Option.some.inj hvalue).symm
  · intro hvalue x hx
    refine hfound x ?_
    rw [StoredProfile.pairs, StoredProfile.properties, CharacteristicProfile.properties, hprofile,
      hkey, hvalue]
    exact hx

/-- A switch is not found among the entries. -/
theorem not_inDynamicMap_of_switch
    (hmap : s.dynamicProfileMap = insertAll Prod.fst Prod.snd (entriesOf ps) ∅) (hp : p ∈ ps)
    (hswitch : p.profile.characteristicKey = SWITCH_STATUS) : ¬InDynamicMap s p := by
  intro h
  have hfound := h _ (value_mem_pairs p.profile)
  rw [hmap] at hfound
  obtain ⟨q, hq, hswitchq, hpair⟩ := exists_of_getElem?_entriesOf hfound
  obtain ⟨-, hkey⟩ := names_of_key_eq (hvalid p hp) (hvalid q hq) (value_mem_pairs p.profile)
    hpair rfl
  exact hswitchq (hkey.symm.trans hswitch)

/-- A switch is found exactly when the last profile that is kept as one with it has its value. -/
theorem inSwitchMap_iff (hmap : s.switchProfileMap = withProfiles (switchesOf ps) ∅) (hp : p ∈ ps)
    (hq : IsLast keptIdentity ps q) (hsame : keptIdentity q = keptIdentity p)
    (hswitch : p.profile.characteristicKey = SWITCH_STATUS) :
    InSwitchMap s p ↔ q.profile.characteristicValue = p.profile.characteristicValue := by
  have hvalidq := hvalid q hq.mem
  have hkey := characteristicKey_of_keptIdentity_eq hsame
  have hswitchq := hkey.trans hswitch
  have hcache : p.profile.cacheKey = q.profile.cacheKey :=
    (cacheKey_eq_iff (hvalid p hp) hvalidq).mpr
      ⟨(serviceName_of_keptIdentity_eq hsame hswitchq).symm, hkey.symm⟩
  have hlast : IsLast (fun r : Flagged CharacteristicProfile => r.profile.cacheKey)
      (switchesOf ps) q := by
    obtain ⟨before, after, rfl, hafter⟩ := hq
    refine ⟨switchesOf before, switchesOf after, ?_, fun r hr heq => ?_⟩
    · rw [← switchesOf_cons hswitchq]
      exact List.filter_append _ _
    · obtain ⟨hmem, -⟩ := List.mem_filter.mp hr
      have hvalidr := hvalid r (List.mem_append_right _ (List.mem_cons_of_mem _ hmem))
      obtain ⟨hname, hkeyr⟩ := (cacheKey_eq_iff hvalidr hvalidq).mp heq
      refine hafter r hmem (keptIdentity_eq hvalidr hvalidq hkeyr ?_)
      rw [if_pos (hkeyr.trans hswitchq)]
      exact hname
  have hfound : (withProfiles (switchesOf ps) ∅)[q.profile.cacheKey]? = some q :=
    getElem?_insertAll_of_isLast hlast ∅
  rw [InSwitchMap, hmap, hcache, hfound, Option.map_some, Option.some.injEq]

end Found

/-! ## The partition -/

/-- The profiles of the call are all switches, or none of them is. -/
def CollectCall.IsUniform (call : CollectCall) : Prop :=
  (∀ p ∈ call.charProfiles, p.profile.characteristicKey = SWITCH_STATUS) ∨
    ∀ p ∈ call.charProfiles, p.profile.characteristicKey ≠ SWITCH_STATUS

instance (call : CollectCall) : Decidable call.IsUniform := inferInstanceAs (Decidable (_ ∨ _))

/-- Each map holds accepted profiles of its own kind only, and the last value of every accepted
profile is in exactly one of them. -/
structure IsPartitioned (localUdid : Text) (accepted : List (Flagged CharacteristicProfile))
    (s : Service) : Prop where
  switches : ∀ key p, s.switchProfileMap[key]? = some p →
    p ∈ accepted ∧ IsCharProfileValid localUdid p.profile ∧
      p.profile.characteristicKey = SWITCH_STATUS ∧ p.profile.cacheKey = key
  others : ∀ key value, s.dynamicProfileMap[key]? = some value →
    ∃ p ∈ accepted, p.profile.characteristicKey ≠ SWITCH_STATUS ∧
      (key, value) ∈ (StoredProfile.char p.profile).pairs DEFAULT_USER_ID
  latest : ∀ p, IsLast charIdentity accepted p → (InSwitchMap s p ↔ ¬InDynamicMap s p)

section Partition

variable {device : LocalDevice}

/-- A call whose items are all switches or all others keeps its switches. -/
theorem kept_eq_of_isUniform {call : CollectCall} (h : call.IsUniform) :
    call.kept = switchesOf call.charProfiles := by
  rw [CollectCall.kept]
  rcases h with h | h
  · have hall : switchesOf call.charProfiles = call.charProfiles :=
      List.filter_eq_self.mpr fun p hp => decide_eq_true (h p hp)
    rw [hall]
    split
    · rename_i hnil
      exact hnil.symm
    · rfl
  · have hnone : switchesOf call.charProfiles = [] :=
      List.filter_eq_nil_iff.mpr fun p hp => by simpa using h p hp
    rw [if_pos hnone, hnone]

/-- Without mixed calls exactly the accepted switches are kept. -/
theorem keptProfiles_eq {calls : List CollectCall}
    (h : ∀ call ∈ calls, call.IsAccepted device → call.IsUniform) :
    keptProfiles device calls = switchesOf (acceptedProfiles device calls) := by
  induction calls with
  | nil => rfl
  | cons call calls ih =>
    obtain ⟨hcall, hcalls⟩ := List.forall_mem_cons.mp h
    by_cases haccepted : call.IsAccepted device
    · rw [keptProfiles_cons_of_accepted haccepted, acceptedProfiles_cons_of_accepted haccepted,
        kept_eq_of_isUniform (hcall haccepted), ih hcalls]
      exact (List.filter_append _ _).symm
    · rw [keptProfiles_cons_of_not_accepted haccepted,
        acceptedProfiles_cons_of_not_accepted haccepted, ih hcalls]

/-- A mixed call keeps a profile that is no switch in the map of switches. -/
theorem isUniform_of_switches {calls : List CollectCall}
    (h : ∀ key p, (withProfiles (keptProfiles device calls) ∅)[key]? = some p →
      p ∈ acceptedProfiles device calls ∧ p.profile.characteristicKey = SWITCH_STATUS ∧
        p.profile.cacheKey = key) :
    ∀ call ∈ calls, call.IsAccepted device → call.IsUniform := by
  intro call hcall haccepted
  by_contra hmixed
  obtain ⟨hswitch, hother⟩ := not_or.mp hmixed
  push Not at hswitch hother
  obtain ⟨p, hp, hpkey⟩ := hswitch
  obtain ⟨q, hq, hqkey⟩ := hother
  have hkept : call.kept = call.charProfiles := by
    refine if_neg (List.ne_nil_of_mem (a := q) ?_)
    exact List.mem_filter.mpr ⟨hq, decide_eq_true hqkey⟩
  have hmem : p ∈ keptProfiles device calls := by
    refine List.mem_flatMap.mpr ⟨call, List.mem_filter.mpr ⟨hcall, decide_eq_true haccepted⟩, ?_⟩
    rw [hkept]
    exact hp
  obtain ⟨r, hlast, hsame⟩ :=
    exists_isLast (fun p : Flagged CharacteristicProfile => p.profile.cacheKey) hmem
  obtain ⟨haccr, hswitchr, -⟩ := h _ r (getElem?_insertAll_of_isLast hlast ∅)
  have hkeys := (cacheKey_eq_iff (isCharProfileValid_of_mem_acceptedProfiles haccr)
    (haccepted.2 p hp).1).mp hsame
  exact hpkey (hkeys.2.symm.trans hswitchr)

/-- Where the map of switches holds switches, no other characteristic is found in it. -/
theorem not_inSwitchMap_of_not_switch {s : Service} {p : Flagged CharacteristicProfile}
    (h : ∀ (key : Text) (q : Flagged CharacteristicProfile), s.switchProfileMap[key]? = some q →
      IsCharProfileValid device.udid q.profile ∧
        q.profile.characteristicKey = SWITCH_STATUS ∧ q.profile.cacheKey = key)
    (hp : IsCharProfileValid device.udid p.profile)
    (hswitch : p.profile.characteristicKey ≠ SWITCH_STATUS) : ¬InSwitchMap s p := by
  intro hin
  obtain ⟨q, hq, -⟩ := Option.map_eq_some_iff.mp hin
  obtain ⟨hvalid, hswitchq, hcache⟩ := h _ q hq
  have hkeys := (cacheKey_eq_iff hvalid hp).mp hcache
  exact hswitch (hkeys.2.symm.trans hswitchq)

/-- The calls partition their profiles if and only if no accepted call is mixed, and the last
value of every accepted profile is that of the last one that is kept as one with it. -/
theorem isPartitioned_iff (device : LocalDevice) (calls : List CollectCall) :
    IsPartitioned device.udid (acceptedProfiles device calls)
        (calls.foldl (collect device) {}) ↔
      (∀ call ∈ calls, call.IsAccepted device → call.IsUniform) ∧
      ∀ p q, IsLast charIdentity (acceptedProfiles device calls) p →
        IsLast keptIdentity (acceptedProfiles device calls) q → keptIdentity q = keptIdentity p →
        q.profile.characteristicValue = p.profile.characteristicValue := by
  have hvalid : ∀ p ∈ acceptedProfiles device calls, IsCharProfileValid device.udid p.profile :=
    fun p hp => isCharProfileValid_of_mem_acceptedProfiles hp
  have hdynamic : (calls.foldl (collect device) {}).dynamicProfileMap =
      insertAll Prod.fst Prod.snd (entriesOf (acceptedProfiles device calls)) ∅ := by
    rw [foldl_collect]
  have hswitches : (calls.foldl (collect device) {}).switchProfileMap =
      withProfiles (keptProfiles device calls) ∅ := by
    rw [foldl_collect]
  generalize calls.foldl (collect device) {} = s at hdynamic hswitches ⊢
  constructor
  · rintro ⟨hkept, -, hlatest⟩
    have huniform : ∀ call ∈ calls, call.IsAccepted device → call.IsUniform := by
      refine isUniform_of_switches fun key p hp => ?_
      obtain ⟨haccepted, -, hswitch, hkey⟩ := hkept key p (hswitches ▸ hp)
      exact ⟨haccepted, hswitch, hkey⟩
    rw [keptProfiles_eq huniform] at hswitches
    refine ⟨huniform, fun p q hp hq hsame => ?_⟩
    by_cases hswitch : p.profile.characteristicKey = SWITCH_STATUS
    · have hin := (hlatest p hp).mpr (not_inDynamicMap_of_switch hvalid hdynamic hp.mem hswitch)
      exact (inSwitchMap_iff hvalid hswitches hp.mem hq hsame hswitch).mp hin
    · have hnot := not_inSwitchMap_of_not_switch (fun key q hq => (hkept key q hq).2)
        (hvalid p hp.mem) hswitch
      have hin := not_not.mp (mt (hlatest p hp).mpr hnot)
      exact (inDynamicMap_iff hvalid hdynamic hq hsame hswitch).mp hin
  · rintro ⟨huniform, hlatest⟩
    rw [keptProfiles_eq huniform] at hswitches
    have hkept : ∀ key p, s.switchProfileMap[key]? = some p →
        p ∈ acceptedProfiles device calls ∧ IsCharProfileValid device.udid p.profile ∧
          p.profile.characteristicKey = SWITCH_STATUS ∧ p.profile.cacheKey = key := by
      intro key p hp
      rw [hswitches] at hp
      obtain ⟨hmem, hkey⟩ := of_getElem?_withProfiles hp
      obtain ⟨haccepted, hswitch⟩ := List.mem_filter.mp hmem
      exact ⟨haccepted, hvalid p haccepted, of_decide_eq_true hswitch, hkey⟩
    refine ⟨hkept, fun key value h => exists_of_getElem?_entriesOf (hdynamic ▸ h), fun p hp => ?_⟩
    obtain ⟨q, hq, hsame⟩ := exists_isLast keptIdentity hp.mem
    have hvalue := hlatest p q hp hq hsame
    by_cases hswitch : p.profile.characteristicKey = SWITCH_STATUS
    · exact iff_of_true ((inSwitchMap_iff hvalid hswitches hp.mem hq hsame hswitch).mpr hvalue)
        (not_inDynamicMap_of_switch hvalid hdynamic hp.mem hswitch)
    · have hnot := not_inSwitchMap_of_not_switch (fun key q hq => (hkept key q hq).2)
        (hvalid p hp.mem) hswitch
      have hin := (inDynamicMap_iff hvalid hdynamic hq hsame hswitch).mpr hvalue
      exact iff_of_false hnot (not_not.mpr hin)

end Partition

/-- A switch and another characteristic of this device, in one call. -/
def mixedCall : CollectCall where
  charProfiles :=
    [{ profile := {
        deviceId := ("udid" : Text)
        serviceName := ("SwitchStatus_DcShareSwitch" : Text)
        characteristicKey := SWITCH_STATUS
        characteristicValue := ("1" : Text) } },
      { profile := {
        deviceId := ("udid" : Text)
        serviceName := ("camera" : Text)
        characteristicKey := ("mode" : Text)
        characteristicValue := ("on" : Text) } }]

/-- The characteristic is in the map of switches as well. -/
theorem not_isPartitioned_mixedCall :
    ¬∀ (device : LocalDevice) (calls : List CollectCall),
      IsPartitioned device.udid (acceptedProfiles device calls)
        (calls.foldl (collect device) {}) := by
  intro h
  have hswitches := (h sampleDevice [mixedCall]).switches
    ("char#udid#camera#mode" : Text)
    { profile := {
      deviceId := ("udid" : Text)
      serviceName := ("camera" : Text)
      characteristicKey := ("mode" : Text)
      characteristicValue := ("on" : Text) } }
  exact absurd (hswitches (by decide +kernel)).2.2.1 (by decide)

end DeviceProfile
