import DeviceProfile.Profile.Put

/-!
# The service

Until the service is initialised, the profiles that are put are collected in maps of the service.
The end of the initialisation hands them over: the switches in one batch, all other entries
together with the cached puts of the manager, in several tries.
-/

namespace DeviceProfile

open Library Std

/-- The number of times the kept entries are written at the start. -/
def WRTE_CACHE_PROFILE_RETRY_TIMES : Nat := 20

/-- The error codes of the service. -/
inductive ServiceError where
  | invalidParam
  | cacheExist
  | putCharBatchFail
  | manager (e : ManagerError)
  | switch (e : SwitchError)
  deriving DecidableEq, Repr

/-- The state of the service. -/
structure Service where
  isInited : Bool := false
  dynamicProfileMap : Entries := ∅
  switchProfileMap : ExtTreeMap Text (Flagged CharacteristicProfile) := ∅

namespace Service

/-! ## Collecting profiles -/

section Collecting

variable (localUdid : Text) (c : ProfileCache)

/-- The entries of services; an invalid service and one that is cached end the call. -/
def svrEntries (entries : Entries) (item : Flagged ServiceProfile) :
    Except ServiceError Entries :=
  if ¬IsSvrProfileValid localUdid item.profile then .error .invalidParam
  else if c.IsServiceProfileExist item then .error .cacheExist
  else .ok (serviceProfileToEntries item.profile entries)

/-- Who the profiles are for is not looked at. -/
def addSvrProfilesToCache (serviceProfiles : List (Flagged ServiceProfile)) (s : Service) :
    Except ServiceError Service := do
  if serviceProfiles = [] then throw .invalidParam
  let entries ← serviceProfiles.foldlM (svrEntries localUdid c) ∅
  return { s with dynamicProfileMap := s.dynamicProfileMap ∪ entries }

/-- The switches and the entries of the other characteristics. -/
def charEntries (x : List (Flagged CharacteristicProfile) × Entries)
    (item : Flagged CharacteristicProfile) :
    Except ServiceError (List (Flagged CharacteristicProfile) × Entries) :=
  if ¬IsCharProfileValid localUdid item.profile then .error .invalidParam
  else if c.IsCharProfileExist item then .error .cacheExist
  else if item.profile.characteristicKey = SWITCH_STATUS then .ok (x.1 ++ [item], x.2)
  else .ok (x.1, characteristicProfileToEntries item.profile x.2)

/-- With a switch among them all characteristics of the call are kept for the batch of switches. -/
def addCharProfilesToCache (charProfiles : List (Flagged CharacteristicProfile)) (s : Service) :
    Except ServiceError Service := do
  if charProfiles = [] then throw .invalidParam
  let (switchCharProfiles, entries) ← charProfiles.foldlM (charEntries localUdid c) ([], ∅)
  let s := if entries.isEmpty then s
    else { s with dynamicProfileMap := s.dynamicProfileMap ∪ entries }
  if switchCharProfiles = [] then return s
  let switchProfileMap :=
    insertAll (fun item => item.profile.cacheKey) id charProfiles s.switchProfileMap
  return { s with switchProfileMap }

end Collecting

section Collected

variable {localUdid : Text} {c : ProfileCache}

/-- Services that are collected add their entries. -/
theorem addSvrProfilesToCache_eq_ok {serviceProfiles : List (Flagged ServiceProfile)}
    {s s' : Service}
    (h : s.addSvrProfilesToCache localUdid c serviceProfiles = .ok s') :
    ∃ entries, serviceProfiles.foldlM (svrEntries localUdid c) ∅ = .ok entries ∧
      s' = { s with dynamicProfileMap := s.dynamicProfileMap ∪ entries } := by
  rw [addSvrProfilesToCache] at h
  split at h
  · cases h
  · cases hentries : serviceProfiles.foldlM (svrEntries localUdid c) ∅ with
    | error e =>
      rw [hentries] at h
      cases h
    | ok entries =>
      rw [hentries] at h
      exact ⟨entries, rfl, (Except.ok.inj h).symm⟩

/-- Characteristics that are collected add the entries of those that are no switches, and all of
them are kept if there is a switch among them. -/
theorem addCharProfilesToCache_eq_ok {charProfiles : List (Flagged CharacteristicProfile)}
    {s s' : Service}
    (h : s.addCharProfilesToCache localUdid c charProfiles = .ok s') :
    ∃ x, charProfiles.foldlM (charEntries localUdid c) ([], ∅) = .ok x ∧
      s' = { s with
        dynamicProfileMap := s.dynamicProfileMap ∪ x.2
        switchProfileMap := if x.1 = [] then s.switchProfileMap else
          insertAll (fun item => item.profile.cacheKey) id charProfiles s.switchProfileMap } := by
  rw [addCharProfilesToCache] at h
  split at h
  · cases h
  · cases hentries : charProfiles.foldlM (charEntries localUdid c) ([], ∅) with
    | error e =>
      rw [hentries] at h
      cases h
    | ok x =>
      obtain ⟨switchCharProfiles, entries⟩ := x
      have hmap : (if entries.isEmpty then s else
          { s with dynamicProfileMap := s.dynamicProfileMap ∪ entries }) =
          { s with dynamicProfileMap := s.dynamicProfileMap ∪ entries } := by
        split
        · rename_i hempty
          rw [union_of_isEmpty hempty]
        · rfl
      rw [hentries] at h
      refine ⟨(switchCharProfiles, entries), rfl, ?_⟩
      by_cases hswitch : switchCharProfiles = []
      · rw [if_pos hswitch, ← hmap, ← Except.ok.inj ((if_pos hswitch).symm.trans h)]
      · rw [if_neg hswitch, ← Except.ok.inj ((if_neg hswitch).symm.trans h), hmap]

end Collected

/-- Add the collected entries. -/
def getDynamicProfilesFromTempCache (entries : Entries) (s : Service) : Entries :=
  entries ∪ s.dynamicProfileMap

end Service

/-- The service with the cache and the manager. -/
structure ServiceWorld where
  service : Service := {}
  cache : ProfileCache := {}
  manager : Manager := {}

namespace ServiceWorld

variable (device : LocalDevice)

/-! ## The end of the initialisation -/

/-- Without collected switches nothing is put; a failure is only noted. -/
def saveSwitchProfilesFromTempCache (stored : Bool) (w : ServiceWorld) : ServiceWorld :=
  if w.service.switchProfileMap.isEmpty then w
  else
    let switchCharProfiles := w.service.switchProfileMap.toList.map Prod.snd
    { w with
      service := { w.service with switchProfileMap := ∅ }
      cache := (putSwitchCharacteristicProfileBatch device.udid stored switchCharProfiles
        w.cache).toOption.getD w.cache }

/-- The tries to store the entries; the entries of a failed try are kept for the next one. -/
def saveRetries (stored : Nat → Bool) : Nat → Entries → Manager → Manager
  | 0, _, m => m.resetFirst
  | tryTimes + 1, entries, m =>
    match m.savePutTempCache device (stored (tryTimes + 1)) entries with
    | (.ok _, _, m) => m
    | (.error _, entries, m) => saveRetries stored tryTimes entries m

/-- The collected entries are forgotten, whether they could be stored or not. -/
def saveDynamicProfilesFromTempCache (stored : Nat → Bool) (w : ServiceWorld) : ServiceWorld :=
  let entries := w.service.getDynamicProfilesFromTempCache ∅
  let entries :=
    if entries.isEmpty ∧ w.manager.isFirst then w.service.getDynamicProfilesFromTempCache entries
    else entries
  { w with
    manager := saveRetries device stored WRTE_CACHE_PROFILE_RETRY_TIMES entries w.manager
    service := { w.service with dynamicProfileMap := ∅ } }

/-- The end of the start: the kept switches and the kept profiles are saved, then calls reach the
managers. -/
def postInitNext (switchStored : Bool) (stored : Nat → Bool) (w : ServiceWorld) : ServiceWorld :=
  let w := w.saveSwitchProfilesFromTempCache device switchStored
  let w := w.saveDynamicProfilesFromTempCache device stored
  { w with service := { w.service with isInited := true } }

/-! ## Puts -/

/-- The answer of the service to profiles that it collects. -/
def collected (w : ServiceWorld) :
    Except ServiceError Service → Except ServiceError Unit × ServiceWorld
  | .error e => (.error e, w)
  | .ok service => (.ok (), { w with service })

/-- The answer of the manager to a put. -/
def put (stored : Bool) (call : PutCall) (w : ServiceWorld) :
    Except ServiceError Unit × ServiceWorld :=
  match call.run device stored w.manager with
  | (.error e, manager) => (.error (.manager e), { w with manager })
  | (.ok _, manager) => (.ok (), { w with manager })

/-- The answer of the switches to a put. -/
def switched (w : ServiceWorld) :
    Except SwitchError ProfileCache → Except ServiceError Unit × ServiceWorld
  | .error e => (.error (.switch e), w)
  | .ok cache => (.ok (), { w with cache })

/-- A put of a service is kept until the start has ended. -/
def putServiceProfile (stored : Bool) (serviceProfile : Flagged ServiceProfile) (w : ServiceWorld) :
    Except ServiceError Unit × ServiceWorld :=
  if ¬w.service.isInited then
    w.collected (w.service.addSvrProfilesToCache device.udid w.cache [serviceProfile])
  else w.put device stored (.service serviceProfile)

/-- A put of several services is kept until the start has ended. -/
def putServiceProfileBatch (stored : Bool) (serviceProfiles : List (Flagged ServiceProfile))
    (w : ServiceWorld) : Except ServiceError Unit × ServiceWorld :=
  if ¬w.service.isInited then
    w.collected (w.service.addSvrProfilesToCache device.udid w.cache serviceProfiles)
  else w.put device stored (.serviceBatch serviceProfiles)

/-- A put of a characteristic is kept until the start has ended; that of a switch goes its own way
after it. -/
def putCharacteristicProfile (stored : Bool) (charProfile : Flagged CharacteristicProfile)
    (w : ServiceWorld) : Except ServiceError Unit × ServiceWorld :=
  if ¬w.service.isInited then
    w.collected (w.service.addCharProfilesToCache device.udid w.cache [charProfile])
  else if charProfile.profile.characteristicKey = SWITCH_STATUS then
    w.switched (putSwitchCharacteristicProfile device.udid stored charProfile w.cache)
  else w.put device stored (.characteristic charProfile)

/-- The switches and the other characteristics are put in two batches; both are tried. -/
def putCharacteristicProfileBatch (switchStored stored : Bool)
    (charProfiles : List (Flagged CharacteristicProfile)) (w : ServiceWorld) :
    Except ServiceError Unit × ServiceWorld :=
  if charProfiles = [] ∨ MAX_CHAR_SIZE < charProfiles.length then (.error .invalidParam, w)
  else if ¬w.service.isInited then
    w.collected (w.service.addCharProfilesToCache device.udid w.cache charProfiles)
  else
    let switchCharProfiles := charProfiles.filter fun p =>
      p.profile.characteristicKey = SWITCH_STATUS
    let dynamicCharProfiles := charProfiles.filter fun p =>
      p.profile.characteristicKey ≠ SWITCH_STATUS
    let switchRes := if switchCharProfiles = [] then (.ok (), w)
      else w.switched (putSwitchCharacteristicProfileBatch device.udid switchStored
        switchCharProfiles w.cache)
    let dynamicRes := if dynamicCharProfiles = [] then (.ok (), switchRes.2)
      else switchRes.2.put device stored (.characteristicBatch dynamicCharProfiles)
    match switchRes.1, dynamicRes.1 with
    | .ok _, .ok _ => (.ok (), dynamicRes.2)
    | _, _ => (.error .putCharBatchFail, dynamicRes.2)

end ServiceWorld

end DeviceProfile
