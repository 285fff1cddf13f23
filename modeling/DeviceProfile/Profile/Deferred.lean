import DeviceProfile.Cache.SwitchAgreement
import DeviceProfile.Profile.Service

/-!
# Puts before and after the initialisation

Puts that come before the end of the initialisation are collected, and saved at its end. The
collected entries are those of no user, and of the states of a switch only the last one is kept.
-/

namespace DeviceProfile

open Library Std

/-- The puts of the service. -/
inductive ServiceCall where
  | service (p : Flagged ServiceProfile)
  | serviceBatch (ps : List (Flagged ServiceProfile))
  | characteristic (p : Flagged CharacteristicProfile)
  | characteristicBatch (ps : List (Flagged CharacteristicProfile))
  deriving DecidableEq, Repr

namespace ServiceCall

/-- The stores answer. -/
def run (device : LocalDevice) :
    ServiceCall → ServiceWorld → Except ServiceError Unit × ServiceWorld
  | .service p => ServiceWorld.putServiceProfile device true p
  | .serviceBatch ps => ServiceWorld.putServiceProfileBatch device true ps
  | .characteristic p => ServiceWorld.putCharacteristicProfile device true p
  | .characteristicBatch ps => ServiceWorld.putCharacteristicProfileBatch device true true ps

/-- The services that a call puts. -/
def svrProfiles : ServiceCall → List (Flagged ServiceProfile)
  | .service p => [p]
  | .serviceBatch ps => ps
  | .characteristic _ | .characteristicBatch _ => []

/-- The characteristics that a call puts. -/
def charProfiles : ServiceCall → List (Flagged CharacteristicProfile)
  | .service _ | .serviceBatch _ => []
  | .characteristic p => [p]
  | .characteristicBatch ps => ps

end ServiceCall

/-- The switches among characteristics. -/
def switchesOf (ps : List (Flagged CharacteristicProfile)) : List (Flagged CharacteristicProfile) :=
  ps.filter fun p => p.profile.characteristicKey = SWITCH_STATUS

/-- The characteristics that are no switches. -/
def dynamicsOf (ps : List (Flagged CharacteristicProfile)) : List (Flagged CharacteristicProfile) :=
  ps.filter fun p => p.profile.characteristicKey ≠ SWITCH_STATUS

namespace ServiceCall

/-- The profiles of a put that the profile store keeps. -/
def storedProfiles (call : ServiceCall) : List (Flagged StoredProfile) :=
  call.svrProfiles.map (·.map .svr) ++ (dynamicsOf call.charProfiles).map (·.map .char)

/-- The characteristics of a put that are collected for the batch of switches. -/
def keptProfiles (call : ServiceCall) : List (Flagged CharacteristicProfile) :=
  if switchesOf call.charProfiles = [] then [] else call.charProfiles

/-- The keys and values of a put for no user. -/
def plainPairs (call : ServiceCall) : List (Text × Text) :=
  call.storedProfiles.flatMap fun p => p.profile.pairs DEFAULT_USER_ID

end ServiceCall

/-- The state after a put of the service. -/
def serviceStep (device : LocalDevice) (w : ServiceWorld) (call : ServiceCall) : ServiceWorld :=
  (call.run device w).2

/-- The put returns without an error. -/
def IsAccepted (device : LocalDevice) (w : ServiceWorld) (call : ServiceCall) : Prop :=
  (call.run device w).1 = .ok ()

instance (device : LocalDevice) (w : ServiceWorld) (call : ServiceCall) :
    Decidable (IsAccepted device w call) :=
  inferInstanceAs (Decidable (_ = _))

/-! ## What is collected -/

section Collecting

variable {device : LocalDevice} {c : ProfileCache}

/-- Valid services that are not cached add their entries for no user. -/
theorem foldlM_svrEntries_eq_ok {ps : List (Flagged ServiceProfile)} {entries entries' : Entries}
    (h : ps.foldlM (Service.svrEntries device.udid c) entries = .ok entries') :
    (∀ p ∈ ps, IsSvrProfileValid device.udid p.profile) ∧
      entries' = insertAll Prod.fst Prod.snd
        (ps.flatMap fun p => (StoredProfile.svr p.profile).pairs DEFAULT_USER_ID) entries := by
  induction ps generalizing entries with
  | nil => exact ⟨nofun, (Except.ok.inj h).symm⟩
  | cons p rest ih =>
    rw [List.foldlM_cons, Service.svrEntries] at h
    by_cases hvalid : IsSvrProfileValid device.udid p.profile
    · by_cases hexist : c.IsServiceProfileExist p
      · rw [if_neg (not_not.mpr hvalid), if_pos hexist] at h
        cases h
      · rw [if_neg (not_not.mpr hvalid), if_neg hexist] at h
        obtain ⟨hrest, rfl⟩ := ih h
        refine ⟨List.forall_mem_cons.mpr ⟨hvalid, hrest⟩, ?_⟩
        rw [List.flatMap_cons, insertAll_append]
        exact congrArg _ ((StoredProfile.svr p.profile).putInto_eq entries false)
    · rw [if_pos hvalid] at h
      cases h

/-- Valid characteristics that are not cached are switches, or add their entries for no user. -/
theorem foldlM_charEntries_eq_ok {ps : List (Flagged CharacteristicProfile)}
    {x x' : List (Flagged CharacteristicProfile) × Entries}
    (h : ps.foldlM (Service.charEntries device.udid c) x = .ok x') :
    (∀ p ∈ ps, IsCharProfileValid device.udid p.profile ∧ ¬c.IsCharProfileExist p) ∧
      x' = (x.1 ++ switchesOf ps, insertAll Prod.fst Prod.snd
        ((dynamicsOf ps).flatMap fun p => (StoredProfile.char p.profile).pairs DEFAULT_USER_ID)
          x.2) := by
  induction ps generalizing x with
  | nil =>
    refine ⟨nofun, (Except.ok.inj h).symm.trans ?_⟩
    rw [switchesOf, List.filter_nil, List.append_nil]
    rfl
  | cons p rest ih =>
    rw [List.foldlM_cons, Service.charEntries] at h
    by_cases hvalid : IsCharProfileValid device.udid p.profile
    · by_cases hexist : c.IsCharProfileExist p
      · rw [if_neg (not_not.mpr hvalid), if_pos hexist] at h
        cases h
      · by_cases hswitch : p.profile.characteristicKey = SWITCH_STATUS
        · rw [if_neg (not_not.mpr hvalid), if_neg hexist, if_pos hswitch] at h
          obtain ⟨hrest, rfl⟩ := ih h
          refine ⟨List.forall_mem_cons.mpr ⟨⟨hvalid, hexist⟩, hrest⟩, ?_⟩
          simp only [switchesOf, dynamicsOf, List.filter_cons, hswitch, decide_true, if_true,
            ne_eq, not_true_eq_false, decide_false, Bool.false_eq_true, if_false,
            List.append_assoc, List.singleton_append]
        · rw [if_neg (not_not.mpr hvalid), if_neg hexist, if_neg hswitch] at h
          obtain ⟨hrest, rfl⟩ := ih h
          refine ⟨List.forall_mem_cons.mpr ⟨⟨hvalid, hexist⟩, hrest⟩, ?_⟩
          simp only [switchesOf, dynamicsOf, List.filter_cons, hswitch, decide_false,
            Bool.false_eq_true, if_false, ne_eq, not_false_eq_true, decide_true, if_true,
            List.flatMap_cons, insertAll_append]
          exact congrArg (Prod.mk _) (congrArg _
            ((StoredProfile.char p.profile).putInto_eq x.2 false))
    · rw [if_pos hvalid] at h
      cases h

/-- The state in which a put has been collected. -/
def ServiceWorld.withCollected (w : ServiceWorld) (call : ServiceCall) : ServiceWorld :=
  { w with
    service := { w.service with
      dynamicProfileMap := insertAll Prod.fst Prod.snd call.plainPairs w.service.dynamicProfileMap
      switchProfileMap := withProfiles call.keptProfiles w.service.switchProfileMap } }

/-- The profiles of a put are valid, and the cache has none of its characteristics. -/
structure IsCollectable (device : LocalDevice) (c : ProfileCache) (call : ServiceCall) : Prop where
  stored : ∀ p ∈ call.storedProfiles, p.profile.IsValid device.udid
  chars : ∀ p ∈ call.charProfiles,
    IsCharProfileValid device.udid p.profile ∧ ¬c.IsCharProfileExist p

/-- A put that is kept leaves the service it answers with. -/
theorem collected_eq_ok {w : ServiceWorld} {result : Except ServiceError Service}
    (h : (w.collected result).1 = .ok ()) :
    ∃ service, result = .ok service ∧ (w.collected result).2 = { w with service } := by
  cases result with
  | error e => cases h
  | ok service => exact ⟨service, rfl, rfl⟩

/-- Services are collected. -/
theorem collected_services {w : ServiceWorld} (call : ServiceCall)
    (hchars : call.charProfiles = [])
    (h : (w.collected
      (w.service.addSvrProfilesToCache device.udid w.cache call.svrProfiles)).1 = .ok ()) :
    (w.collected (w.service.addSvrProfilesToCache device.udid w.cache call.svrProfiles)).2 =
      w.withCollected call ∧ IsCollectable device w.cache call := by
  obtain ⟨service, hservice, hstate⟩ := collected_eq_ok h
  obtain ⟨entries, hentries, rfl⟩ := Service.addSvrProfilesToCache_eq_ok hservice
  obtain ⟨hvalid, rfl⟩ := foldlM_svrEntries_eq_ok hentries
  have hstored : call.storedProfiles = call.svrProfiles.map (·.map .svr) := by
    rw [ServiceCall.storedProfiles, hchars]
    exact List.append_nil _
  have hkept : call.keptProfiles = [] := by
    rw [ServiceCall.keptProfiles, hchars]
    rfl
  constructor
  · rw [hstate, ServiceWorld.withCollected, union_insertAll, ServiceCall.plainPairs, hstored,
      List.flatMap_map, hkept]
    rfl
  · refine ⟨fun p hp => ?_, fun p hp => ?_⟩
    · rw [hstored] at hp
      obtain ⟨q, hq, rfl⟩ := List.mem_map.mp hp
      exact hvalid q hq
    · rw [hchars] at hp
      cases hp

/-- Characteristics are collected. -/
theorem collected_characteristics {w : ServiceWorld} (call : ServiceCall)
    (hsvrs : call.svrProfiles = [])
    (h : (w.collected
      (w.service.addCharProfilesToCache device.udid w.cache call.charProfiles)).1 = .ok ()) :
    (w.collected (w.service.addCharProfilesToCache device.udid w.cache call.charProfiles)).2 =
      w.withCollected call ∧ IsCollectable device w.cache call := by
  obtain ⟨service, hservice, hstate⟩ := collected_eq_ok h
  obtain ⟨x, hx, rfl⟩ := Service.addCharProfilesToCache_eq_ok hservice
  obtain ⟨hvalid, rfl⟩ := foldlM_charEntries_eq_ok hx
  have hstored : call.storedProfiles = (dynamicsOf call.charProfiles).map (·.map .char) := by
    rw [ServiceCall.storedProfiles, hsvrs]
    rfl
  constructor
  · rw [hstate, ServiceWorld.withCollected, union_insertAll, ServiceCall.plainPairs, hstored,
      List.flatMap_map, ServiceCall.keptProfiles, List.nil_append]
    split
    · rfl
    · rfl
  · refine ⟨fun p hp => ?_, hvalid⟩
    rw [hstored] at hp
    obtain ⟨q, hq, rfl⟩ := List.mem_map.mp hp
    exact (hvalid q (List.mem_of_mem_filter hq)).1

/-- An accepted put before the end of the initialisation is collected. -/
theorem serviceStep_of_not_inited {w : ServiceWorld} {call : ServiceCall}
    (hinited : w.service.isInited = false) (h : IsAccepted device w call) :
    serviceStep device w call = w.withCollected call ∧ IsCollectable device w.cache call := by
  have hnot : ¬w.service.isInited = true := by
    rw [hinited]
    exact Bool.false_ne_true
  cases call with
  | service p =>
    rw [IsAccepted, ServiceCall.run, ServiceWorld.putServiceProfile, if_pos hnot] at h
    rw [serviceStep, ServiceCall.run, ServiceWorld.putServiceProfile, if_pos hnot]
    exact collected_services (.service p) rfl h
  | serviceBatch ps =>
    rw [IsAccepted, ServiceCall.run, ServiceWorld.putServiceProfileBatch, if_pos hnot] at h
    rw [serviceStep, ServiceCall.run, ServiceWorld.putServiceProfileBatch, if_pos hnot]
    exact collected_services (.serviceBatch ps) rfl h
  | characteristic p =>
    rw [IsAccepted, ServiceCall.run, ServiceWorld.putCharacteristicProfile, if_pos hnot] at h
    rw [serviceStep, ServiceCall.run, ServiceWorld.putCharacteristicProfile, if_pos hnot]
    exact collected_characteristics (.characteristic p) rfl h
  | characteristicBatch ps =>
    rw [IsAccepted, ServiceCall.run, ServiceWorld.putCharacteristicProfileBatch, if_pos hnot] at h
    rw [serviceStep, ServiceCall.run, ServiceWorld.putCharacteristicProfileBatch, if_pos hnot]
    split at h
    · cases h
    · rename_i hsize
      rw [if_neg hsize]
      exact collected_characteristics (.characteristicBatch ps) rfl h

/-- The state in which a sequence of puts has been collected. -/
theorem foldl_serviceStep_of_not_inited {calls : List ServiceCall} {w : ServiceWorld}
    (hinited : w.service.isInited = false)
    (h : Admits (serviceStep device) (IsAccepted device) w calls) :
    calls.foldl (serviceStep device) w =
        { w with service := { w.service with
            dynamicProfileMap := insertAll Prod.fst Prod.snd (calls.flatMap ServiceCall.plainPairs)
              w.service.dynamicProfileMap
            switchProfileMap := withProfiles (calls.flatMap ServiceCall.keptProfiles)
              w.service.switchProfileMap } } ∧
      ∀ call ∈ calls, IsCollectable device w.cache call := by
  induction calls generalizing w with
  | nil => exact ⟨rfl, nofun⟩
  | cons call rest ih =>
    obtain ⟨hstep, hcall⟩ := serviceStep_of_not_inited hinited h.1
    have hrest := h.2
    rw [hstep] at hrest
    obtain ⟨hstate, hcalls⟩ := ih (w := w.withCollected call) hinited hrest
    refine ⟨?_, List.forall_mem_cons.mpr ⟨hcall, hcalls⟩⟩
    rw [List.foldl_cons, hstep, hstate]
    simp only [ServiceWorld.withCollected, withProfiles, List.flatMap_cons, insertAll_append]

end Collecting

/-! ## The word of the switches -/

section Word

variable {localUdid : Text} {c : ProfileCache} {items items' : List (Flagged CharacteristicProfile)}
  {w w' w'' : BitVec 32}

/-- A word follows the last state of each switch in a list, where it is on or off; the bits of
switches without a state in the list are kept, and so are all others. -/
structure FollowsLast (items : List (Flagged CharacteristicProfile)) (w w' : BitVec 32) : Prop where
  other : ∀ i, (∀ flag : SwitchFlag, flag.pos ≠ i) → w'.getLsbD i = w.getLsbD i
  kept : ∀ x ∈ SWITCH_SERVICE_MAP, (statusOf x.1 items).getLast? = none →
    w'.getLsbD x.2.pos = w.getLsbD x.2.pos
  last : ∀ x ∈ SWITCH_SERVICE_MAP, ∀ p ∈ (statusOf x.1 items).getLast?,
    IsSwitchPut p.profile x.2 →
      w'.getLsbD x.2.pos = decide (p.profile.characteristicValue = SWITCH_ON)

/-- Only the last switch of each service counts. -/
theorem FollowsLast.congr (h : FollowsLast items w w')
    (hsame : ∀ x ∈ SWITCH_SERVICE_MAP,
      (statusOf x.1 items').getLast? = (statusOf x.1 items).getLast?) :
    FollowsLast items' w w' := by
  refine ⟨h.other, fun x hx hnone => ?_, fun x hx p hp => ?_⟩
  · exact h.kept x hx (hsame x hx ▸ hnone)
  · exact h.last x hx p (hsame x hx ▸ hp)

theorem followsLast_nil (w : BitVec 32) : FollowsLast [] w w :=
  ⟨fun _ _ => rfl, fun _ _ _ => rfl, nofun⟩

theorem FollowsLast.append (h : FollowsLast items w w') (h' : FollowsLast items' w' w'') :
    FollowsLast (items ++ items') w w'' := by
  have hlast : ∀ name, (statusOf name (items ++ items')).getLast? =
      (statusOf name items').getLast?.or (statusOf name items).getLast? := by
    intro name
    rw [statusOf, List.filter_append, List.getLast?_append]
    rfl
  refine ⟨fun i hi => (h'.other i hi).trans (h.other i hi), fun x hx hnone => ?_,
    fun x hx p hp hput => ?_⟩
  · rw [hlast, Option.or_eq_none_iff] at hnone
    exact (h'.kept x hx hnone.1).trans (h.kept x hx hnone.2)
  · rw [hlast, Option.mem_def, Option.or_eq_some_iff] at hp
    rcases hp with hp | ⟨hnone, hp⟩
    · exact h'.last x hx p hp hput
    · exact (h'.kept x hx hnone).trans (h.last x hx p hp hput)

/-- Where the last states are on or off they determine the word. -/
theorem FollowsLast.unique (h : FollowsLast items w w') (h' : FollowsLast items w w'')
    (hputs : ∀ x ∈ SWITCH_SERVICE_MAP, ∀ p ∈ (statusOf x.1 items).getLast?,
      IsSwitchPut p.profile x.2) : w' = w'' := by
  have hall : ∀ flag : SwitchFlag, ∃ x ∈ SWITCH_SERVICE_MAP, x.2 = flag := by
    intro flag
    cases flag <;> decide
  refine BitVec.eq_of_getLsbD_eq fun i _ => ?_
  by_cases hflag : ∀ flag : SwitchFlag, flag.pos ≠ i
  · rw [h.other i hflag, h'.other i hflag]
  · obtain ⟨flag, hpos⟩ := not_forall_not.mp hflag
    obtain ⟨x, hx, rfl⟩ := hall flag
    subst hpos
    cases hlast : (statusOf x.1 items).getLast? with
    | none => rw [h.kept x hx hlast, h'.kept x hx hlast]
    | some p =>
      have hput := hputs x hx p hlast
      rw [h.last x hx p hlast hput, h'.last x hx p hlast hput]

/-- The last state of a switch in the list, if it is on or off, is that of the last of the states
that are not cached already, or of the bit if there is none. -/
def IsSwitchTaken (c : ProfileCache) (items : List (Flagged CharacteristicProfile)) : Prop :=
  ∀ x ∈ SWITCH_SERVICE_MAP, ∀ p ∈ (statusOf x.1 items).getLast?, IsSwitchPut p.profile x.2 →
    (∀ q ∈ (newPutsOf c x.2 items).getLast?,
      q.profile.characteristicValue = p.profile.characteristicValue) ∧
    (newPutsOf c x.2 items = [] →
      c.curLocalSwitch.getLsbD x.2.pos = decide (p.profile.characteristicValue = SWITCH_ON))

instance (c : ProfileCache) (items : List (Flagged CharacteristicProfile)) :
    Decidable (IsSwitchTaken c items) :=
  inferInstanceAs (Decidable (∀ x ∈ SWITCH_SERVICE_MAP, ∀ p ∈ (statusOf x.1 items).getLast?,
    IsSwitchPut p.profile x.2 → _ ∧ _))

/-- A new put of a switch is one of its states. -/
theorem mem_statusOf_of_mem_newPutsOf {x : Text × SwitchFlag} (hx : x ∈ SWITCH_SERVICE_MAP)
    {p : Flagged CharacteristicProfile} (hp : p ∈ newPutsOf c x.2 items) :
    p ∈ statusOf x.1 items := by
  obtain ⟨hmem, hnew⟩ := List.mem_filter.mp hp
  obtain ⟨hname, hkey, -⟩ := (isSwitchPut_iff hx).mp (of_decide_eq_true hnew).1
  exact List.mem_filter.mpr ⟨hmem, decide_eq_true ⟨hname, hkey⟩⟩

/-- After a list that is taken the word follows its last states. -/
theorem followsLast_foldl_switchAfter (h : IsSwitchTaken c items) :
    FollowsLast items c.curLocalSwitch (items.foldl (switchAfter c) c.curLocalSwitch) := by
  have hbit := getLsbD_foldl_switchAfter c items c.curLocalSwitch
  constructor
  · intro i hi
    rcases hbit i with ⟨hsame, -⟩ | ⟨flag, q, hpos, -⟩
    · exact hsame
    · exact absurd hpos (hi flag)
  · intro x hx hnone
    rcases hbit x.2.pos with ⟨hsame, -⟩ | ⟨flag, q, hpos, hlast, -⟩
    · exact hsame
    · obtain rfl := SwitchFlag.pos_injective hpos
      have hmem := mem_statusOf_of_mem_newPutsOf hx (List.mem_of_getLast? hlast)
      rw [List.getLast?_eq_none_iff.mp hnone] at hmem
      cases hmem
  · intro x hx p hp hput
    obtain ⟨hnew, hold⟩ := h x hx p hp hput
    rcases hbit x.2.pos with ⟨hsame, hnil⟩ | ⟨flag, q, hpos, hlast, hon⟩
    · exact hsame.trans (hold (hnil x.2 rfl))
    · obtain rfl := SwitchFlag.pos_injective hpos
      rw [hon, hnew q hlast]

end Word

/-! ## The end of the initialisation -/

section Saving

variable {device : LocalDevice} {stored : Nat → Bool}

/-- After the saving no more puts are kept. -/
theorem isFirst_saveRetries (tryTimes : Nat) (entries : Entries) (m : Manager) :
    (ServiceWorld.saveRetries device stored tryTimes entries m).isFirst = false := by
  induction tryTimes generalizing entries with
  | zero => rfl
  | succ tryTimes ih =>
    rw [ServiceWorld.saveRetries, Manager.savePutTempCache]
    by_cases hempty : (entries ∪ m.putTempCache).isEmpty
    · simp only [hempty, if_true]
      rfl
    · simp only [hempty, Bool.false_eq_true, if_false]
      cases m.store.putBatch device.uuid (stored (tryTimes + 1)) (entries ∪ m.putTempCache) with
      | ok store => rfl
      | error e => exact ih (entries ∪ m.putTempCache)

/-- If the store takes one of the tries, the entries and the cached puts are stored. -/
theorem valueAt_saveRetries {tryTimes : Nat} (hstored : ∃ n < tryTimes, stored (n + 1) = true)
    {entries : Entries} {m : Manager} (hsize : (entries ∪ m.putTempCache).size ≤ MAX_PROFILE_SIZE)
    (key : Text) :
    (ServiceWorld.saveRetries device stored tryTimes entries m).store.valueAt key =
      (entries ∪ m.putTempCache)[key]?.or (m.store.valueAt key) := by
  induction tryTimes generalizing entries with
  | zero =>
    obtain ⟨n, hn, -⟩ := hstored
    cases hn
  | succ tryTimes ih =>
    rw [ServiceWorld.saveRetries, Manager.savePutTempCache]
    by_cases hempty : (entries ∪ m.putTempCache).isEmpty
    · simp only [hempty, if_true]
      rw [ExtTreeMap.isEmpty_iff.mp hempty, ExtTreeMap.getElem?_empty]
      rfl
    · simp only [hempty, Bool.false_eq_true, if_false]
      cases hput : m.store.putBatch device.uuid (stored (tryTimes + 1))
          (entries ∪ m.putTempCache) with
      | ok store => exact KvStore.valueAt_putBatch hput key
      | error e =>
        have hrefused : stored (tryTimes + 1) = false := by
          by_contra htaken
          obtain ⟨store, hok⟩ := KvStore.putBatch_isOk (mt ExtTreeMap.isEmpty_iff.mpr hempty) hsize
            device.uuid m.store
          rw [eq_true_of_ne_false htaken, hok] at hput
          cases hput
        have hagain : entries ∪ m.putTempCache ∪ m.putTempCache = entries ∪ m.putTempCache := by
          refine ExtTreeMap.ext_getElem? fun k => ?_
          simp only [ExtTreeMap.getElem?_union, ← Option.or_assoc, Option.or_self]
        obtain ⟨n, hn, htaken⟩ := hstored
        have hrest : n < tryTimes := by
          refine Nat.lt_of_le_of_ne (Nat.le_of_lt_succ hn) fun heq => ?_
          rw [heq, hrefused] at htaken
          cases htaken
        have hnext := ih ⟨n, hrest, htaken⟩ (hagain.symm ▸ hsize)
        rw [hagain] at hnext
        exact hnext

/-- The end of the initialisation stores what is collected and, in front of it, what is cached. -/
theorem valueAt_saveDynamic (hstored : ∃ n < WRTE_CACHE_PROFILE_RETRY_TIMES, stored (n + 1) = true)
    {w : ServiceWorld}
    (hsize : (w.service.dynamicProfileMap ∪ w.manager.putTempCache).size ≤ MAX_PROFILE_SIZE)
    (key : Text) :
    (w.saveDynamicProfilesFromTempCache device stored).manager.store.valueAt key =
      (w.manager.putTempCache[key]?.or w.service.dynamicProfileMap[key]?).or
        (w.manager.store.valueAt key) := by
  have hread : w.service.getDynamicProfilesFromTempCache ∅ = w.service.dynamicProfileMap := by
    refine ExtTreeMap.ext_getElem? fun k => ?_
    rw [Service.getDynamicProfilesFromTempCache, ExtTreeMap.getElem?_union,
      ExtTreeMap.getElem?_empty, Option.or_none]
  have hreread : w.service.getDynamicProfilesFromTempCache w.service.dynamicProfileMap =
      w.service.dynamicProfileMap := by
    refine ExtTreeMap.ext_getElem? fun k => ?_
    rw [Service.getDynamicProfilesFromTempCache, ExtTreeMap.getElem?_union, Option.or_self]
  rw [ServiceWorld.saveDynamicProfilesFromTempCache]
  simp only [hread, hreread, ite_self]
  rw [valueAt_saveRetries hstored hsize, ExtTreeMap.getElem?_union]

theorem curLocalSwitch_foldl_cacheCharProfile (items : List (Flagged CharacteristicProfile))
    (c : ProfileCache) :
    (items.foldl ProfileCache.cacheCharProfile c).curLocalSwitch = c.curLocalSwitch := by
  induction items generalizing c with
  | nil => rfl
  | cons p rest ih =>
    rw [List.foldl_cons, ih, ProfileCache.cacheCharProfile, ProfileCache.addCharProfile]
    split
    · rfl
    · split <;> rfl

/-- What is kept under a key was put under it. -/
theorem of_getElem?_withProfiles {items : List (Flagged CharacteristicProfile)} {key : Text}
    {p : Flagged CharacteristicProfile} (h : (withProfiles items ∅)[key]? = some p) :
    p ∈ items ∧ p.profile.cacheKey = key := by
  rcases exists_of_getElem?_insertAll h with ⟨q, hq, hkey, rfl⟩ | hnone
  · exact ⟨hq, hkey⟩
  · rw [ExtTreeMap.getElem?_empty] at hnone
    cases hnone

/-- The profiles that are kept of a list, in the order of their keys. -/
def keptValues (items : List (Flagged CharacteristicProfile)) :
    List (Flagged CharacteristicProfile) :=
  (withProfiles items ∅).toList.map Prod.snd

/-- A kept switch was put, and was the last under its key. -/
theorem of_mem_keptValues {items : List (Flagged CharacteristicProfile)}
    {p : Flagged CharacteristicProfile} (hp : p ∈ keptValues items) :
    p ∈ items ∧ (withProfiles items ∅)[p.profile.cacheKey]? = some p := by
  obtain ⟨x, hx, rfl⟩ := List.mem_map.mp hp
  have hget := ExtTreeMap.mem_toList_iff_getElem?_eq_some.mp hx
  obtain ⟨hmem, hkey⟩ := of_getElem?_withProfiles hget
  rw [hkey]
  exact ⟨hmem, hget⟩

/-- Of the states of a switch the last one is kept. -/
theorem getLast?_statusOf_keptValues {localUdid : Text}
    {items : List (Flagged CharacteristicProfile)}
    (hvalid : ∀ p ∈ items, IsCharProfileValid localUdid p.profile) {x : Text × SwitchFlag}
    (hx : x ∈ SWITCH_SERVICE_MAP) :
    (statusOf x.1 (keptValues items)).getLast? = (statusOf x.1 items).getLast? := by
  have hsame : withProfiles (keptValues items) ∅ = withProfiles items ∅ :=
    insertAll_toList fun h => (of_getElem?_withProfiles h).2
  have hleft := getElem?_withProfiles (fun p hp => hvalid p (of_mem_keptValues hp).1) hx ∅
  have hright := getElem?_withProfiles hvalid hx ∅
  rw [hsame, hright, ExtTreeMap.getElem?_empty, Option.or_none, Option.or_none] at hleft
  exact hleft.symm

/-- The kept states of the switches are taken where none of them is cached. -/
theorem isSwitchTaken_keptValues {localUdid : Text} {c : ProfileCache}
    {items : List (Flagged CharacteristicProfile)}
    (hitems : ∀ p ∈ items, IsCharProfileValid localUdid p.profile ∧ ¬c.IsCharProfileExist p) :
    IsSwitchTaken c (keptValues items) := by
  have hkey : ∀ {x : Text × SwitchFlag}, x ∈ SWITCH_SERVICE_MAP →
      ∀ {p : Flagged CharacteristicProfile}, p ∈ statusOf x.1 (keptValues items) →
        (withProfiles items ∅)[switchKey localUdid x.1]? = some p := by
    intro x hx p hp
    obtain ⟨hmem, hstatus⟩ := List.mem_filter.mp hp
    obtain ⟨hitem, hget⟩ := of_mem_keptValues hmem
    rwa [(cacheKey_eq_switchKey_iff (hitems p hitem).1 hx).mpr (of_decide_eq_true hstatus)] at hget
  intro x hx p hp hput
  have hstatus := List.mem_of_getLast? hp
  have hmem := List.mem_of_mem_filter hstatus
  have hnew : p ∈ newPutsOf c x.2 (keptValues items) :=
    List.mem_filter.mpr ⟨hmem, decide_eq_true ⟨hput, (hitems p (of_mem_keptValues hmem).1).2⟩⟩
  refine ⟨fun q hq => ?_, fun hnil => ?_⟩
  · have hq := hkey hx (mem_statusOf_of_mem_newPutsOf hx (List.mem_of_getLast? hq))
    rw [hkey hx hstatus] at hq
    rw [Option.some.inj hq]
  · rw [hnil] at hnew
    cases hnew

/-- The end of the initialisation sets the word to the last states of the switches. -/
theorem followsLast_saveSwitch {w : ServiceWorld} {items : List (Flagged CharacteristicProfile)}
    (hmap : w.service.switchProfileMap = withProfiles items ∅)
    (hitems : ∀ p ∈ items, IsCharProfileValid device.udid p.profile ∧ ¬w.cache.IsCharProfileExist p)
    (hsize : (withProfiles items ∅).size ≤ MAX_CHAR_SIZE) :
    FollowsLast items w.cache.curLocalSwitch
      (w.saveSwitchProfilesFromTempCache device true).cache.curLocalSwitch := by
  have hsame : ∀ x ∈ SWITCH_SERVICE_MAP,
      (statusOf x.1 items).getLast? = (statusOf x.1 (keptValues items)).getLast? := fun x hx =>
    (getLast?_statusOf_keptValues (fun p hp => (hitems p hp).1) hx).symm
  rw [ServiceWorld.saveSwitchProfilesFromTempCache, hmap]
  by_cases hempty : (withProfiles items ∅).isEmpty
  · rw [if_pos hempty]
    have hnil : keptValues items = [] := by
      rw [keptValues, ExtTreeMap.isEmpty_iff.mp hempty]
      rfl
    exact (followsLast_nil _).congr fun x hx => by rw [hsame x hx, hnil]
  · have hlength : (keptValues items).length = (withProfiles items ∅).size := by
      rw [keptValues, List.length_map, ExtTreeMap.length_toList]
    have haccepted : IsBatchAccepted device.udid (keptValues items) := by
      refine ⟨fun hnil => hempty ?_, hlength ▸ hsize, fun p hp =>
        (hitems p (of_mem_keptValues hp).1).1⟩
      rw [hnil] at hlength
      exact ExtTreeMap.isEmpty_iff.mpr (ExtTreeMap.eq_empty_iff_size_eq_zero.mpr hlength.symm)
    have hword := followsLast_foldl_switchAfter (isSwitchTaken_keptValues hitems)
    rw [if_neg hempty]
    change FollowsLast items _ ((putSwitchCharacteristicProfileBatch device.udid true
      (keptValues items) w.cache).toOption.getD w.cache).curLocalSwitch
    rw [putSwitchCharacteristicProfileBatch_of_accepted haccepted]
    change FollowsLast items _ (ProfileCache.curLocalSwitch (List.foldl _ _ _))
    rw [curLocalSwitch_foldl_cacheCharProfile]
    exact hword.congr hsame

end Saving

/-! ## Puts after the initialisation -/

section Direct

variable {device : LocalDevice} {w w' : ServiceWorld}

/-- Only for the default user profiles of multiple users are written like those of no user. -/
def IsPlain (p : Flagged StoredProfile) : Prop :=
  p.isMultiUser = true → p.profile.userId = DEFAULT_USER_ID

instance (p : Flagged StoredProfile) : Decidable (IsPlain p) := inferInstanceAs (Decidable (_ → _))

/-- A plain profile is written for no user. -/
theorem insertAll_pairs_of_isPlain {p : Flagged StoredProfile} (h : IsPlain p) (curUserId : Int32)
    (entries : Entries) :
    insertAll Prod.fst Prod.snd (p.pairs curUserId) entries =
      insertAll Prod.fst Prod.snd (p.profile.pairs DEFAULT_USER_ID) entries := by
  rw [Flagged.pairs, Flagged.writtenUsers]
  split
  · rename_i hmulti
    rw [h hmulti]
    split
    · -- the entries are written twice
      refine ExtTreeMap.ext_getElem? fun k => ?_
      simp only [List.flatMap_cons, List.flatMap_nil, List.append_nil, insertAll_append]
      rw [getElem?_insertAll_or, getElem?_insertAll_or _ _ _ entries, ← Option.or_assoc,
        Option.or_self]
    · rw [List.flatMap_singleton]
  · rw [List.flatMap_singleton]

/-- Valid plain profiles are written for no user. -/
theorem insertAll_pairsOf_of_isPlain {ps : List (Flagged StoredProfile)} {localUdid : Text}
    (hvalid : ∀ p ∈ ps, p.profile.IsValid localUdid) (hplain : ∀ p ∈ ps, IsPlain p)
    (curUserId : Int32) (entries : Entries) :
    insertAll Prod.fst Prod.snd (Manager.pairsOf localUdid curUserId ps) entries =
      insertAll Prod.fst Prod.snd (ps.flatMap fun p => p.profile.pairs DEFAULT_USER_ID)
        entries := by
  induction ps generalizing entries with
  | nil => rfl
  | cons p rest ih =>
    have hp := hvalid p List.mem_cons_self
    have hpairs : Manager.pairsOf localUdid curUserId (p :: rest) =
        p.pairs curUserId ++ Manager.pairsOf localUdid curUserId rest := by
      rw [Manager.pairsOf, List.filter_cons, if_pos (decide_eq_true hp), List.flatMap_cons]
      rfl
    rw [hpairs, List.flatMap_cons, insertAll_append, insertAll_append,
      insertAll_pairs_of_isPlain (hplain p List.mem_cons_self)]
    exact ih (fun q hq => hvalid q (List.mem_cons_of_mem p hq))
      (fun q hq => hplain q (List.mem_cons_of_mem p hq)) _

/-- The manager stores keys and values. -/
structure Stores (pairs : List (Text × Text)) (m m' : Manager) : Prop where
  first : m'.isFirst = false
  stored : ∀ key, m'.store.valueAt key =
    (insertAll Prod.fst Prod.snd pairs ∅)[key]?.or (m.store.valueAt key)

/-- Puts in a row store their entries in a row. -/
theorem Stores.append {pairs pairs' : List (Text × Text)} {m m' m'' : Manager}
    (h : Stores pairs m m') (h' : Stores pairs' m' m'') : Stores (pairs ++ pairs') m m'' := by
  refine ⟨h'.first, fun key => ?_⟩
  rw [h'.stored, h.stored, insertAll_append,
    getElem?_insertAll_or _ _ pairs' (insertAll Prod.fst Prod.snd pairs ∅), Option.or_assoc]

theorem stores_nil {m : Manager} (hfirst : m.isFirst = false) : Stores [] m m :=
  ⟨hfirst, fun key => by rw [insertAll, List.foldl_nil, ExtTreeMap.getElem?_empty, Option.none_or]⟩

/-- An accepted put of the manager stores what it would write for no user. -/
theorem put_eq_ok {call : PutCall} (hfirst : w.manager.isFirst = false)
    (hvalid : ∀ p ∈ call.profiles, p.profile.IsValid device.udid)
    (hplain : ∀ p ∈ call.profiles, IsPlain p) (h : (w.put device true call).1 = .ok ()) :
    ∃ manager, (w.put device true call).2 = { w with manager } ∧
      Stores (call.profiles.flatMap fun p => p.profile.pairs DEFAULT_USER_ID) w.manager
        manager := by
  rw [ServiceWorld.put] at h ⊢
  cases hrun : call.run device true w.manager with
  | mk result manager =>
    rw [hrun] at h
    cases result with
    | error e => cases h
    | ok u =>
      have hsucceeds : PutSucceeds device w.manager (true, call) := by
        rw [PutSucceeds, hrun]
      have hstep : putStep device w.manager (true, call) = manager := by
        rw [putStep, hrun]
      refine ⟨manager, rfl, ?_, fun key => ?_⟩
      · rw [← hstep, isFirst_putStep hsucceeds, hfirst]
      · rw [← hstep, valueAt_putStep hsucceeds hfirst, PutCall.entries,
          insertAll_pairsOf_of_isPlain hvalid hplain]

/-- A put of a switch that succeeds leaves the cache it answers with. -/
theorem switched_eq_ok {result : Except SwitchError ProfileCache}
    (h : (w.switched result).1 = .ok ()) :
    ∃ cache, result = .ok cache ∧ (w.switched result).2 = { w with cache } := by
  cases result with
  | error e => cases h
  | ok cache => exact ⟨cache, rfl, rfl⟩

/-- An accepted put of a switch sets the word. -/
theorem putSwitch_eq_ok {localUdid : Text} {c c' : ProfileCache}
    {p : Flagged CharacteristicProfile}
    (h : putSwitchCharacteristicProfile localUdid true p c = .ok c') :
    c'.curLocalSwitch = [p].foldl (switchAfter c) c.curLocalSwitch := by
  by_cases haccepted : ∃ flag, IsPutAccepted localUdid c p flag
  · obtain ⟨flag, haccepted⟩ := haccepted
    rw [putSwitchCharacteristicProfile_of_accepted haccepted] at h
    rw [← Except.ok.inj h, List.foldl_cons, List.foldl_nil, switchAfter,
      if_neg haccepted.2.1, setSwitchByProfile_of_put haccepted.2.2]
    exact curLocalSwitch_foldl_cacheCharProfile [p] _
  · obtain ⟨e, he⟩ := putSwitchCharacteristicProfile_of_not_accepted
      (fun flag hflag => haccepted ⟨flag, hflag⟩) true
    rw [he] at h
    cases h

/-- An accepted batch of switches sets the word. -/
theorem putSwitchBatch_eq_ok {localUdid : Text} {c c' : ProfileCache}
    {ps : List (Flagged CharacteristicProfile)}
    (h : putSwitchCharacteristicProfileBatch localUdid true ps c = .ok c') :
    c'.curLocalSwitch = ps.foldl (switchAfter c) c.curLocalSwitch := by
  by_cases haccepted : IsBatchAccepted localUdid ps
  · rw [putSwitchCharacteristicProfileBatch_of_accepted haccepted] at h
    rw [← Except.ok.inj h]
    exact curLocalSwitch_foldl_cacheCharProfile ps _
  · obtain ⟨e, he⟩ := putSwitchCharacteristicProfileBatch_of_not_accepted haccepted true
    rw [he] at h
    cases h

/-- A put changes the store and the word as the end of the initialisation would. -/
structure IsDirect (call : ServiceCall) (w w' : ServiceWorld) : Prop where
  service : w'.service = w.service
  stores : Stores call.plainPairs w.manager w'.manager
  word : FollowsLast call.charProfiles w.cache.curLocalSwitch w'.cache.curLocalSwitch

/-- The switches among the characteristics are the ones that count. -/
theorem statusOf_switchesOf (serviceName : Text) (ps : List (Flagged CharacteristicProfile)) :
    statusOf serviceName (switchesOf ps) = statusOf serviceName ps := by
  rw [statusOf, switchesOf, List.filter_filter]
  refine List.filter_congr fun p _ => ?_
  by_cases h : p.profile.characteristicKey = SWITCH_STATUS <;> simp [h]

/-- The word follows the switches among characteristics. -/
theorem FollowsLast.of_switchesOf {ps : List (Flagged CharacteristicProfile)}
    {word word' : BitVec 32} (h : FollowsLast (switchesOf ps) word word') :
    FollowsLast ps word word' :=
  h.congr fun x _ => by rw [statusOf_switchesOf]

/-- The condition under which a put after the initialisation is like one before it. -/
structure IsDirectKept (device : LocalDevice) (w : ServiceWorld) (call : ServiceCall) : Prop where
  accepted : IsAccepted device w call
  stored : ∀ p ∈ call.storedProfiles, p.profile.IsValid device.udid
  plain : ∀ p ∈ call.storedProfiles, IsPlain p
  taken : IsSwitchTaken w.cache (switchesOf call.charProfiles)

/-- A put of the manager without switches. -/
theorem isDirect_put {call : ServiceCall} {put : PutCall} (hfirst : w.manager.isFirst = false)
    (hprofiles : put.profiles = call.storedProfiles) (hswitches : switchesOf call.charProfiles = [])
    (h : IsDirectKept device w call) (hok : (w.put device true put).1 = .ok ()) :
    IsDirect call w (w.put device true put).2 := by
  obtain ⟨manager, hstate, hstores⟩ := put_eq_ok hfirst (hprofiles ▸ h.stored)
    (hprofiles ▸ h.plain) hok
  rw [hprofiles] at hstores
  rw [hstate]
  refine ⟨rfl, hstores, FollowsLast.of_switchesOf ?_⟩
  rw [hswitches]
  exact followsLast_nil _

/-- The batch of the switches of a call. -/
theorem switchBatch_eq_ok {switches : List (Flagged CharacteristicProfile)}
    (h : (if switches = [] then (.ok (), w) else w.switched
      (putSwitchCharacteristicProfileBatch device.udid true switches w.cache)).1 = .ok ()) :
    ∃ cache, (if switches = [] then (.ok (), w) else w.switched
        (putSwitchCharacteristicProfileBatch device.udid true switches w.cache)).2 =
          { w with cache } ∧
      cache.curLocalSwitch = switches.foldl (switchAfter w.cache) w.cache.curLocalSwitch := by
  by_cases hnil : switches = []
  · rw [if_pos hnil, hnil]
    exact ⟨w.cache, rfl, rfl⟩
  · rw [if_neg hnil] at h ⊢
    obtain ⟨cache, hcache, hstate⟩ := switched_eq_ok h
    exact ⟨cache, hstate, putSwitchBatch_eq_ok hcache⟩

/-- The batch of the other characteristics of a call. -/
theorem dynamicBatch_eq_ok {dynamics : List (Flagged CharacteristicProfile)}
    (hfirst : w.manager.isFirst = false)
    (hvalid : ∀ p ∈ dynamics.map (·.map StoredProfile.char), p.profile.IsValid device.udid)
    (hplain : ∀ p ∈ dynamics.map (·.map StoredProfile.char), IsPlain p)
    (h : (if dynamics = [] then (.ok (), w) else
      w.put device true (.characteristicBatch dynamics)).1 = .ok ()) :
    ∃ manager, (if dynamics = [] then (.ok (), w) else
        w.put device true (.characteristicBatch dynamics)).2 = { w with manager } ∧
      Stores ((dynamics.map (·.map StoredProfile.char)).flatMap
        fun p => p.profile.pairs DEFAULT_USER_ID) w.manager manager := by
  by_cases hnil : dynamics = []
  · rw [if_pos hnil, hnil]
    exact ⟨w.manager, rfl, stores_nil hfirst⟩
  · rw [if_neg hnil] at h ⊢
    exact put_eq_ok hfirst hvalid hplain h

/-- An accepted put after the initialisation of plain profiles, whose switches are taken. -/
theorem serviceStep_of_inited {call : ServiceCall} (hinited : w.service.isInited = true)
    (hfirst : w.manager.isFirst = false) (h : IsDirectKept device w call) :
    IsDirect call w (serviceStep device w call) := by
  have hnot : ¬¬w.service.isInited = true := not_not.mpr hinited
  have haccepted := h.accepted
  have hword := (followsLast_foldl_switchAfter h.taken).of_switchesOf
  cases call with
  | service p =>
    rw [IsAccepted, ServiceCall.run, ServiceWorld.putServiceProfile, if_neg hnot] at haccepted
    rw [serviceStep, ServiceCall.run, ServiceWorld.putServiceProfile, if_neg hnot]
    exact isDirect_put hfirst rfl rfl h haccepted
  | serviceBatch ps =>
    rw [IsAccepted, ServiceCall.run, ServiceWorld.putServiceProfileBatch, if_neg hnot] at haccepted
    rw [serviceStep, ServiceCall.run, ServiceWorld.putServiceProfileBatch, if_neg hnot]
    exact isDirect_put hfirst (List.append_nil _).symm rfl h haccepted
  | characteristic p =>
    rw [IsAccepted, ServiceCall.run, ServiceWorld.putCharacteristicProfile, if_neg hnot]
      at haccepted
    rw [serviceStep, ServiceCall.run, ServiceWorld.putCharacteristicProfile, if_neg hnot]
    by_cases hswitch : p.profile.characteristicKey = SWITCH_STATUS
    · rw [if_pos hswitch] at haccepted ⊢
      obtain ⟨cache, hcache, hstate⟩ := switched_eq_ok haccepted
      have hstored : dynamicsOf [p] = [] := by
        rw [dynamicsOf, List.filter_singleton, decide_eq_false (not_not.mpr hswitch)]
        rfl
      have hswitches : switchesOf [p] = [p] := by
        rw [switchesOf, List.filter_singleton, decide_eq_true hswitch]
        rfl
      rw [hstate]
      refine ⟨rfl, ?_, ?_⟩
      · rw [ServiceCall.plainPairs, ServiceCall.storedProfiles, ServiceCall.charProfiles, hstored]
        exact stores_nil hfirst
      · rw [putSwitch_eq_ok hcache]
        rwa [ServiceCall.charProfiles, hswitches] at hword
    · rw [if_neg hswitch] at haccepted ⊢
      have hstored : dynamicsOf [p] = [p] := by
        rw [dynamicsOf, List.filter_singleton, decide_eq_true hswitch]
        rfl
      have hswitches : switchesOf [p] = [] := by
        rw [switchesOf, List.filter_singleton, decide_eq_false hswitch]
        rfl
      refine isDirect_put hfirst ?_ hswitches h haccepted
      rw [ServiceCall.storedProfiles, ServiceCall.charProfiles, hstored]
      rfl
  | characteristicBatch ps =>
    rw [IsAccepted, ServiceCall.run, ServiceWorld.putCharacteristicProfileBatch] at haccepted
    rw [serviceStep, ServiceCall.run, ServiceWorld.putCharacteristicProfileBatch]
    by_cases hsize : ps = [] ∨ MAX_CHAR_SIZE < ps.length
    · rw [if_pos hsize] at haccepted
      cases haccepted
    · rw [if_neg hsize, if_neg hnot] at haccepted ⊢
      revert haccepted
      dsimp only
      split
      · rename_i hswitchRes hdynamicRes
        intro _
        obtain ⟨cache, hstate, hset⟩ := switchBatch_eq_ok hswitchRes
        rw [hstate] at hdynamicRes ⊢
        obtain ⟨manager, hdone, hstores⟩ := dynamicBatch_eq_ok (w := { w with cache }) hfirst
          h.stored h.plain hdynamicRes
        have hdirect : IsDirect (.characteristicBatch ps) w { w with cache, manager } := by
          refine ⟨rfl, hstores, ?_⟩
          rw [hset]
          exact hword
        exact (congrArg (IsDirect (.characteristicBatch ps) w) hdone).mpr hdirect
      · nofun

/-- A sequence of puts after the initialisation. -/
theorem foldl_serviceStep_of_inited {calls : List ServiceCall} (hinited : w.service.isInited = true)
    (hfirst : w.manager.isFirst = false)
    (h : Admits (serviceStep device) (IsDirectKept device) w calls) :
    Stores (calls.flatMap ServiceCall.plainPairs) w.manager
        (calls.foldl (serviceStep device) w).manager ∧
      FollowsLast (calls.flatMap ServiceCall.charProfiles) w.cache.curLocalSwitch
        (calls.foldl (serviceStep device) w).cache.curLocalSwitch := by
  induction calls generalizing w with
  | nil => exact ⟨stores_nil hfirst, followsLast_nil _⟩
  | cons call rest ih =>
    have hcall := serviceStep_of_inited hinited hfirst h.1
    obtain ⟨hstores, hword⟩ := ih (hcall.service ▸ hinited) hcall.stores.first h.2
    rw [List.flatMap_cons, List.flatMap_cons, List.foldl_cons]
    exact ⟨hcall.stores.append hstores, hcall.word.append hword⟩

end Direct

/-! ## Puts before and after -/

/-- The entries that puts write for no user. -/
def plainEntries (calls : List ServiceCall) : Entries :=
  insertAll Prod.fst Prod.snd (calls.flatMap ServiceCall.plainPairs) ∅

/-- The characteristics that are collected for the batch of switches. -/
def keptSwitches (calls : List ServiceCall) : ExtTreeMap Text (Flagged CharacteristicProfile) :=
  withProfiles (calls.flatMap ServiceCall.keptProfiles) ∅

/-- The puts can be deferred: the stores take what is saved, which is not too much, profiles of
multiple users are written like those of no user, a cached put does not overwrite a later one,
and the last state of each switch is on or off. -/
structure IsDeferrable (switchStored : Bool) (stored : Nat → Bool) (m : Manager)
    (calls : List ServiceCall) : Prop where
  switchTaken : switchStored = true
  taken : ∃ n < WRTE_CACHE_PROFILE_RETRY_TIMES, stored (n + 1) = true
  size : (plainEntries calls ∪ m.putTempCache).size ≤ MAX_PROFILE_SIZE
  switchSize : (keptSwitches calls).size ≤ MAX_CHAR_SIZE
  plain : ∀ call ∈ calls, ∀ p ∈ call.storedProfiles, IsPlain p
  cached : ∀ x ∈ m.putTempCache.toList, ∀ value ∈ (plainEntries calls)[x.1]?, value = x.2
  states : ∀ x ∈ SWITCH_SERVICE_MAP,
    ∀ p ∈ (statusOf x.1 (calls.flatMap ServiceCall.charProfiles)).getLast?,
      IsSwitchPut p.profile x.2

/-- The put is accepted, and it sets its switches to their last states. -/
def IsDirectAccepted (device : LocalDevice) (w : ServiceWorld) (call : ServiceCall) : Prop :=
  IsAccepted device w call ∧ IsSwitchTaken w.cache (switchesOf call.charProfiles)

instance (device : LocalDevice) (w : ServiceWorld) (call : ServiceCall) :
    Decidable (IsDirectAccepted device w call) :=
  inferInstanceAs (Decidable (_ ∧ _))

/-- The collected characteristics have the states of the switches. -/
theorem statusOf_keptProfiles (serviceName : Text) (calls : List ServiceCall) :
    statusOf serviceName (calls.flatMap ServiceCall.keptProfiles) =
      statusOf serviceName (calls.flatMap ServiceCall.charProfiles) := by
  have hcall : ∀ call : ServiceCall, statusOf serviceName call.keptProfiles =
      statusOf serviceName call.charProfiles := by
    intro call
    rw [ServiceCall.keptProfiles]
    split
    · rename_i hnil
      rw [← statusOf_switchesOf serviceName call.charProfiles, hnil]
    · rfl
  rw [statusOf, statusOf, List.filter_flatMap, List.filter_flatMap]
  exact congrArg (calls.flatMap ·) (funext hcall)

section Comparison

variable {device : LocalDevice} {switchStored : Bool} {stored : Nat → Bool} {c : ProfileCache}
  {m : Manager} {calls : List ServiceCall}

/-- The switches are saved without touching the entries and the manager. -/
theorem saveSwitch_kept (device : LocalDevice) (switchStored : Bool) (w : ServiceWorld) :
    (w.saveSwitchProfilesFromTempCache device switchStored).manager = w.manager ∧
      (w.saveSwitchProfilesFromTempCache device switchStored).service.dynamicProfileMap =
        w.service.dynamicProfileMap := by
  rw [ServiceWorld.saveSwitchProfilesFromTempCache]
  split <;> exact ⟨rfl, rfl⟩

/-- What the end of the initialisation stores. -/
theorem valueAt_postInitNext (hstored : ∃ n < WRTE_CACHE_PROFILE_RETRY_TIMES, stored (n + 1) = true)
    {w : ServiceWorld}
    (hsize : (w.service.dynamicProfileMap ∪ w.manager.putTempCache).size ≤ MAX_PROFILE_SIZE)
    (key : Text) :
    (w.postInitNext device switchStored stored).manager.store.valueAt key =
      (w.manager.putTempCache[key]?.or w.service.dynamicProfileMap[key]?).or
        (w.manager.store.valueAt key) := by
  obtain ⟨hmanager, hmap⟩ := saveSwitch_kept device switchStored w
  rw [← hmap, ← hmanager] at hsize
  rw [← hmap, ← hmanager]
  exact valueAt_saveDynamic hstored hsize key

/-- The puts before the end of the initialisation. -/
theorem deferred_spec (hdeferrable : IsDeferrable switchStored stored m calls)
    (hdeferred : Admits (serviceStep device) (IsAccepted device) { cache := c, manager := m }
      calls) :
    let deferred := (calls.foldl (serviceStep device)
      { cache := c, manager := m }).postInitNext device switchStored stored
    (∀ call ∈ calls, IsCollectable device c call) ∧
      (∀ key, deferred.manager.store.valueAt key =
        (m.putTempCache[key]?.or (plainEntries calls)[key]?).or (m.store.valueAt key)) ∧
      FollowsLast (calls.flatMap ServiceCall.charProfiles) c.curLocalSwitch
        deferred.cache.curLocalSwitch := by
  obtain ⟨hstate, hcollect⟩ := foldl_serviceStep_of_not_inited rfl hdeferred
  dsimp only at hstate hcollect ⊢
  rw [hstate]
  refine ⟨hcollect, fun key => valueAt_postInitNext hdeferrable.taken hdeferrable.size key, ?_⟩
  have hkept : ∀ p ∈ calls.flatMap ServiceCall.keptProfiles,
      IsCharProfileValid device.udid p.profile ∧ ¬c.IsCharProfileExist p := by
    intro p hp
    obtain ⟨call, hcall, hp⟩ := List.mem_flatMap.mp hp
    rw [ServiceCall.keptProfiles] at hp
    split at hp
    · cases hp
    · exact (hcollect call hcall).chars p hp
  obtain rfl := hdeferrable.switchTaken
  have hword := followsLast_saveSwitch (w := { ({ cache := c, manager := m } : ServiceWorld) with
    service :=
      { dynamicProfileMap := plainEntries calls, switchProfileMap := keptSwitches calls } })
    rfl hkept hdeferrable.switchSize
  exact hword.congr fun x _ => by rw [statusOf_keptProfiles]

/-- The puts after the end of the initialisation. -/
theorem direct_spec (hdeferrable : IsDeferrable switchStored stored m calls)
    (hcollect : ∀ call ∈ calls, IsCollectable device c call)
    (hdirect : Admits (serviceStep device) (IsDirectAccepted device)
      (({ cache := c, manager := m } : ServiceWorld).postInitNext device switchStored stored)
      calls) :
    let direct := calls.foldl (serviceStep device)
      (({ cache := c, manager := m } : ServiceWorld).postInitNext device switchStored stored)
    (∀ key, direct.manager.store.valueAt key =
        (plainEntries calls)[key]?.or (m.putTempCache[key]?.or (m.store.valueAt key))) ∧
      FollowsLast (calls.flatMap ServiceCall.charProfiles) c.curLocalSwitch
        direct.cache.curLocalSwitch := by
  have hcalls : ∀ call ∈ calls, (∀ p ∈ call.storedProfiles, p.profile.IsValid device.udid) ∧
      ∀ p ∈ call.storedProfiles, IsPlain p := fun call hcall =>
    ⟨(hcollect call hcall).stored, hdeferrable.plain call hcall⟩
  have hkept : Admits (serviceStep device) (IsDirectKept device)
      (({ cache := c, manager := m } : ServiceWorld).postInitNext device switchStored stored)
      calls :=
    (hdirect.and_forall hcalls).imp fun w call h => ⟨h.1.1, h.2.1, h.2.2, h.1.2⟩
  have hfirst : (({ cache := c, manager := m } : ServiceWorld).postInitNext device switchStored
      stored).manager.isFirst = false := isFirst_saveRetries _ _ _
  have hcache : (({ cache := c, manager := m } : ServiceWorld).postInitNext device switchStored
      stored).cache = c := by
    rw [ServiceWorld.postInitNext, ServiceWorld.saveSwitchProfilesFromTempCache,
      if_pos ExtTreeMap.isEmpty_empty]
    rfl
  have hsize : ((∅ : Entries) ∪ m.putTempCache).size ≤ MAX_PROFILE_SIZE := by
    refine Nat.le_trans (size_le_size fun k hk => ?_) hdeferrable.size
    rw [ExtTreeMap.mem_union_iff] at hk ⊢
    exact .inr (hk.resolve_left ExtTreeMap.not_mem_empty)
  obtain ⟨hstores, hword⟩ := foldl_serviceStep_of_inited rfl hfirst hkept
  refine ⟨fun key => ?_, hcache ▸ hword⟩
  have hstart : (({ cache := c, manager := m } : ServiceWorld).postInitNext device switchStored
      stored).manager.store.valueAt key =
        (m.putTempCache[key]?.or (∅ : Entries)[key]?).or (m.store.valueAt key) :=
    valueAt_postInitNext hdeferrable.taken hsize key
  rw [ExtTreeMap.getElem?_empty, Option.or_none] at hstart
  rw [hstores.stored, hstart]
  rfl

end Comparison

/-- For every sequence of puts that is accepted before and after the initialisation and can be
deferred, the puts before it leave the same profile store and the same switches as those
after it. -/
theorem deferred_puts_eq_direct (device : LocalDevice) (switchStored : Bool) (stored : Nat → Bool)
    (c : ProfileCache) (m : Manager) (calls : List ServiceCall)
    (hdeferrable : IsDeferrable switchStored stored m calls)
    (hdeferred : Admits (serviceStep device) (IsAccepted device) { cache := c, manager := m } calls)
    (hdirect : Admits (serviceStep device) (IsDirectAccepted device)
      (({ cache := c, manager := m } : ServiceWorld).postInitNext device switchStored stored)
      calls) :
    let start : ServiceWorld := { cache := c, manager := m }
    let deferred := (calls.foldl (serviceStep device) start).postInitNext device switchStored stored
    let direct := calls.foldl (serviceStep device) (start.postInitNext device switchStored stored)
    (∀ key, deferred.manager.store.valueAt key = direct.manager.store.valueAt key) ∧
      deferred.cache.curLocalSwitch = direct.cache.curLocalSwitch := by
  obtain ⟨hcollect, hdeferredStore, hdeferredWord⟩ := deferred_spec hdeferrable hdeferred
  obtain ⟨hdirectStore, hdirectWord⟩ := direct_spec hdeferrable hcollect hdirect
  refine ⟨fun key => ?_, hdeferredWord.unique hdirectWord hdeferrable.states⟩
  rw [hdeferredStore, hdirectStore]
  cases hcached : m.putTempCache[key]? with
  | none => rw [Option.none_or, Option.none_or]
  | some value =>
    cases hwritten : (plainEntries calls)[key]? with
    | none => rfl
    | some value' =>
      have hsame := hdeferrable.cached (key, value)
        (ExtTreeMap.mem_toList_iff_getElem?_eq_some.mpr hcached) value' hwritten
      rw [hsame]
      rfl

/-! ## Profiles of multiple users -/

/-- A service of this device for a user. -/
def userService (serviceName : Text) (userId : Int32) (isMultiUser : Bool) :
    Flagged ServiceProfile :=
  { profile := { deviceId := ("udid" : Text), serviceName, serviceType := ("1" : Text), userId }
    isMultiUser }

/-- A characteristic of this device. -/
def ownCharacteristic (serviceName characteristicKey characteristicValue : Text) :
    Flagged CharacteristicProfile :=
  { profile := { deviceId := ("udid" : Text), serviceName, characteristicKey,
                 characteristicValue } }

/-- A service, then two states of a switch with another characteristic, then the service again. -/
def mixedCalls : List ServiceCall :=
  [.service (userService ("own" : Text) DEFAULT_USER_ID true),
    .characteristicBatch
      [ownCharacteristic ("SwitchStatus_DcShareSwitch" : Text) SWITCH_STATUS SWITCH_ON,
        ownCharacteristic ("own" : Text) ("own" : Text) ("1" : Text)],
    .characteristic
      (ownCharacteristic ("SwitchStatus_DcShareSwitch" : Text) SWITCH_STATUS SWITCH_OFF),
    .serviceBatch [userService ("own" : Text) DEFAULT_USER_ID false]]

/-- Puts before and after the start leave the same as direct ones. -/
theorem deferred_puts_eq_direct_mixed :
    let start : ServiceWorld := {}
    let deferred := (mixedCalls.foldl (serviceStep sampleDevice) start).postInitNext sampleDevice
      true fun _ => true
    let direct := mixedCalls.foldl (serviceStep sampleDevice)
      (start.postInitNext sampleDevice true fun _ => true)
    (∀ key, deferred.manager.store.valueAt key = direct.manager.store.valueAt key) ∧
      deferred.cache.curLocalSwitch = direct.cache.curLocalSwitch := by
  refine deferred_puts_eq_direct sampleDevice true (fun _ => true) {} {} mixedCalls
    ⟨rfl, ⟨0, by decide, rfl⟩, by decide +kernel, by decide +kernel, by decide +kernel,
      by decide +kernel, by decide +kernel⟩ (by decide +kernel) (by decide +kernel)

/-- A service of the user in the foreground. -/
def foregroundCalls : List ServiceCall := [.service (userService ("own" : Text) 100 true)]

/-- The deferred put leaves no entry of the user, the direct one does. -/
theorem not_deferred_puts_eq_direct :
    let start : ServiceWorld := { manager := { foregroundUserId := 100 } }
    let initialised := start.postInitNext sampleDevice true fun _ => true
    Admits (serviceStep sampleDevice) (IsAccepted sampleDevice) start foregroundCalls ∧
      Admits (serviceStep sampleDevice) (IsAccepted sampleDevice) initialised foregroundCalls ∧
      ((foregroundCalls.foldl (serviceStep sampleDevice) start).postInitNext sampleDevice true
        fun _ => true).manager.store.valueAt ("svr#udid#own#serviceName#100" : Text) = none ∧
      (foregroundCalls.foldl (serviceStep sampleDevice) initialised).manager.store.valueAt
        ("svr#udid#own#serviceName#100" : Text) = some ("own" : Text) := by
  decide +kernel

end DeviceProfile
