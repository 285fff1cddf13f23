import DeviceProfile.Profile.Service

/-!
# Puts in the start-up phase

Until the collected entries are stored, puts only reach the cache of the manager or the map of
the service. A put reads the mode first and acts on it later, and the collected entries are
merged, written and forgotten in steps of their own, so a put can fall between these steps.
-/

namespace DeviceProfile

open Library Std

/-- How far the saving of the collected entries has come, with the tries that are left and the
entries of the current one. -/
inductive SavePhase where
  | idle
  | copied (entries : Entries)
  | trying (tryTimes : Nat) (entries : Entries)
  | merged (tryTimes : Nat) (entries : Entries)
  | written
  | lowered
  | saved
  | finished
  deriving DecidableEq

/-- The state of the start-up phase. -/
structure StartState where
  manager : Manager
  service : Service := {}
  /-- The entries of puts that have read the mode, with the mode. -/
  pending : List (Entries × Bool) := []
  phase : SavePhase := .idle
  /-- The values of the puts that have returned without an error, the last one for each key. -/
  acknowledged : Entries := ∅

/-- A put of the manager reads the mode, with the foreground user that it has read before, and
acts on it; the service collects profiles; or the saving goes on. -/
inductive StartEvent where
  | load (curUserId : Int32) (call : PutCall)
  | finish (i : Nat) (stored : Bool)
  | addServices (c : ProfileCache) (serviceProfiles : List (Flagged ServiceProfile))
  | addCharacteristics (c : ProfileCache) (charProfiles : List (Flagged CharacteristicProfile))
  | save (stored : Bool)

section Steps

variable (device : LocalDevice)

/-- A put caches its entries in the start-up phase and stores them after it. -/
def finishPut (i : Nat) (stored : Bool) (s : StartState) : StartState :=
  match s.pending[i]? with
  | none => s
  | some (entries, true) =>
    { s with
      manager := s.manager.addToPutTempCache entries
      pending := s.pending.eraseIdx i
      acknowledged := s.acknowledged ∪ entries }
  | some (entries, false) =>
    match s.manager.store.putBatch device.uuid stored entries with
    | .error _ => { s with pending := s.pending.eraseIdx i }
    | .ok store =>
      { s with
        manager := { s.manager with store }
        pending := s.pending.eraseIdx i
        acknowledged := s.acknowledged ∪ entries }

/-- The service collects profiles until the saving starts; `entries` is what it collects. -/
def collectPut (s : StartState) (result : Except ServiceError Service)
    (entries : Except ServiceError Entries) : StartState :=
  match s.phase, result, entries with
  | .idle, .ok service, .ok entries =>
    { s with service, acknowledged := s.acknowledged ∪ entries }
  | _, _, _ => s

/-- One step of the saving: the kept entries are copied and tried up to twenty times, then the flags
fall one by one. -/
def saveStep (stored : Bool) (s : StartState) : StartState :=
  match s.phase with
  | .idle => { s with phase := .copied (s.service.getDynamicProfilesFromTempCache ∅) }
  | .copied entries =>
    let entries := if entries.isEmpty ∧ s.manager.isFirst then
      s.service.getDynamicProfilesFromTempCache entries else entries
    { s with phase := .trying WRTE_CACHE_PROFILE_RETRY_TIMES entries }
  | .trying 0 _ => { s with manager := s.manager.resetFirst, phase := .saved }
  | .trying (tryTimes + 1) entries =>
    { s with phase := .merged tryTimes (entries ∪ s.manager.putTempCache) }
  | .merged tryTimes entries =>
    if entries.isEmpty then { s with phase := .written }
    else
      match s.manager.store.putBatch device.uuid stored entries with
      | .error _ => { s with phase := .trying tryTimes entries }
      | .ok store => { s with manager := { s.manager with store }, phase := .written }
  | .written => { s with manager := s.manager.resetFirst, phase := .lowered }
  | .lowered => { s with manager := { s.manager with putTempCache := ∅ }, phase := .saved }
  | .saved =>
    { s with
      service := { s.service with dynamicProfileMap := ∅, isInited := true }
      phase := .finished }
  | .finished => s

/-- The entries that the service collects for services. -/
def collectedServices (c : ProfileCache) (serviceProfiles : List (Flagged ServiceProfile)) :
    Except ServiceError Entries :=
  serviceProfiles.foldlM (Service.svrEntries device.udid c) ∅

/-- The entries that the service collects for characteristics that are no switches. -/
def collectedCharacteristics (c : ProfileCache)
    (charProfiles : List (Flagged CharacteristicProfile)) : Except ServiceError Entries :=
  Prod.snd <$> charProfiles.foldlM (Service.charEntries device.udid c) ([], ∅)

/-- One event: a put makes or writes its entries, a put is kept, the saving moves on, or the flag is
set. -/
def startStep (s : StartState) : StartEvent → StartState
  | .load curUserId call =>
    { s with pending := s.pending ++ [(call.entries device.udid curUserId, s.manager.isFirst)] }
  | .finish i stored => finishPut device i stored s
  | .addServices c serviceProfiles =>
    collectPut s (s.service.addSvrProfilesToCache device.udid c serviceProfiles)
      (collectedServices device c serviceProfiles)
  | .addCharacteristics c charProfiles =>
    collectPut s (s.service.addCharProfilesToCache device.udid c charProfiles)
      (collectedCharacteristics device c charProfiles)
  | .save stored => saveStep device stored s

/-- No value of the entries differs from one that is cached for its key. -/
def AgreesWithCache (m : Manager) (entries : Entries) : Prop :=
  ∀ x ∈ entries.toList, ∀ value ∈ m.putTempCache[x.1]?, value = x.2

/-- The try succeeds: there is nothing to write, or the store takes it. -/
def IsTryTaken (stored : Bool) (entries : Entries) (kvStore : KvStore) : Prop :=
  entries.isEmpty ∨ (kvStore.putBatch device.uuid stored entries).toOption.isSome

/-- A try that succeeds writes all that is cached, and the last one does not fail while the service
holds entries. -/
def IsSaveKept (stored : Bool) (s : StartState) : SavePhase → Prop
  | .merged tryTimes entries =>
    (IsTryTaken device stored entries s.manager.store →
      ∀ x ∈ s.manager.putTempCache.toList, entries[x.1]? = some x.2) ∧
    (¬IsTryTaken device stored entries s.manager.store → tryTimes = 0 →
      s.service.dynamicProfileMap.isEmpty)
  | _ => True

/-- No value gets lost at this step: the cache takes the entries of a put, and they are not
forgotten with what has been written; the service collects no value for a key for which another
one is cached; and the saving loses nothing. -/
def IsKept (s : StartState) : StartEvent → Prop
  | .load _ _ => True
  | .finish i _ => ∀ x ∈ s.pending[i]?, x.2 = true →
      (x.1.isEmpty ∨ s.manager.putTempCache.size ≤ MAX_MAP_LEN) ∧
        (s.phase = .written ∨ s.phase = .lowered →
          ∀ y ∈ x.1.toList, s.manager.store.valueAt y.1 = some y.2)
  | .addServices c serviceProfiles =>
    AgreesWithCache s.manager ((collectedServices device c serviceProfiles).toOption.getD ∅)
  | .addCharacteristics c charProfiles =>
    AgreesWithCache s.manager ((collectedCharacteristics device c charProfiles).toOption.getD ∅)
  | .save stored => IsSaveKept device stored s s.phase

instance (m : Manager) (entries : Entries) : Decidable (AgreesWithCache m entries) :=
  inferInstanceAs (Decidable (∀ x ∈ entries.toList, ∀ value ∈ m.putTempCache[x.1]?, value = x.2))

instance (stored : Bool) (entries : Entries) (kvStore : KvStore) :
    Decidable (IsTryTaken device stored entries kvStore) :=
  inferInstanceAs (Decidable (_ ∨ _))

instance (stored : Bool) (s : StartState) (phase : SavePhase) :
    Decidable (IsSaveKept device stored s phase) :=
  match phase with
  | .merged _ _ => inferInstanceAs (Decidable ((_ → ∀ x ∈ _, _) ∧ (¬_ → _ → _)))
  | .idle | .copied _ | .trying _ _ | .written | .lowered | .saved | .finished => isTrue trivial

instance (s : StartState) (event : StartEvent) : Decidable (IsKept device s event) :=
  match event with
  | .load _ _ => isTrue trivial
  | .finish i _ => inferInstanceAs (Decidable (∀ x ∈ s.pending[i]?, x.2 = true → _ ∧ _))
  | .addServices _ _ | .addCharacteristics _ _ => inferInstanceAs (Decidable (AgreesWithCache _ _))
  | .save _ => inferInstanceAs (Decidable (IsSaveKept _ _ _ _))

/-- Each value of an acknowledged put is stored, cached by the manager or held by the service. -/
def HoldsAcknowledged (s : StartState) : Prop :=
  ∀ key value, s.acknowledged[key]? = some value →
    s.manager.store.valueAt key = some value ∨ s.manager.putTempCache[key]? = some value ∨
      s.service.dynamicProfileMap[key]? = some value

end Steps

/-! ## The invariant -/

section Invariant

/-- The values of acknowledged puts are cached, or collected and not cached. -/
def AreWaiting (s : StartState) : Prop :=
  ∀ key value, s.acknowledged[key]? = some value →
    s.manager.putTempCache[key]? = some value ∨
      key ∉ s.manager.putTempCache ∧ s.service.dynamicProfileMap[key]? = some value

/-- The entries of a try hold what is collected and not cached. -/
def HoldsCollected (s : StartState) (entries : Entries) : Prop :=
  ∀ key value, s.service.dynamicProfileMap[key]? = some value → key ∉ s.manager.putTempCache →
    entries[key]? = some value

/-- Nothing has been written yet: every put that has read the mode will be cached, and the
acknowledged values wait. -/
structure IsEarly (s : StartState) : Prop where
  first : s.manager.isFirst = true
  pending : ∀ x ∈ s.pending, x.2 = true
  waiting : AreWaiting s

/-- Where the acknowledged values are in each phase. -/
def KeepsPuts (s : StartState) : Prop :=
  match s.phase with
  | .idle => IsEarly s
  | .copied entries => IsEarly s ∧ HoldsCollected s entries
  | .trying tryTimes entries => IsEarly s ∧ HoldsCollected s entries ∧
      (tryTimes = 0 → s.service.dynamicProfileMap = ∅)
  | .merged _ entries => IsEarly s ∧ HoldsCollected s entries
  | .written | .lowered => ∀ key value, s.acknowledged[key]? = some value →
      s.manager.store.valueAt key = some value
  | .saved | .finished => ∀ key value, s.acknowledged[key]? = some value →
      s.manager.store.valueAt key = some value ∨ s.manager.putTempCache[key]? = some value

variable {device : LocalDevice} {s : StartState}

/-- What keeps its puts holds those that were acknowledged. -/
theorem KeepsPuts.holdsAcknowledged (h : KeepsPuts s) : HoldsAcknowledged s := by
  intro key value hvalue
  have hearly : IsEarly s → s.manager.store.valueAt key = some value ∨
      s.manager.putTempCache[key]? = some value ∨
        s.service.dynamicProfileMap[key]? = some value := by
    intro hearly
    rcases hearly.waiting key value hvalue with hcached | ⟨-, hcollected⟩
    · exact .inr (.inl hcached)
    · exact .inr (.inr hcollected)
  unfold KeepsPuts at h
  split at h
  · exact hearly h
  · exact hearly h.1
  · exact hearly h.1
  · exact hearly h.1
  · exact .inl (h key value hvalue)
  · exact .inl (h key value hvalue)
  · exact (h key value hvalue).imp_right .inl
  · exact (h key value hvalue).imp_right .inl

/-! ### Puts of the manager -/

/-- A put that reads the mode while nothing has been written will be cached. -/
theorem IsEarly.load (h : IsEarly s) (entries : Entries) :
    IsEarly { s with pending := s.pending ++ [(entries, s.manager.isFirst)] } := by
  refine ⟨h.first, fun x hx => ?_, h.waiting⟩
  rcases List.mem_append.mp hx with hx | hx
  · exact h.pending x hx
  · rw [List.mem_singleton.mp hx]
    exact h.first

/-- A put that has only made its entries keeps the others. -/
theorem KeepsPuts.load (h : KeepsPuts s) (entries : Entries) :
    KeepsPuts { s with pending := s.pending ++ [(entries, s.manager.isFirst)] } := by
  obtain ⟨m, service, pending, phase, acknowledged⟩ := s
  cases phase with
  | idle => exact h.load entries
  | copied _ | trying _ _ | merged _ _ => exact ⟨h.1.load entries, h.2⟩
  | written | lowered | saved | finished => exact h

/-- A put that is done is no longer pending. -/
theorem KeepsPuts.drop (h : KeepsPuts s) (i : Nat) :
    KeepsPuts { s with pending := s.pending.eraseIdx i } := by
  have hearly : IsEarly s → IsEarly { s with pending := s.pending.eraseIdx i } := fun hearly =>
    ⟨hearly.first, fun x hx => hearly.pending x (List.mem_of_mem_eraseIdx hx), hearly.waiting⟩
  obtain ⟨m, service, pending, phase, acknowledged⟩ := s
  cases phase with
  | idle => exact hearly h
  | copied _ | trying _ _ | merged _ _ => exact ⟨hearly h.1, h.2⟩
  | written | lowered | saved | finished => exact h

/-- A cache that is not too large takes the values. -/
theorem addToPutTempCache_of_room {m : Manager} {values : Entries}
    (h : values.isEmpty ∨ m.putTempCache.size ≤ MAX_MAP_LEN) :
    m.addToPutTempCache values = { m with putTempCache := m.putTempCache ∪ values } := by
  rw [Manager.addToPutTempCache]
  split
  · rename_i hempty
    rw [union_of_isEmpty hempty]
  · rename_i hne
    rw [if_neg (Nat.not_lt.mpr (h.resolve_left hne))]

/-- The state in which entries have been cached. -/
def StartState.cached (s : StartState) (entries : Entries) : StartState :=
  { s with
    manager := { s.manager with putTempCache := s.manager.putTempCache ∪ entries }
    acknowledged := s.acknowledged ∪ entries }

/-- The cached values wait, and so do the older ones of other keys. -/
theorem IsEarly.cached (h : IsEarly s) (entries : Entries) : IsEarly (s.cached entries) := by
  refine ⟨h.first, h.pending, fun key value hvalue => ?_⟩
  simp only [StartState.cached, ExtTreeMap.getElem?_union, ExtTreeMap.mem_union_iff,
    Option.or_eq_some_iff] at hvalue ⊢
  rcases hvalue with hnew | ⟨hnew, hvalue⟩
  · exact .inl (.inl hnew)
  · rcases h.waiting key value hvalue with hcached | ⟨hcached, hcollected⟩
    · exact .inl (.inr ⟨hnew, hcached⟩)
    · refine .inr ⟨not_or.mpr ⟨hcached, fun hmem => ?_⟩, hcollected⟩
      rw [ExtTreeMap.mem_iff_isSome_getElem?, hnew] at hmem
      cases hmem

/-- More entries in the cache drop none of those that were collected. -/
theorem HoldsCollected.cached {entries : Entries} (h : HoldsCollected s entries)
    (values : Entries) : HoldsCollected (s.cached values) entries := fun key value hvalue hout =>
  h key value hvalue fun hcached => hout (ExtTreeMap.mem_union_iff.mpr (.inl hcached))

/-- A put whose entries are cached keeps the values, if the entries are not forgotten with what
has been written. -/
theorem KeepsPuts.cached (h : KeepsPuts s) {entries : Entries}
    (hwritten : s.phase = .written ∨ s.phase = .lowered →
      ∀ y ∈ entries.toList, s.manager.store.valueAt y.1 = some y.2) :
    KeepsPuts (s.cached entries) := by
  have hstored : s.phase = .written ∨ s.phase = .lowered →
      (∀ key value, s.acknowledged[key]? = some value →
        s.manager.store.valueAt key = some value) →
      ∀ key value, (s.acknowledged ∪ entries)[key]? = some value →
        s.manager.store.valueAt key = some value := by
    intro hphase hkept key value hvalue
    rw [ExtTreeMap.getElem?_union, Option.or_eq_some_iff] at hvalue
    rcases hvalue with hnew | ⟨-, hvalue⟩
    · exact hwritten hphase (key, value) (ExtTreeMap.mem_toList_iff_getElem?_eq_some.mpr hnew)
    · exact hkept key value hvalue
  have hheld : (∀ key value, s.acknowledged[key]? = some value →
        s.manager.store.valueAt key = some value ∨ s.manager.putTempCache[key]? = some value) →
      ∀ key value, (s.acknowledged ∪ entries)[key]? = some value →
        s.manager.store.valueAt key = some value ∨
          (s.manager.putTempCache ∪ entries)[key]? = some value := by
    intro hkept key value hvalue
    rw [ExtTreeMap.getElem?_union, Option.or_eq_some_iff] at hvalue ⊢
    rcases hvalue with hnew | ⟨hnew, hvalue⟩
    · exact .inr (.inl hnew)
    · exact (hkept key value hvalue).imp_right fun hcached => .inr ⟨hnew, hcached⟩
  obtain ⟨m, service, pending, phase, acknowledged⟩ := s
  cases phase with
  | idle => exact h.cached entries
  | copied _ | merged _ _ => exact ⟨h.1.cached entries, h.2.cached entries⟩
  | trying _ _ => exact ⟨h.1.cached entries, h.2.1.cached entries, h.2.2⟩
  | written => exact hstored (.inl rfl) h
  | lowered => exact hstored (.inr rfl) h
  | saved | finished => exact hheld h

/-- A put whose entries are stored keeps the values; it has read the mode after the start-up
phase. -/
theorem KeepsPuts.stored (h : KeepsPuts s) {entries : Entries} {store : KvStore}
    (hmode : (entries, false) ∈ s.pending)
    (hput : ∀ key, store.valueAt key = entries[key]?.or (s.manager.store.valueAt key)) :
    KeepsPuts { s with manager := { s.manager with store }
                       acknowledged := s.acknowledged ∪ entries } := by
  have hlate : ¬IsEarly s := fun hearly => nomatch hearly.pending _ hmode
  have hkept : ∀ {key value : Text}, (s.acknowledged ∪ entries)[key]? = some value →
      store.valueAt key = some value ∨
        s.acknowledged[key]? = some value ∧ store.valueAt key = s.manager.store.valueAt key := by
    intro key value hvalue
    rw [ExtTreeMap.getElem?_union, Option.or_eq_some_iff] at hvalue
    rw [hput]
    rcases hvalue with hnew | ⟨hnew, hvalue⟩
    · exact .inl (by rw [hnew]; rfl)
    · exact .inr ⟨hvalue, by rw [hnew]; rfl⟩
  obtain ⟨m, service, pending, phase, acknowledged⟩ := s
  cases phase with
  | idle => exact absurd h hlate
  | copied _ | trying _ _ | merged _ _ => exact absurd h.1 hlate
  | written | lowered =>
    intro key value hvalue
    rcases hkept hvalue with hnew | ⟨hvalue, hsame⟩
    · exact hnew
    · exact hsame.trans (h key value hvalue)
  | saved | finished =>
    intro key value hvalue
    rcases hkept hvalue with hnew | ⟨hvalue, hsame⟩
    · exact .inl hnew
    · exact (h key value hvalue).imp_left hsame.trans

/-- A put that is kept leaves all puts kept. -/
theorem KeepsPuts.finish (h : KeepsPuts s) {i : Nat} {stored : Bool}
    (hkept : IsKept device s (.finish i stored)) : KeepsPuts (finishPut device i stored s) := by
  simp only [finishPut]
  cases hi : s.pending[i]? with
  | none => exact h
  | some x =>
    obtain ⟨entries, mode⟩ := x
    cases mode with
    | true =>
      obtain ⟨hroom, hwritten⟩ := hkept _ hi rfl
      simp only [addToPutTempCache_of_room hroom]
      exact (h.cached hwritten).drop i
    | false =>
      cases hput : s.manager.store.putBatch device.uuid stored entries with
      | error e =>
        simp only [hput]
        exact h.drop i
      | ok store =>
        simp only [hput]
        exact (h.stored (List.mem_of_getElem? hi) (KvStore.valueAt_putBatch hput)).drop i

/-! ### Profiles that the service collects -/

/-- The service collects no value for a key for which another one is cached, so what it collects
waits. -/
theorem KeepsPuts.collect (h : KeepsPuts s) {result : Except ServiceError Service}
    {entries : Except ServiceError Entries}
    (hresult : ∀ service, result = .ok service → ∃ values, entries = .ok values ∧
      service.dynamicProfileMap = s.service.dynamicProfileMap ∪ values)
    (hagrees : AgreesWithCache s.manager (entries.toOption.getD ∅)) :
    KeepsPuts (collectPut s result entries) := by
  obtain ⟨m, service, pending, phase, acknowledged⟩ := s
  cases phase with
  | idle =>
    cases result with
    | error e => exact h
    | ok service' =>
      obtain ⟨values, rfl, hmap⟩ := hresult service' rfl
      refine ⟨h.first, h.pending, fun key value hvalue => ?_⟩
      replace hvalue : (acknowledged ∪ values)[key]? = some value := hvalue
      rw [ExtTreeMap.getElem?_union, Option.or_eq_some_iff] at hvalue
      change m.putTempCache[key]? = some value ∨
        key ∉ m.putTempCache ∧ service'.dynamicProfileMap[key]? = some value
      rw [hmap, ExtTreeMap.getElem?_union, Option.or_eq_some_iff]
      rcases hvalue with hnew | ⟨hnew, hvalue⟩
      · cases hcached : m.putTempCache[key]? with
        | none =>
          refine .inr ⟨fun hmem => ?_, .inl hnew⟩
          rw [ExtTreeMap.mem_iff_isSome_getElem?, hcached] at hmem
          cases hmem
        | some value' =>
          have hsame := hagrees (key, value) (ExtTreeMap.mem_toList_iff_getElem?_eq_some.mpr hnew)
            value' hcached
          exact .inl (congrArg some hsame)
      · rcases h.waiting key value hvalue with hcached | ⟨hout, hheld⟩
        · exact .inl hcached
        · exact .inr ⟨hout, .inr ⟨hnew, hheld⟩⟩
  | copied _ | trying _ _ | merged _ _ | written | lowered | saved | finished => exact h

/-! ### The saving -/

/-- The start is early as long as only its phase changes. -/
theorem IsEarly.enter (h : IsEarly s) (phase : SavePhase) : IsEarly { s with phase } :=
  ⟨h.first, h.pending, h.waiting⟩

/-- Entries that hold what is cached and what else is collected hold the acknowledged values. -/
theorem IsEarly.getElem?_of_acknowledged (h : IsEarly s) {entries : Entries}
    (hcached : ∀ x ∈ s.manager.putTempCache.toList, entries[x.1]? = some x.2)
    (hcollected : HoldsCollected s entries) {key value : Text}
    (hvalue : s.acknowledged[key]? = some value) : entries[key]? = some value := by
  rcases h.waiting key value hvalue with hcache | ⟨hout, hheld⟩
  · exact hcached (key, value) (ExtTreeMap.mem_toList_iff_getElem?_eq_some.mpr hcache)
  · exact hcollected key value hheld hout

/-- A step of the saving that is kept leaves all puts kept. -/
theorem KeepsPuts.save (h : KeepsPuts s) {stored : Bool}
    (hkept : IsKept device s (.save stored)) : KeepsPuts (saveStep device stored s) := by
  obtain ⟨m, service, pending, phase, acknowledged⟩ := s
  cases phase with
  | idle =>
    refine ⟨IsEarly.enter h _, fun key value hheld _ => ?_⟩
    replace hheld : service.dynamicProfileMap[key]? = some value := hheld
    rw [Service.getDynamicProfilesFromTempCache, ExtTreeMap.getElem?_union, hheld]
    rfl
  | copied entries =>
    refine ⟨h.1.enter _, fun key value hcollected hout => ?_, nofun⟩
    have hold := h.2 key value hcollected hout
    dsimp only
    split
    · rename_i hempty
      rw [ExtTreeMap.isEmpty_iff.mp hempty.1, ExtTreeMap.getElem?_empty] at hold
      cases hold
    · exact hold
  | trying tryTimes entries =>
    obtain ⟨hearly, hcollected, hlast⟩ := h
    cases tryTimes with
    | zero =>
      intro key value hvalue
      rcases hearly.waiting key value hvalue with hcached | ⟨-, hheld⟩
      · exact .inr hcached
      · rw [show service.dynamicProfileMap = ∅ from hlast rfl, ExtTreeMap.getElem?_empty] at hheld
        cases hheld
    | succ tryTimes =>
      refine ⟨hearly.enter _, fun key value hheld hout => ?_⟩
      replace hout : key ∉ m.putTempCache := hout
      rw [ExtTreeMap.getElem?_union, ExtTreeMap.getElem?_eq_none hout]
      exact hcollected key value hheld hout
  | merged tryTimes entries =>
    obtain ⟨hearly, hcollected⟩ := h
    obtain ⟨htaken, hfailed⟩ := hkept
    have hentries : IsTryTaken device stored entries m.store →
        ∀ {key value : Text}, acknowledged[key]? = some value → entries[key]? = some value :=
      fun h _ _ hvalue => hearly.getElem?_of_acknowledged (htaken h) hcollected hvalue
    simp only [saveStep]
    by_cases hempty : entries.isEmpty
    · rw [if_pos hempty]
      intro key value hvalue
      have hnone := hentries (.inl hempty) hvalue
      rw [ExtTreeMap.isEmpty_iff.mp hempty, ExtTreeMap.getElem?_empty] at hnone
      cases hnone
    · rw [if_neg hempty]
      cases hput : m.store.putBatch device.uuid stored entries with
      | ok store =>
        intro key value hvalue
        have htaken : IsTryTaken device stored entries m.store := .inr (by rw [hput]; rfl)
        exact (KvStore.valueAt_putBatch hput key).trans (by rw [hentries htaken hvalue]; rfl)
      | error e =>
        refine ⟨hearly.enter _, hcollected, fun hlast => ?_⟩
        have hnot : ¬IsTryTaken device stored entries m.store := by
          rintro (h | h)
          · exact hempty h
          · rw [hput] at h
            cases h
        exact ExtTreeMap.isEmpty_iff.mp (hfailed hnot hlast)
  | written => exact h
  | lowered => exact fun key value hvalue => .inl (h key value hvalue)
  | saved => exact h
  | finished => exact h

/-! ### Runs -/

/-- Each kept event leaves all puts kept. -/
theorem KeepsPuts.startStep (h : KeepsPuts s) {event : StartEvent} (hkept : IsKept device s event) :
    KeepsPuts (startStep device s event) := by
  cases event with
  | load curUserId call => exact h.load _
  | finish i stored => exact h.finish hkept
  | save stored => exact h.save hkept
  | addServices c serviceProfiles =>
    refine h.collect (fun service hservice => ?_) hkept
    obtain ⟨entries, hentries, rfl⟩ := Service.addSvrProfilesToCache_eq_ok hservice
    exact ⟨entries, hentries, rfl⟩
  | addCharacteristics c charProfiles =>
    refine h.collect (fun service hservice => ?_) hkept
    obtain ⟨x, hx, rfl⟩ := Service.addCharProfilesToCache_eq_ok hservice
    refine ⟨x.2, ?_, rfl⟩
    rw [collectedCharacteristics, hx]
    rfl

end Invariant

/-! ## The steps in one go -/

section Connection

variable {device : LocalDevice}

/-- Without other steps in between, the steps of the tries are the tries. -/
theorem saveStep_saveRetries (device : LocalDevice) (stored : Nat → Bool) (service : Service)
    (tryTimes : Nat) (entries : Entries) (m : Manager) :
    ∃ answers : List Bool,
      answers.foldl (fun s stored => saveStep device stored s)
          { manager := m, service, phase := .trying tryTimes entries } =
        { manager := ServiceWorld.saveRetries device stored tryTimes entries m, service,
          phase := .saved } := by
  induction tryTimes generalizing entries with
  | zero => exact ⟨[true], rfl⟩
  | succ tryTimes ih =>
    rw [ServiceWorld.saveRetries, Manager.savePutTempCache]
    by_cases hempty : (entries ∪ m.putTempCache).isEmpty
    · refine ⟨[true, true, true, true], ?_⟩
      simp only [List.foldl_cons, List.foldl_nil, saveStep, hempty, if_true]
    · simp only [hempty, Bool.false_eq_true, if_false]
      cases hput : m.store.putBatch device.uuid (stored (tryTimes + 1))
          (entries ∪ m.putTempCache) with
      | ok store =>
        refine ⟨[true, stored (tryTimes + 1), true, true], ?_⟩
        simp only [List.foldl_cons, List.foldl_nil, saveStep, hempty, hput, Bool.false_eq_true,
          if_false]
        rfl
      | error e =>
        obtain ⟨answers, hanswers⟩ := ih (entries ∪ m.putTempCache)
        refine ⟨true :: stored (tryTimes + 1) :: answers, ?_⟩
        simp only [List.foldl_cons, saveStep, hempty, hput, Bool.false_eq_true, if_false]
        exact hanswers

/-- Without other steps in between, the steps are the saving of the collected entries, after which
the service is initialised. -/
theorem saveStep_saveDynamicProfiles (stored : Nat → Bool) (w : ServiceWorld) :
    ∃ answers : List Bool,
      answers.foldl (fun s stored => saveStep device stored s)
          { manager := w.manager, service := w.service } =
        { manager := (w.saveDynamicProfilesFromTempCache device stored).manager
          service :=
            { (w.saveDynamicProfilesFromTempCache device stored).service with isInited := true }
          phase := .finished } := by
  obtain ⟨service, cache, m⟩ := w
  let read := service.getDynamicProfilesFromTempCache ∅
  let entries := if read.isEmpty ∧ m.isFirst then service.getDynamicProfilesFromTempCache read
    else read
  obtain ⟨answers, hanswers⟩ := saveStep_saveRetries device stored service
    WRTE_CACHE_PROFILE_RETRY_TIMES entries m
  refine ⟨true :: true :: (answers ++ [true]), ?_⟩
  rw [List.foldl_cons, List.foldl_cons, List.foldl_append]
  exact congrArg (saveStep device true) hanswers

/-- The steps are the end of the initialisation; the switches are put before. -/
theorem saveStep_postInitNext (switchStored : Bool) (stored : Nat → Bool) (w : ServiceWorld) :
    ∃ answers : List Bool,
      answers.foldl (fun s stored => saveStep device stored s)
          { manager := w.manager
            service := (w.saveSwitchProfilesFromTempCache device switchStored).service } =
        { manager := (w.postInitNext device switchStored stored).manager
          service := (w.postInitNext device switchStored stored).service
          phase := .finished } := by
  have hmanager : (w.saveSwitchProfilesFromTempCache device switchStored).manager = w.manager := by
    rw [ServiceWorld.saveSwitchProfilesFromTempCache]
    split <;> rfl
  rw [← hmanager]
  exact saveStep_saveDynamicProfiles stored (w.saveSwitchProfilesFromTempCache device switchStored)

/-- What is cached after a put depends on what was cached only. -/
theorem Manager.addToPutTempCache_putTempCache {m m' : Manager} {values : Entries}
    (h : m.putTempCache = m'.putTempCache) :
    (m.addToPutTempCache values).putTempCache = (m'.addToPutTempCache values).putTempCache := by
  rw [addToPutTempCache, addToPutTempCache, h]
  split
  · exact h
  · split
    · exact h
    · rfl

/-- A put that reads the mode and acts on it at once is the put of the manager. -/
theorem finishPut_load {m m' : Manager} {stored : Bool} {call : PutCall}
    (h : call.run device stored m = (.ok (), m')) (service : Service) :
    let s := finishPut device 0 stored
      (startStep device { manager := m, service } (.load (m.currentUser device) call))
    s.manager.store = m'.store ∧ s.manager.putTempCache = m'.putTempCache ∧
      s.acknowledged = ∅ ∪ call.entries device.udid (m.currentUser device) := by
  obtain ⟨-, m₁, hasked, -, ⟨hfirst, rfl⟩ | ⟨hfirst, store, hput, rfl⟩⟩ := PutCall.run_ok h
  · have hstore : ∀ (m : Manager) (values : Entries),
        (m.addToPutTempCache values).store = m.store := by
      intro m values
      rw [Manager.addToPutTempCache]
      split
      · rfl
      · split <;> rfl
    simp only [startStep, finishPut, hfirst, List.nil_append, List.getElem?_cons_zero, hstore,
      hasked.store]
    exact ⟨trivial, Manager.addToPutTempCache_putTempCache hasked.putTempCache.symm, trivial⟩
  · simp only [startStep, finishPut, hfirst, List.nil_append, List.getElem?_cons_zero, hput]
    exact ⟨trivial, hasked.putTempCache.symm, trivial⟩

end Connection

/-! ## All runs -/

/-- In every run from the start-up phase in which no value gets lost at a step, every value of
an acknowledged put that no later put overwrites is stored, cached by the manager or held by
the service in every state that is reached. -/
theorem early_puts_are_kept (device : LocalDevice) (m : Manager) (service : Service)
    (hfirst : m.isFirst = true) (events : List StartEvent)
    (hevents : Admits (startStep device) (IsKept device) { manager := m, service } events)
    (n : Nat) :
    HoldsAcknowledged ((events.take n).foldl (startStep device) { manager := m, service }) := by
  have hinitial : KeepsPuts { manager := m, service } := by
    refine ⟨hfirst, fun x hx => (nomatch hx), fun key value hvalue => ?_⟩
    cases ExtTreeMap.getElem?_empty.symm.trans hvalue
  exact (foldl_invariant (P := KeepsPuts) (fun _ _ h hkept => h.startStep hkept) hinitial
    (hevents.take n)).holdsAcknowledged

/-! ## A put between two steps -/

/-- A manager in the start-up phase. -/
def startingManager : Manager := { isFirst := true }

/-- A service of this device. -/
def startService (serviceName : Text) : PutCall :=
  .service { profile := { deviceId := ("udid" : Text), serviceName, serviceType := ("1" : Text) } }

/-- The second service is put after the cached entries have been merged. -/
def lateStartEvents : List StartEvent :=
  [.load DEFAULT_USER_ID (startService ("first" : Text)), .finish 0 true, .save true, .save true,
    .save true, .load DEFAULT_USER_ID (startService ("second" : Text)), .finish 0 true,
    .save true, .save true, .save true, .save true]

/-- Both services are put before the cached entries are merged; the first try fails. -/
def earlyStartEvents : List StartEvent :=
  [.load DEFAULT_USER_ID (startService ("first" : Text)), .finish 0 true, .save true, .save true,
    .load DEFAULT_USER_ID (startService ("second" : Text)), .finish 0 true, .save true,
    .save false, .save true, .save true, .save true, .save true, .save true]

/-- An acknowledged put is forgotten with the cached entries that have been written. -/
theorem not_early_puts_are_kept :
    let s := lateStartEvents.foldl (startStep sampleDevice) { manager := startingManager }
    s.phase = .finished ∧
      s.acknowledged[("svr#udid#second#serviceName" : Text)]? = some ("second" : Text) ∧
      s.manager.store.valueAt ("svr#udid#second#serviceName" : Text) = none ∧
      s.manager.putTempCache[("svr#udid#second#serviceName" : Text)]? = none ∧
      s.service.dynamicProfileMap[("svr#udid#second#serviceName" : Text)]? = none := by
  decide +kernel

/-- Before the merge every acknowledged put is held. -/
theorem early_puts_are_kept_before_merge :
    HoldsAcknowledged ((earlyStartEvents.take 13).foldl (startStep sampleDevice)
      { manager := startingManager }) :=
  early_puts_are_kept sampleDevice startingManager {} rfl earlyStartEvents (by decide +kernel) 13

end DeviceProfile
