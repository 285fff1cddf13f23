import DeviceProfile.Profile.Delete

/-!
# Deletions are final

What a deletion has removed does not come back, unless it was waiting in the cache of the puts
of the start-up phase, or is passed to the end of this phase.
-/

namespace DeviceProfile

open Library Std

/-- A call of the manager. -/
inductive ManagerEvent where
  | put (stored : Bool) (call : PutCall)
  | delete (call : DeleteCall)
  | getService (deviceId serviceName : Text) (p : Flagged ServiceProfile)
  | getCharacteristic (deviceId serviceName characteristicKey : Text)
      (p : Flagged CharacteristicProfile)
  | savePutTempCache (stored : Bool) (entries : Entries)
  | resetFirst

section Events

variable (device : LocalDevice)

/-- One call on the manager and its cache. -/
def managerStep (s : ProfileCache × Manager) : ManagerEvent → ProfileCache × Manager
  | .put stored call => (s.1, (call.run device stored s.2).2)
  | .delete call => (call.run device s.1 s.2).2
  | .getService deviceId serviceName p =>
    (s.1, (s.2.getServiceProfile device s.1 deviceId serviceName p).2)
  | .getCharacteristic deviceId serviceName characteristicKey p =>
    (s.1, (s.2.getCharacteristicProfile device s.1 deviceId serviceName characteristicKey p).2)
  | .savePutTempCache stored entries => (s.1, (s.2.savePutTempCache device stored entries).2.2)
  | .resetFirst => (s.1, s.2.resetFirst)

/-- The call puts the profile with these names again. -/
def PutsAgain (p : StoredProfile) : ManagerEvent → Prop
  | .put _ call => ∃ q ∈ call.profiles, q.profile.IsValid device.udid ∧ p.IsSame q.profile
  | _ => False

/-- The call neither puts a profile that is stored under the same keys because of a suffix of its
name, nor stores one of the keys at the end of the start-up phase. -/
def IsApart (p : StoredProfile) (keys : List Text) : ManagerEvent → Prop
  | .put _ call => ∀ q ∈ call.profiles, q.profile.IsValid device.udid → ¬p.IsTwin q.profile
  | .savePutTempCache _ entries => ∀ key ∈ keys, key ∉ entries
  | _ => True

instance (p : StoredProfile) (event : ManagerEvent) : Decidable (PutsAgain device p event) :=
  match event with
  | .put _ call => inferInstanceAs (Decidable (∃ q ∈ call.profiles, _ ∧ _))
  | .delete _ | .getService _ _ _ | .getCharacteristic _ _ _ _ | .savePutTempCache _ _
  | .resetFirst => isFalse id

instance (p : StoredProfile) (keys : List Text) (event : ManagerEvent) :
    Decidable (IsApart device p keys event) :=
  match event with
  | .put _ call => inferInstanceAs (Decidable (∀ q ∈ call.profiles, _ → ¬_))
  | .savePutTempCache _ entries => inferInstanceAs (Decidable (∀ key ∈ keys, key ∉ entries))
  | .delete _ | .getService _ _ _ | .getCharacteristic _ _ _ _ | .resetFirst => isTrue trivial

/-- The keys are neither stored nor waiting to be stored. -/
def AreGone (keys : List Text) (m : Manager) : Prop :=
  ∀ key ∈ keys, key ∉ m.store ∧ key ∉ m.putTempCache

end Events

section Steps

variable {device : LocalDevice} {keys : List Text} {m m' : Manager}

/-- Asking for the foreground user brings no key back. -/
theorem AreGone.of_isAsked (h : AreGone keys m) (hasked : Manager.IsAsked device m m') :
    AreGone keys m' := by
  intro key hkey
  rw [hasked.store, hasked.putTempCache]
  exact h key hkey

/-- A put with other keys stores and caches none of them. -/
theorem AreGone.putEntries (h : AreGone keys m) {entries : Entries}
    (hentries : ∀ key ∈ keys, key ∉ entries) (stored : Bool) :
    AreGone keys (Manager.putEntries device stored (entries, m)).2 := by
  intro key hkey
  obtain ⟨hstore, hcache⟩ := h key hkey
  unfold Manager.putEntries
  split
  · refine ⟨?_, ?_⟩
    · unfold Manager.addToPutTempCache
      split
      · exact hstore
      · split <;> exact hstore
    · unfold Manager.addToPutTempCache
      split
      · exact hcache
      · split
        · exact hcache
        · rw [ExtTreeMap.mem_union_iff, not_or]
          exact ⟨hcache, hentries key hkey⟩
  · split
    · exact ⟨hstore, hcache⟩
    · rename_i store hput
      refine ⟨?_, hcache⟩
      have hnone := ExtTreeMap.getElem?_eq_none (hentries key hkey)
      rw [← KvStore.valueAt_eq_none_iff, KvStore.valueAt_putBatch hput, hnone, Option.none_or,
        KvStore.valueAt_eq_none_iff]
      exact hstore

/-- A put of other profiles stores and caches none of the keys. -/
theorem AreGone.put {p : StoredProfile} (hp : p.IsValid device.udid) {call : PutCall}
    {stored : Bool} (h : AreGone keys m)
    (hkeys : ∀ key ∈ keys, ∃ name ∈ p.kind.propertyNames, ∃ u,
      generateDBKey p.profileKey name u = key)
    (hagain : ¬PutsAgain device p (.put stored call))
    (hapart : IsApart device p keys (.put stored call)) :
    AreGone keys (call.run device stored m).2 := by
  by_cases hchecked : call.IsChecked device.udid
  · obtain ⟨hentries, hasked, -⟩ := Manager.addProfiles_spec device call.profiles ∅ m
    have hother : ∀ q ∈ call.profiles, ∀ hq : q.profile.IsValid device.udid,
        p.key hp ≠ q.profile.key hq := fun q hq hvalid =>
      StoredProfile.key_ne hp hvalid (fun hsame => hagain ⟨q, hq, hvalid, hsame⟩)
        (hapart q hq hvalid)
    have hnot : ∀ key ∈ keys, key ∉ (m.addProfiles device call.profiles ∅).1 := by
      intro key hkey
      obtain ⟨name, hname, u, rfl⟩ := hkeys key hkey
      rw [hentries, ← PutCall.entries, ExtTreeMap.mem_iff_isSome_getElem?,
        PutCall.getElem?_entries_of_key_ne hp hother hname]
      exact Bool.false_ne_true
    rw [PutCall.run_eq hchecked]
    exact (h.of_isAsked hasked).putEntries hnot stored
  · rw [PutCall.run_eq_of_not_checked hchecked]
    exact h

/-- No deletion stores or caches a key. -/
theorem AreGone.delete (h : AreGone keys m) (call : DeleteCall) (c : ProfileCache) :
    AreGone keys (call.run device c m).2.2 := by
  by_cases hdelete : (call.run device c m).1 = .ok ()
  · have hrun : call.run device c m =
        (.ok (), (call.run device c m).2.1, (call.run device c m).2.2) := Prod.ext hdelete rfl
    obtain ⟨-, store, hstore, hm⟩ := DeleteCall.run_ok hrun
    have hcache : (if call.isMultiUser then m.asked device else m).putTempCache =
        m.putTempCache := by
      cases call.isMultiUser <;> rfl
    intro key hkey
    obtain ⟨hgone, hnot⟩ := h key hkey
    rw [hm]
    refine ⟨?_, hcache ▸ hnot⟩
    rw [← KvStore.valueAt_eq_none_iff, KvStore.valueAt_deleteBatch hstore,
      KvStore.valueAt_eq_none_iff.mpr hgone, ite_self]
  · exact h.of_isAsked (DeleteCall.isAsked_of_run_ne_ok hdelete)

/-- A read of a service at most asks for the foreground user. -/
theorem isAsked_getServiceProfile (c : ProfileCache) (deviceId serviceName : Text)
    (p : Flagged ServiceProfile) (m : Manager) :
    Manager.IsAsked device m (m.getServiceProfile device c deviceId serviceName p).2 := by
  have hasked : Manager.IsAsked device m _ :=
    Manager.isAsked_isMultiUserValid device m deviceId p.isMultiUser p.profile.userId
  unfold Manager.getServiceProfile
  dsimp only
  split
  · rename_i hvalid
    rw [hvalid] at hasked
    exact hasked
  · rename_i hvalid
    rw [hvalid] at hasked
    exact hasked

/-- A read of a characteristic at most asks for the foreground user. -/
theorem isAsked_getCharacteristicProfile (c : ProfileCache)
    (deviceId serviceName characteristicKey : Text) (p : Flagged CharacteristicProfile)
    (m : Manager) :
    Manager.IsAsked device m
      (m.getCharacteristicProfile device c deviceId serviceName characteristicKey p).2 := by
  have hasked : Manager.IsAsked device m _ :=
    Manager.isAsked_isMultiUserValid device m deviceId p.isMultiUser p.profile.userId
  unfold Manager.getCharacteristicProfile
  dsimp only
  split
  · rename_i hvalid
    rw [hvalid] at hasked
    exact hasked
  · rename_i hvalid
    rw [hvalid] at hasked
    exact hasked

/-- The end of the start-up phase stores none of the keys. -/
theorem AreGone.savePutTempCache (h : AreGone keys m) {entries : Entries}
    (hentries : ∀ key ∈ keys, key ∉ entries) (stored : Bool) :
    AreGone keys (m.savePutTempCache device stored entries).2.2 := by
  intro key hkey
  obtain ⟨hstore, hcache⟩ := h key hkey
  have hall : key ∉ entries ∪ m.putTempCache := by
    rw [ExtTreeMap.mem_union_iff, not_or]
    exact ⟨hentries key hkey, hcache⟩
  rw [Manager.savePutTempCache]
  split
  · exact ⟨hstore, ExtTreeMap.not_mem_empty⟩
  · split
    · exact ⟨hstore, hcache⟩
    · rename_i store hput
      refine ⟨?_, ExtTreeMap.not_mem_empty⟩
      have hnone := ExtTreeMap.getElem?_eq_none hall
      rw [← KvStore.valueAt_eq_none_iff, KvStore.valueAt_putBatch hput, hnone, Option.none_or,
        KvStore.valueAt_eq_none_iff]
      exact hstore

/-- The keys that a deletion removes are those of properties of its profile. -/
theorem DeleteCall.exists_of_mem_keys {call : DeleteCall} {curUserId : Int32} {key : Text}
    (h : key ∈ call.keys curUserId) :
    ∃ name ∈ call.profile.kind.propertyNames, ∃ u,
      generateDBKey call.profile.profileKey name u = key := by
  simp only [DeleteCall.keys, StoredProfile.dbKeys, List.mem_flatMap, List.mem_map] at h
  obtain ⟨u, -, name, hname, hkey⟩ := h
  exact ⟨name, hname, u, hkey⟩

/-- After a deletion the keys are gone if they are not waiting in the cache. -/
theorem areGone_of_delete {call : DeleteCall} {c : ProfileCache}
    (hdelete : (call.run device c m).1 = .ok ())
    (hcache : ∀ key ∈ call.keys (m.currentUser device), key ∉ m.putTempCache) :
    call.profile.IsValid device.udid ∧
      AreGone (call.keys (m.currentUser device)) (call.run device c m).2.2 := by
  have hrun : call.run device c m =
      (.ok (), (call.run device c m).2.1, (call.run device c m).2.2) := Prod.ext hdelete rfl
  obtain ⟨hp, store, hstore, hm⟩ := DeleteCall.run_ok hrun
  have hkept : (if call.isMultiUser then m.asked device else m).putTempCache =
      m.putTempCache := by
    cases call.isMultiUser <;> rfl
  refine ⟨hp, fun key hkey => ?_⟩
  rw [hm]
  refine ⟨?_, hkept ▸ hcache key hkey⟩
  rw [← KvStore.valueAt_eq_none_iff, KvStore.valueAt_deleteBatch hstore, if_pos hkey]

/-- A call that neither puts the profile again nor brings one of the keys leaves them gone. -/
theorem areGone_managerStep {p : StoredProfile} (hp : p.IsValid device.udid)
    (hkeys : ∀ key ∈ keys, ∃ name ∈ p.kind.propertyNames, ∃ u,
      generateDBKey p.profileKey name u = key) {s : ProfileCache × Manager} {event : ManagerEvent}
    (h : AreGone keys s.2) (hagain : ¬PutsAgain device p event)
    (hapart : IsApart device p keys event) : AreGone keys (managerStep device s event).2 := by
  cases event with
  | put stored call => exact h.put hp hkeys hagain hapart
  | delete call => exact h.delete call s.1
  | getService deviceId serviceName q =>
    exact h.of_isAsked (isAsked_getServiceProfile s.1 deviceId serviceName q s.2)
  | getCharacteristic deviceId serviceName characteristicKey q =>
    exact h.of_isAsked
      (isAsked_getCharacteristicProfile s.1 deviceId serviceName characteristicKey q s.2)
  | savePutTempCache stored entries => exact h.savePutTempCache hapart stored
  | resetFirst => exact h

/-- Where none of its keys waits in the cache, a successful deletion is final in every run of
calls that neither put the profile again nor bring one of the keys. -/
theorem deletion_is_final (device : LocalDevice) (c : ProfileCache) (m : Manager)
    (call : DeleteCall) (hdelete : (call.run device c m).1 = .ok ())
    (hcache : ∀ key ∈ call.keys (m.currentUser device), key ∉ m.putTempCache)
    (events : List ManagerEvent)
    (hagain : ∀ event ∈ events, ¬PutsAgain device call.profile event)
    (hapart : ∀ event ∈ events,
      IsApart device call.profile (call.keys (m.currentUser device)) event)
    (n : Nat) (key : Text) (hkey : key ∈ call.keys (m.currentUser device)) :
    key ∉ ((events.take n).foldl (managerStep device) (call.run device c m).2).2.store := by
  obtain ⟨hp, hgone⟩ := areGone_of_delete hdelete hcache
  have hadmits : Admits (managerStep device) (fun _ _ => True) (call.run device c m).2 events :=
    admits_of_forall (fun _ _ => trivial) _ _
  have hrun := hadmits.invariant (P := fun s => AreGone (call.keys (m.currentUser device)) s.2)
    (Q := fun event => ¬PutsAgain device call.profile event ∧
      IsApart device call.profile (call.keys (m.currentUser device)) event)
    (fun event hevent => ⟨hagain event hevent, hapart event hevent⟩)
    (fun s event h hQ _ => areGone_managerStep hp (fun _ => DeleteCall.exists_of_mem_keys) h hQ.1
      hQ.2) hgone n
  exact (hrun key hkey).1

end Steps

/-! ## A deletion in the start-up phase -/

/-- A manager at its start. -/
def firstManager : Manager := { isFirst := true }

/-- A volume that is put and then deleted. -/
def soundCharacteristic : PutCall :=
  .characteristic { profile := { deviceId := ("udid" : Text), serviceName := ("audio" : Text),
                                 characteristicKey := ("volume" : Text),
                                 characteristicValue := ("1" : Text) } }

/-- The deletion of that volume. -/
def soundDeletion : DeleteCall :=
  .characteristic ("udid" : Text) ("audio" : Text) ("volume" : Text) false DEFAULT_USER_ID

/-- A deletion between a put of the start-up phase and its end is undone. -/
theorem not_deletion_is_final :
    let s := managerStep sampleDevice ({}, firstManager) (.put true soundCharacteristic)
    (soundDeletion.run sampleDevice s.1 s.2).1 = .ok () ∧
      ∃ key ∈ soundDeletion.keys (s.2.currentUser sampleDevice),
        key ∈ (managerStep sampleDevice (soundDeletion.run sampleDevice s.1 s.2).2
          (.savePutTempCache true ∅)).2.store := by
  decide +kernel

/-- A manager at its start, over the store of an earlier run in which a service and a
characteristic were put. -/
def restartedManager : Manager :=
  let sound : PutCall := .service { profile := { deviceId := ("udid" : Text),
                                                 serviceName := ("audio" : Text),
                                                 serviceType := ("speaker" : Text) } }
  { isFirst := true,
    store := ([.put true sound, .put true soundCharacteristic].foldl (managerStep sampleDevice)
      ({}, {})).2.store }

/-- Another put of the characteristic, the end of the start-up phase and a read. -/
def soundEvents : List ManagerEvent :=
  [.put true soundCharacteristic, .savePutTempCache true ∅, .resetFirst,
    .getService ("udid" : Text) ("audio" : Text) { profile := {} }]

/-- The stored service is deleted, and stays so after each of the events. -/
theorem deletion_is_final_of_sound :
    ("svr#udid#audio#serviceType" : Text) ∈ restartedManager.store ∧
      ∀ n, ("svr#udid#audio#serviceType" : Text) ∉ ((soundEvents.take n).foldl
        (managerStep sampleDevice) ((DeleteCall.service ("udid" : Text) ("audio" : Text) false
          DEFAULT_USER_ID).run sampleDevice {} restartedManager).2).2.store :=
  ⟨by decide +kernel, fun n => deletion_is_final sampleDevice {} restartedManager _
    (by decide +kernel) (by decide +kernel) soundEvents (by decide +kernel) (by decide +kernel) n _
    (by decide +kernel)⟩

end DeviceProfile
