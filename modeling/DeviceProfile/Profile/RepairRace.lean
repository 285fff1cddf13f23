import DeviceProfile.Profile.Repair

/-!
# Puts during a repair

A repair reads what this device has written, and then scans and deletes in steps of their own,
while puts write to the store. A put between two of these steps can look like an entry of
another device.
-/

namespace DeviceProfile

open Library Std

/-- How far a repair has come, with what it has read and still uses. -/
inductive RepairPhase where
  | idle
  | owned (localDataByOwner : Entries)
  | scanned (localDataByOwner localDataByKeyPrefix : Entries)
  | localFixed (localDataByOwner : Entries)
  | peerScanned (remoteDataByKeyPrefix : Entries)
  | finished
  deriving DecidableEq

/-- The state of the manager during a repair. -/
structure RepairState where
  manager : Manager
  phase : RepairPhase := .idle
  /-- The values that successful puts have written last. -/
  acknowledged : Entries := ∅

/-- A put writes its entries, with the foreground user that it has read before, or the repair
goes on. -/
inductive RaceEvent where
  | put (curUserId : Int32) (stored : Bool) (call : PutCall)
  | repair

section Steps

variable (device : LocalDevice) (deviceInfo : TrustedDeviceInfo)

/-- One step of the repair: what this device wrote is read, its own prefix is cleaned, then the
peer's. -/
def repairStep (s : RepairState) : RepairState :=
  match s.phase with
  | .idle =>
    if deviceInfo.networkId = [] then { s with phase := .finished }
    else if device.udid = [] ∨ device.uuid = [] then { s with phase := .finished }
    else
      match s.manager.getProfilesByOwner device.uuid with
      | .error _ => { s with phase := .finished }
      | .ok localDataByOwner => { s with phase := .owned localDataByOwner }
  | .owned localDataByOwner =>
    if localDataByOwner.isEmpty then { s with phase := .localFixed localDataByOwner }
    else
      match Manager.getProfilesByKeyPrefix device.udid s.manager.store with
      | .error _ => { s with phase := .localFixed localDataByOwner }
      | .ok localDataByKeyPrefix =>
        { s with phase := .scanned localDataByOwner localDataByKeyPrefix }
  | .scanned localDataByOwner localDataByKeyPrefix =>
    { s with
      manager := s.manager.deleteFound (Manager.foreignKeys localDataByOwner localDataByKeyPrefix)
      phase := .localFixed localDataByOwner }
  | .localFixed localDataByOwner =>
    if deviceInfo.udid = [] then { s with phase := .finished }
    else if deviceInfo.osType ≠ OHOS_TYPE then
      match Manager.getProfilesByKeyPrefix deviceInfo.udid s.manager.store with
      | .error _ => { s with phase := .finished }
      | .ok remoteDataByKeyPrefix => { s with phase := .peerScanned remoteDataByKeyPrefix }
    else
      { s with
        manager := s.manager.fixRemoteDataWhenPeerIsOHBase deviceInfo.udid localDataByOwner
        phase := .finished }
  | .peerScanned remoteDataByKeyPrefix =>
    { s with
      manager := s.manager.deleteFound (Manager.clearedKeys remoteDataByKeyPrefix)
      phase := .finished }
  | .finished => s

/-- A put writes its entries, and they count as acknowledged when the store took them. -/
def putWrite (curUserId : Int32) (stored : Bool) (call : PutCall) (s : RepairState) :
    RepairState :=
  match s.manager.store.putBatch device.uuid stored (call.entries device.udid curUserId) with
  | .error _ => s
  | .ok store =>
    { s with
      manager := { s.manager with store }
      acknowledged := s.acknowledged ∪ call.entries device.udid curUserId }

/-- A put or a step of the repair. -/
def raceStep (s : RepairState) : RaceEvent → RepairState
  | .put curUserId stored call => putWrite device curUserId stored call s
  | .repair => repairStep device deviceInfo s

/-- The repair looks at the entries at all. -/
def IsStarted : Prop := deviceInfo.networkId ≠ [] ∧ device.udid ≠ [] ∧ device.uuid ≠ []

/-- The key is deleted in the repair for the peer; for a peer of the same system it has to be
among those that this device had written. -/
def IsPeerTarget (isListed : Prop) (key : Text) : Prop :=
  deviceInfo.udid ≠ [] ∧
    if deviceInfo.osType ≠ OHOS_TYPE then IsKeyOf deviceInfo.udid key ∧ IsNeedClear key
    else isListed ∧ deviceInfo.udid <:+: key

/-- The rest of the repair does not delete the key, where `isOwn` says that this device has
written it. -/
def IsSpared (isOwn : Prop) (key : Text) : RepairPhase → Prop
  | .idle => IsStarted device deviceInfo → isOwn ∧ ¬IsPeerTarget deviceInfo True key
  | .owned localDataByOwner =>
    key ∈ localDataByOwner ∧ ¬IsPeerTarget deviceInfo True key
  | .scanned localDataByOwner localDataByKeyPrefix =>
    (key ∈ localDataByOwner ∨ key ∉ localDataByKeyPrefix) ∧
      ¬IsPeerTarget deviceInfo (key ∈ localDataByOwner) key
  | .localFixed localDataByOwner => ¬IsPeerTarget deviceInfo (key ∈ localDataByOwner) key
  | .peerScanned remoteDataByKeyPrefix => ¬(key ∈ remoteDataByKeyPrefix ∧ IsNeedClear key)
  | .finished => True

/-- The entries of a put are spared in the phase in which they are written; before the repair has
read what this device has written, no other device has stored them already. -/
def IsPutSpared (s : RepairState) : RaceEvent → Prop
  | .put curUserId _ call => ∀ x ∈ (call.entries device.udid curUserId).toList,
      IsSpared device deviceInfo
        (∀ cell ∈ s.manager.store[x.1]?, cell.value = x.2 → cell.writer = device.uuid) x.1 s.phase
  | .repair => True

instance : Decidable (IsStarted device deviceInfo) := inferInstanceAs (Decidable (_ ∧ _ ∧ _))

instance (isListed : Prop) [Decidable isListed] (key : Text) :
    Decidable (IsPeerTarget deviceInfo isListed key) :=
  inferInstanceAs (Decidable (_ ∧ if _ ≠ _ then _ ∧ _ else _ ∧ _))

instance (isOwn : Prop) [Decidable isOwn] (key : Text) (phase : RepairPhase) :
    Decidable (IsSpared device deviceInfo isOwn key phase) :=
  match phase with
  | .idle => inferInstanceAs (Decidable (_ → _ ∧ ¬_))
  | .owned _ => inferInstanceAs (Decidable (_ ∧ ¬_))
  | .scanned _ _ => inferInstanceAs (Decidable ((_ ∨ ¬_) ∧ ¬_))
  | .localFixed _ => inferInstanceAs (Decidable (¬_))
  | .peerScanned _ => inferInstanceAs (Decidable (¬(_ ∧ _)))
  | .finished => isTrue trivial

instance (s : RepairState) (event : RaceEvent) :
    Decidable (IsPutSpared device deviceInfo s event) :=
  match event with
  | .put curUserId _ call => inferInstanceAs
      (Decidable (∀ x ∈ (call.entries device.udid curUserId).toList, IsSpared _ _ _ _ _))
  | .repair => isTrue trivial

end Steps

/-! ## The repair in one go -/

section Connection

variable {device : LocalDevice} {deviceInfo : TrustedDeviceInfo}

/-- The repair for the peer, with what this device had written. -/
def peerFixed (deviceInfo : TrustedDeviceInfo) (localDataByOwner : Entries) (m : Manager) :
    Manager :=
  if deviceInfo.udid = [] then m
  else if deviceInfo.osType ≠ OHOS_TYPE then m.fixRemoteDataWhenPeerIsNonOH deviceInfo.udid
  else m.fixRemoteDataWhenPeerIsOHBase deviceInfo.udid localDataByOwner

theorem repairStep_finished (m : Manager) (values : Entries) :
    repairStep device deviceInfo ⟨m, .finished, values⟩ = ⟨m, .finished, values⟩ :=
  rfl

/-- Two steps repair the entries for the peer. -/
theorem repairStep_localFixed (table : Entries) (m : Manager) (values : Entries) :
    repairStep device deviceInfo (repairStep device deviceInfo ⟨m, .localFixed table, values⟩) =
      ⟨peerFixed deviceInfo table m, .finished, values⟩ := by
  by_cases hudid : deviceInfo.udid = []
  · simp only [repairStep, peerFixed, hudid, if_true]
  by_cases hosType : deviceInfo.osType ≠ OHOS_TYPE
  · simp only [repairStep, peerFixed, hudid, hosType, if_false, ne_eq, not_false_eq_true, if_true,
      Manager.fixRemoteDataWhenPeerIsNonOH]
    cases Manager.getProfilesByKeyPrefix deviceInfo.udid m.store <;> rfl
  · simp only [repairStep, peerFixed, hudid, hosType, if_false]

/-- Four steps repair the own entries and those for the peer. -/
theorem repairStep_owned (table : Entries) (m : Manager) (values : Entries) :
    (repairStep device deviceInfo)^[4] ⟨m, .owned table, values⟩ =
      ⟨peerFixed deviceInfo table (m.fixLocalData device.udid table), .finished,
        values⟩ := by
  simp only [Function.iterate_succ_apply, Function.iterate_zero_apply]
  by_cases hempty : table.isEmpty
  · have hfirst : repairStep device deviceInfo ⟨m, .owned table, values⟩ =
        ⟨m, .localFixed table, values⟩ := if_pos hempty
    rw [hfirst, repairStep_localFixed, repairStep_finished, Manager.fixLocalData, if_pos hempty]
  cases hscan : Manager.getProfilesByKeyPrefix device.udid m.store with
  | error e =>
    have hfirst : repairStep device deviceInfo ⟨m, .owned table, values⟩ =
        ⟨m, .localFixed table, values⟩ := by
      simp only [repairStep, hempty, hscan, Bool.false_eq_true, if_false]
    have hfix : m.fixLocalData device.udid table = m := by
      simp only [Manager.fixLocalData, hempty, hscan, Bool.false_eq_true, if_false]
    rw [hfirst, repairStep_localFixed, repairStep_finished, hfix]
  | ok scan =>
    have hfirst : repairStep device deviceInfo ⟨m, .owned table, values⟩ =
        ⟨m, .scanned table scan, values⟩ := by
      simp only [repairStep, hempty, hscan, Bool.false_eq_true, if_false]
    have hsecond : repairStep device deviceInfo ⟨m, .scanned table scan, values⟩ =
        ⟨m.fixLocalData device.udid table, .localFixed table, values⟩ := by
      rw [Manager.fixLocalData_eq hempty hscan]
      rfl
    rw [hfirst, hsecond, repairStep_localFixed]

/-- Without other steps in between, the steps of the repair are the repair. -/
theorem repairStep_iterate (m : Manager) :
    (repairStep device deviceInfo)^[5] { manager := m } =
      { manager := m.fixDataOnDeviceOnline device deviceInfo, phase := .finished } := by
  have hstop : repairStep device deviceInfo ⟨m, .finished, ∅⟩ = ⟨m, .finished, ∅⟩ :=
    repairStep_finished m ∅
  have hfinished := Function.iterate_fixed hstop 4
  rw [Function.iterate_succ_apply, Manager.fixDataOnDeviceOnline, repairStep]
  by_cases hnetworkId : deviceInfo.networkId = []
  · simp only [hnetworkId, if_true, hfinished]
  by_cases hlocal : device.udid = [] ∨ device.uuid = []
  · simp only [hnetworkId, hlocal, if_true, if_false, hfinished]
  simp only [hnetworkId, hlocal, if_false]
  cases m.getProfilesByOwner device.uuid with
  | error e => exact hfinished
  | ok table => exact repairStep_owned table m ∅

/-- A put that succeeds after the start-up phase is the write of its entries. -/
theorem store_putWrite {m m' : Manager} {stored : Bool} {call : PutCall}
    (hfirst : m.isFirst = false) (h : call.run device stored m = (.ok (), m')) (s : RepairState)
    (hs : s.manager.store = m.store) :
    (putWrite device (m.currentUser device) stored call s).manager.store = m'.store := by
  obtain ⟨-, m₁, -, -, ⟨htrue, -⟩ | ⟨-, store, hput, rfl⟩⟩ := PutCall.run_ok h
  · rw [hfirst] at htrue
    cases htrue
  · rw [putWrite, hs, hput]

end Connection

/-! ## Acknowledged values -/

section Acknowledged

variable (device : LocalDevice) (deviceInfo : TrustedDeviceInfo)

/-- The acknowledged values are stored, and the rest of the repair spares them. -/
def KeepsAcknowledged (s : RepairState) : Prop :=
  ∀ key value, s.acknowledged[key]? = some value →
    key ≠ [] ∧ s.manager.store.valueAt key = some value ∧
      IsSpared device deviceInfo (s.manager.store.writerAt key = some device.uuid) key s.phase

variable {device deviceInfo} {s : RepairState} {key value : Text} {isOwn : Prop}

/-- A repair that reaches another phase without deleting keeps the values. -/
theorem KeepsAcknowledged.advance (h : KeepsAcknowledged device deviceInfo s)
    {phase : RepairPhase}
    (hphase : ∀ key value, s.acknowledged[key]? = some value → key ≠ [] →
      IsSpared device deviceInfo (s.manager.store.writerAt key = some device.uuid) key s.phase →
      IsSpared device deviceInfo (s.manager.store.writerAt key = some device.uuid) key phase) :
    KeepsAcknowledged device deviceInfo { s with phase } := by
  intro key value hvalue
  obtain ⟨hne, hstored, hspared⟩ := h key value hvalue
  exact ⟨hne, hstored, hphase key value hvalue hne hspared⟩

/-- A repair that deletes none of the keys of the values keeps them. -/
theorem KeepsAcknowledged.delete (h : KeepsAcknowledged device deviceInfo s)
    {delKeys : List Text} {phase : RepairPhase} (hstart : phase ≠ .idle)
    (hphase : ∀ key isOwn, IsSpared device deviceInfo isOwn key s.phase →
      key ∉ delKeys ∧ IsSpared device deviceInfo isOwn key phase) :
    KeepsAcknowledged device deviceInfo
      { s with manager := s.manager.deleteFound delKeys, phase } := by
  intro key value hvalue
  obtain ⟨hne, hstored, hspared⟩ := h key value hvalue
  obtain ⟨hkept, hspared⟩ := hphase key _ hspared
  have hcell : (s.manager.deleteFound delKeys).store[key]? = s.manager.store[key]? := by
    rw [Manager.getElem?_deleteFound, if_neg fun hdeleted => hkept hdeleted.2]
  refine ⟨hne, ?_, ?_⟩
  · rw [KvStore.valueAt] at hstored ⊢
    rw [hcell, hstored]
  · cases phase with
    | idle => exact absurd rfl hstart
    | _ => exact hspared

theorem IsPeerTarget.of_listed {isListed : Prop}
    (h : IsPeerTarget deviceInfo isListed key) : IsPeerTarget deviceInfo True key := by
  refine ⟨h.1, ?_⟩
  have htarget := h.2
  split
  · rename_i hosType
    rwa [if_pos hosType] at htarget
  · rename_i hosType
    rw [if_neg hosType] at htarget
    exact ⟨trivial, htarget.2⟩

/-- A step of the repair keeps the values. -/
theorem KeepsAcknowledged.repair (h : KeepsAcknowledged device deviceInfo s) :
    KeepsAcknowledged device deviceInfo (repairStep device deviceInfo s) := by
  obtain ⟨m, phase, acknowledged⟩ := s
  cases phase with
  | idle =>
    rw [repairStep]
    by_cases hnetworkId : deviceInfo.networkId = []
    · rw [if_pos hnetworkId]
      exact h.advance fun _ _ _ _ _ => trivial
    by_cases hlocal : device.udid = [] ∨ device.uuid = []
    · rw [if_neg hnetworkId, if_pos hlocal]
      exact h.advance fun _ _ _ _ _ => trivial
    have hstarted : IsStarted device deviceInfo := ⟨hnetworkId, not_or.mp hlocal⟩
    cases htable : m.store.getDeviceEntries device.uuid with
    | error e =>
      simp only [if_neg hnetworkId, if_neg hlocal, Manager.getProfilesByOwner,
        if_neg hstarted.2.2, htable]
      exact h.advance fun _ _ _ _ _ => trivial
    | ok table =>
      have hnext : KeepsAcknowledged device deviceInfo ⟨m, .owned table, acknowledged⟩ := by
        refine h.advance fun key value _ hne hspared => ?_
        obtain ⟨hwriter, htarget⟩ := hspared hstarted
        have hown := KvStore.mem_ownEntries.mpr ⟨hwriter, hne⟩
        exact ⟨(KvStore.mem_getDeviceEntries htable).mpr hown, htarget⟩
      simp only [if_neg hnetworkId, if_neg hlocal, Manager.getProfilesByOwner,
        if_neg hstarted.2.2, htable]
      exact hnext
  | owned table =>
    have hfixed : KeepsAcknowledged device deviceInfo ⟨m, .localFixed table, acknowledged⟩ :=
      h.advance fun key value _ _ hspared => fun htarget => hspared.2 htarget.of_listed
    have hscanned : ∀ scan, KeepsAcknowledged device deviceInfo
        ⟨m, .scanned table scan, acknowledged⟩ := fun scan =>
      h.advance fun key value _ _ hspared =>
        ⟨.inl hspared.1, fun htarget => hspared.2 htarget.of_listed⟩
    simp only [repairStep]
    split
    · exact hfixed
    · split
      · exact hfixed
      · exact hscanned _
  | scanned table scan =>
    refine h.delete (by simp) fun key isOwn hspared => ⟨fun hkey => ?_, hspared.2⟩
    rw [Manager.foreignKeys, List.mem_filter, ExtTreeMap.mem_keys, decide_eq_true_eq] at hkey
    rcases hspared.1 with hlisted | hunseen
    · exact hkey.2 hlisted
    · exact hunseen hkey.1
  | localFixed table =>
    simp only [repairStep]
    by_cases hudid : deviceInfo.udid = []
    · simp only [hudid, if_true]
      exact h.advance fun _ _ _ _ _ => trivial
    by_cases hosType : deviceInfo.osType ≠ OHOS_TYPE
    · simp only [hudid, if_false, if_pos hosType]
      split
      · exact h.advance fun _ _ _ _ _ => trivial
      · rename_i scan hscan
        have hnext : KeepsAcknowledged device deviceInfo ⟨m, .peerScanned scan, acknowledged⟩ := by
          refine h.advance fun key value _ _ hspared => fun hcleared => hspared ⟨hudid, ?_⟩
          rw [if_pos hosType]
          exact ⟨((mem_getProfilesByKeyPrefix hscan).mp hcleared.1).2, hcleared.2⟩
        exact hnext
    · simp only [hudid, if_false, if_neg hosType, Manager.fixRemoteDataWhenPeerIsOHBase_eq]
      refine h.delete (by simp) fun key isOwn hspared => ⟨fun hkey => hspared ⟨hudid, ?_⟩, trivial⟩
      rw [Manager.containingKeys, List.mem_filter, ExtTreeMap.mem_keys, decide_eq_true_eq] at hkey
      rwa [if_neg hosType]
  | peerScanned scan =>
    refine h.delete (by simp) fun key isOwn hspared => ⟨fun hkey => hspared ?_, trivial⟩
    rwa [Manager.clearedKeys, List.mem_filter, ExtTreeMap.mem_keys, decide_eq_true_eq] at hkey
  | finished => exact h

/-- What a put writes is spared, where this device is the writer of what has its values. -/
theorem IsSpared.mono {isOwn' : Prop} {phase : RepairPhase}
    (h : IsSpared device deviceInfo isOwn key phase) (himp : isOwn → isOwn') :
    IsSpared device deviceInfo isOwn' key phase := by
  cases phase with
  | idle => exact fun hstarted => ⟨himp (h hstarted).1, (h hstarted).2⟩
  | _ => exact h

/-- A put whose entries are spared keeps the values. -/
theorem KeepsAcknowledged.put (h : KeepsAcknowledged device deviceInfo s) {curUserId : Int32}
    {stored : Bool} {call : PutCall}
    (hspared : IsPutSpared device deviceInfo s (.put curUserId stored call)) :
    KeepsAcknowledged device deviceInfo (putWrite device curUserId stored call s) := by
  rw [putWrite]
  split
  · exact h
  · rename_i store hput
    intro key value hvalue
    have hstored := KvStore.valueAt_putBatch hput key
    have hcell := KvStore.getElem?_putBatch hput key
    rw [KvStore.getElem?_newEntries] at hcell
    rw [ExtTreeMap.getElem?_union] at hvalue
    cases hnew : (call.entries device.udid curUserId)[key]? with
    | none =>
      rw [hnew] at hvalue hstored hcell
      obtain ⟨hne, hold, hkept⟩ := h key value hvalue
      refine ⟨hne, hstored.trans hold, hkept.mono fun hwriter => ?_⟩
      have hsame : store[key]? = s.manager.store[key]? := hcell
      rw [KvStore.writerAt, hsame]
      exact hwriter
    | some written =>
      rw [hnew] at hvalue hstored hcell
      obtain rfl : written = value := Option.some.inj hvalue
      have hmem : (key, written) ∈ (call.entries device.udid curUserId).toList :=
        ExtTreeMap.mem_toList_iff_getElem?_eq_some.mpr hnew
      have hkey : key ∈ call.entries device.udid curUserId :=
        mem_iff_exists_getElem?.mpr ⟨_, hnew⟩
      refine ⟨PutCall.ne_nil_of_mem_entries hkey, hstored,
        (hspared _ hmem).mono fun hown => ?_⟩
      rw [KvStore.writerAt, hcell]
      by_cases hsame : s.manager.store.valueAt key = some written
      · obtain ⟨cell, hold, hcellValue⟩ := Option.map_eq_some_iff.mp hsame
        simp only [hsame, Option.filter_some, ne_eq, not_true_eq_false, decide_false,
          Bool.false_eq_true, if_false, Option.map_none, Option.none_or, hold, Option.map_some]
        exact congrArg some (hown cell hold hcellValue)
      · simp only [hsame, Option.filter_some, ne_eq, not_false_eq_true, decide_true, if_true,
          Option.map_some, Option.some_or]

/-- In every run in which the entries of each put are spared in the phase in which they are
written, the values of successful puts that no later put overwrites are stored in every state
that is reached. -/
theorem acknowledged_puts_stay (device : LocalDevice) (deviceInfo : TrustedDeviceInfo)
    (m : Manager) (events : List RaceEvent)
    (hevents : Admits (raceStep device deviceInfo) (IsPutSpared device deviceInfo)
      { manager := m } events) (n : Nat) (key value : Text) :
    let s := (events.take n).foldl (raceStep device deviceInfo) { manager := m }
    s.acknowledged[key]? = some value → s.manager.store.valueAt key = some value := by
  have hinitial : KeepsAcknowledged device deviceInfo { manager := m } := by
    intro key value hvalue
    cases ExtTreeMap.getElem?_empty.symm.trans hvalue
  have hstep : ∀ s event, KeepsAcknowledged device deviceInfo s →
      IsPutSpared device deviceInfo s event →
        KeepsAcknowledged device deviceInfo (raceStep device deviceInfo s event) := by
    intro s event h hput
    cases event with
    | put curUserId stored call => exact h.put hput
    | repair => exact h.repair
  have hkeeps := foldl_invariant hstep hinitial (hevents.take n)
  exact fun hvalue => (hkeeps key value hvalue).2.1

end Acknowledged

/-! ## A put between two steps -/

/-- A device that has stored an entry of each kind. -/
def threeKindsManager : Manager :=
  { store := ((∅ : KvStore).insert ("dev#udid#osVersion" : Text) ⟨("1" : Text), ("uuid" : Text)⟩)
      |>.insert ("svr#udid#own#serviceName" : Text) ⟨("own" : Text), ("uuid" : Text)⟩
      |>.insert ("char#udid#own#own#characteristicKey" : Text) ⟨("own" : Text), ("uuid" : Text)⟩ }

/-- A service of this device. -/
def newService : PutCall :=
  .service { profile := { deviceId := ("udid" : Text), serviceName := ("new" : Text),
                          serviceType := ("1" : Text) } }

/-- The service is put after the repair has read what this device has written. -/
def lateEvents : List RaceEvent :=
  [.repair, .put DEFAULT_USER_ID true newService, .repair, .repair, .repair]

/-- The service is put, and then all steps of the repair are taken. -/
def earlyEvents : List RaceEvent :=
  [.put DEFAULT_USER_ID true newService, .repair, .repair, .repair, .repair]

/-- An acknowledged put is deleted as the entry of another device. -/
theorem not_acknowledged_puts_stay :
    let s := lateEvents.foldl (raceStep sampleDevice samplePeer) { manager := threeKindsManager }
    s.phase = .finished ∧
      s.acknowledged[("svr#udid#new#serviceName" : Text)]? = some ("new" : Text) ∧
      s.manager.store.valueAt ("svr#udid#new#serviceName" : Text) = none := by
  decide +kernel

/-- Puts before the scan stay through the repair. -/
theorem acknowledged_puts_stay_early :
    let s := (earlyEvents.take 5).foldl (raceStep sampleDevice samplePeer)
      { manager := threeKindsManager }
    s.manager.store.valueAt ("svr#udid#new#serviceName" : Text) = some ("new" : Text) :=
  acknowledged_puts_stay sampleDevice samplePeer threeKindsManager earlyEvents (by decide +kernel) 5
    _ _ (by decide +kernel)

end DeviceProfile
