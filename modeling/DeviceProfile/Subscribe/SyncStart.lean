import DeviceProfile.Cache.Online
import DeviceProfile.Subscribe.SyncListener

/-!
# Starting a synchronization

The callback of a caller is entered before the store is asked to synchronise, and nobody takes it
out again when the store refuses. For the dynamic profiles it is not asked either whether the
callback was entered at all.
-/

namespace DeviceProfile

open Library Std

/-- The devices to sync with and the way to do it. -/
structure DpSyncOptions where
  deviceList : List Text
  syncMode : Int

/-- The network ids of the online devices that run the system, and the others. -/
structure OnlineGroups where
  ohBasedDevices : List Text := []
  notOHBasedDevices : List (Text × Text × Bool) := []
  deriving DecidableEq, Repr

/-- What a call returns and leaves behind, the devices that the store synchronises with, and the
devices of the task that is started for the others. -/
structure SyncOutcome (κ : Type) where
  result : Except SyncError Unit
  listeners : SyncListeners κ
  synced : List Text := []
  task : List (Text × Text × Bool) := []

/-- The callback of a caller can be entered; nobody is added to a full table. -/
def Enterable {κ : Type} (caller : Text) (listeners : SyncListeners κ) : Prop :=
  (caller ≠ [] ∧ caller.length ≤ MAX_STRING_LEN) ∧ listeners.size ≤ MAX_LISTENER_SIZE

instance {κ : Type} (caller : Text) (listeners : SyncListeners κ) :
    Decidable (Enterable caller listeners) :=
  inferInstanceAs (Decidable (_ ∧ _))

/-- A store that is there and answers with success. -/
def Synchronises (store : Option (List Text → Int → Int)) (devices : List Text)
    (syncMode : Int) : Prop :=
  ∃ sync ∈ store, sync devices syncMode = 0

instance (store : Option (List Text → Int → Int)) (devices : List Text) (syncMode : Int) :
    Decidable (Synchronises store devices syncMode) :=
  inferInstanceAs (Decidable (∃ sync ∈ store, _))

section Calls

variable {κ : Type} (order : Iteration) (isP2p : Int → Bool)

/-- The devices of a list that are online, in the order of the map. -/
def filterAndGroupOnlineDevices (deviceList : List Text) (onlineDevMap : OnlineDevMap) :
    OnlineGroups :=
  if deviceList.length = 0 ∨ MAX_DEVICE_SIZE < deviceList.length then {}
  else
    (order.list onlineDevMap).foldl (fun groups x =>
      if x.2.networkId ∉ deviceList then groups
      else if x.2.osType = OHOS_TYPE then
        { groups with ohBasedDevices := groups.ohBasedDevices ++ [x.2.networkId] }
      else
        { groups with
          notOHBasedDevices :=
            groups.notOHBasedDevices ++ [(x.2.udid, x.2.networkId, isP2p x.2.authForm)] }) {}

/-- The part of both calls behind the entry of the callback: the store synchronises with the
devices, and a task is started for the others. A store that is not there has a code of its own. -/
def syncOhBased (store : Option (List Text → Int → Int)) (missing : SyncError)
    (devices : List Text) (syncMode : Int) (task : List (Text × Text × Bool))
    (listeners : SyncListeners κ) : SyncOutcome κ :=
  match store with
  | none => { result := .error missing, listeners }
  | some sync =>
    if sync devices syncMode ≠ 0 then { result := .error .syncDeviceFail, listeners }
    else { result := .ok (), listeners, synced := devices, task }

/-- Whether the callback was entered is not looked at. -/
def syncDeviceProfile (onlineDevMap : OnlineDevMap) (callerDescriptor : Text)
    (store : Option (List Text → Int → Int)) (syncOptions : DpSyncOptions)
    (syncCompletedCallback : Option κ) (listeners : SyncListeners κ) : SyncOutcome κ :=
  match syncCompletedCallback with
  | none => { result := .error .invalidParams, listeners }
  | some callback =>
    let groups := filterAndGroupOnlineDevices order isP2p syncOptions.deviceList onlineDevMap
    if groups.ohBasedDevices = [] ∧ groups.notOHBasedDevices = [] then
      { result := .error .invalidParams, listeners }
    else if groups.ohBasedDevices = [] then
      { result := .ok (), listeners, task := groups.notOHBasedDevices }
    else
      syncOhBased store .syncDeviceFail groups.ohBasedDevices syncOptions.syncMode
        groups.notOHBasedDevices (addSyncListener callerDescriptor callback listeners).2

/-- Syncs the static profiles of the devices that are online: the listener is kept first and the
store is asked after. -/
def syncStaticProfile (onlineDevMap : OnlineDevMap) (callerDescriptor : Text)
    (store : Option (List Text → Int → Int)) (syncOptions : DpSyncOptions)
    (syncCompletedCallback : Option κ) (listeners : SyncListeners κ) : SyncOutcome κ :=
  match syncCompletedCallback with
  | none => { result := .error .invalidParams, listeners }
  | some callback =>
    let groups := filterAndGroupOnlineDevices order isP2p syncOptions.deviceList onlineDevMap
    if groups.ohBasedDevices = [] then { result := .error .invalidParams, listeners }
    else
      match addSyncListener callerDescriptor callback listeners with
      | (.error e, listeners) => { result := .error e, listeners }
      | (.ok (), listeners) =>
        syncOhBased store .nullptr groups.ohBasedDevices syncOptions.syncMode [] listeners

end Calls

/-- After an error the table is as it was; after a success for which the store synchronises, it
holds the callback of the caller. -/
def SyncOutcome.LeavesNoneBehind {κ : Type} (outcome : SyncOutcome κ) (caller : Text)
    (callback : Option κ) (before : SyncListeners κ) : Prop :=
  (∀ e, outcome.result = .error e → outcome.listeners = before) ∧
    (outcome.result = .ok () → outcome.synced ≠ [] → outcome.listeners[caller]? = callback)

section Lemmas

variable {κ : Type} {order : Iteration} {isP2p : Int → Bool} {caller : Text} {callback : κ}
  {listeners : SyncListeners κ}

/-- A listener that can be kept is. -/
theorem addSyncListener_of_enterable (h : Enterable caller listeners) :
    addSyncListener caller callback listeners = (.ok (), listeners.insert caller callback) := by
  obtain ⟨⟨hne, hlength⟩, hsize⟩ := h
  rw [addSyncListener, if_neg (by rw [not_or]; exact ⟨hne, Nat.not_lt.mpr hlength⟩),
    if_neg (Nat.not_lt.mpr hsize)]

/-- A listener that cannot be kept is reported and changes nothing. -/
theorem addSyncListener_of_not_enterable (callback : κ) (h : ¬Enterable caller listeners) :
    ∃ e, addSyncListener caller callback listeners = (.error e, listeners) := by
  rw [addSyncListener]
  split
  · exact ⟨_, rfl⟩
  · rename_i hcaller
    split
    · exact ⟨_, rfl⟩
    · rename_i hsize
      rw [not_or, Nat.not_lt] at hcaller
      exact absurd ⟨hcaller, Nat.not_lt.mp hsize⟩ h

variable {store : Option (List Text → Int → Int)} {missing : SyncError} {devices : List Text}
  {syncMode : Int} {task : List (Text × Text × Bool)}

/-- A sync that the store takes up keeps its task. -/
theorem syncOhBased_of_synchronises (h : Synchronises store devices syncMode) :
    syncOhBased store missing devices syncMode task listeners =
      { result := .ok (), listeners, synced := devices, task } := by
  obtain ⟨sync, rfl, hsync⟩ := h
  rw [syncOhBased, if_neg (not_not.mpr hsync)]

/-- A sync that the store refuses keeps no task. -/
theorem syncOhBased_of_not_synchronises (h : ¬Synchronises store devices syncMode) :
    ∃ e, syncOhBased store missing devices syncMode task listeners =
      { result := .error e, listeners } := by
  cases store with
  | none => exact ⟨missing, rfl⟩
  | some sync =>
    have hsync : sync devices syncMode ≠ 0 := fun hsync => h ⟨sync, rfl, hsync⟩
    exact ⟨.syncDeviceFail, if_pos hsync⟩

/-- With the callback entered or refused, the answer of the store decides what has to hold of the
table. -/
theorem leavesNoneBehind_syncOhBased_iff (hdevices : devices ≠ []) {after : SyncListeners κ} :
    (syncOhBased store missing devices syncMode task after).LeavesNoneBehind caller
        (some callback) listeners ↔
      if Synchronises store devices syncMode then after[caller]? = some callback
      else after = listeners := by
  split
  · rename_i hstore
    rw [syncOhBased_of_synchronises hstore]
    exact ⟨fun h => h.2 rfl hdevices, fun h => ⟨nofun, fun _ _ => h⟩⟩
  · rename_i hstore
    have hrefused : ∃ e, syncOhBased store missing devices syncMode task after =
        { result := .error e, listeners := after } := syncOhBased_of_not_synchronises hstore
    obtain ⟨e, he⟩ := hrefused
    rw [he]
    exact ⟨fun h => h.1 e rfl, fun h => ⟨fun _ _ => h, nofun⟩⟩

/-- A call that is refused before it reaches the table leaves nothing behind. -/
theorem leavesNoneBehind_of_untouched {before : SyncListeners κ} {callback : Option κ}
    {result : Except SyncError Unit} :
    SyncOutcome.LeavesNoneBehind { result, listeners := before, task } caller callback before :=
  ⟨fun _ _ => rfl, fun _ h => absurd rfl h⟩

/-- The callback is entered whether it is needed or not, or it is not entered though it is. -/
theorem leavesNoneBehind_syncDeviceProfile_iff {onlineDevMap : OnlineDevMap}
    {syncOptions : DpSyncOptions} (hdevices : (filterAndGroupOnlineDevices order isP2p
      syncOptions.deviceList onlineDevMap).ohBasedDevices ≠ []) :
    (syncDeviceProfile order isP2p onlineDevMap caller store syncOptions (some callback)
        listeners).LeavesNoneBehind caller (some callback) listeners ↔
      listeners[caller]? = some callback ∨
        (Enterable caller listeners ↔
          Synchronises store (filterAndGroupOnlineDevices order isP2p syncOptions.deviceList
            onlineDevMap).ohBasedDevices syncOptions.syncMode) := by
  rw [syncDeviceProfile]
  rw [if_neg fun h => hdevices h.1, if_neg hdevices, leavesNoneBehind_syncOhBased_iff hdevices]
  by_cases henter : Enterable caller listeners
  · rw [addSyncListener_of_enterable henter, iff_true_left henter]
    split
    · rename_i hstore
      exact iff_of_true ExtTreeMap.getElem?_insert_self (.inr hstore)
    · rename_i hstore
      rw [insert_eq_self_iff, or_iff_left hstore]
  · obtain ⟨e, he⟩ := addSyncListener_of_not_enterable callback henter
    rw [he, iff_false_left henter]
    split
    · rename_i hstore
      rw [or_iff_left (not_not.mpr hstore)]
    · rename_i hstore
      exact iff_of_true rfl (.inr hstore)

/-- A callback that cannot be entered ends the call. -/
theorem leavesNoneBehind_syncStaticProfile_iff {onlineDevMap : OnlineDevMap}
    {syncOptions : DpSyncOptions} (hdevices : (filterAndGroupOnlineDevices order isP2p
      syncOptions.deviceList onlineDevMap).ohBasedDevices ≠ []) :
    (syncStaticProfile order isP2p onlineDevMap caller store syncOptions (some callback)
        listeners).LeavesNoneBehind caller (some callback) listeners ↔
      listeners[caller]? = some callback ∨
        (Enterable caller listeners →
          Synchronises store (filterAndGroupOnlineDevices order isP2p syncOptions.deviceList
            onlineDevMap).ohBasedDevices syncOptions.syncMode) := by
  rw [syncStaticProfile]
  rw [if_neg hdevices]
  by_cases henter : Enterable caller listeners
  · rw [addSyncListener_of_enterable henter]
    dsimp only
    rw [leavesNoneBehind_syncOhBased_iff hdevices, forall_prop_of_true henter]
    split
    · rename_i hstore
      exact iff_of_true ExtTreeMap.getElem?_insert_self (.inr hstore)
    · rename_i hstore
      rw [insert_eq_self_iff, or_iff_left hstore]
  · obtain ⟨e, he⟩ := addSyncListener_of_not_enterable callback henter
    rw [he]
    exact iff_of_true leavesNoneBehind_of_untouched (.inr fun h => absurd h henter)

end Lemmas

/-- For any online devices, options, callback, answer of the store and content of the table, both
calls leave nothing behind exactly when they do not reach the table, the caller's entry is the
callback already, or the entry and the answer of the store agree: for the dynamic profiles both
succeed or both fail, for the static ones the store does not fail after the entry. -/
theorem failed_sync_leaves_none_behind_iff {κ : Type} (order : Iteration) (isP2p : Int → Bool)
    (onlineDevMap : OnlineDevMap) (caller : Text) (store : Option (List Text → Int → Int))
    (syncOptions : DpSyncOptions) (callback : Option κ) (listeners : SyncListeners κ) :
    let devices := (filterAndGroupOnlineDevices order isP2p syncOptions.deviceList
      onlineDevMap).ohBasedDevices
    ((syncDeviceProfile order isP2p onlineDevMap caller store syncOptions callback
          listeners).LeavesNoneBehind caller callback listeners ↔
        callback = none ∨ devices = [] ∨ listeners[caller]? = callback ∨
          (Enterable caller listeners ↔ Synchronises store devices syncOptions.syncMode)) ∧
      ((syncStaticProfile order isP2p onlineDevMap caller store syncOptions callback
          listeners).LeavesNoneBehind caller callback listeners ↔
        callback = none ∨ devices = [] ∨ listeners[caller]? = callback ∨
          (Enterable caller listeners → Synchronises store devices syncOptions.syncMode)) := by
  intro devices
  cases callback with
  | none =>
    exact ⟨iff_of_true leavesNoneBehind_of_untouched (.inl rfl),
      iff_of_true leavesNoneBehind_of_untouched (.inl rfl)⟩
  | some callback =>
    rw [or_iff_right (a := some callback = none) nofun, or_iff_right (a := some callback = none)
      nofun]
    by_cases hdevices : devices = []
    · refine ⟨iff_of_true ?_ (.inl hdevices), iff_of_true ?_ (.inl hdevices)⟩
      · rw [syncDeviceProfile]
        split
        · exact leavesNoneBehind_of_untouched
        · exact leavesNoneBehind_of_untouched
      · rw [syncStaticProfile]
        rw [if_pos hdevices]
        exact leavesNoneBehind_of_untouched
    · rw [or_iff_right hdevices, or_iff_right hdevices]
      exact ⟨leavesNoneBehind_syncDeviceProfile_iff hdevices,
        leavesNoneBehind_syncStaticProfile_iff hdevices⟩

/-- One device that is online and runs the system. -/
def oneOnline : OnlineDevMap :=
  (∅ : OnlineDevMap).insert ("udid" : Text)
    { networkId := ("net" : Text), osType := OHOS_TYPE, udid := ("udid" : Text) }

theorem ohBasedDevices_oneOnline (isP2p : Int → Bool) :
    (filterAndGroupOnlineDevices keyOrder isP2p [("net" : Text)] oneOnline).ohBasedDevices =
      [("net" : Text)] := by
  rw [filterAndGroupOnlineDevices, if_neg (by decide)]
  change OnlineGroups.ohBasedDevices (List.foldl _ _ (ExtTreeMap.toList oneOnline)) = _
  rw [oneOnline, toList_insert_empty]
  rfl

/-- The store refuses to synchronise after the callback of the caller was entered. -/
theorem not_failed_sync_leaves_none_behind :
    ¬∀ (order : Iteration) (isP2p : Int → Bool) (onlineDevMap : OnlineDevMap) (caller : Text)
        (store : Option (List Text → Int → Int)) (syncOptions : DpSyncOptions)
        (callback : Option Nat) (listeners : SyncListeners Nat),
      (syncDeviceProfile order isP2p onlineDevMap caller store syncOptions callback
          listeners).LeavesNoneBehind caller callback listeners ∧
        (syncStaticProfile order isP2p onlineDevMap caller store syncOptions callback
          listeners).LeavesNoneBehind caller callback listeners := by
  intro h
  have hstatic := (h keyOrder (fun _ => true) oneOnline ("caller" : Text) (some fun _ _ => 1)
    ⟨[("net" : Text)], 0⟩ (some 7) ∅).2
  have hdevices := ohBasedDevices_oneOnline fun _ => true
  rw [leavesNoneBehind_syncStaticProfile_iff (by rw [hdevices]; exact List.cons_ne_nil _ _),
    ExtTreeMap.getElem?_empty, or_iff_right nofun] at hstatic
  have hsync := hstatic ⟨by decide, by rw [ExtTreeMap.size_empty]; exact Nat.zero_le _⟩
  revert hsync
  decide

end DeviceProfile
