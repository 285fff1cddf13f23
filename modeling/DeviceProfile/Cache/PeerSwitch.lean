import DeviceProfile.Cache.Online
import DeviceProfile.Cache.SwitchRun

/-!
# Switches of peers

A notified word of a peer is applied when its network id resolves, and parked otherwise until
the peer has come online. Whether to park the word is decided before it is parked, and a parked
word is only looked for once, so a word can be parked for good, and an old word can come last.
-/

namespace DeviceProfile

open Library Std

/-- The most peers whose switches are kept. -/
def MAX_SWITCH_CACHE_SIZE : Nat := 1000

variable {order : Iteration} {localNetworkId localUdid : Text}

/-! ## The steps -/

/-- Where the task of a notification stands. -/
inductive NoticePhase where
  | resolve
  | park
  | eraseParked (udid : Text)
  | handle (udid : Text)
  deriving DecidableEq, Repr

/-- The task of a notification: the network id and the word that are notified. -/
structure SwitchTask where
  networkId : Text
  value : BitVec 32
  phase : NoticePhase := .resolve
  deriving DecidableEq, Repr

/-- The maps and the cache, what subscribers were told, the tasks of the notifications and of the
online events, the peers that came online, and the last word delivered for each network id. -/
structure PeerWorld where
  onlineDevMap : OnlineDevMap := ∅
  switchCacheMap : ExtTreeMap Text (BitVec 32) := ∅
  cache : ProfileCache := {}
  notified : List (Flagged CharacteristicProfile) := []
  tasks : List SwitchTask := []
  drains : List TrustedDeviceInfo := []
  online : List TrustedDeviceInfo := []
  latest : Text → Option (BitVec 32) := fun _ => none

/-- An online event, a notification, or the next step of one of their tasks. -/
inductive PeerEvent where
  | online (deviceInfo : TrustedDeviceInfo)
  | drain (n : Nat)
  | deliver (networkId : Text) (value : BitVec 32)
  | runTask (n : Nat)
  deriving DecidableEq, Repr

/-- A switch profile that is not cached is cached and told to the subscribers. -/
def PeerWorld.generateSwitchNotify (s : PeerWorld) (p : Flagged CharacteristicProfile) :
    PeerWorld :=
  if s.cache.IsCharProfileExist p then s
  else { s with cache := s.cache.cacheCharProfile p, notified := s.notified ++ [p] }

/-- The bits of a word are handled until one of them fails. -/
def handleBits (localUdid udid : Text) (switchValue : BitVec 32) :
    List Nat → PeerWorld → PeerWorld
  | [], s => s
  | i :: bits, s =>
    match refreshedProfile udid switchValue i with
    | none => s
    | some p =>
      if ¬IsKeyValid udid then s
      else
        let s' := s.generateSwitchNotify p
        handleBits localUdid udid switchValue bits
          (if udid = localUdid then
            { s' with cache := { s'.cache with curLocalSwitch := switchValue } }
          else s')

/-- A switch change of a peer: each bit of the word is stored as the status of its service. -/
def handleSwitchUpdateChange (localUdid udid : Text) (switchValue : BitVec 32) (s : PeerWorld) :
    PeerWorld :=
  handleBits localUdid udid switchValue (List.range SWITCH_FLAG_MAX) s

/-- A full map takes no word, not even for a network id that it holds already. -/
def addSwitchCacheMap (networkId : Text) (switchValue : BitVec 32)
    (switchCacheMap : ExtTreeMap Text (BitVec 32)) : ExtTreeMap Text (BitVec 32) :=
  if MAX_SWITCH_CACHE_SIZE < switchCacheMap.size then switchCacheMap
  else switchCacheMap.insert networkId switchValue

/-- The word that is parked for a device that came online is handled. -/
def onDeviceOnline (localUdid : Text) (deviceInfo : TrustedDeviceInfo) (s : PeerWorld) :
    PeerWorld :=
  if deviceInfo.networkId = [] ∨ deviceInfo.udid = [] then s
  else
    match s.switchCacheMap[deviceInfo.networkId]? with
    | none => s
    | some switchValue =>
      let s' := handleSwitchUpdateChange localUdid deviceInfo.udid switchValue s
      { s' with switchCacheMap := s'.switchCacheMap.erase deviceInfo.networkId }

/-- The next step of the task of a notification, and where the task stands after it. -/
def taskStep (order : Iteration) (localNetworkId localUdid : Text) (s : PeerWorld)
    (t : SwitchTask) : PeerWorld × Option NoticePhase :=
  match t.phase with
  | .resolve =>
    if t.networkId = [] then (s, none)
    else
      match getUdidByNetWorkId order localNetworkId localUdid s.onlineDevMap t.networkId [] with
      | .error .getUdidByNetworkIdFail => (s, some .park)
      | .error .invalidParams => (s, none)
      | .ok udid => if udid = [] then (s, none) else (s, some (.eraseParked udid))
  | .park =>
    ({ s with switchCacheMap := addSwitchCacheMap t.networkId t.value s.switchCacheMap }, none)
  | .eraseParked udid =>
    ({ s with switchCacheMap := s.switchCacheMap.erase t.networkId }, some (.handle udid))
  | .handle udid => (handleSwitchUpdateChange localUdid udid t.value s, none)

/-- One event of the process: a peer comes or goes, a drain of the queue runs, or a change of a
switch word is handled. -/
def peerStep (order : Iteration) (localNetworkId localUdid : Text) (s : PeerWorld) :
    PeerEvent → PeerWorld
  | .online d => { s with
      onlineDevMap := onNodeOnline d s.onlineDevMap
      drains := s.drains ++ [d]
      online := s.online ++ [d] }
  | .drain n =>
    match s.drains[n]? with
    | none => s
    | some d => onDeviceOnline localUdid d { s with drains := s.drains.eraseIdx n }
  | .deliver networkId value => { s with
      tasks := s.tasks ++ [{ networkId, value }]
      latest := fun other => if other = networkId then some value else s.latest other }
  | .runTask n =>
    match s.tasks[n]? with
    | none => s
    | some t =>
      let (s', phase) := taskStep order localNetworkId localUdid s t
      match phase with
      | some phase => { s' with tasks := s'.tasks.set n { t with phase } }
      | none => { s' with tasks := s'.tasks.eraseIdx n }

/-! ## What is expected -/

/-- The peers: their information is complete, none of them is this device, and each of them has a
network id of its own. -/
structure PeerSet (localNetworkId localUdid : Text) where
  devices : Set TrustedDeviceInfo
  complete : ∀ d ∈ devices, IsComplete d
  isRemote : ∀ d ∈ devices, d.networkId ≠ localNetworkId ∧ d.udid ≠ localUdid
  networkIds : ∀ d ∈ devices, ∀ e ∈ devices, d.networkId = e.networkId ↔ d.udid = e.udid

/-- What subscribers were told last under a key of the cache. -/
def PeerWorld.lastNotified (s : PeerWorld) (key : Text) : Option (Flagged CharacteristicProfile) :=
  (s.notified.filter fun p => p.profile.cacheKey = key).getLast?

/-- The bits of a word are cached for a device. -/
def PeerWorld.Caches (s : PeerWorld) (udid : Text) (value : BitVec 32) : Prop :=
  ∀ x ∈ SWITCH_SERVICE_MAP,
    s.cache.charProfileMap[switchKey udid x.1]? = some (stateProfile udid value x)

/-- The bits of a word are cached for a device, and subscribers were told of them last. -/
def PeerWorld.Shows (s : PeerWorld) (udid : Text) (value : BitVec 32) : Prop :=
  s.Caches udid value ∧
    ∀ x ∈ SWITCH_SERVICE_MAP,
      s.lastNotified (switchKey udid x.1) = some (stateProfile udid value x)

/-- Each peer that came online shows the last word that was delivered for it. -/
def PeerWorld.ShowsLatest (s : PeerWorld) : Prop :=
  ∀ d ∈ s.online, ∀ value, s.latest d.networkId = some value → s.Shows d.udid value

/-- Nothing has happened yet: no peer came online and nothing was delivered, and subscribers were
told of the switches that are cached for peers. -/
structure PeerWorld.IsStart (peers : PeerSet localNetworkId localUdid) (s : PeerWorld) : Prop where
  offline : s.onlineDevMap = ∅ ∧ s.online = [] ∧ s.drains = []
  undelivered : s.tasks = [] ∧ ∀ networkId, s.latest networkId = none
  told : ∀ d ∈ peers.devices, ∀ x ∈ SWITCH_SERVICE_MAP, ∀ p,
    s.cache.charProfileMap[switchKey d.udid x.1]? = some p →
      s.lastNotified (switchKey d.udid x.1) = some p

/-! ## Steps that lose nothing -/

namespace PeerWorld

variable (s : PeerWorld)

/-- The word is the last one delivered for its network id, or none was delivered. -/
def IsLatest (networkId : Text) (value : BitVec 32) : Prop :=
  s.latest networkId = none ∨ s.latest networkId = some value

/-- The task of the last word of a network id has not ended. -/
def IsUnderway (networkId : Text) : Prop :=
  ∃ t ∈ s.tasks, t.networkId = networkId ∧ s.latest networkId = some t.value

/-- The last word of a network id is parked. -/
def IsParked (networkId : Text) : Prop :=
  s.latest networkId ≠ none ∧ s.switchCacheMap[networkId]? = s.latest networkId

/-- Parked words of the network id are still looked for. -/
def IsAwaited (networkId : Text) : Prop :=
  (∀ d ∈ s.online, d.networkId ≠ networkId) ∨ ∃ d ∈ s.drains, d.networkId = networkId

/-- The cache takes the switches of a device. -/
def Takes (udid : Text) (value : BitVec 32) : Prop :=
  IsKeyValid udid ∧
    HasRoom (SWITCH_SERVICE_MAP.map (stateProfile udid value)) s.cache.charProfileMap

/-- Where a task stands it can take its next step without losing the last word. -/
def IsSafeTask (t : SwitchTask) : NoticePhase → Prop
  | .resolve => True
  | .park =>
    (s.IsLatest t.networkId t.value →
      s.switchCacheMap.size ≤ MAX_SWITCH_CACHE_SIZE ∧ s.IsAwaited t.networkId) ∧
    (¬s.IsLatest t.networkId t.value → s.IsParked t.networkId → s.IsUnderway t.networkId)
  | .eraseParked _ =>
    ¬s.IsLatest t.networkId t.value → s.IsParked t.networkId → s.IsUnderway t.networkId
  | .handle udid =>
    s.Takes udid t.value ∧ (¬s.IsLatest t.networkId t.value →
      s.IsUnderway t.networkId ∨ s.IsParked t.networkId ∧ s.IsAwaited t.networkId)

/-- The event does not lose the last word of a peer: the word is not parked after its drain or in
a full map, the cache takes it, and no other word replaces it after its task has ended. -/
def IsSafe : PeerEvent → Prop
  | .online _ => True
  | .deliver _ _ => True
  | .drain n =>
    ∀ d ∈ s.drains[n]?, ∀ value ∈ s.switchCacheMap[d.networkId]?,
      s.Takes d.udid value ∧ (¬s.IsLatest d.networkId value → s.IsUnderway d.networkId)
  | .runTask n => ∀ t ∈ s.tasks[n]?, s.IsSafeTask t t.phase

instance (networkId : Text) (value : BitVec 32) : Decidable (s.IsLatest networkId value) :=
  inferInstanceAs (Decidable (_ ∨ _))

instance (networkId : Text) : Decidable (s.IsUnderway networkId) :=
  inferInstanceAs (Decidable (∃ t ∈ s.tasks, _))

instance (networkId : Text) : Decidable (s.IsParked networkId) :=
  inferInstanceAs (Decidable (_ ∧ _))

instance (networkId : Text) : Decidable (s.IsAwaited networkId) :=
  inferInstanceAs (Decidable (_ ∨ _))

instance (udid : Text) (value : BitVec 32) : Decidable (s.Takes udid value) :=
  inferInstanceAs (Decidable (_ ∧ ∀ n < _, _))

instance (t : SwitchTask) : ∀ phase, Decidable (s.IsSafeTask t phase)
  | .resolve => isTrue trivial
  | .park => inferInstanceAs (Decidable (_ ∧ _))
  | .eraseParked _ => inferInstanceAs (Decidable (_ → _))
  | .handle _ => inferInstanceAs (Decidable (_ ∧ _))

instance : ∀ event, Decidable (s.IsSafe event)
  | .online _ => isTrue trivial
  | .deliver _ _ => isTrue trivial
  | .drain n =>
    -- a search through the words would not end
    have := fun d : TrustedDeviceInfo => Option.decidableForallMem
      (p := fun value => s.Takes d.udid value ∧
        (¬s.IsLatest d.networkId value → s.IsUnderway d.networkId))
      s.switchCacheMap[d.networkId]?
    Option.decidableForallMem s.drains[n]?
  | .runTask n => inferInstanceAs (Decidable (∀ t ∈ s.tasks[n]?, _))

end PeerWorld

/-! ## Handling a word -/

/-- Subscribers were told last what is cached under a key. -/
def PeerWorld.IsTold (s : PeerWorld) (key : Text) : Prop :=
  ∀ p, s.cache.charProfileMap[key]? = some p → s.lastNotified key = some p

/-- A switch profile for which the cache has room. -/
theorem generateSwitchNotify_spec {s : PeerWorld} {p : Flagged CharacteristicProfile}
    (hkeys : AreCharKeysValid p.profile.deviceId p.profile.serviceName p.profile.characteristicKey)
    (hroom : s.cache.charProfileMap.size ≤ MAX_CHAR_SIZE) :
    (s.generateSwitchNotify p).cache.charProfileMap =
        s.cache.charProfileMap.insert p.profile.cacheKey p ∧
      ∀ key, s.IsTold key → (s.generateSwitchNotify p).IsTold key := by
  rw [PeerWorld.generateSwitchNotify]
  by_cases hexist : s.cache.IsCharProfileExist p
  · rw [if_pos hexist]
    exact ⟨(insert_of_exist hexist).symm, fun _ htold => htold⟩
  · rw [if_neg hexist]
    refine ⟨by rw [cacheCharProfile_eq hkeys hroom], fun key htold q hq => ?_⟩
    rw [cacheCharProfile_eq hkeys hroom] at hq
    simp only [ExtTreeMap.getElem?_insert, LawfulEqCmp.compare_eq_iff_eq] at hq
    simp only [PeerWorld.lastNotified, List.filter_append, List.filter_singleton]
    by_cases hkey : p.profile.cacheKey = key
    · simp only [hkey, if_true] at hq
      simp only [hkey, decide_true, cond_true, List.getLast?_concat]
      exact hq
    · simp only [hkey, if_false] at hq
      simp only [hkey, decide_false, cond_false, List.append_nil]
      exact htold q hq

/-- A word touches nothing but the cache and what subscribers are told. -/
theorem handleBits_frame (udid : Text) (value : BitVec 32) (bits : List Nat) (s : PeerWorld) :
    ∃ cache notified, handleBits localUdid udid value bits s = { s with cache, notified } := by
  induction bits generalizing s with
  | nil => exact ⟨s.cache, s.notified, rfl⟩
  | cons i bits ih =>
    rw [handleBits]
    split
    · exact ⟨s.cache, s.notified, rfl⟩
    · rename_i p _
      split
      · exact ⟨s.cache, s.notified, rfl⟩
      · obtain ⟨cache, notified, hnotify⟩ :
            ∃ cache notified, s.generateSwitchNotify p = { s with cache, notified } := by
          rw [PeerWorld.generateSwitchNotify]
          split
          · exact ⟨s.cache, s.notified, rfl⟩
          · exact ⟨_, _, rfl⟩
        rw [hnotify]
        dsimp only
        split
        · obtain ⟨cache', notified', hrest⟩ :=
            ih { s with cache := { cache with curLocalSwitch := value }, notified }
          exact ⟨cache', notified', hrest⟩
        · obtain ⟨cache', notified', hrest⟩ := ih { s with cache, notified }
          exact ⟨cache', notified', hrest⟩

/-- The bits of a word for whose profiles the cache has room are all cached, and subscribers are
told of what is cached. -/
theorem handleBits_spec (localUdid : Text) {udid : Text} (hudid : IsKeyValid udid)
    (value : BitVec 32) {bits : List Nat} (hbits : ∀ i ∈ bits, i < SWITCH_FLAG_MAX) {s : PeerWorld}
    (hroom : HasRoom (bits.filterMap (refreshedProfile udid value)) s.cache.charProfileMap) :
    (handleBits localUdid udid value bits s).cache.charProfileMap =
        withProfiles (bits.filterMap (refreshedProfile udid value)) s.cache.charProfileMap ∧
      ∀ key, s.IsTold key → (handleBits localUdid udid value bits s).IsTold key := by
  induction bits generalizing s with
  | nil => exact ⟨rfl, fun _ htold => htold⟩
  | cons i bits ih =>
    obtain ⟨x, hx, hprofile⟩ :
        ∃ x ∈ SWITCH_SERVICE_MAP,
          refreshedProfile udid value i = some (stateProfile udid value x) := by
      have hall : ∀ i < SWITCH_FLAG_MAX, ∃ x ∈ SWITCH_SERVICE_MAP, getServiceNameByPos i = .ok x.1 ∧
          x.1 ≠ [] ∧ x.2.pos = i := by
        decide
      obtain ⟨x, hx, hname, hne, rfl⟩ := hall i (hbits i List.mem_cons_self)
      refine ⟨x, hx, ?_⟩
      simp only [refreshedProfile, hname, if_neg hne, stateProfile]
    have hfilter : (i :: bits).filterMap (refreshedProfile udid value) =
        stateProfile udid value x :: bits.filterMap (refreshedProfile udid value) :=
      List.filterMap_cons_some hprofile
    rw [hfilter] at hroom ⊢
    have hkeys := areCharKeysValid (isCharProfileValid_stateProfile hudid value hx)
    obtain ⟨hmap, htold⟩ := generateSwitchNotify_spec (s := s) hkeys (hroom 0 (Nat.zero_lt_succ _))
    rw [handleBits, hprofile]
    dsimp only
    rw [if_neg (not_not.mpr hudid)]
    have hrest : HasRoom (bits.filterMap (refreshedProfile udid value))
        (s.generateSwitchNotify (stateProfile udid value x)).cache.charProfileMap := by
      intro n hn
      rw [hmap]
      exact hroom (n + 1) (Nat.succ_lt_succ hn)
    have hnext := fun j hj => hbits j (List.mem_cons_of_mem i hj)
    split
    · obtain ⟨hmap', htold'⟩ := ih hnext (s := {
          s.generateSwitchNotify (stateProfile udid value x) with
          cache := {
            (s.generateSwitchNotify (stateProfile udid value x)).cache with
            curLocalSwitch := value } }) hrest
      exact ⟨by rw [hmap', hmap]; rfl, fun key hkey => htold' key (htold key hkey)⟩
    · obtain ⟨hmap', htold'⟩ := ih hnext hrest
      exact ⟨by rw [hmap', hmap]; rfl, fun key hkey => htold' key (htold key hkey)⟩

/-- The keys of two devices differ. -/
theorem switchKey_ne {udid udid' : Text} (hudid : IsKeyValid udid) (hudid' : IsKeyValid udid')
    (hne : udid ≠ udid') {x y : Text × SwitchFlag} (hx : x ∈ SWITCH_SERVICE_MAP)
    (hy : y ∈ SWITCH_SERVICE_MAP) : switchKey udid x.1 ≠ switchKey udid' y.1 := by
  intro heq
  have hstatus : IsKeyValid SWITCH_STATUS := by decide
  exact hne (generateCharProfileKey_injective ⟨hudid, isKeyValid_of_mem x hx, hstatus⟩
    ⟨hudid', isKeyValid_of_mem y hy, hstatus⟩ heq).1

/-- A word that the cache takes is cached for its device; what is cached for others stays. -/
theorem handleSwitchUpdateChange_spec (localUdid : Text) {s : PeerWorld} {udid : Text}
    {value : BitVec 32} (htakes : s.Takes udid value) :
    (∃ cache notified, handleSwitchUpdateChange localUdid udid value s =
        { s with cache, notified }) ∧
      (handleSwitchUpdateChange localUdid udid value s).Caches udid value ∧
      (∀ udid' value', IsKeyValid udid' → udid' ≠ udid → s.Caches udid' value' →
        (handleSwitchUpdateChange localUdid udid value s).Caches udid' value') ∧
      ∀ key, s.IsTold key → (handleSwitchUpdateChange localUdid udid value s).IsTold key := by
  obtain ⟨hudid, hroom⟩ := htakes
  have hrange : ∀ i ∈ List.range SWITCH_FLAG_MAX, i < SWITCH_FLAG_MAX :=
    fun i hi => List.mem_range.mp hi
  obtain ⟨hmap, htold⟩ := handleBits_spec localUdid hudid value hrange
    (s := s) (by rw [refreshedProfiles_eq]; exact hroom)
  rw [refreshedProfiles_eq] at hmap
  have hvalid : ∀ p ∈ SWITCH_SERVICE_MAP.map (stateProfile udid value),
      IsCharProfileValid udid p.profile := by
    intro p hp
    obtain ⟨x, hx, rfl⟩ := List.mem_map.mp hp
    exact isCharProfileValid_stateProfile hudid value hx
  refine ⟨handleBits_frame udid value _ s, fun x hx => ?_,
    fun udid' value' hudid' hne hcaches => ?_, htold⟩
  · rw [handleSwitchUpdateChange, hmap, getElem?_withProfiles hvalid hx,
      statusOf_map_stateProfile udid value hx]
    rfl
  · intro x hx
    rw [handleSwitchUpdateChange, hmap, withProfiles, getElem?_insertAll_of_not_mem]
    · exact hcaches x hx
    · intro p hp
      obtain ⟨y, hy, rfl⟩ := List.mem_map.mp hp
      exact switchKey_ne hudid hudid' hne.symm hy hx

/-! ## Every step -/

/-- The last word of a network id is on its way, or parked while its device is awaited, or cached
for a device that came online with the network id. -/
def PeerWorld.Keeps (s : PeerWorld) (networkId : Text) (value : BitVec 32) : Prop :=
  s.IsUnderway networkId ∨ s.IsParked networkId ∧ s.IsAwaited networkId ∨
    ∃ d ∈ s.online, d.networkId = networkId ∧ IsKeyValid d.udid ∧ s.Caches d.udid value

/-- What every step keeps: the maps and the tasks name peers, and no last word is lost. -/
structure PeerWorld.KeepsWords (peers : PeerSet localNetworkId localUdid) (s : PeerWorld) :
    Prop where
  online : ∀ d ∈ s.online, d ∈ peers.devices
  held : ∀ udid d, s.onlineDevMap[udid]? = some d → d ∈ s.online ∧ d.udid = udid
  drains : ∀ d ∈ s.drains, d ∈ s.online
  resolved : ∀ t ∈ s.tasks, ∀ udid, t.phase = .eraseParked udid ∨ t.phase = .handle udid →
    t.networkId = localNetworkId ∧ udid = localUdid ∨
      ∃ d ∈ s.online, d.networkId = t.networkId ∧ d.udid = udid
  told : ∀ d ∈ peers.devices, ∀ x ∈ SWITCH_SERVICE_MAP, s.IsTold (switchKey d.udid x.1)
  kept : ∀ networkId value, networkId ≠ [] → networkId ≠ localNetworkId →
    s.latest networkId = some value → s.Keeps networkId value

variable {peers : PeerSet localNetworkId localUdid} {s : PeerWorld}

/-- There is one latest word for a peer. -/
theorem PeerWorld.IsLatest.eq_of_latest {networkId : Text} {value last : BitVec 32}
    (h : s.IsLatest networkId value) (hlast : s.latest networkId = some last) : last = value := by
  rcases h with hnone | hvalue
  · rw [hnone] at hlast
    cases hlast
  · exact Option.some.inj (hlast.symm.trans hvalue)

/-- An online event. -/
theorem PeerWorld.KeepsWords.goOnline (h : s.KeepsWords peers) {d : TrustedDeviceInfo}
    (hd : d ∈ peers.devices) :
    (peerStep order localNetworkId localUdid s (.online d)).KeepsWords peers := by
  constructor
  case online =>
    intro e he
    rcases List.mem_append.mp he with hold | hnew
    · exact h.online e hold
    · exact List.mem_singleton.mp hnew ▸ hd
  case held =>
    intro udid e he
    have hcases : s.onlineDevMap[udid]? = some e ∨ udid = d.udid ∧ e = d := by
      change (onNodeOnline d s.onlineDevMap)[udid]? = some e at he
      by_cases htaken : IsTaken s.onlineDevMap d
      · rw [onNodeOnline_of_taken htaken] at he
        simp only [ExtTreeMap.getElem?_insert, LawfulEqCmp.compare_eq_iff_eq] at he
        by_cases hsame : d.udid = udid
        · rw [if_pos hsame] at he
          exact .inr ⟨hsame.symm, (Option.some.inj he).symm⟩
        · rw [if_neg hsame] at he
          exact .inl he
      · rw [onNodeOnline_of_not_taken htaken] at he
        exact .inl he
    rcases hcases with hold | ⟨rfl, rfl⟩
    · exact ⟨List.mem_append_left _ (h.held udid e hold).1, (h.held udid e hold).2⟩
    · exact ⟨List.mem_append_right _ List.mem_cons_self, rfl⟩
  case drains =>
    intro e he
    rcases List.mem_append.mp he with hold | hnew
    · exact List.mem_append_left _ (h.drains e hold)
    · exact List.mem_append_right _ hnew
  case resolved =>
    intro t ht udid hphase
    rcases h.resolved t ht udid hphase with hlocal | ⟨e, he, hid⟩
    · exact .inl hlocal
    · exact .inr ⟨e, List.mem_append_left _ he, hid⟩
  case told => exact h.told
  case kept =>
    intro networkId value hne hremote hlatest
    rcases h.kept networkId value hne hremote hlatest with
      hunder | ⟨hparked, hawaited⟩ | ⟨e, he, hid⟩
    · exact .inl hunder
    · refine .inr (.inl ⟨hparked, ?_⟩)
      by_cases hsame : d.networkId = networkId
      · exact .inr ⟨d, List.mem_append_right _ List.mem_cons_self, hsame⟩
      · rcases hawaited with hoffline | ⟨e, he, hid⟩
        · refine .inl fun e he => ?_
          rcases List.mem_append.mp he with hold | hnew
          · exact hoffline e hold
          · exact List.mem_singleton.mp hnew ▸ hsame
        · exact .inr ⟨e, List.mem_append_left _ he, hid⟩
    · exact .inr (.inr ⟨e, List.mem_append_left _ he, hid⟩)

/-- A notification is delivered. -/
theorem PeerWorld.KeepsWords.deliver (h : s.KeepsWords peers) (networkId : Text)
    (value : BitVec 32) :
    (peerStep order localNetworkId localUdid s (.deliver networkId value)).KeepsWords peers := by
  have hlatest : ∀ other, (peerStep order localNetworkId localUdid s
      (.deliver networkId value)).latest other =
        if other = networkId then some value else s.latest other := fun _ => rfl
  refine ⟨h.online, h.held, h.drains, fun t ht udid hphase => ?_, h.told,
    fun other last hne hremote hlast => ?_⟩
  · rcases List.mem_append.mp ht with hold | hnew
    · exact h.resolved t hold udid hphase
    · rw [List.mem_singleton.mp hnew] at hphase
      rcases hphase with hphase | hphase <;> cases hphase
  · rw [hlatest] at hlast
    by_cases hsame : other = networkId
    · rw [if_pos hsame] at hlast
      refine .inl ⟨{ networkId, value }, List.mem_append_right _ List.mem_cons_self, hsame.symm, ?_⟩
      rw [hlatest, if_pos hsame]
    · rw [if_neg hsame] at hlast
      rcases h.kept other last hne hremote hlast with
        ⟨t, ht, hid, hvalue⟩ | ⟨hparked, hawaited⟩ | hcached
      · refine .inl ⟨t, List.mem_append_left _ ht, hid, ?_⟩
        rw [hlatest, if_neg hsame]
        exact hvalue
      · refine .inr (.inl ⟨?_, hawaited⟩)
        rw [PeerWorld.IsParked, hlatest, if_neg hsame]
        exact hparked
      · exact .inr (.inr hcached)

/-- A parked word is looked for. -/
theorem PeerWorld.KeepsWords.drain (h : s.KeepsWords peers) {n : Nat}
    (hsafe : s.IsSafe (.drain n)) :
    (peerStep order localNetworkId localUdid s (.drain n)).KeepsWords peers := by
  cases hd : s.drains[n]? with
  | none =>
    rw [peerStep, hd]
    exact h
  | some d =>
    have hstep : peerStep order localNetworkId localUdid s (.drain n) =
        onDeviceOnline localUdid d { s with drains := s.drains.eraseIdx n } := by
      rw [peerStep, hd]
    have honline : d ∈ s.online := h.drains d (List.mem_of_getElem? hd)
    have hpeer := h.online d honline
    obtain ⟨hudid, -, hid, -⟩ := peers.complete d hpeer
    have hdrains : ∀ e ∈ s.drains.eraseIdx n, e ∈ s.online :=
      fun e he => h.drains e (List.mem_of_mem_eraseIdx he)
    -- the drains of other peers are still to come
    have hawaited : ∀ networkId, networkId ≠ d.networkId → s.IsAwaited networkId →
        (∀ e ∈ s.online, e.networkId ≠ networkId) ∨
          ∃ e ∈ s.drains.eraseIdx n, e.networkId = networkId := by
      intro networkId hother hawaited
      refine hawaited.imp_right fun ⟨e, he, heid⟩ => ⟨e, ?_, heid⟩
      obtain ⟨i, hi⟩ := List.mem_iff_getElem?.mp he
      refine List.mem_eraseIdx_iff_getElem?.mpr ⟨i, ?_, hi⟩
      rintro rfl
      rw [hi] at hd
      exact hother (heid.symm.trans (congrArg TrustedDeviceInfo.networkId (Option.some.inj hd)))
    rw [hstep, onDeviceOnline, if_neg (not_or.mpr ⟨hid, hudid⟩)]
    cases hparked : s.switchCacheMap[d.networkId]? with
    | none =>
      refine ⟨h.online, h.held, hdrains, h.resolved, h.told,
        fun networkId value hne hremote hlast => ?_⟩
      rcases h.kept networkId value hne hremote hlast with hunder | ⟨hpark, hwait⟩ | hcached
      · exact .inl hunder
      · have hother : networkId ≠ d.networkId := by
          rintro rfl
          exact hpark.1 (hpark.2.symm.trans hparked)
        exact .inr (.inl ⟨hpark, hawaited networkId hother hwait⟩)
      · exact .inr (.inr hcached)
    | some value =>
      obtain ⟨htakes, hlost⟩ := hsafe d hd value hparked
      have hspec := handleSwitchUpdateChange_spec localUdid
        (s := { s with drains := s.drains.eraseIdx n }) htakes
      obtain ⟨⟨cache, notified, heq⟩, hcaches, hothers, htold⟩ := hspec
      dsimp only
      rw [heq] at hcaches hothers htold ⊢
      refine ⟨h.online, h.held, hdrains, h.resolved,
        fun e he x hx => htold _ (h.told e he x hx), fun networkId last hne hremote hlast => ?_⟩
      by_cases hsame : networkId = d.networkId
      · subst hsame
        by_cases hlatest : s.IsLatest d.networkId value
        · obtain rfl : last = value := hlatest.eq_of_latest hlast
          exact .inr (.inr ⟨d, honline, rfl, htakes.1, hcaches⟩)
        · exact .inl (hlost hlatest)
      · rcases h.kept networkId last hne hremote hlast with hunder | ⟨hpark, hwait⟩ |
          ⟨e, he, heid, hvalid, hcached⟩
        · exact .inl hunder
        · refine .inr (.inl ⟨⟨hpark.1, ?_⟩, hawaited networkId hsame hwait⟩)
          change (s.switchCacheMap.erase d.networkId)[networkId]? = _
          rw [ExtTreeMap.getElem?_erase, if_neg]
          · exact hpark.2
          · exact fun hcompare => hsame (LawfulEqCmp.compare_eq_iff_eq.mp hcompare).symm
        · refine .inr (.inr ⟨e, he, heid, hvalid, hothers e.udid last hvalid ?_ hcached⟩)
          intro hudids
          have hids := (peers.networkIds e (h.online e he) d hpeer).mpr hudids
          exact hsame (heid.symm.trans hids)

/-- A task that goes on is still under way. -/
theorem PeerWorld.isUnderway_set {n : Nat} {t : SwitchTask} (ht : s.tasks[n]? = some t)
    {networkId : Text} (h : s.IsUnderway networkId) (phase : NoticePhase) :
    ∃ u ∈ s.tasks.set n { t with phase }, u.networkId = networkId ∧
      s.latest networkId = some u.value := by
  obtain ⟨u, hu, hid, hvalue⟩ := h
  obtain ⟨i, hi⟩ := List.mem_iff_getElem?.mp hu
  by_cases hsame : n = i
  · subst hsame
    obtain rfl : t = u := Option.some.inj (ht.symm.trans hi)
    have hn := (List.getElem?_eq_some_iff.mp ht).1
    exact ⟨{ t with phase }, List.mem_set hn _, hid, hvalue⟩
  · refine ⟨u, List.mem_of_getElem? (i := i) ?_, hid, hvalue⟩
    rw [List.getElem?_set_ne hsame]
    exact hi

/-- The task of a last word is under way when another task ends. -/
theorem PeerWorld.isUnderway_eraseIdx {n : Nat} {t : SwitchTask} (ht : s.tasks[n]? = some t)
    {networkId : Text} (h : s.IsUnderway networkId)
    (hother : t.networkId = networkId → s.latest networkId ≠ some t.value) :
    ∃ u ∈ s.tasks.eraseIdx n, u.networkId = networkId ∧ s.latest networkId = some u.value := by
  obtain ⟨u, hu, hid, hvalue⟩ := h
  obtain ⟨i, hi⟩ := List.mem_iff_getElem?.mp hu
  refine ⟨u, List.mem_eraseIdx_iff_getElem?.mpr ⟨i, ?_, hi⟩, hid, hvalue⟩
  rintro rfl
  obtain rfl : t = u := Option.some.inj (ht.symm.trans hi)
  exact hother hid hvalue

/-- The tasks that remain when a task goes on have resolved their network ids. -/
theorem PeerWorld.KeepsWords.resolved_set (h : s.KeepsWords peers) {n : Nat} {t : SwitchTask}
    {phase : NoticePhase}
    (hphase : ∀ udid, phase = .eraseParked udid ∨ phase = .handle udid →
      t.networkId = localNetworkId ∧ udid = localUdid ∨
        ∃ d ∈ s.online, d.networkId = t.networkId ∧ d.udid = udid) :
    ∀ u ∈ s.tasks.set n { t with phase }, ∀ udid,
      u.phase = .eraseParked udid ∨ u.phase = .handle udid →
        u.networkId = localNetworkId ∧ udid = localUdid ∨
          ∃ d ∈ s.online, d.networkId = u.networkId ∧ d.udid = udid := by
  intro u hu udid hu'
  rcases List.mem_or_eq_of_mem_set hu with hold | rfl
  · exact h.resolved u hold udid hu'
  · exact hphase udid hu'

/-- A network id is resolved: the word is parked next where no device holds the network id. -/
theorem PeerWorld.KeepsWords.resolve (h : s.KeepsWords peers) {n : Nat} {t : SwitchTask}
    (ht : s.tasks[n]? = some t) (hphase : t.phase = .resolve) :
    (peerStep order localNetworkId localUdid s (.runTask n)).KeepsWords peers := by
  rw [peerStep, ht]
  dsimp only
  rw [taskStep, hphase]
  -- a task that goes on keeps every last word that was under way
  have hgoes : ∀ phase, (∀ udid, phase = .eraseParked udid ∨ phase = .handle udid →
      t.networkId = localNetworkId ∧ udid = localUdid ∨
        ∃ d ∈ s.online, d.networkId = t.networkId ∧ d.udid = udid) →
      ({ s with tasks := s.tasks.set n { t with phase } } : PeerWorld).KeepsWords peers :=
    fun phase hudid => ⟨h.online, h.held, h.drains, h.resolved_set hudid, h.told,
      fun networkId value hne hremote hlast =>
        (h.kept networkId value hne hremote hlast).imp_left
          fun hunder => PeerWorld.isUnderway_set ht hunder phase⟩
  -- a task ends here only if no peer has its network id
  have hends : (t.networkId = [] ∨ t.networkId = localNetworkId) →
      ({ s with tasks := s.tasks.eraseIdx n } : PeerWorld).KeepsWords peers :=
    fun hid => ⟨h.online, h.held, h.drains,
      fun u hu => h.resolved u (List.mem_of_mem_eraseIdx hu), h.told,
      fun networkId value hne hremote hlast =>
        (h.kept networkId value hne hremote hlast).imp_left fun hunder =>
          PeerWorld.isUnderway_eraseIdx ht hunder fun hsame =>
            hid.elim (fun hnil => absurd (hsame ▸ hnil) hne)
              fun hlocal => absurd (hsame ▸ hlocal) hremote⟩
  dsimp only
  by_cases hnil : t.networkId = []
  · rw [if_pos hnil]
    exact hends (.inl hnil)
  rw [if_neg hnil, getUdidByNetWorkId, if_neg hnil]
  by_cases hlocal : localNetworkId = t.networkId
  · rw [if_pos hlocal]
    dsimp only
    by_cases hudid : localUdid = []
    · rw [if_pos hudid]
      exact hends (.inr hlocal.symm)
    · rw [if_neg hudid]
      refine hgoes _ fun udid hcase => .inl ⟨hlocal.symm, ?_⟩
      rcases hcase with hcase | hcase <;> cases hcase
      rfl
  rw [if_neg hlocal]
  cases hfind : findNetworkId order s.onlineDevMap t.networkId with
  | none =>
    refine hgoes .park fun udid hcase => ?_
    rcases hcase with hcase | hcase <;> cases hcase
  | some x =>
    obtain ⟨hheld, hid⟩ := findNetworkId_eq_some hfind
    obtain ⟨honline, hudid⟩ := h.held _ _ hheld
    have hne : x.1 ≠ [] := hudid ▸ (peers.complete _ (h.online _ honline)).1
    dsimp only
    rw [if_neg hne]
    refine hgoes _ fun udid hcase => .inr ⟨x.2, honline, hid, ?_⟩
    rcases hcase with hcase | hcase <;> cases hcase
    exact hudid

/-- A word is parked. -/
theorem PeerWorld.KeepsWords.park (h : s.KeepsWords peers) {n : Nat} {t : SwitchTask}
    (ht : s.tasks[n]? = some t) (hphase : t.phase = .park) (hsafe : s.IsSafeTask t .park) :
    (peerStep order localNetworkId localUdid s (.runTask n)).KeepsWords peers := by
  rw [peerStep, ht]
  dsimp only
  rw [taskStep, hphase]
  refine ⟨h.online, h.held, h.drains, fun u hu => h.resolved u (List.mem_of_mem_eraseIdx hu),
    h.told, fun networkId last hne hremote hlast => ?_⟩
  have hkept := h.kept networkId last hne hremote hlast
  have hget : ∀ key, key ≠ t.networkId →
      (addSwitchCacheMap t.networkId t.value s.switchCacheMap)[key]? = s.switchCacheMap[key]? := by
    intro key hother
    rw [addSwitchCacheMap]
    split
    · rfl
    · rw [ExtTreeMap.getElem?_insert, if_neg]
      exact fun hcompare => hother (LawfulEqCmp.compare_eq_iff_eq.mp hcompare).symm
  by_cases hsame : networkId = t.networkId
  · subst hsame
    by_cases hlatest : s.IsLatest t.networkId t.value
    · obtain ⟨hroom, hawaited⟩ := hsafe.1 hlatest
      obtain rfl : last = t.value := hlatest.eq_of_latest hlast
      refine .inr (.inl ⟨⟨fun hnone => ?_, ?_⟩, hawaited⟩)
      · rw [hnone] at hlast
        cases hlast
      · change (addSwitchCacheMap t.networkId t.value s.switchCacheMap)[t.networkId]? = s.latest _
        rw [addSwitchCacheMap, if_neg (Nat.not_lt.mpr hroom), ExtTreeMap.getElem?_insert_self,
          hlast]
    · have hother : s.latest t.networkId ≠ some t.value := fun hvalue => hlatest (.inr hvalue)
      rcases hkept with hunder | ⟨hparked, -⟩ | hcached
      · exact .inl (PeerWorld.isUnderway_eraseIdx ht hunder fun _ => hother)
      · exact .inl (PeerWorld.isUnderway_eraseIdx ht (hsafe.2 hlatest hparked) fun _ => hother)
      · exact .inr (.inr hcached)
  · rcases hkept with hunder | ⟨hparked, hawaited⟩ | hcached
    · exact .inl (PeerWorld.isUnderway_eraseIdx ht hunder fun hid => absurd hid.symm hsame)
    · refine .inr (.inl ⟨⟨hparked.1, ?_⟩, hawaited⟩)
      change (addSwitchCacheMap t.networkId t.value s.switchCacheMap)[networkId]? = _
      rw [hget networkId hsame]
      exact hparked.2
    · exact .inr (.inr hcached)

/-- A parked word gives way to the word of a resolved task. -/
theorem PeerWorld.KeepsWords.eraseParked (h : s.KeepsWords peers) {n : Nat} {t : SwitchTask}
    {udid : Text} (ht : s.tasks[n]? = some t) (hphase : t.phase = .eraseParked udid)
    (hsafe : s.IsSafeTask t (.eraseParked udid)) :
    (peerStep order localNetworkId localUdid s (.runTask n)).KeepsWords peers := by
  rw [peerStep, ht]
  dsimp only
  rw [taskStep, hphase]
  have hmem := List.mem_of_getElem? ht
  refine ⟨h.online, h.held, h.drains, h.resolved_set (fun udid' hcase => ?_), h.told,
    fun networkId last hne hremote hlast => ?_⟩
  · rcases hcase with hcase | hcase <;> cases hcase
    exact h.resolved t hmem udid (.inl hphase)
  have hset : s.IsUnderway networkId → _ :=
    fun hunder => PeerWorld.isUnderway_set ht hunder (.handle udid)
  by_cases hsame : networkId = t.networkId
  · subst hsame
    by_cases hlatest : s.IsLatest t.networkId t.value
    · obtain rfl : last = t.value := hlatest.eq_of_latest hlast
      exact .inl (hset ⟨t, hmem, rfl, hlast⟩)
    · rcases h.kept t.networkId last hne hremote hlast with hunder | ⟨hparked, -⟩ | hcached
      · exact .inl (hset hunder)
      · exact .inl (hset (hsafe hlatest hparked))
      · exact .inr (.inr hcached)
  · rcases h.kept networkId last hne hremote hlast with hunder | ⟨hparked, hawaited⟩ | hcached
    · exact .inl (hset hunder)
    · refine .inr (.inl ⟨⟨hparked.1, ?_⟩, hawaited⟩)
      change (s.switchCacheMap.erase t.networkId)[networkId]? = _
      rw [ExtTreeMap.getElem?_erase, if_neg]
      · exact hparked.2
      · exact fun hcompare => hsame (LawfulEqCmp.compare_eq_iff_eq.mp hcompare).symm
    · exact .inr (.inr hcached)

/-- The word of a resolved task is handled. -/
theorem PeerWorld.KeepsWords.handle (h : s.KeepsWords peers) {n : Nat} {t : SwitchTask}
    {udid : Text} (ht : s.tasks[n]? = some t) (hphase : t.phase = .handle udid)
    (hsafe : s.IsSafeTask t (.handle udid)) :
    (peerStep order localNetworkId localUdid s (.runTask n)).KeepsWords peers := by
  rw [peerStep, ht]
  dsimp only
  rw [taskStep, hphase]
  obtain ⟨htakes, hstale⟩ := hsafe
  obtain ⟨⟨cache, notified, heq⟩, hcaches, hothers, htold⟩ :=
    handleSwitchUpdateChange_spec localUdid htakes
  have hdevice := h.resolved t (List.mem_of_getElem? ht) udid (.inr hphase)
  dsimp only
  rw [heq] at hcaches hothers htold ⊢
  refine ⟨h.online, h.held, h.drains, fun u hu => h.resolved u (List.mem_of_mem_eraseIdx hu),
    fun e he x hx => htold _ (h.told e he x hx), fun networkId last hne hremote hlast => ?_⟩
  have hkept := h.kept networkId last hne hremote hlast
  by_cases hsame : networkId = t.networkId
  · subst hsame
    by_cases hlatest : s.IsLatest t.networkId t.value
    · obtain rfl : last = t.value := hlatest.eq_of_latest hlast
      rcases hdevice with ⟨hlocal, -⟩ | ⟨d, hd, hid, rfl⟩
      · exact absurd hlocal hremote
      · exact .inr (.inr ⟨d, hd, hid, htakes.1, hcaches⟩)
    · have hother : s.latest t.networkId ≠ some t.value := fun hvalue => hlatest (.inr hvalue)
      rcases hstale hlatest with hunder | hparked
      · exact .inl (PeerWorld.isUnderway_eraseIdx ht hunder fun _ => hother)
      · exact .inr (.inl hparked)
  · rcases hkept with hunder | hparked | ⟨e, he, hid, hvalid, hcached⟩
    · exact .inl (PeerWorld.isUnderway_eraseIdx ht hunder fun hid => absurd hid.symm hsame)
    · exact .inr (.inl hparked)
    · refine .inr (.inr ⟨e, he, hid, hvalid, hothers e.udid last hvalid ?_ hcached⟩)
      rintro rfl
      rcases hdevice with ⟨-, hlocal⟩ | ⟨d, hd, hdid, hudid⟩
      · exact (peers.isRemote e (h.online e he)).2 hlocal
      · have hids := (peers.networkIds d (h.online d hd) e (h.online e he)).mpr hudid
        exact hsame (hid.symm.trans (hids.symm.trans hdid))

/-- Every step that is safe keeps the last words. -/
theorem keepsWords_peerStep {event : PeerEvent}
    (hpeers : ∀ d, event = .online d → d ∈ peers.devices) (h : s.KeepsWords peers)
    (hsafe : s.IsSafe event) :
    (peerStep order localNetworkId localUdid s event).KeepsWords peers := by
  cases event with
  | online d => exact h.goOnline (hpeers d rfl)
  | drain n => exact h.drain hsafe
  | deliver networkId value => exact h.deliver networkId value
  | runTask n =>
    cases ht : s.tasks[n]? with
    | none =>
      rw [peerStep, ht]
      exact h
    | some t =>
      have htask := hsafe t ht
      cases hphase : t.phase with
      | resolve => exact h.resolve ht hphase
      | park => exact h.park ht hphase (hphase ▸ htask)
      | eraseParked udid => exact h.eraseParked ht hphase (hphase ▸ htask)
      | handle udid => exact h.handle ht hphase (hphase ▸ htask)

/-! ## Runs -/

theorem PeerWorld.IsStart.keepsWords (h : s.IsStart peers) : s.KeepsWords peers := by
  obtain ⟨hmap, honline, hdrains⟩ := h.offline
  obtain ⟨htasks, hlatest⟩ := h.undelivered
  refine ⟨?_, fun udid d hd => ?_, ?_, ?_, h.told, fun networkId value _ _ hlast => ?_⟩
  · rw [honline]
    exact nofun
  · rw [hmap, ExtTreeMap.getElem?_empty] at hd
    cases hd
  · rw [hdrains]
    exact nofun
  · rw [htasks]
    exact nofun
  · rw [hlatest] at hlast
    cases hlast

/-- When nothing is left to do, no last word is lost. -/
theorem PeerWorld.KeepsWords.showsLatest (h : s.KeepsWords peers) (htasks : s.tasks = [])
    (hdrains : s.drains = []) : s.ShowsLatest := by
  intro d hd value hlast
  have hpeer := h.online d hd
  obtain ⟨-, -, hne, -⟩ := peers.complete d hpeer
  obtain ⟨e, he, hid, -, hcaches⟩ :
      ∃ e ∈ s.online, e.networkId = d.networkId ∧ IsKeyValid e.udid ∧ s.Caches e.udid value := by
    rcases h.kept d.networkId value hne (peers.isRemote d hpeer).1 hlast with
      ⟨t, ht, -⟩ | ⟨-, hoffline | ⟨e, he, -⟩⟩ | hcached
    · rw [htasks] at ht
      cases ht
    · exact absurd rfl (hoffline d hd)
    · rw [hdrains] at he
      cases he
    · exact hcached
  have hudid : e.udid = d.udid := (peers.networkIds e (h.online e he) d hpeer).mp hid
  rw [hudid] at hcaches
  exact ⟨hcaches, fun x hx => h.told d hpeer x hx _ (hcaches x hx)⟩

/-- In a run whose steps lose no last word, whenever nothing is left to do each peer that came
online shows the bits of the last word that was delivered for it. -/
theorem online_peers_show_latest (order : Iteration)
    (peers : PeerSet localNetworkId localUdid) {s : PeerWorld} (hstart : s.IsStart peers)
    {events : List PeerEvent} (hpeers : ∀ d, .online d ∈ events → d ∈ peers.devices)
    (hsafe : Admits (peerStep order localNetworkId localUdid) PeerWorld.IsSafe s events) {n : Nat}
    (htasks : ((events.take n).foldl (peerStep order localNetworkId localUdid) s).tasks = [])
    (hdrains : ((events.take n).foldl (peerStep order localNetworkId localUdid) s).drains = []) :
    ((events.take n).foldl (peerStep order localNetworkId localUdid) s).ShowsLatest := by
  have hrun :
      ((events.take n).foldl (peerStep order localNetworkId localUdid) s).KeepsWords peers :=
    hsafe.invariant (Q := fun event => ∀ d, event = .online d → d ∈ peers.devices)
      (fun event hevent d hd => hpeers d (hd ▸ hevent))
      (fun _ _ h hQ hc => keepsWords_peerStep hQ h hc) hstart.keepsWords n
  exact hrun.showsLatest htasks hdrains

/-- One peer. -/
def onePeer : PeerSet ("local" : Text) ("udid" : Text) where
  devices := {peer 0}
  complete := fun d hd => by
    rw [Set.mem_singleton_iff.mp hd]
    decide
  isRemote := fun d hd => by
    rw [Set.mem_singleton_iff.mp hd]
    decide
  networkIds := fun d hd e he => by
    rw [Set.mem_singleton_iff.mp hd, Set.mem_singleton_iff.mp he]
    exact iff_of_true rfl rfl

/-- The word of a peer is parked before the peer comes online. -/
def parkedInTime : List PeerEvent :=
  [.deliver (peer 0).networkId 1, .runTask 0, .runTask 0, .online (peer 0), .drain 0]

/-- The word of a peer is parked after the peer has come online. -/
def parkedTooLate : List PeerEvent :=
  [.deliver (peer 0).networkId 1, .runTask 0, .online (peer 0), .drain 0, .runTask 0]

theorem isStart_onePeer : ({} : PeerWorld).IsStart onePeer where
  offline := ⟨rfl, rfl, rfl⟩
  undelivered := ⟨rfl, fun _ => rfl⟩
  told := fun d _ x _ p hp => by
    rw [ExtTreeMap.getElem?_empty] at hp
    cases hp

/-- A task that waits for its peer shows the latest word as well. -/
theorem online_peers_show_latest_parked :
    ((parkedInTime.take 5).foldl (peerStep keyOrder ("local" : Text) ("udid" : Text))
      {}).ShowsLatest :=
  online_peers_show_latest keyOrder onePeer isStart_onePeer
    (fun d hd => by
      simp only [parkedInTime, List.mem_cons, List.not_mem_nil, reduceCtorEq, or_false, false_or,
        PeerEvent.online.injEq] at hd
      exact hd)
    (by decide +kernel) (by decide +kernel) (by decide +kernel)

/-- Everything has run, and the peer does not show its only word. -/
theorem not_showsLatest_of_parked_late :
    (parkedTooLate.foldl (peerStep keyOrder ("local" : Text) ("udid" : Text)) {}).tasks = [] ∧
      (parkedTooLate.foldl (peerStep keyOrder ("local" : Text) ("udid" : Text)) {}).drains = [] ∧
        ¬(parkedTooLate.foldl (peerStep keyOrder ("local" : Text) ("udid" : Text))
          {}).ShowsLatest := by
  refine ⟨by decide +kernel, by decide +kernel, fun h => ?_⟩
  have hcaches := (h (peer 0) (by decide +kernel) 1 (by decide +kernel)).1
    (("SwitchStatus_Key_Mouse_Edge_Crossing" : Text), .keyMouseEdgeCrossing) (by decide)
  exact absurd hcaches (by decide +kernel)

end DeviceProfile
