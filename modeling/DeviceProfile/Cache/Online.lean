import DeviceProfile.Library.Run
import DeviceProfile.Library.Decimal
import DeviceProfile.Library.OrderedMap
import DeviceProfile.Trust.Data

/-!
# Devices that are online

The cache of online devices is filled and emptied by the events of the device manager.
An offline event names a network id only, so the cache is searched for it. The order in
which the map is searched is not specified, so it is a parameter here.
-/

namespace DeviceProfile

open Library Std

/-- The most devices that are remembered as online. -/
def MAX_TRUSTED_DEVICE_SIZE : Nat := 1000

/-- The bind type of a device that is only known to be online. -/
def BINDTYPE_INIT : Int := -1

/-- The system number of a device that speaks this protocol. -/
def OHOS_TYPE : Int := 10

/-- What is known about a device that is online. -/
structure TrustedDeviceInfo where
  networkId : Text := []
  authForm : Int := BINDTYPE_INIT
  deviceTypeId : Int := 0
  osVersion : Text := []
  osType : Int := 0
  udid : Text := []
  uuid : Text := []
  deriving DecidableEq, Repr

/-- The online devices under their udids. -/
abbrev OnlineDevMap := ExtTreeMap Text TrustedDeviceInfo

/-- An order in which the entries of the map are visited. -/
structure Iteration where
  list : OnlineDevMap → List (Text × TrustedDeviceInfo)
  perm : ∀ m, (list m).Perm m.toList

/-- The error codes of the lookup. -/
inductive LookupError where
  | invalidParams
  | getUdidByNetworkIdFail
  deriving DecidableEq, Repr

/-- The information is complete. -/
def IsComplete (trustedDevice : TrustedDeviceInfo) : Prop :=
  trustedDevice.udid ≠ [] ∧ trustedDevice.uuid ≠ [] ∧ trustedDevice.networkId ≠ [] ∧
    trustedDevice.authForm ≠ BINDTYPE_INIT ∧ trustedDevice.osType ≠ 0

instance (trustedDevice : TrustedDeviceInfo) : Decidable (IsComplete trustedDevice) :=
  inferInstanceAs (Decidable (_ ∧ _))

/-- A full map takes no device, not even one that it holds already. -/
def onNodeOnline (trustedDevice : TrustedDeviceInfo) (onlineDevMap : OnlineDevMap) :
    OnlineDevMap :=
  if ¬IsComplete trustedDevice then onlineDevMap
  else if MAX_TRUSTED_DEVICE_SIZE ≤ onlineDevMap.size then onlineDevMap
  else onlineDevMap.insert trustedDevice.udid trustedDevice

section Search

variable (order : Iteration)

/-- The first device of the map with the network id. -/
def findNetworkId (onlineDevMap : OnlineDevMap) (networkId : Text) :
    Option (Text × TrustedDeviceInfo) :=
  (order.list onlineDevMap).find? fun x => x.2.networkId = networkId

/-- A device that goes offline is found by its network id and forgotten. -/
def onNodeOffline (peerNetworkId : Text) (onlineDevMap : OnlineDevMap) : OnlineDevMap :=
  match findNetworkId order onlineDevMap peerNetworkId with
  | some x => onlineDevMap.erase x.1
  | none => onlineDevMap

/-- The udid that is passed in is kept where nothing is found. -/
def getUdidByNetWorkId (localNetworkId localUdid : Text) (onlineDevMap : OnlineDevMap)
    (networkId udid : Text) : Except LookupError Text :=
  if networkId = [] then .error .invalidParams
  else if localNetworkId = networkId then .ok localUdid
  else
    match findNetworkId order onlineDevMap networkId with
    | some x => .ok x.1
    | none => if udid = [] then .error .getUdidByNetworkIdFail else .ok udid

end Search

/-! ## What the events say -/

/-- The events of the device manager. -/
inductive NodeEvent where
  | online (trustedDevice : TrustedDeviceInfo)
  | offline (networkId : Text)
  deriving DecidableEq, Repr

/-- The network id under which a device went online, if that was its last event. -/
abbrev Latest := Text → Option Text

/-- An offline event is the last event of the devices that are online under its network id. -/
def Latest.after (latest : Latest) : NodeEvent → Latest
  | .online trustedDevice => fun udid =>
      if udid = trustedDevice.udid then some trustedDevice.networkId else latest udid
  | .offline networkId => fun udid =>
      if latest udid = some networkId then none else latest udid

/-- The cache beside what the events say. -/
structure OnlineState where
  onlineDevMap : OnlineDevMap := ∅
  latest : Latest := fun _ => none

variable {order : Iteration} {localNetworkId localUdid : Text}

/-- One event, for the cache and for what is expected of it. -/
def OnlineState.step (order : Iteration) (s : OnlineState) (event : NodeEvent) : OnlineState where
  onlineDevMap :=
    match event with
    | .online trustedDevice => onNodeOnline trustedDevice s.onlineDevMap
    | .offline networkId => onNodeOffline order networkId s.onlineDevMap
  latest := s.latest.after event

/-- The network id that the map holds for a device. -/
def heldNetworkId (onlineDevMap : OnlineDevMap) (udid : Text) : Option Text :=
  onlineDevMap[udid]?.map TrustedDeviceInfo.networkId

/-- The lookup of the network id finds the device, whatever is passed in. -/
def Resolves (order : Iteration) (localNetworkId localUdid : Text) (onlineDevMap : OnlineDevMap)
    (networkId udid : Text) : Prop :=
  ∀ out, getUdidByNetWorkId order localNetworkId localUdid onlineDevMap networkId out = .ok udid

/-- The map holds exactly the devices whose last event is an online, under the network id of
that event, and their network ids lead back to them. -/
structure TracksLatest (order : Iteration) (localNetworkId localUdid : Text) (s : OnlineState) :
    Prop where
  held : ∀ udid, heldNetworkId s.onlineDevMap udid = s.latest udid
  resolves : ∀ udid networkId, s.latest udid = some networkId →
    Resolves order localNetworkId localUdid s.onlineDevMap networkId udid

/-! ## Searching the map -/

/-- What is found has the network id and is held. -/
theorem findNetworkId_eq_some {m : OnlineDevMap} {networkId : Text} {x : Text × TrustedDeviceInfo}
    (h : findNetworkId order m networkId = some x) :
    m[x.1]? = some x.2 ∧ x.2.networkId = networkId := by
  have hmem : x ∈ m.toList := (order.perm m).mem_iff.mp (List.mem_of_find?_eq_some h)
  have hid := List.find?_some h
  exact ⟨ExtTreeMap.mem_toList_iff_getElem?_eq_some.mp hmem, of_decide_eq_true hid⟩

/-- A network id that is held by one device leads to it. -/
theorem findNetworkId_of_unique {m : OnlineDevMap} {networkId udid : Text}
    (hheld : heldNetworkId m udid = some networkId)
    (hunique : ∀ other, heldNetworkId m other = some networkId → other = udid) :
    ∃ d, findNetworkId order m networkId = some (udid, d) := by
  obtain ⟨d, hget, hid⟩ := Option.map_eq_some_iff.mp hheld
  have hmem : (udid, d) ∈ order.list m :=
    (order.perm m).mem_iff.mpr (ExtTreeMap.mem_toList_iff_getElem?_eq_some.mpr hget)
  cases hfind : findNetworkId order m networkId with
  | none =>
    have hnone := List.find?_eq_none.mp hfind _ hmem
    exact absurd (decide_eq_true hid) hnone
  | some x =>
    obtain ⟨hx, hxid⟩ := findNetworkId_eq_some hfind
    have hsame : x.1 = udid := hunique x.1 (by rw [heldNetworkId, hx, Option.map_some, hxid])
    exact ⟨x.2, by rw [← hsame]⟩

/-- A network id resolves only if it is not empty, and the local one only to this device. -/
theorem Resolves.isLocal {m : OnlineDevMap} {networkId udid : Text}
    (h : Resolves order localNetworkId localUdid m networkId udid) :
    networkId ≠ [] ∧ (localNetworkId = networkId → localUdid = udid) := by
  have hget := h []
  unfold getUdidByNetWorkId at hget
  split at hget
  · cases hget
  · rename_i hne
    refine ⟨hne, fun hlocal => ?_⟩
    rw [if_pos hlocal] at hget
    exact Except.ok.inj hget

/-- A network id that one device holds resolves to the device. -/
theorem resolves_of_unique {m : OnlineDevMap} {networkId udid : Text}
    (hheld : heldNetworkId m udid = some networkId)
    (hunique : ∀ other, heldNetworkId m other = some networkId → other = udid)
    (hne : networkId ≠ []) (hlocal : localNetworkId = networkId → localUdid = udid) :
    Resolves order localNetworkId localUdid m networkId udid := by
  intro out
  obtain ⟨d, hfind⟩ : ∃ d, findNetworkId order m networkId = some (udid, d) :=
    findNetworkId_of_unique hheld hunique
  rw [getUdidByNetWorkId, if_neg hne]
  split
  · rename_i h
    rw [hlocal h]
  · rw [hfind]

/-! ## One event -/

/-- A device that comes is known by its own network id, the others by theirs. -/
theorem heldNetworkId_insert (m : OnlineDevMap) (d : TrustedDeviceInfo) (udid : Text) :
    heldNetworkId (m.insert d.udid d) udid =
      if udid = d.udid then some d.networkId else heldNetworkId m udid := by
  simp only [heldNetworkId, ExtTreeMap.getElem?_insert, LawfulEqCmp.compare_eq_iff_eq,
    eq_comm (a := d.udid)]
  split <;> rfl

/-- A device that goes has no network id, the others keep theirs. -/
theorem heldNetworkId_erase (m : OnlineDevMap) (erased udid : Text) :
    heldNetworkId (m.erase erased) udid =
      if udid = erased then none else heldNetworkId m udid := by
  simp only [heldNetworkId, ExtTreeMap.getElem?_erase, LawfulEqCmp.compare_eq_iff_eq,
    eq_comm (a := erased)]
  split <;> rfl

/-- The device is stored: its information is complete and the map is not full. -/
def IsTaken (onlineDevMap : OnlineDevMap) (d : TrustedDeviceInfo) : Prop :=
  IsComplete d ∧ onlineDevMap.size < MAX_TRUSTED_DEVICE_SIZE

/-- A notice of a device that is taken writes the device over its entry. -/
theorem onNodeOnline_of_taken {m : OnlineDevMap} {d : TrustedDeviceInfo} (h : IsTaken m d) :
    onNodeOnline d m = m.insert d.udid d := by
  rw [onNodeOnline, if_neg (not_not.mpr h.1), if_neg (Nat.not_le.mpr h.2)]

/-- Every other notice leaves the map. -/
theorem onNodeOnline_of_not_taken {m : OnlineDevMap} {d : TrustedDeviceInfo} (h : ¬IsTaken m d) :
    onNodeOnline d m = m := by
  unfold onNodeOnline
  split
  · rfl
  · rename_i hcomplete
    rw [if_pos]
    by_contra hfull
    exact h ⟨not_not.mp hcomplete, Nat.not_le.mp hfull⟩

/-- Devices that the events expect under one network id are the same device. -/
theorem TracksLatest.unique {s : OnlineState}
    (h : TracksLatest order localNetworkId localUdid s) {networkId udid other : Text}
    (hudid : s.latest udid = some networkId) (hother : s.latest other = some networkId) :
    other = udid := by
  have hresolves := (h.resolves udid networkId hudid []).symm.trans
    (h.resolves other networkId hother [])
  exact (Except.ok.inj hresolves).symm

/-- An online event is kept up with: the map takes the device or holds it under this network id
already, no other device holds the network id, and the network id can be looked up. -/
structure Admissible (localNetworkId localUdid : Text) (onlineDevMap : OnlineDevMap)
    (d : TrustedDeviceInfo) : Prop where
  taken : IsTaken onlineDevMap d ∨ heldNetworkId onlineDevMap d.udid = some d.networkId
  unshared : ∀ udid, heldNetworkId onlineDevMap udid = some d.networkId → udid = d.udid
  ne_nil : d.networkId ≠ []
  local_eq : localNetworkId = d.networkId → localUdid = d.udid

/-- The events that the cache keeps up with. -/
def EventAdmissible (localNetworkId localUdid : Text) (s : OnlineState) : NodeEvent → Prop
  | .online d => Admissible localNetworkId localUdid s.onlineDevMap d
  | .offline _ => True

/-- After an online event the map is as expected exactly when it could keep up. -/
theorem tracksLatest_online_iff {s : OnlineState}
    (h : TracksLatest order localNetworkId localUdid s) (d : TrustedDeviceInfo) :
    TracksLatest order localNetworkId localUdid (s.step order (.online d)) ↔
      Admissible localNetworkId localUdid s.onlineDevMap d := by
  have hlatest : ∀ udid, (s.step order (.online d)).latest udid =
      if udid = d.udid then some d.networkId else s.latest udid := fun udid => rfl
  constructor
  · intro hnext
    have hself : (s.step order (.online d)).latest d.udid = some d.networkId := by
      rw [hlatest, if_pos rfl]
    obtain ⟨hne, hlocal⟩ := (hnext.resolves _ _ hself).isLocal
    refine ⟨?_, fun udid hudid => ?_, hne, hlocal⟩
    · by_cases htaken : IsTaken s.onlineDevMap d
      · exact .inl htaken
      · have hheld := hnext.held d.udid
        rw [hself] at hheld
        change heldNetworkId (onNodeOnline d s.onlineDevMap) d.udid = _ at hheld
        rw [onNodeOnline_of_not_taken htaken] at hheld
        exact .inr hheld
    · by_contra hother
      refine hother (hnext.unique hself ?_)
      rw [hlatest, if_neg hother, ← h.held udid]
      exact hudid
  · intro hadm
    have hheld : ∀ udid, heldNetworkId (s.step order (.online d)).onlineDevMap udid =
        (s.step order (.online d)).latest udid := by
      intro udid
      change heldNetworkId (onNodeOnline d s.onlineDevMap) udid = _
      rw [hlatest]
      by_cases htaken : IsTaken s.onlineDevMap d
      · rw [onNodeOnline_of_taken htaken, heldNetworkId_insert, h.held]
      · rw [onNodeOnline_of_not_taken htaken]
        split
        · rename_i heq
          rw [heq]
          exact hadm.taken.resolve_left htaken
        · exact h.held udid
    refine ⟨hheld, fun udid networkId hudid => ?_⟩
    refine resolves_of_unique ((hheld udid).trans hudid) (fun other hother => ?_) ?_ ?_
    · rw [hheld, hlatest] at hother
      rw [hlatest] at hudid
      split at hudid <;> split at hother
      · rename_i heq heq'
        rw [heq, heq']
      · rename_i heq _
        rw [← Option.some.inj hudid, ← h.held] at hother
        rw [heq]
        exact hadm.unshared other hother
      · rename_i hne heq
        rw [← Option.some.inj hother, ← h.held] at hudid
        exact absurd (hadm.unshared udid hudid) hne
      · exact h.unique hudid hother
    · rw [hlatest] at hudid
      split at hudid
      · rw [← Option.some.inj hudid]
        exact hadm.ne_nil
      · exact (h.resolves udid networkId hudid).isLocal.1
    · rw [hlatest] at hudid
      split at hudid
      · rename_i heq
        rw [← Option.some.inj hudid, heq]
        exact hadm.local_eq
      · exact (h.resolves udid networkId hudid).isLocal.2

/-- After an offline event the map is as expected. -/
theorem tracksLatest_offline {s : OnlineState}
    (h : TracksLatest order localNetworkId localUdid s) (networkId : Text) :
    TracksLatest order localNetworkId localUdid (s.step order (.offline networkId)) := by
  have hlatest : ∀ udid, (s.step order (.offline networkId)).latest udid =
      if s.latest udid = some networkId then none else s.latest udid := fun udid => rfl
  have hheld : ∀ udid, heldNetworkId (s.step order (.offline networkId)).onlineDevMap udid =
      (s.step order (.offline networkId)).latest udid := by
    intro udid
    change heldNetworkId (onNodeOffline order networkId s.onlineDevMap) udid = _
    rw [hlatest, onNodeOffline]
    cases hfind : findNetworkId order s.onlineDevMap networkId with
    | none =>
      have hnone : s.latest udid ≠ some networkId := by
        intro hudid
        obtain ⟨d, hd⟩ : ∃ d, findNetworkId order s.onlineDevMap networkId = some (udid, d) :=
          findNetworkId_of_unique ((h.held udid).trans hudid)
            fun other hother => h.unique hudid ((h.held other).symm.trans hother)
        rw [hfind] at hd
        cases hd
      rw [if_neg hnone]
      exact h.held udid
    | some x =>
      obtain ⟨hx, hxid⟩ := findNetworkId_eq_some hfind
      have hfound : s.latest x.1 = some networkId := by
        rw [← h.held, heldNetworkId, hx, Option.map_some, hxid]
      change heldNetworkId (s.onlineDevMap.erase x.1) udid = _
      rw [heldNetworkId_erase, h.held]
      by_cases hsame : udid = x.1
      · rw [if_pos hsame, hsame, if_pos hfound]
      · rw [if_neg hsame, if_neg fun hudid => hsame (h.unique hfound hudid)]
  refine ⟨hheld, fun udid id hudid => ?_⟩
  have hbefore : ∀ other, (s.step order (.offline networkId)).latest other = some id →
      s.latest other = some id := by
    intro other hother
    rw [hlatest] at hother
    split at hother
    · cases hother
    · exact hother
  obtain ⟨hne, hlocal⟩ := (h.resolves udid id (hbefore udid hudid)).isLocal
  refine resolves_of_unique ((hheld udid).trans hudid) (fun other hother => ?_) hne hlocal
  exact h.unique (hbefore udid hudid) (hbefore other ((hheld other).symm.trans hother))

/-! ## Runs -/

/-- Before any event nothing is expected. -/
theorem tracksLatest_start : TracksLatest order localNetworkId localUdid {} := by
  refine ⟨fun udid => ?_, fun udid networkId h => by cases h⟩
  rw [heldNetworkId, ExtTreeMap.getElem?_empty]
  rfl

/-- The map is as expected in every state of a run exactly when each event of the run is one that
the cache keeps up with. -/
theorem online_map_tracks_latest_iff (order : Iteration) (localNetworkId localUdid : Text)
    (events : List NodeEvent) :
    Admits (OnlineState.step order) (EventAdmissible localNetworkId localUdid) {} events ↔
      ∀ n, TracksLatest order localNetworkId localUdid
        ((events.take n).foldl (OnlineState.step order) {}) := by
  refine admits_iff (I := fun _ => True) (fun _ _ _ => trivial) (fun s event _ h => ?_) trivial
    tracksLatest_start
  cases event with
  | online d => exact tracksLatest_online_iff h d
  | offline networkId => exact iff_of_true (tracksLatest_offline h networkId) trivial

/-- A map is searched in the order of its keys. -/
def keyOrder : Iteration := ⟨ExtTreeMap.toList, fun m => .refl m.toList⟩

/-- One of many peers. -/
def peer (i : Nat) : TrustedDeviceInfo :=
  { networkId := 'n' :: numeral i, authForm := 0, osType := 10, udid := 'p' :: numeral i
    uuid := 'u' :: numeral i }

/-- The first peers go online. -/
def peersOnline (k : Nat) : List NodeEvent := (List.range k).map fun i => .online (peer i)

/-- As long as they fit, the map holds the peers that went online. -/
theorem onlineDevMap_peersOnline {k : Nat} (hk : k ≤ MAX_TRUSTED_DEVICE_SIZE) :
    ((peersOnline k).foldl (OnlineState.step keyOrder) {}).onlineDevMap.size = k ∧
      ∀ i, heldNetworkId ((peersOnline k).foldl (OnlineState.step keyOrder) {}).onlineDevMap
        (peer i).udid = if i < k then some (peer i).networkId else none := by
  induction k with
  | zero => exact ⟨rfl, fun i => rfl⟩
  | succ k ih =>
    obtain ⟨hsize, hheld⟩ := ih (Nat.le_of_succ_le hk)
    rw [peersOnline, List.range_succ, List.map_append, ← peersOnline, List.foldl_append]
    generalize (peersOnline k).foldl (OnlineState.step keyOrder) {} = s at hsize hheld ⊢
    have hstep : ((List.map (fun i => NodeEvent.online (peer i)) [k]).foldl
        (OnlineState.step keyOrder) s).onlineDevMap =
          s.onlineDevMap.insert (peer k).udid (peer k) := by
      have hcomplete : IsComplete (peer k) :=
        ⟨List.cons_ne_nil _ _, List.cons_ne_nil _ _, List.cons_ne_nil _ _,
          (by decide : (0 : Int) ≠ BINDTYPE_INIT), (by decide : (10 : Int) ≠ 0)⟩
      exact onNodeOnline_of_taken ⟨hcomplete, hsize.symm ▸ hk⟩
    have hudid : ∀ i, (peer i).udid = (peer k).udid ↔ i = k := by
      refine fun i => ⟨fun h => ?_, fun h => h ▸ rfl⟩
      exact Int.ofNat_inj.mp (numeral_injective (List.cons.inj h).2)
    have hnew : s.onlineDevMap.contains (peer k).udid = false := by
      have hnone := hheld k
      rw [if_neg (Nat.lt_irrefl k), heldNetworkId, Option.map_eq_none_iff] at hnone
      rw [ExtTreeMap.contains_eq_isSome_getElem?, hnone, Option.isSome_none]
    rw [hstep]
    refine ⟨?_, fun i => ?_⟩
    · rw [ExtTreeMap.size_insert, hnew, hsize]
      rfl
    · rw [heldNetworkId_insert, hheld]
      by_cases hi : i = k
      · rw [if_pos ((hudid i).mpr hi), if_pos (hi ▸ Nat.lt_succ_self k), hi]
      · rw [if_neg (mt (hudid i).mp hi)]
        exact if_congr (by omega) rfl rfl

/-- As many peers as the map takes are online, and the first of them comes online again under a
new network id: the map keeps the old one. -/
theorem not_tracksLatest_of_full :
    ¬TracksLatest keyOrder ("local" : Text) ("udid" : Text)
      ((peersOnline MAX_TRUSTED_DEVICE_SIZE ++
        [NodeEvent.online { peer 0 with networkId := ("again" : Text) }]).foldl
          (OnlineState.step keyOrder) {}) := by
  intro h
  obtain ⟨hsize, hheld⟩ := onlineDevMap_peersOnline (Nat.le_refl MAX_TRUSTED_DEVICE_SIZE)
  rw [List.foldl_append] at h
  generalize (peersOnline MAX_TRUSTED_DEVICE_SIZE).foldl (OnlineState.step keyOrder) {} = s
    at hsize hheld h
  have hfull : ¬IsTaken s.onlineDevMap { peer 0 with networkId := ("again" : Text) } :=
    fun htaken => absurd htaken.2 (by rw [hsize]; exact Nat.lt_irrefl _)
  have hkept := h.held (peer 0).udid
  change heldNetworkId (onNodeOnline _ s.onlineDevMap) _ = some ("again" : Text) at hkept
  rw [onNodeOnline_of_not_taken hfull, hheld 0, if_pos (by decide)] at hkept
  exact absurd hkept (by decide)

end DeviceProfile
