import DeviceProfile.Library.KeyedSet
import DeviceProfile.Library.OrderedMap
import DeviceProfile.Library.Run
import DeviceProfile.Subscribe.Data

/-!
# The subscription table

The service keeps a set of subscriptions for each subscribe key. Two subscriptions are the same
when their keys and the ids of their system abilities are. The table is what the calls that were
accepted have left in it.
-/

namespace DeviceProfile

open Library Std

/-- The size above which no more subscriptions are kept. -/
def MAX_LISTENER_SIZE : Nat := 100

/-! ## The calls -/

/-- What tells subscriptions apart. -/
def SubscribeInfo.setKey (info : SubscribeInfo) : Int × Text := (info.saId, info.subscribeKey)

/-- Two subscriptions are one when subscriber and key agree. -/
def SubscribeCompare (one other : SubscribeInfo) : Prop :=
  one.saId = other.saId ∧ one.subscribeKey = other.subscribeKey

/-- The number that a subscription is hashed by. -/
def SubscribeHash (subscriberInfo : SubscribeInfo) : Int := subscriberInfo.saId

/-- The key of the set stands for the equality of the hash set, which the hash respects. -/
theorem setKey_eq_iff (one other : SubscribeInfo) :
    (one.setKey = other.setKey ↔ SubscribeCompare one other) ∧
      (SubscribeCompare one other → SubscribeHash one = SubscribeHash other) :=
  ⟨Prod.mk.injEq .. ▸ Iff.rfl, fun h => h.1⟩

/-- The subscriptions to one key, at most one for each subscriber. -/
abbrev SubscribeSet := KeyedSet SubscribeInfo.setKey

/-- The subscriptions of the service, by the key they are for. -/
abbrev SubscribeInfoMap := ExtTreeMap Text SubscribeSet

/-- The error code of a refused subscription. -/
inductive SubscribeError where
  | exceedMaxSizeFail
  deriving DecidableEq, Repr

/-- The set under a key, which is empty where there is none. -/
def SubscribeInfoMap.bucket (m : SubscribeInfoMap) (subscribeKey : Text) : SubscribeSet :=
  m[subscribeKey]?.getD (KeyedSet.empty _)

/-- To look at the set under a key puts an empty set there. -/
def SubscribeInfoMap.access (m : SubscribeInfoMap) (subscribeKey : Text) : SubscribeInfoMap :=
  if subscribeKey ∈ m then m else m.insert subscribeKey (KeyedSet.empty _)

/-- Adds a subscription to its key, over that of the same subscriber. A new key stays also when the
subscription is refused. -/
def subscribeDeviceProfile (subscribeInfo : SubscribeInfo) (m : SubscribeInfoMap) :
    Except SubscribeError Unit × SubscribeInfoMap :=
  if MAX_LISTENER_SIZE < m.size then (.error .exceedMaxSizeFail, m)
  else
    let m := SubscribeInfoMap.access m subscribeInfo.subscribeKey
    let bucket := SubscribeInfoMap.bucket m subscribeInfo.subscribeKey
    if MAX_LISTENER_SIZE < bucket.size then (.error .exceedMaxSizeFail, m)
    else
      let bucket :=
        if (bucket.find? subscribeInfo.setKey).isSome then bucket.erase subscribeInfo else bucket
      (.ok (), m.insert subscribeInfo.subscribeKey (bucket.emplace subscribeInfo))

/-- The subscriptions of a map one after the other; nobody looks at the error codes. -/
def subscribeDeviceProfiles (subscribeInfos : ExtTreeMap Text SubscribeInfo)
    (m : SubscribeInfoMap) : SubscribeInfoMap :=
  subscribeInfos.toList.foldl (fun m item => (subscribeDeviceProfile item.2 m).2) m

/-- A set that has become empty is taken out. -/
def unSubscribeDeviceProfile (subscribeInfo : SubscribeInfo) (m : SubscribeInfoMap) :
    SubscribeInfoMap :=
  if subscribeInfo.subscribeKey ∈ m then
    let bucket := (SubscribeInfoMap.bucket m subscribeInfo.subscribeKey).erase subscribeInfo
    let m := m.insert subscribeInfo.subscribeKey bucket
    if bucket.size = 0 then m.erase subscribeInfo.subscribeKey else m
  else m

/-- The subscriptions to a key; an unknown key has none. -/
def getSubscribeInfos (dbKey : Text) (m : SubscribeInfoMap) : SubscribeSet :=
  if dbKey ∈ m then SubscribeInfoMap.bucket m dbKey else KeyedSet.empty _

/-! ## What a call does -/

namespace SubscribeInfoMap

variable {m : SubscribeInfoMap} {info : SubscribeInfo}

/-- The subscription that the table holds under a key for a system ability. -/
def held (m : SubscribeInfoMap) (subscribeKey : Text) (saId : Int) : Option SubscribeInfo :=
  (bucket m subscribeKey).find? (saId, subscribeKey)

/-- There is room for a subscription: neither the table nor the set of its key is over the
limit. -/
def HasRoomFor (m : SubscribeInfoMap) (info : SubscribeInfo) : Prop :=
  m.size ≤ MAX_LISTENER_SIZE ∧ (bucket m info.subscribeKey).size ≤ MAX_LISTENER_SIZE

instance (m : SubscribeInfoMap) (info : SubscribeInfo) : Decidable (HasRoomFor m info) :=
  inferInstanceAs (Decidable (_ ∧ _))

theorem bucket_of_not_mem {key : Text} (h : key ∉ m) : bucket m key = KeyedSet.empty _ := by
  rw [bucket, ExtTreeMap.getElem?_eq_none h]
  rfl

theorem bucket_insert (m : SubscribeInfoMap) (key other : Text) (set : SubscribeSet) :
    bucket (m.insert key set) other = if other = key then set else bucket m other := by
  simp only [bucket, ExtTreeMap.getElem?_insert, LawfulEqCmp.compare_eq_iff_eq, eq_comm (a := key)]
  split <;> rfl

theorem bucket_erase (m : SubscribeInfoMap) (key other : Text) :
    bucket (m.erase key) other =
      if other = key then KeyedSet.empty _ else bucket m other := by
  simp only [bucket, ExtTreeMap.getElem?_erase, LawfulEqCmp.compare_eq_iff_eq, eq_comm (a := key)]
  split <;> rfl

/-- To look at a set does not change what is found. -/
theorem bucket_access (m : SubscribeInfoMap) (key other : Text) :
    bucket (access m key) other = bucket m other := by
  rw [access]
  split
  · rfl
  · rename_i hmem
    rw [bucket_insert]
    split
    · rename_i hsame
      rw [hsame, bucket_of_not_mem hmem]
    · rfl

/-- Looking a key up before writing it makes no difference. -/
theorem insert_access (m : SubscribeInfoMap) (key : Text) (set : SubscribeSet) :
    (access m key).insert key set = m.insert key set := by
  rw [access]
  split
  · rfl
  · refine ExtTreeMap.ext_getElem? fun other => ?_
    simp only [ExtTreeMap.getElem?_insert]
    split <;> rfl

/-- The set of a key with one subscription replaced or added. -/
def replace (set : SubscribeSet) (info : SubscribeInfo) : SubscribeSet :=
  (set.erase info).emplace info

/-- A subscription for which there is room replaces the one of its system ability. -/
theorem subscribeDeviceProfile_of_room (h : HasRoomFor m info) :
    subscribeDeviceProfile info m =
      (.ok (), m.insert info.subscribeKey (replace (bucket m info.subscribeKey) info)) := by
  have herase : (if ((bucket m info.subscribeKey).find? info.setKey).isSome then
      (bucket m info.subscribeKey).erase info else bucket m info.subscribeKey) =
        (bucket m info.subscribeKey).erase info := by
    split
    · rfl
    · rename_i hnone
      exact (KeyedSet.erase_of_find?_eq_none (Option.not_isSome_iff_eq_none.mp hnone)).symm
  rw [subscribeDeviceProfile, if_neg (Nat.not_lt.mpr h.1)]
  simp only [bucket_access, if_neg (Nat.not_lt.mpr h.2), herase, insert_access, replace]

/-- A subscription without room leaves the table as it was. -/
theorem subscribeDeviceProfile_of_no_room (h : ¬HasRoomFor m info) :
    subscribeDeviceProfile info m = (.error .exceedMaxSizeFail, m) := by
  rw [subscribeDeviceProfile]
  by_cases hkeys : MAX_LISTENER_SIZE < m.size
  · rw [if_pos hkeys]
  have hfull : MAX_LISTENER_SIZE < (bucket m info.subscribeKey).size :=
    Nat.not_le.mp fun hle => h ⟨Nat.not_lt.mp hkeys, hle⟩
  have hmem : info.subscribeKey ∈ m := by
    by_contra hnot
    rw [bucket_of_not_mem hnot, KeyedSet.size_empty] at hfull
    exact absurd hfull (Nat.not_lt_zero _)
  rw [if_neg hkeys]
  simp only [bucket_access, if_pos hfull]
  rw [access, if_pos hmem]

/-- After a subscription for which there is room, the table holds it. -/
theorem held_subscribe (h : HasRoomFor m info) (key : Text) (saId : Int) :
    held (subscribeDeviceProfile info m).2 key saId =
      if key = info.subscribeKey ∧ saId = info.saId then some info else held m key saId := by
  rw [subscribeDeviceProfile_of_room h, held, bucket_insert]
  by_cases hkey : key = info.subscribeKey
  · subst hkey
    rw [if_pos rfl, replace, KeyedSet.find?_emplace, KeyedSet.find?_erase]
    by_cases hid : saId = info.saId
    · have hset : (saId, info.subscribeKey) = info.setKey := by rw [hid, SubscribeInfo.setKey]
      rw [if_pos hset, if_pos hset, if_pos ⟨rfl, hid⟩, Option.none_or]
    · have hset : (saId, info.subscribeKey) ≠ info.setKey := fun heq => hid (congrArg Prod.fst heq)
      rw [if_neg hset, if_neg hset, if_neg fun hboth => hid hboth.2, Option.or_none]
      rfl
  · rw [if_neg hkey, if_neg fun hboth => hkey hboth.1]
    rfl

/-- A subscription that is taken back is erased from the set of its key. -/
theorem bucket_unSubscribe (m : SubscribeInfoMap) (info : SubscribeInfo) (key : Text) :
    bucket (unSubscribeDeviceProfile info m) key =
      if key = info.subscribeKey then (bucket m info.subscribeKey).erase info
      else bucket m key := by
  rw [unSubscribeDeviceProfile]
  by_cases hmem : info.subscribeKey ∈ m
  · rw [if_pos hmem]
    dsimp only
    by_cases hempty : ((bucket m info.subscribeKey).erase info).size = 0
    · rw [if_pos hempty, bucket_erase, bucket_insert, KeyedSet.eq_empty_of_size hempty]
      split <;> rfl
    · rw [if_neg hempty, bucket_insert]
  · rw [if_neg hmem]
    split
    · rename_i hkey
      rw [hkey, bucket_of_not_mem hmem]
      exact (KeyedSet.erase_of_find?_eq_none (KeyedSet.find?_empty _)).symm
    · rfl

/-- After a subscription was taken back, the table does not hold it. -/
theorem held_unSubscribe (m : SubscribeInfoMap) (info : SubscribeInfo) (key : Text) (saId : Int) :
    held (unSubscribeDeviceProfile info m) key saId =
      if key = info.subscribeKey ∧ saId = info.saId then none else held m key saId := by
  rw [held, bucket_unSubscribe]
  by_cases hkey : key = info.subscribeKey
  · subst hkey
    rw [if_pos rfl, KeyedSet.find?_erase]
    exact if_congr (by simp [SubscribeInfo.setKey]) rfl rfl
  · rw [if_neg hkey, if_neg fun hboth => hkey hboth.1]
    rfl

/-- The sets of the table: none is empty, each has only subscriptions of its key, and neither
their number nor their sizes exceed what the tests admit. -/
structure IsSound (m : SubscribeInfoMap) : Prop where
  nonempty : ∀ (key : Text) (set : SubscribeSet), m[key]? = some set → set.size ≠ 0
  own : ∀ key, ∀ info ∈ (bucket m key).elems, info.subscribeKey = key
  keys : m.size ≤ MAX_LISTENER_SIZE + 1
  sizes : ∀ key, (bucket m key).size ≤ MAX_LISTENER_SIZE + 1

theorem isSound_empty : IsSound ∅ := by
  refine ⟨fun key set h => ?_, fun key info h => ?_, ?_, fun key => ?_⟩
  · rw [ExtTreeMap.getElem?_empty] at h
    cases h
  · rw [bucket_of_not_mem ExtTreeMap.not_mem_empty] at h
    cases h
  · simp
  · rw [bucket_of_not_mem ExtTreeMap.not_mem_empty, KeyedSet.size_empty]
    exact Nat.zero_le _

/-- A set in which a subscription was replaced or added holds it. -/
theorem mem_replace {set : SubscribeSet} {other : SubscribeInfo}
    (h : other ∈ (replace set info).elems) : other = info ∨ other ∈ set.elems := by
  have hfind := KeyedSet.find?_of_mem h
  rw [replace, KeyedSet.find?_emplace, KeyedSet.find?_erase] at hfind
  by_cases hkey : other.setKey = info.setKey
  · simp only [hkey, if_true, Option.none_or, Option.some.injEq] at hfind
    exact .inl hfind.symm
  · simp only [hkey, if_false, Option.or_none] at hfind
    exact .inr (KeyedSet.mem_of_find? hfind)

/-- A replaced subscription adds one at most, and leaves one at least. -/
theorem size_replace (set : SubscribeSet) (info : SubscribeInfo) :
    (replace set info).size ≤ set.size + 1 ∧ (replace set info).size ≠ 0 := by
  refine ⟨?_, fun hzero => ?_⟩
  · have hemplace := KeyedSet.size_emplace_le (set.erase info) info
    have herase := KeyedSet.size_erase_le set info
    rw [replace]
    omega
  · have hnone := (KeyedSet.size_eq_zero_iff _).mp hzero info.setKey
    rw [replace, KeyedSet.find?_emplace, KeyedSet.find?_erase] at hnone
    simp at hnone

/-- A subscription keeps the table sound. -/
theorem IsSound.subscribe (h : IsSound m) (info : SubscribeInfo) :
    IsSound (subscribeDeviceProfile info m).2 := by
  by_cases hroom : HasRoomFor m info
  swap
  · rw [subscribeDeviceProfile_of_no_room hroom]
    exact h
  rw [subscribeDeviceProfile_of_room hroom]
  obtain ⟨hle, hne⟩ := size_replace (bucket m info.subscribeKey) info
  constructor
  case nonempty =>
    intro key set hset
    rw [ExtTreeMap.getElem?_insert] at hset
    split at hset
    · rw [← Option.some.inj hset]
      exact hne
    · exact h.nonempty key set hset
  case own =>
    intro key other hother
    rw [bucket_insert] at hother
    split at hother
    · rename_i hkey
      rcases mem_replace hother with rfl | hold
      · exact hkey.symm
      · rw [hkey]
        exact h.own info.subscribeKey other hold
    · exact h.own key other hother
  case keys =>
    have hkeys := hroom.1
    have hsize := ExtTreeMap.size_insert_le (t := m) (k := info.subscribeKey)
      (v := replace (bucket m info.subscribeKey) info)
    exact hsize.trans (Nat.succ_le_succ hkeys)
  case sizes =>
    intro key
    rw [bucket_insert]
    split
    · exact hle.trans (Nat.succ_le_succ hroom.2)
    · exact h.sizes key

/-- A subscription that is taken back keeps the table sound. -/
theorem IsSound.unSubscribe (h : IsSound m) (info : SubscribeInfo) :
    IsSound (unSubscribeDeviceProfile info m) := by
  constructor
  case own =>
    intro key other hother
    rw [bucket_unSubscribe] at hother
    split at hother
    · rename_i hkey
      rw [hkey]
      exact h.own _ other (List.mem_of_mem_filter hother)
    · exact h.own key other hother
  case sizes =>
    intro key
    rw [bucket_unSubscribe]
    split
    · exact (KeyedSet.size_erase_le _ _).trans (h.sizes info.subscribeKey)
    · exact h.sizes key
  case nonempty =>
    intro key set hset
    rw [unSubscribeDeviceProfile] at hset
    split at hset
    swap
    · exact h.nonempty key set hset
    dsimp only at hset
    split at hset
    · rw [ExtTreeMap.getElem?_erase] at hset
      split at hset
      · cases hset
      · rename_i hne
        rw [ExtTreeMap.getElem?_insert, if_neg hne] at hset
        exact h.nonempty key set hset
    · rename_i hempty
      rw [ExtTreeMap.getElem?_insert] at hset
      split at hset
      · rw [← Option.some.inj hset]
        exact hempty
      · exact h.nonempty key set hset
  case keys =>
    rw [unSubscribeDeviceProfile]
    split
    swap
    · exact h.keys
    rename_i hmem
    have hsize : ∀ set : SubscribeSet, (m.insert info.subscribeKey set).size = m.size := by
      intro set
      rw [ExtTreeMap.size_insert, if_pos (ExtTreeMap.contains_iff_mem.mpr hmem)]
    dsimp only
    split
    · exact ExtTreeMap.size_erase_le.trans (hsize _ ▸ h.keys)
    · exact hsize _ ▸ h.keys

theorem getSubscribeInfos_eq_bucket (m : SubscribeInfoMap) (key : Text) :
    getSubscribeInfos key m = bucket m key := by
  rw [getSubscribeInfos]
  split
  · rfl
  · rename_i hmem
    rw [bucket_of_not_mem hmem]

/-- In a sound table the subscriptions of a key with a system ability are the one that is held. -/
theorem IsSound.filter_saId (h : IsSound m) (key : Text) (saId : Int) :
    ((getSubscribeInfos key m).elems.filter fun info => info.saId = saId) =
      (held m key saId).toList := by
  rw [getSubscribeInfos_eq_bucket, held, ← KeyedSet.filter_key]
  refine List.filter_congr fun info hinfo => ?_
  simp [SubscribeInfo.setKey, h.own key info hinfo]

end SubscribeInfoMap

/-! ## Runs -/

/-- A single call. -/
inductive SubscribeCall where
  | subscribe (subscribeInfo : SubscribeInfo)
  | unSubscribe (subscribeInfo : SubscribeInfo)

/-- What a single call names. -/
def SubscribeCall.info : SubscribeCall → SubscribeInfo
  | subscribe subscribeInfo => subscribeInfo
  | unSubscribe subscribeInfo => subscribeInfo

/-- The calls of the clients: single ones, and a map of subscriptions. -/
inductive SubscribeEvent where
  | call (call : SubscribeCall)
  | subscribeAll (subscribeInfos : ExtTreeMap Text SubscribeInfo)

/-- The table and the single calls that were accepted so far. -/
structure Subscriptions where
  table : SubscribeInfoMap := ∅
  accepted : List SubscribeCall := []

/-- A single call; it is accepted when it does not return an error code. -/
def Subscriptions.run (s : Subscriptions) : SubscribeCall → Subscriptions
  | .subscribe info =>
    match subscribeDeviceProfile info s.table with
    | (.ok (), table) => ⟨table, s.accepted ++ [.subscribe info]⟩
    | (.error _, table) => ⟨table, s.accepted⟩
  | .unSubscribe info =>
    ⟨unSubscribeDeviceProfile info s.table, s.accepted ++ [.unSubscribe info]⟩

/-- A map of subscriptions counts as one call for each of its elements. -/
def Subscriptions.step (s : Subscriptions) : SubscribeEvent → Subscriptions
  | .call call => s.run call
  | .subscribeAll infos => infos.toList.foldl (fun s item => s.run (.subscribe item.2)) s

/-- The subscription that the last accepted call for a key and a system ability left. -/
def lastSubscribed (accepted : List SubscribeCall) (key : Text) (saId : Int) :
    Option SubscribeInfo :=
  match (accepted.filter fun call =>
      call.info.subscribeKey = key ∧ call.info.saId = saId).getLast? with
  | some (.subscribe info) => some info
  | _ => none

/-- The table is what the accepted calls have left. -/
structure Subscriptions.IsHistory (s : Subscriptions) : Prop where
  sound : SubscribeInfoMap.IsSound s.table
  held : ∀ key saId, SubscribeInfoMap.held s.table key saId = lastSubscribed s.accepted key saId

/-- One more call leaves its own subscription, or the last one. -/
theorem lastSubscribed_concat (accepted : List SubscribeCall) (call : SubscribeCall) (key : Text)
    (saId : Int) :
    lastSubscribed (accepted ++ [call]) key saId =
      if key = call.info.subscribeKey ∧ saId = call.info.saId then
        (match call with
        | .subscribe info => some info
        | .unSubscribe _ => none)
      else lastSubscribed accepted key saId := by
  simp only [lastSubscribed, List.filter_append, List.filter_singleton]
  by_cases hcall : call.info.subscribeKey = key ∧ call.info.saId = saId
  · simp only [hcall, and_self, decide_true, cond_true, List.getLast?_concat, if_true]
    cases call <;> rfl
  · have hne : ¬(key = call.info.subscribeKey ∧ saId = call.info.saId) :=
      fun h => hcall ⟨h.1.symm, h.2.symm⟩
    simp only [hcall, decide_false, cond_false, List.append_nil, if_neg hne]

/-- Every single call keeps the history. -/
theorem Subscriptions.IsHistory.run {s : Subscriptions} (h : s.IsHistory) (call : SubscribeCall) :
    (s.run call).IsHistory := by
  cases call with
  | subscribe info =>
    have hsound := h.sound.subscribe info
    rw [Subscriptions.run]
    by_cases hroom : SubscribeInfoMap.HasRoomFor s.table info
    · have hheld := SubscribeInfoMap.held_subscribe hroom
      rw [SubscribeInfoMap.subscribeDeviceProfile_of_room hroom] at hsound hheld ⊢
      refine ⟨hsound, fun key saId => ?_⟩
      rw [hheld, lastSubscribed_concat, h.held]
      rfl
    · rw [SubscribeInfoMap.subscribeDeviceProfile_of_no_room hroom]
      exact h
  | unSubscribe info =>
    refine ⟨h.sound.unSubscribe info, fun key saId => ?_⟩
    rw [Subscriptions.run, SubscribeInfoMap.held_unSubscribe, lastSubscribed_concat, h.held]
    rfl

/-- Every call keeps the history. -/
theorem Subscriptions.IsHistory.step {s : Subscriptions} (h : s.IsHistory)
    (event : SubscribeEvent) : (s.step event).IsHistory := by
  cases event with
  | call call => exact h.run call
  | subscribeAll infos =>
    rw [Subscriptions.step]
    generalize infos.toList = items
    induction items generalizing s with
    | nil => exact h
    | cons item rest ih => exact ih (h.run (.subscribe item.2))

/-- Every run of calls keeps the history. -/
theorem Subscriptions.isHistory_run (events : List SubscribeEvent) :
    (events.foldl Subscriptions.step {}).IsHistory := by
  have hstart : ({} : Subscriptions).IsHistory :=
    ⟨SubscribeInfoMap.isSound_empty, fun key saId => by
      rw [SubscribeInfoMap.held, SubscribeInfoMap.bucket_of_not_mem ExtTreeMap.not_mem_empty]
      rfl⟩
  have hadmits : Admits Subscriptions.step (fun _ _ => True) {} events :=
    admits_of_forall (fun _ _ => trivial) _ events
  exact foldl_invariant (fun _ event hs _ => hs.step event) hstart hadmits

/-- The table of a run of calls with a map of subscriptions is that of the source. -/
theorem table_step_subscribeAll (s : Subscriptions) (infos : ExtTreeMap Text SubscribeInfo) :
    (s.step (.subscribeAll infos)).table = subscribeDeviceProfiles infos s.table := by
  rw [Subscriptions.step, subscribeDeviceProfiles]
  generalize infos.toList = items
  induction items generalizing s with
  | nil => rfl
  | cons item rest ih =>
    have htable :
        (s.run (.subscribe item.2)).table = (subscribeDeviceProfile item.2 s.table).2 := by
      rw [Subscriptions.run]
      split
      · rename_i heq
        rw [heq]
      · rename_i heq
        rw [heq]
    rw [List.foldl_cons, List.foldl_cons, ih, htable]

/-- In every state of a run of calls, the table returns for each key and system ability exactly
the subscription that the last accepted call left, a subscription that is refused leaves it as it
is, no key has an empty set, and the limits hold. -/
theorem table_is_history (events : List SubscribeEvent) (n : Nat) :
    let s := (events.take n).foldl Subscriptions.step {}
    (∀ key saId, ((getSubscribeInfos key s.table).elems.filter fun info => info.saId = saId) =
      (lastSubscribed s.accepted key saId).toList) ∧
    (∀ info e, (subscribeDeviceProfile info s.table).1 = .error e →
      (subscribeDeviceProfile info s.table).2 = s.table) ∧
    (∀ (key : Text) (set : SubscribeSet), s.table[key]? = some set → set.elems ≠ []) ∧
    s.table.size ≤ MAX_LISTENER_SIZE + 1 ∧
    ∀ key, (getSubscribeInfos key s.table).elems.length ≤ MAX_LISTENER_SIZE + 1 := by
  intro s
  have h : s.IsHistory := Subscriptions.isHistory_run _
  refine ⟨fun key saId => ?_, fun info e he => ?_, fun key set hset hnil => ?_, h.sound.keys,
    fun key => ?_⟩
  · rw [h.sound.filter_saId, h.held]
  · by_cases hroom : SubscribeInfoMap.HasRoomFor s.table info
    · rw [SubscribeInfoMap.subscribeDeviceProfile_of_room hroom] at he
      cases he
    · rw [SubscribeInfoMap.subscribeDeviceProfile_of_no_room hroom]
  · exact h.sound.nonempty key set hset (List.length_eq_zero_iff.mpr hnil)
  · rw [SubscribeInfoMap.getSubscribeInfos_eq_bucket]
    exact h.sound.sizes key

end DeviceProfile
