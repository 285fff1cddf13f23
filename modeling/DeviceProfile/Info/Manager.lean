import DeviceProfile.Info.ServiceInfo
import DeviceProfile.Profile.Store

/-!
# The manager of service infos

The records of all devices are kept in a local store, and those of this device in a store
that is synchronised as well. A query reads all records of the local store and keeps those
whose body names what is asked for. An info that has been put is found by a query for it
exactly if the store is not too large, its other records can be read, and the data length
fits into an int.
-/

namespace DeviceProfile.Info

open Library Std

/-- The error codes of the manager. -/
inductive InfoError where
  | invalidParams
  | notFindData
  | putKvDbFail
  | getKvDbFail
  | delKvDbFail
  | loadJsonFileFail
  deriving DecidableEq, Repr

/-! ## The adapter of the local store -/

namespace InfoStore

/-- The entries whose keys start with a text. -/
def getEntries (s : Entries) (keyStart : Text) : Entries := s.filter fun key _ => keyStart <+: key

/-- The entries under the start of a key; none and too many of them are both errors. -/
def getByPrefix (keyStart : Text) (s : Entries) : Except InfoError Entries :=
  let allEntries := getEntries s keyStart
  if allEntries.size = 0 then .error .notFindData
  else if MAX_DB_SIZE < allEntries.size then .error .invalidParams
  else .ok allEntries

/-- Unlike the adapter of the profiles, this one writes values that are stored already. -/
def putBatch (stored : Bool) (values s : Entries) : Except InfoError Entries :=
  if values.isEmpty ∨ MAX_PROFILE_SIZE < values.size then .error .invalidParams
  else if stored then .ok (s ∪ values)
  else .error .putKvDbFail

/-- Deletes a list of keys that is neither empty nor too long. -/
def deleteBatch (keys : List Text) (s : Entries) : Except InfoError Entries :=
  if keys = [] ∨ MAX_PROFILE_SIZE < keys.length then .error .invalidParams
  else .ok (keys.foldl ExtTreeMap.erase s)

theorem getElem?_getEntries (s : Entries) (keyStart key : Text) :
    (getEntries s keyStart)[key]? = if keyStart <+: key then s[key]? else none := by
  rw [getEntries, ExtTreeMap.getElem?_filter']
  cases s[key]? <;> simp [Option.filter]

/-- The empty text starts every key. -/
theorem getEntries_nil (s : Entries) : getEntries s [] = s := by
  refine ExtTreeMap.ext_getElem? fun key => ?_
  rw [getElem?_getEntries, if_pos List.nil_prefix]

/-- When entries are read, and which. -/
theorem getByPrefix_eq_ok_iff {s allEntries : Entries} {keyStart : Text} :
    getByPrefix keyStart s = .ok allEntries ↔
      (getEntries s keyStart).size ≠ 0 ∧ (getEntries s keyStart).size ≤ MAX_DB_SIZE ∧
        allEntries = getEntries s keyStart := by
  rw [getByPrefix]
  by_cases hzero : (getEntries s keyStart).size = 0
  · rw [if_pos hzero]
    exact iff_of_false nofun fun h => h.1 hzero
  · rw [if_neg hzero]
    by_cases hlarge : MAX_DB_SIZE < (getEntries s keyStart).size
    · rw [if_pos hlarge]
      exact iff_of_false nofun fun h => absurd h.2.1 (Nat.not_le.mpr hlarge)
    · rw [if_neg hlarge, Except.ok.injEq, eq_comm]
      exact ⟨fun h => ⟨hzero, Nat.not_lt.mp hlarge, h⟩, fun h => h.2.2⟩

/-- When keys are deleted, and what is left. -/
theorem deleteBatch_eq_ok_iff {keys : List Text} {s s' : Entries} :
    deleteBatch keys s = .ok s' ↔
      (keys ≠ [] ∧ keys.length ≤ MAX_PROFILE_SIZE) ∧ s' = keys.foldl ExtTreeMap.erase s := by
  rw [deleteBatch]
  split
  · rename_i h
    refine iff_of_false nofun fun hok => ?_
    rcases h with h | h
    · exact hok.1.1 h
    · exact absurd hok.1.2 (Nat.not_le.mpr h)
  · rename_i h
    rw [not_or, Nat.not_lt] at h
    rw [Except.ok.injEq, eq_comm]
    exact ⟨fun heq => ⟨h, heq⟩, fun hok => hok.2⟩

end InfoStore

/-! ## The manager -/

/-- The local store and the synchronised store. -/
structure InfoManager where
  store : Entries := ∅
  syncStore : KvStore := ∅

namespace InfoManager

variable (json : Json) (localUdid : Text)

/-- `stored` and `syncStored` are the answers of the two stores. -/
def putServiceInfo (stored syncStored : Bool) (s : ServiceInfo) (m : InfoManager) :
    Except InfoError Unit × InfoManager :=
  if ¬IsSvrInfoValid s then (.error .invalidParams, m)
  else
    let entries := serviceInfoToEntries json s
    match InfoStore.putBatch stored entries m.store with
    | .error _ => (.error .putKvDbFail, m)
    | .ok store =>
      if s.udid ≠ localUdid then (.ok (), { m with store })
      else
        match m.syncStore.putBatch localUdid syncStored entries with
        | .error _ => (.error .putKvDbFail, { m with store })
        | .ok syncStore => (.ok (), { store, syncStore })

/-- The body of a record names the device, the user and the service that are asked for. -/
def IsAsked (u : UserInfo) (fields : ParsedJSONFields) : Prop :=
  valuestring fields.udidItem = u.udid ∧
    (u.userId = DEFAULT_ID ∨ valueint fields.userIdItem = u.userId.toInt) ∧
    (u.serviceId = DEFAULT_SERVICE_ID ∨ atoll (valuestring fields.serviceIdItem) = u.serviceId)

instance (u : UserInfo) (fields : ParsedJSONFields) : Decidable (IsAsked u fields) :=
  inferInstanceAs (Decidable (_ ∧ _))

/-- One record that cannot be read ends the query. -/
def processServiceInfoEntry (u : UserInfo) (serviceInfos : List ServiceInfo)
    (entry : Text × Text) : Except InfoError (List ServiceInfo) :=
  match json.parse entry.2 with
  | none => .error .loadJsonFileFail
  | some members =>
    match parseAndValidateJSON members with
    | none => .error .invalidParams
    | some fields =>
      if IsAsked u fields then .ok (serviceInfos ++ [fillServiceInfo fields]) else .ok serviceInfos

/-- Lists the service infos that a user may see, parsed one after another; none is an error. -/
def getServiceInfosByUserInfo (u : UserInfo) (m : InfoManager) :
    Except InfoError (List ServiceInfo) :=
  if u.udid = [] then .error .invalidParams
  else do
    let allEntries ← InfoStore.getByPrefix [] m.store
    let serviceInfos ← allEntries.toList.foldlM (processServiceInfoEntry json u) []
    if serviceInfos = [] then .error .notFindData else .ok serviceInfos

/-- The loop of `GetAllServiceInfoList`: a value that is no JSON is passed over, and a record that
fails its checks ends the loop. -/
def collectServiceInfos : List (Text × Text) → Except InfoError Unit × List ServiceInfo
  | [] => (.ok (), [])
  | entry :: rest =>
    match json.parse entry.2 with
    | none => collectServiceInfos rest
    | some members =>
      match parseAndValidateJSON members with
      | none => (.error .invalidParams, [])
      | some fields =>
        let (ret, serviceInfos) := collectServiceInfos rest
        (ret, fillServiceInfo fields :: serviceInfos)

/-- The infos collected so far are left to the caller also when there is an error. -/
def getAllServiceInfoList (m : InfoManager) : Except InfoError Unit × List ServiceInfo :=
  match InfoStore.getByPrefix [] m.store with
  | .error e => (.error e, [])
  | .ok allEntries => collectServiceInfos json allEntries.toList

/-! ## What a query finds -/

/-- The info that a stored text is read as. -/
def readRecord (value : Text) : Option ServiceInfo :=
  ((json.parse value).bind parseAndValidateJSON).map fillServiceInfo

/-- A record that is JSON and fails its checks. -/
def isRefused (value : Text) : Bool :=
  (json.parse value).any fun members => (parseAndValidateJSON members).isNone

/-- An info of the device, the user and the service that are asked for. -/
def IsFor (u : UserInfo) (s : ServiceInfo) : Prop :=
  s.udid = u.udid ∧ (u.userId = DEFAULT_ID ∨ s.userId = u.userId) ∧
    (u.serviceId = DEFAULT_SERVICE_ID ∨ s.serviceId = u.serviceId)

instance (u : UserInfo) (s : ServiceInfo) : Decidable (IsFor u s) :=
  inferInstanceAs (Decidable (_ ∧ _))

theorem isFor_userInfo (s : ServiceInfo) : IsFor s.userInfo s := ⟨rfl, .inr rfl, .inr rfl⟩

/-- Numbers are read in 32 bits, whatever the item. -/
theorem valueint_range (item : Option Item) :
    -2 ^ 31 ≤ valueint item ∧ valueint item < 2 ^ 31 := by
  rcases item with _ | (n | s | _)
  · exact ⟨by decide, by decide⟩
  · change -2 ^ 31 ≤ max (-2147483648) (min 2147483647 n) ∧
      max (-2147483648) (min 2147483647 n) < 2 ^ 31
    omega
  · change (-2 ^ 31 : Int) ≤ 0 ∧ (0 : Int) < 2 ^ 31
    decide
  · exact ⟨by decide, by decide⟩

/-- The comparison of the members is one of the fields of the info. -/
theorem isAsked_iff {u : UserInfo} {fields : ParsedJSONFields} :
    IsAsked u fields ↔ IsFor u (fillServiceInfo fields) := by
  have hrange := valueint_range fields.userIdItem
  have huser : valueint fields.userIdItem = u.userId.toInt ↔
      Int32.ofInt (valueint fields.userIdItem) = u.userId := by
    rw [← Int32.toInt_inj, Int32.toInt_ofInt_of_le hrange.1 hrange.2]
  rw [IsAsked, IsFor, huser]
  rfl

variable {json}

/-- One step of a query, by what the record is read as. -/
theorem processServiceInfoEntry_eq_ok_iff {u : UserInfo} {serviceInfos infos : List ServiceInfo}
    {entry : Text × Text} :
    processServiceInfoEntry json u serviceInfos entry = .ok infos ↔
      ∃ s, readRecord json entry.2 = some s ∧
        infos = serviceInfos ++ [s].filter fun s => IsFor u s := by
  rw [processServiceInfoEntry, readRecord]
  cases hparse : json.parse entry.2 with
  | none => simp
  | some members =>
    cases hfields : parseAndValidateJSON members with
    | none => simp [hfields]
    | some fields =>
      simp only [hfields, Option.bind_some, Option.map_some, Option.some.injEq, exists_eq_left',
        isAsked_iff]
      by_cases h : IsFor u (fillServiceInfo fields)
      · rw [if_pos h, List.filter_cons_of_pos (by simpa using h), List.filter_nil,
          Except.ok.injEq, eq_comm]
      · rw [if_neg h, List.filter_cons_of_neg (by simpa using h), List.filter_nil,
          List.append_nil, Except.ok.injEq, eq_comm]

/-- A query that ends has read every record, and keeps those that are asked for. -/
theorem foldlM_process_eq_ok_iff {u : UserInfo} {entries : List (Text × Text)}
    {serviceInfos infos : List ServiceInfo} :
    entries.foldlM (processServiceInfoEntry json u) serviceInfos = .ok infos ↔
      (∀ entry ∈ entries, (readRecord json entry.2).isSome) ∧
        infos = serviceInfos ++
          (entries.filterMap fun entry => readRecord json entry.2).filter fun s => IsFor u s := by
  induction entries generalizing serviceInfos with
  | nil =>
    change Except.ok serviceInfos = .ok infos ↔ _
    rw [Except.ok.injEq, eq_comm]
    simp
  | cons entry entries ih =>
    have hbind :
        (entry :: entries).foldlM (processServiceInfoEntry json u) serviceInfos = .ok infos ↔
        ∃ next, processServiceInfoEntry json u serviceInfos entry = .ok next ∧
          entries.foldlM (processServiceInfoEntry json u) next = .ok infos := by
      rw [List.foldlM_cons]
      cases processServiceInfoEntry json u serviceInfos entry with
      | error e => simp [bind, Except.bind]
      | ok next => simp [bind, Except.bind]
    rw [hbind]
    simp only [processServiceInfoEntry_eq_ok_iff, ih]
    cases hread : readRecord json entry.2 with
    | none => simp [hread]
    | some s =>
      have hcons : ((entry :: entries).filterMap fun entry => readRecord json entry.2) =
          [s] ++ entries.filterMap fun entry => readRecord json entry.2 :=
        List.filterMap_cons_some (f := fun entry : Text × Text => readRecord json entry.2) hread
      simp only [Option.some.injEq, exists_eq_left', List.forall_mem_cons, hread,
        Option.isSome_some, true_and]
      rw [hcons, List.filter_append, ← List.append_assoc]
      constructor
      · rintro ⟨next, rfl, h⟩
        exact h
      · intro h
        exact ⟨_, rfl, h⟩

/-- All infos are collected up to the first record that is refused. -/
theorem collectServiceInfos_snd (entries : List (Text × Text)) :
    (collectServiceInfos json entries).2 =
      (entries.takeWhile fun entry => !isRefused json entry.2).filterMap fun entry =>
        readRecord json entry.2 := by
  induction entries with
  | nil => rfl
  | cons entry rest ih =>
    rw [collectServiceInfos, List.takeWhile_cons, isRefused]
    cases hparse : json.parse entry.2 with
    | none =>
      have hread : readRecord json entry.2 = none := by
        rw [readRecord, hparse]
        rfl
      simp only [Option.any_none, Bool.not_false, if_true, List.filterMap_cons, hread]
      exact ih
    | some members =>
      cases hfields : parseAndValidateJSON members with
      | none => simp only [Option.any_some, hfields, Option.isNone_none, Bool.not_true,
          Bool.false_eq_true, if_false, List.filterMap_nil]
      | some fields =>
        have hread : readRecord json entry.2 = some (fillServiceInfo fields) := by
          rw [readRecord, hparse, Option.bind_some, hfields, Option.map_some]
        simp only [Option.any_some, hfields, Option.isNone_some, Bool.not_false, if_true,
          List.filterMap_cons, hread, ih]

/-- Of a store that is too large no info is collected. -/
theorem getAllServiceInfoList_snd (m : InfoManager) :
    (m.getAllServiceInfoList json).2 =
      if MAX_DB_SIZE < m.store.size then []
      else (m.store.toList.takeWhile fun entry => !isRefused json entry.2).filterMap fun entry =>
        readRecord json entry.2 := by
  rw [getAllServiceInfoList, InfoStore.getByPrefix, InfoStore.getEntries_nil]
  by_cases hzero : ExtTreeMap.size m.store = 0
  · have hempty : m.store = ∅ := ExtTreeMap.eq_empty_iff_size_eq_zero.mpr hzero
    rw [hempty]
    rfl
  · simp only [if_neg hzero]
    by_cases hlarge : MAX_DB_SIZE < ExtTreeMap.size m.store
    · rw [if_pos hlarge, if_pos hlarge]
    · rw [if_neg hlarge, if_neg hlarge]
      exact collectServiceInfos_snd _

variable (json) in
/-- Every record can be read. -/
def IsReadable (store : Entries) : Prop :=
  ∀ key value : Text, store[key]? = some value → (readRecord json value).isSome

variable (json) in
/-- The infos that are asked for, in the order of the keys of their records. -/
def infosFor (u : UserInfo) (store : Entries) : List ServiceInfo :=
  (store.toList.filterMap fun entry => readRecord json entry.2).filter fun s => IsFor u s

/-- The infos for a user are those whose records read well and are for the user. -/
theorem mem_infosFor {u : UserInfo} {store : Entries} {s : ServiceInfo} :
    s ∈ infosFor json u store ↔
      ∃ key value : Text,
        store[key]? = some value ∧ readRecord json value = some s ∧ IsFor u s := by
  rw [infosFor, List.mem_filter, decide_eq_true_iff]
  constructor
  · rintro ⟨hmem, hfor⟩
    obtain ⟨⟨key, value⟩, hentry, hread⟩ := List.mem_filterMap.mp hmem
    exact ⟨key, value, ExtTreeMap.mem_toList_iff_getElem?_eq_some.mp hentry, hread, hfor⟩
  · rintro ⟨key, value, hentry, hread, hfor⟩
    exact ⟨List.mem_filterMap.mpr ⟨(key, value),
      ExtTreeMap.mem_toList_iff_getElem?_eq_some.mpr hentry, hread⟩, hfor⟩

/-- A readable store is one each of whose entries reads. -/
theorem isReadable_iff_toList {store : Entries} :
    IsReadable json store ↔ ∀ entry ∈ store.toList, (readRecord json entry.2).isSome := by
  constructor
  · intro h entry hentry
    exact h entry.1 entry.2 (ExtTreeMap.mem_toList_iff_getElem?_eq_some.mp hentry)
  · intro h key value hentry
    exact h (key, value) (ExtTreeMap.mem_toList_iff_getElem?_eq_some.mpr hentry)

/-- A query answers if the store is not too large, its records can be read, and some are
asked for. -/
theorem getServiceInfosByUserInfo_eq_ok_iff {u : UserInfo} {m : InfoManager}
    {infos : List ServiceInfo} :
    m.getServiceInfosByUserInfo json u = .ok infos ↔
      u.udid ≠ [] ∧ m.store.size ≤ MAX_DB_SIZE ∧ IsReadable json m.store ∧ infos ≠ [] ∧
        infos = infosFor json u m.store := by
  rw [getServiceInfosByUserInfo]
  by_cases hudid : u.udid = []
  · rw [if_pos hudid]
    exact iff_of_false nofun fun h => h.1 hudid
  rw [if_neg hudid]
  cases hscan : InfoStore.getByPrefix [] m.store with
  | error e =>
    refine iff_of_false nofun ?_
    rintro ⟨-, hle, -, hne, rfl⟩
    obtain ⟨s, hs⟩ := List.exists_mem_of_ne_nil _ hne
    obtain ⟨key, value, hentry, -⟩ := mem_infosFor.mp hs
    have hsize : ExtTreeMap.size m.store ≠ 0 := by
      intro hzero
      rw [ExtTreeMap.eq_empty_iff_size_eq_zero.mpr hzero, ExtTreeMap.getElem?_empty] at hentry
      cases hentry
    have hok : InfoStore.getByPrefix [] m.store = .ok m.store := by
      rw [InfoStore.getByPrefix_eq_ok_iff, InfoStore.getEntries_nil]
      exact ⟨hsize, hle, rfl⟩
    rw [hscan] at hok
    cases hok
  | ok allEntries =>
    obtain ⟨-, hle, hall⟩ := InfoStore.getByPrefix_eq_ok_iff.mp hscan
    rw [InfoStore.getEntries_nil] at hle hall
    subst hall
    change (m.store.toList.foldlM (processServiceInfoEntry json u) [] >>= fun serviceInfos =>
      if serviceInfos = [] then .error .notFindData else .ok serviceInfos) = .ok infos ↔ _
    cases hfold : m.store.toList.foldlM (processServiceInfoEntry json u) [] with
    | error e =>
      refine iff_of_false nofun fun h => ?_
      have hok : m.store.toList.foldlM (processServiceInfoEntry json u) [] =
          .ok ([] ++ infosFor json u m.store) :=
        foldlM_process_eq_ok_iff.mpr ⟨isReadable_iff_toList.mp h.2.2.1, rfl⟩
      rw [hfold] at hok
      cases hok
    | ok serviceInfos =>
      obtain ⟨hread, hinfos⟩ := foldlM_process_eq_ok_iff.mp hfold
      rw [List.nil_append] at hinfos
      change (if serviceInfos = [] then Except.error InfoError.notFindData
        else .ok serviceInfos) = _ ↔ _
      by_cases hnil : serviceInfos = []
      · rw [if_pos hnil]
        refine iff_of_false nofun ?_
        rintro ⟨-, -, -, hne, rfl⟩
        exact hne (hinfos.symm.trans hnil)
      · rw [if_neg hnil, Except.ok.injEq]
        constructor
        · rintro rfl
          exact ⟨hudid, hle, isReadable_iff_toList.mpr hread, hnil, hinfos⟩
        · rintro ⟨-, -, -, -, rfl⟩
          exact hinfos

/-! ## What a put stores -/

/-- The store with the record of an info. -/
def withRecord (json : Json) (s : ServiceInfo) (store : Entries) : Entries :=
  store.insert s.userInfo.dbKey (json.print s.members)

/-- A put of one info writes one record. -/
theorem union_serviceInfoToEntries (json : Json) (s : ServiceInfo) (store : Entries) :
    store ∪ serviceInfoToEntries json s = withRecord json s store := by
  refine ExtTreeMap.ext_getElem? fun key => ?_
  rw [serviceInfoToEntries, withRecord, ExtTreeMap.getElem?_union, ExtTreeMap.getElem?_insert,
    ExtTreeMap.getElem?_insert, ExtTreeMap.getElem?_empty]
  split <;> rfl

/-- One record is neither too few nor too many. -/
theorem putBatch_serviceInfoToEntries (json : Json) (stored : Bool) (s : ServiceInfo)
    (store : Entries) :
    InfoStore.putBatch stored (serviceInfoToEntries json s) store =
      if stored then .ok (withRecord json s store) else .error .putKvDbFail := by
  rw [← union_serviceInfoToEntries]
  exact if_neg (by simp [serviceInfoToEntries, MAX_PROFILE_SIZE, ExtTreeMap.size_insert])

/-- The put of a valid info that the store answers writes its record; any other changes
nothing. -/
theorem store_putServiceInfo (json : Json) (localUdid : Text) (stored syncStored : Bool)
    (s : ServiceInfo) (m : InfoManager) :
    (m.putServiceInfo json localUdid stored syncStored s).2.store =
      if IsSvrInfoValid s ∧ stored = true then withRecord json s m.store else m.store := by
  by_cases hvalid : IsSvrInfoValid s
  · rw [putServiceInfo, if_neg (not_not.mpr hvalid)]
    simp only [putBatch_serviceInfoToEntries, hvalid, true_and]
    cases stored with
    | false => rfl
    | true =>
      simp only [if_true]
      by_cases hudid : s.udid = localUdid
      · rw [if_neg (not_not.mpr hudid)]
        cases m.syncStore.putBatch localUdid syncStored (serviceInfoToEntries json s) with
        | error e => rfl
        | ok syncStore => rfl
      · rw [if_pos hudid]
  · rw [putServiceInfo, if_pos hvalid, if_neg fun h => hvalid h.1]

/-- A put that succeeds has written the record. -/
theorem store_putServiceInfo_of_ok {localUdid : Text} {stored syncStored : Bool}
    {s : ServiceInfo} {m : InfoManager}
    (h : (m.putServiceInfo json localUdid stored syncStored s).1 = .ok ()) :
    IsSvrInfoValid s ∧ (m.putServiceInfo json localUdid stored syncStored s).2.store =
      withRecord json s m.store := by
  have hok : IsSvrInfoValid s ∧ stored = true := by
    by_contra hnot
    rw [not_and_or] at hnot
    rw [putServiceInfo] at h
    split at h
    · cases h
    · rename_i hvalid
      rcases hnot with hnot | hnot
      · exact hvalid hnot
      · simp [putBatch_serviceInfoToEntries, hnot] at h
  rw [store_putServiceInfo, if_pos hok]
  exact ⟨hok.1, rfl⟩

/-! ## Putting and asking -/

theorem getElem?_withRecord (json : Json) (s : ServiceInfo) (store : Entries) (key : Text) :
    (withRecord json s store)[key]? =
      if key = s.userInfo.dbKey then some (json.print s.members) else store[key]? := by
  rw [withRecord, ExtTreeMap.getElem?_insert]
  by_cases h : key = s.userInfo.dbKey
  · rw [if_pos h, if_pos (LawfulEqCmp.compare_eq_iff_eq.mpr h.symm)]
  · rw [if_neg h, if_neg (mt LawfulEqCmp.compare_eq_iff_eq.mp (Ne.symm h))]

/-- The record of an info is read as what it stores of the info. -/
theorem readRecord_print_members (hjson : json.IsFaithful) (s : ServiceInfo) :
    readRecord json (json.print s.members) = some s.stored := by
  rw [readRecord, parse_print_members hjson, Option.bind_some, parseAndValidateJSON_members,
    Option.map_some, fillServiceInfo_members]

/-- Another record than that of the info is read as the info. -/
def IsReadElsewhere (json : Json) (s : ServiceInfo) (store : Entries) : Prop :=
  ∃ key value : Text, key ≠ s.userInfo.dbKey ∧ store[key]? = some value ∧
    readRecord json value = some s

/-- The store can still be asked when the record of the info is in it: it is not too large,
and every other record can be read. -/
def IsAskable (json : Json) (s : ServiceInfo) (store : Entries) : Prop :=
  (if s.userInfo.dbKey ∈ store then store.size else store.size + 1) ≤ MAX_DB_SIZE ∧
    ∀ key value : Text, key ≠ s.userInfo.dbKey → store[key]? = some value →
      (readRecord json value).isSome

/-- An info that has been put is returned to a query for it, equal in every field, exactly if
the store can be asked and the data length is at most the largest int; otherwise only a second
record with the same contents could show it. -/
theorem mem_getServiceInfosByUserInfo_putServiceInfo_iff (hjson : json.IsFaithful)
    {localUdid : Text} {stored syncStored : Bool} {s : ServiceInfo} {m : InfoManager}
    (hnul : s.HasNoNul)
    (hput : (m.putServiceInfo json localUdid stored syncStored s).1 = .ok ()) :
    (∃ infos, (m.putServiceInfo json localUdid stored syncStored s).2.getServiceInfosByUserInfo
        json s.userInfo = .ok infos ∧ s ∈ infos) ↔
      IsAskable json s m.store ∧
        (s.dataLen.toNat ≤ MAX_INT ∨ IsReadElsewhere json s m.store) := by
  obtain ⟨hvalid, hstore⟩ := store_putServiceInfo_of_ok hput
  have hudid : s.userInfo.udid ≠ [] := by
    have hlength := hvalid.2.2.1.1
    rintro hnil
    exact hlength (congrArg List.length hnil)
  have hself : s.stored = s ↔ s.dataLen.toNat ≤ MAX_INT := by
    rw [stored_eq_self_iff]
    exact and_iff_right hnul
  have hsize : (withRecord json s m.store).size ≤ MAX_DB_SIZE ↔
      (if s.userInfo.dbKey ∈ m.store then m.store.size else m.store.size + 1) ≤ MAX_DB_SIZE := by
    rw [withRecord, ExtTreeMap.size_insert]
    simp only [ExtTreeMap.contains_iff_mem]
  have hread : IsReadable json (withRecord json s m.store) ↔
      ∀ key value : Text, key ≠ s.userInfo.dbKey → m.store[key]? = some value →
        (readRecord json value).isSome := by
    constructor
    · intro h key value hne hentry
      exact h key value (by rw [getElem?_withRecord, if_neg hne, hentry])
    · intro h key value hentry
      rw [getElem?_withRecord] at hentry
      by_cases hkey : key = s.userInfo.dbKey
      · rw [if_pos hkey] at hentry
        rw [← Option.some.inj hentry, readRecord_print_members hjson]
        rfl
      · rw [if_neg hkey] at hentry
        exact h key value hkey hentry
  have hmem : s ∈ infosFor json s.userInfo (withRecord json s m.store) ↔
      s.dataLen.toNat ≤ MAX_INT ∨ IsReadElsewhere json s m.store := by
    rw [mem_infosFor]
    constructor
    · rintro ⟨key, value, hentry, hinfo, -⟩
      rw [getElem?_withRecord] at hentry
      by_cases hkey : key = s.userInfo.dbKey
      · rw [if_pos hkey] at hentry
        rw [← Option.some.inj hentry, readRecord_print_members hjson, Option.some.injEq] at hinfo
        exact .inl (hself.mp hinfo)
      · rw [if_neg hkey] at hentry
        exact .inr ⟨key, value, hkey, hentry, hinfo⟩
    · rintro (hlen | ⟨key, value, hkey, hentry, hinfo⟩)
      · refine ⟨s.userInfo.dbKey, json.print s.members, ?_, ?_, isFor_userInfo s⟩
        · rw [getElem?_withRecord, if_pos rfl]
        · rw [readRecord_print_members hjson, hself.mpr hlen]
      · exact ⟨key, value, by rw [getElem?_withRecord, if_neg hkey, hentry], hinfo,
          isFor_userInfo s⟩
  simp only [getServiceInfosByUserInfo_eq_ok_iff, hstore]
  rw [IsAskable, ← hsize, ← hread, ← hmem]
  constructor
  · rintro ⟨infos, ⟨-, hle, hall, -, rfl⟩, hin⟩
    exact ⟨⟨hle, hall⟩, hin⟩
  · rintro ⟨⟨hle, hall⟩, hin⟩
    exact ⟨_, ⟨hudid, hle, hall, List.ne_nil_of_mem hin, rfl⟩, hin⟩

/-- An info of another device, with a data length. -/
def sampleInfo (dataLen : UInt32) : ServiceInfo where
  udid := ("peer" : Text)
  userId := 100
  displayId := 7
  serviceOwnerTokenId := 11
  serviceOwnerPkgName := ("pkg" : Text)
  serviceRegisterTokenId := 12
  serviceId := 5
  timeStamp := 1700000000000
  publishState := 1
  serviceType := ("type" : Text)
  serviceName := ("name" : Text)
  serviceDisplayName := ("shown" : Text)
  customData := ("data" : Text)
  serviceCode := ("code" : Text)
  dataLen
  extraData := ("more" : Text)
  version := ("1.0" : Text)
  description := ("\"quoted\"" : Text)

/-- A put info is returned, as the query that asks for it can be answered. -/
theorem sampleInfo_is_returned :
    (∃ infos, (({} : InfoManager).putServiceInfo flatJson ("local" : Text) true true
        (sampleInfo 4)).2.getServiceInfosByUserInfo flatJson (sampleInfo 4).userInfo = .ok infos ∧
        sampleInfo 4 ∈ infos) ↔
      IsAskable flatJson (sampleInfo 4) ∅ ∧
        ((sampleInfo 4).dataLen.toNat ≤ MAX_INT ∨ IsReadElsewhere flatJson (sampleInfo 4) ∅) :=
  mem_getServiceInfosByUserInfo_putServiceInfo_iff flatJson_isFaithful (by decide)
    (by decide +kernel)

/-- A data length beyond the largest int is read back as the largest int. -/
theorem sampleInfo_is_changed :
    (({} : InfoManager).putServiceInfo flatJson ("local" : Text) true true
        (sampleInfo 2147483648)).1 = .ok () ∧
      (({} : InfoManager).putServiceInfo flatJson ("local" : Text) true true
        (sampleInfo 2147483648)).2.getServiceInfosByUserInfo flatJson
          (sampleInfo 2147483648).userInfo = .ok [sampleInfo 2147483647] ∧
      sampleInfo 2147483648 ∉ [sampleInfo 2147483647] := by
  decide +kernel

end InfoManager

end DeviceProfile.Info
