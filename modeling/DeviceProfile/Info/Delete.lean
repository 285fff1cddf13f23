import DeviceProfile.Info.Manager
import DeviceProfile.Library.Run

/-!
# Deleting service infos

A deletion goes by the keys: it scans those of one device and compares their last two
segments with the ids of the request. A query goes by the bodies. In a store that only puts
and deletions have written, keys and bodies agree as long as no device id has a NUL, so a
deletion removes what the query would have returned, as long as the store is not too large
to be queried.
-/

namespace DeviceProfile.Info

open Library Std

namespace InfoManager

/-- What the keys of the records of a device start with. -/
def keyStart (udid : Text) : Text := SERINFO_PREFIX ++ SEPARATOR ++ udid ++ SEPARATOR

/-- Whether the rest of a key after its udid belongs to the queried user and service, where a
default stands for all. -/
def isKeyMatch (remaining : Text) (u : UserInfo) : Bool :=
  match splitString remaining with
  | some [userPart, servicePart] =>
    if u.userId = DEFAULT_ID ∧ u.serviceId = DEFAULT_SERVICE_ID then true
    else if u.userId ≠ DEFAULT_ID ∧ u.serviceId = DEFAULT_SERVICE_ID then
      userPart = numeral u.userId.toInt
    else if u.userId = DEFAULT_ID ∧ u.serviceId ≠ DEFAULT_SERVICE_ID then
      servicePart = numeral u.serviceId.toInt
    else userPart = numeral u.userId.toInt ∧ servicePart = numeral u.serviceId.toInt
  | _ => false

/-- The keys of a scan that match a request. -/
def matchedKeys (u : UserInfo) (entries : Entries) : List Text :=
  entries.keys.filter fun key => isKeyMatch (key.drop (keyStart u.udid).length) u

/-- Deletes every service info of a device that matches the query, in one batch. -/
def deleteServiceInfo (localUdid : Text) (u : UserInfo) (m : InfoManager) :
    Except InfoError Unit × InfoManager :=
  if u.udid = [] then (.error .invalidParams, m)
  else
    match InfoStore.getByPrefix (keyStart u.udid) m.store with
    | .error _ => (.error .getKvDbFail, m)
    | .ok entries =>
      match InfoStore.deleteBatch (matchedKeys u entries) m.store with
      | .error _ => (.error .delKvDbFail, m)
      | .ok store =>
        if u.udid ≠ localUdid then (.ok (), { m with store })
        else
          match m.syncStore.deleteBatch (matchedKeys u entries) with
          | .error _ => (.error .delKvDbFail, { m with store })
          | .ok syncStore => (.ok (), { store, syncStore })

/-! ## Which keys match -/

/-- The ids of a request fit those of a record. -/
def IdsFit (u v : UserInfo) : Prop :=
  (u.userId = DEFAULT_ID ∨ v.userId = u.userId) ∧
    (u.serviceId = DEFAULT_SERVICE_ID ∨ v.serviceId = u.serviceId)

/-- A request for a user or a service is one for its number, and a wildcard fits all. -/
theorem isKeyMatch_iff {remaining : Text} {u : UserInfo} :
    isKeyMatch remaining u ↔
      ∃ userPart servicePart, splitString remaining = some [userPart, servicePart] ∧
        (u.userId = DEFAULT_ID ∨ userPart = numeral u.userId.toInt) ∧
        (u.serviceId = DEFAULT_SERVICE_ID ∨ servicePart = numeral u.serviceId.toInt) := by
  unfold isKeyMatch
  split
  · rename_i userPart servicePart hsplit
    have hexists : ∀ P : Text → Text → Prop,
        (∃ a b, splitString remaining = some [a, b] ∧ P a b) ↔ P userPart servicePart := by
      intro P
      rw [hsplit]
      constructor
      · rintro ⟨a, b, hab, hP⟩
        obtain ⟨rfl, hb⟩ := List.cons.inj (Option.some.inj hab)
        obtain ⟨rfl, -⟩ := List.cons.inj hb
        exact hP
      · exact fun hP => ⟨_, _, rfl, hP⟩
    rw [hexists fun a b => (u.userId = DEFAULT_ID ∨ a = numeral u.userId.toInt) ∧
      (u.serviceId = DEFAULT_SERVICE_ID ∨ b = numeral u.serviceId.toInt)]
    by_cases huser : u.userId = DEFAULT_ID
    · by_cases hservice : u.serviceId = DEFAULT_SERVICE_ID
      · simp [huser, hservice]
      · simp [huser, hservice]
    · by_cases hservice : u.serviceId = DEFAULT_SERVICE_ID
      · simp [huser, hservice]
      · simp [huser, hservice]
  · rename_i hnot
    refine iff_of_false Bool.false_ne_true ?_
    rintro ⟨userPart, servicePart, hsplit, -⟩
    exact hnot userPart servicePart hsplit

/-- The key of a service info is the start for its device, its user and its service. -/
theorem dbKey_eq (v : UserInfo) :
    v.dbKey =
      keyStart v.udid ++ (numeral v.userId.toInt ++ SEPARATOR ++ numeral v.serviceId.toInt) := by
  simp only [UserInfo.dbKey, keyStart, List.append_assoc]

/-- The segments behind the device id. -/
theorem splitOn_ids (v : UserInfo) :
    (numeral v.userId.toInt ++ SEPARATOR ++ numeral v.serviceId.toInt).splitOn separator =
      [numeral v.userId.toInt, numeral v.serviceId.toInt] := by
  rw [SEPARATOR, List.append_assoc, List.singleton_append,
    List.splitOn_append_cons_self_of_not_mem (DbKey.separator_not_mem_numeral _),
    List.splitOn_eq_singleton (DbKey.separator_not_mem_numeral _)]

theorem splitOn_keyStart_append (udid rest : Text) :
    (keyStart udid ++ rest).splitOn separator =
      SERINFO_PREFIX :: (udid.splitOn separator ++ rest.splitOn separator) := by
  have hkey : keyStart udid ++ rest =
      SERINFO_PREFIX ++ separator :: (udid ++ separator :: rest) := by
    simp only [keyStart, SEPARATOR, List.append_assoc, List.cons_append, List.nil_append]
  rw [hkey, List.splitOn_append_cons_self_of_not_mem (by decide), List.splitOn_append_cons_self]

/-- The key of a record without separators in its device id matches exactly the requests for
the device whose ids fit. -/
theorem keyStart_prefix_and_isKeyMatch_iff {u v : UserInfo} (hclean : separator ∉ v.udid) :
    (keyStart u.udid <+: v.dbKey ∧ isKeyMatch (v.dbKey.drop (keyStart u.udid).length) u) ↔
      v.udid = u.udid ∧ IdsFit u v := by
  have hnumeral : ∀ a b : Int32, numeral a.toInt = numeral b.toInt ↔ a = b :=
    fun a b => ⟨fun h => Int32.toInt_inj.mp (numeral_injective h), fun h => by rw [h]⟩
  have hnumeral' : ∀ a b : Int64, numeral a.toInt = numeral b.toInt ↔ a = b :=
    fun a b => ⟨fun h => Int64.toInt_inj.mp (numeral_injective h), fun h => by rw [h]⟩
  constructor
  · rintro ⟨⟨rest, hkey⟩, hmatch⟩
    rw [← hkey, List.drop_left, isKeyMatch_iff] at hmatch
    obtain ⟨userPart, servicePart, hrest, huser, hservice⟩ := hmatch
    have hrest' : rest.splitOn separator = [userPart, servicePart] := by
      rw [splitString] at hrest
      split at hrest
      · cases hrest
      · exact Option.some.inj hrest
    -- the device id of the request has no more segments than that of the record
    have hsegments := congrArg (List.splitOn separator) hkey
    rw [dbKey_eq, splitOn_keyStart_append, splitOn_keyStart_append, splitOn_ids, hrest',
      List.splitOn_eq_singleton hclean, List.cons.injEq] at hsegments
    obtain ⟨hudid, hids⟩ := List.append_inj' hsegments.2 rfl
    have hself : [separator].intercalate (u.udid.splitOn separator) = u.udid :=
      List.intercalate_splitOn separator
    have hjoin : u.udid = v.udid := by
      rw [← hself, hudid, List.intercalate_singleton]
    obtain ⟨rfl, hlast⟩ := List.cons.inj hids
    obtain ⟨rfl, -⟩ := List.cons.inj hlast
    rw [hnumeral] at huser
    rw [hnumeral'] at hservice
    exact ⟨hjoin.symm, huser, hservice⟩
  · rintro ⟨hudid, huser, hservice⟩
    rw [← hudid, dbKey_eq, List.drop_left]
    refine ⟨List.prefix_append _ _, isKeyMatch_iff.mpr
      ⟨numeral v.userId.toInt, numeral v.serviceId.toInt, ?_, ?_, ?_⟩⟩
    · rw [splitString, if_neg (by simp [SEPARATOR]), splitOn_ids]
    · rw [hnumeral]
      exact huser
    · rw [hnumeral']
      exact hservice

/-! ## What a deletion removes -/

/-- The keys of the records that a deletion matches. -/
def deletedKeys (u : UserInfo) (store : Entries) : List Text :=
  matchedKeys u (InfoStore.getEntries store (keyStart u.udid))

/-- The keys that a deletion picks are those in the store that begin for the device and match the
query. -/
theorem mem_deletedKeys {u : UserInfo} {store : Entries} {key : Text} :
    key ∈ deletedKeys u store ↔
      (∃ value, store[key]? = some value) ∧ keyStart u.udid <+: key ∧
        isKeyMatch (key.drop (keyStart u.udid).length) u := by
  rw [deletedKeys, matchedKeys, List.mem_filter, ExtTreeMap.mem_keys,
    ExtTreeMap.mem_iff_isSome_getElem?, InfoStore.getElem?_getEntries, ← Option.isSome_iff_exists]
  by_cases hstart : keyStart u.udid <+: key
  · simp [hstart]
  · simp [hstart]

/-- A deletion names a device, matches a key, and does not scan too many records. -/
def IsDeletable (u : UserInfo) (store : Entries) : Prop :=
  u.udid ≠ [] ∧ deletedKeys u store ≠ [] ∧
    (InfoStore.getEntries store (keyStart u.udid)).size ≤ MAX_DB_SIZE

instance (u : UserInfo) (store : Entries) : Decidable (IsDeletable u store) :=
  inferInstanceAs (Decidable (_ ∧ _))

/-- A deletion picks at most as many keys as begin for the device. -/
theorem length_deletedKeys_le (u : UserInfo) (store : Entries) :
    (deletedKeys u store).length ≤ (InfoStore.getEntries store (keyStart u.udid)).size := by
  rw [← ExtTreeMap.length_keys]
  exact List.length_filter_le _ _

/-- The matching keys are gone from the local store, and for this device from the synchronised
one. -/
theorem deleteServiceInfo_of_isDeletable (localUdid : Text) {u : UserInfo} {m : InfoManager}
    (h : IsDeletable u m.store) :
    m.deleteServiceInfo localUdid u = (.ok (),
      ⟨(deletedKeys u m.store).foldl ExtTreeMap.erase m.store,
        if u.udid = localUdid then (deletedKeys u m.store).foldl ExtTreeMap.erase m.syncStore
        else m.syncStore⟩) := by
  obtain ⟨hudid, hne, hsize⟩ := h
  have hlength := length_deletedKeys_le u m.store
  have hpos := List.length_pos_iff.mpr hne
  have hkeys : (deletedKeys u m.store).length ≤ MAX_PROFILE_SIZE :=
    (hlength.trans hsize).trans (by decide)
  have hscan : InfoStore.getByPrefix (keyStart u.udid) m.store =
      .ok (InfoStore.getEntries m.store (keyStart u.udid)) :=
    InfoStore.getByPrefix_eq_ok_iff.mpr ⟨by omega, hsize, rfl⟩
  have hdelete : InfoStore.deleteBatch (deletedKeys u m.store) m.store = .ok _ :=
    InfoStore.deleteBatch_eq_ok_iff.mpr ⟨⟨hne, hkeys⟩, rfl⟩
  have hsync : m.syncStore.deleteBatch (deletedKeys u m.store) = .ok _ :=
    if_neg (not_or.mpr ⟨hne, Nat.not_lt.mpr hkeys⟩)
  rw [deleteServiceInfo, if_neg hudid, hscan]
  simp only
  rw [← deletedKeys, hdelete]
  simp only
  by_cases hlocal : u.udid = localUdid
  · rw [if_neg (not_not.mpr hlocal), hsync, if_pos hlocal]
  · rw [if_pos hlocal, if_neg hlocal]

/-- Any other deletion is refused and changes nothing. -/
theorem deleteServiceInfo_of_not_isDeletable (localUdid : Text) {u : UserInfo} {m : InfoManager}
    (h : ¬IsDeletable u m.store) : ∃ e, m.deleteServiceInfo localUdid u = (.error e, m) := by
  by_cases hudid : u.udid = []
  · exact ⟨.invalidParams, if_pos hudid⟩
  rw [deleteServiceInfo, if_neg hudid]
  cases hscan : InfoStore.getByPrefix (keyStart u.udid) m.store with
  | error e => exact ⟨.getKvDbFail, rfl⟩
  | ok entries =>
    obtain ⟨-, hsize, rfl⟩ := InfoStore.getByPrefix_eq_ok_iff.mp hscan
    simp only
    rw [← deletedKeys]
    cases hdelete : InfoStore.deleteBatch (deletedKeys u m.store) m.store with
    | error e => exact ⟨.delKvDbFail, rfl⟩
    | ok store =>
      exact absurd ⟨hudid, (InfoStore.deleteBatch_eq_ok_iff.mp hdelete).1.1, hsize⟩ h

/-! ## Runs of calls -/

/-- The calls that write the stores, with the answers of the stores to a put. -/
inductive InfoCall where
  | put (stored syncStored : Bool) (s : ServiceInfo)
  | delete (u : UserInfo)

/-- The device id of a put has no NUL. -/
def InfoCall.HasNoNul : InfoCall → Prop
  | .put _ _ s => '\x00' ∉ s.udid
  | .delete _ => True

variable (json : Json) (localUdid : Text)

/-- One call on a manager; only what it leaves behind is kept. -/
def runCall (m : InfoManager) : InfoCall → InfoManager
  | .put stored syncStored s => (m.putServiceInfo json localUdid stored syncStored s).2
  | .delete u => (m.deleteServiceInfo localUdid u).2

/-- The stores after a run of calls; at first they are empty. -/
def runCalls (calls : List InfoCall) : InfoManager := calls.foldl (runCall json localUdid) {}

/-- Each record was written for its key by a put. -/
def IsWritten (store : Entries) : Prop :=
  ∀ key value : Text, store[key]? = some value → ∃ s : ServiceInfo,
    IsSvrInfoValid s ∧ '\x00' ∉ s.udid ∧ key = s.userInfo.dbKey ∧ value = json.print s.members

variable {json}

/-- A put keeps the store written by puts. -/
theorem isWritten_withRecord {s : ServiceInfo} (hvalid : IsSvrInfoValid s) (hnul : '\x00' ∉ s.udid)
    {store : Entries} (h : IsWritten json store) : IsWritten json (withRecord json s store) := by
  intro key value hentry
  rw [getElem?_withRecord] at hentry
  by_cases hkey : key = s.userInfo.dbKey
  · rw [if_pos hkey] at hentry
    exact ⟨s, hvalid, hnul, hkey, (Option.some.inj hentry).symm⟩
  · rw [if_neg hkey] at hentry
    exact h key value hentry

/-- A deletion keeps the store written by puts. -/
theorem isWritten_foldl_erase {store : Entries} (h : IsWritten json store) (keys : List Text) :
    IsWritten json (keys.foldl ExtTreeMap.erase store) := by
  intro key value hentry
  rw [getElem?_foldl_erase] at hentry
  split at hentry
  · cases hentry
  · exact h key value hentry

/-- Every call keeps the store written by puts. -/
theorem isWritten_runCall {m : InfoManager} (h : IsWritten json m.store) {call : InfoCall}
    (hnul : call.HasNoNul) : IsWritten json (runCall json localUdid m call).store := by
  cases call with
  | put stored syncStored s =>
    rw [runCall, store_putServiceInfo]
    split
    · rename_i hput
      exact isWritten_withRecord hput.1 hnul h
    · exact h
  | delete u =>
    rw [runCall]
    by_cases hok : IsDeletable u m.store
    · rw [deleteServiceInfo_of_isDeletable localUdid hok]
      exact isWritten_foldl_erase h _
    · obtain ⟨e, heq⟩ := deleteServiceInfo_of_not_isDeletable localUdid hok
      rw [heq]
      exact h

/-- After any run of calls whose device ids have no NUL, keys and bodies were written together. -/
theorem isWritten_runCalls {calls : List InfoCall} (hnul : ∀ call ∈ calls, call.HasNoNul) :
    IsWritten json (runCalls json localUdid calls).store := by
  induction calls using List.reverseRecOn with
  | nil =>
    intro key value hentry
    rw [runCalls, List.foldl_nil, ExtTreeMap.getElem?_empty] at hentry
    cases hentry
  | append_singleton calls call ih =>
    rw [runCalls, List.foldl_append]
    exact isWritten_runCall localUdid
      (ih fun c hc => hnul c (List.mem_append_left _ hc))
      (hnul call (List.mem_append_right _ List.mem_cons_self))

/-- What is stored of a service info has the same key. -/
theorem userInfo_stored {s : ServiceInfo} (hnul : '\x00' ∉ s.udid) :
    s.stored.userInfo = s.userInfo := by
  rw [ServiceInfo.userInfo, ServiceInfo.stored, ServiceInfo.userInfo, cStr_eq_self_iff.mpr hnul]

/-- In a store of written records a deletion matches the keys of the infos that a query for the
same request keeps. -/
theorem mem_deletedKeys_iff_mem_infosFor (hjson : json.IsFaithful) {store : Entries}
    (h : IsWritten json store) (u : UserInfo) (key : Text) :
    key ∈ deletedKeys u store ↔
      key ∈ (infosFor json u store).map fun s => s.userInfo.dbKey := by
  rw [mem_deletedKeys, List.mem_map]
  constructor
  · rintro ⟨⟨value, hentry⟩, hmatch⟩
    obtain ⟨s, hvalid, hnul, rfl, rfl⟩ := h key value hentry
    obtain ⟨hudid, hids⟩ := (keyStart_prefix_and_isKeyMatch_iff hvalid.2.2.2).mp hmatch
    refine ⟨s.stored, mem_infosFor.mpr ⟨_, _, hentry, readRecord_print_members hjson s, ?_⟩, ?_⟩
    · rw [IsFor, show s.stored.udid = s.udid from cStr_eq_self_iff.mpr hnul]
      exact ⟨hudid, hids⟩
    · rw [userInfo_stored hnul]
  · rintro ⟨info, hinfo, rfl⟩
    obtain ⟨key, value, hentry, hread, hfor⟩ := mem_infosFor.mp hinfo
    obtain ⟨s, hvalid, hnul, rfl, rfl⟩ := h key value hentry
    rw [readRecord_print_members hjson, Option.some.injEq] at hread
    subst hread
    rw [userInfo_stored hnul]
    refine ⟨⟨_, hentry⟩, (keyStart_prefix_and_isKeyMatch_iff hvalid.2.2.2).mpr ⟨?_, hfor.2⟩⟩
    rw [← hfor.1]
    exact (cStr_eq_self_iff.mpr hnul).symm

/-- A deletion that succeeds removes exactly the records that the query for the same request
would have returned, from the local store and for this device from the synchronised one. -/
theorem deleteServiceInfo_removes_queried (hjson : json.IsFaithful) {calls : List InfoCall}
    (hnul : ∀ call ∈ calls, call.HasNoNul)
    (hsize : (runCalls json localUdid calls).store.size ≤ MAX_DB_SIZE) {u : UserInfo}
    (hdelete : ((runCalls json localUdid calls).deleteServiceInfo localUdid u).1 = .ok ()) :
    ∃ infos,
      (runCalls json localUdid calls).getServiceInfosByUserInfo json u = .ok infos ∧
      (∀ info ∈ infos, info.userInfo.dbKey ∈ (runCalls json localUdid calls).store) ∧
      ∀ key : Text,
        ((runCalls json localUdid calls).deleteServiceInfo localUdid u).2.store[key]? =
          (if key ∈ infos.map fun s => s.userInfo.dbKey then none
          else (runCalls json localUdid calls).store[key]?) ∧
        ((runCalls json localUdid calls).deleteServiceInfo localUdid u).2.syncStore[key]? =
          (if u.udid = localUdid ∧ key ∈ infos.map fun s => s.userInfo.dbKey then none
          else (runCalls json localUdid calls).syncStore[key]?) := by
  have hwritten : IsWritten json (runCalls json localUdid calls).store :=
    isWritten_runCalls localUdid hnul
  generalize runCalls json localUdid calls = m at *
  by_cases hok : IsDeletable u m.store
  swap
  · obtain ⟨e, heq⟩ := deleteServiceInfo_of_not_isDeletable localUdid hok
    rw [heq] at hdelete
    cases hdelete
  have heq := deleteServiceInfo_of_isDeletable localUdid hok
  obtain ⟨hudid, hne, -⟩ := hok
  have hmem := mem_deletedKeys_iff_mem_infosFor hjson hwritten u
  have hread : IsReadable json m.store := by
    intro key value hentry
    obtain ⟨s, -, -, -, rfl⟩ := hwritten key value hentry
    rw [readRecord_print_members hjson]
    rfl
  have hinfos : infosFor json u m.store ≠ [] := by
    obtain ⟨key, hkey⟩ := List.exists_mem_of_ne_nil _ hne
    intro hnil
    rw [hmem, hnil] at hkey
    cases hkey
  refine ⟨infosFor json u m.store,
    getServiceInfosByUserInfo_eq_ok_iff.mpr ⟨hudid, hsize, hread, hinfos, rfl⟩, ?_, ?_⟩
  · intro info hinfo
    have hkey := (hmem _).mpr (List.mem_map.mpr ⟨info, hinfo, rfl⟩)
    obtain ⟨⟨value, hentry⟩, -⟩ := mem_deletedKeys.mp hkey
    exact mem_iff_exists_getElem?.mpr ⟨_, hentry⟩
  · intro key
    rw [heq]
    dsimp only
    refine ⟨?_, ?_⟩
    · rw [getElem?_foldl_erase]
      simp only [hmem]
    · by_cases hlocal : u.udid = localUdid
      · rw [if_pos hlocal, getElem?_foldl_erase]
        simp only [hmem]
        simp only [hlocal, true_and]
      · simp only [hlocal, if_false, false_and]

/-- The service infos of a peer are gone after their deletion. -/
theorem peer_is_deleted :
    let calls := [InfoCall.put true true (sampleInfo 4),
      InfoCall.put true true { sampleInfo 4 with serviceId := 6 }]
    let u : UserInfo := { udid := ("peer" : Text), serviceId := 6 }
    ∃ infos,
      (runCalls flatJson ("local" : Text) calls).getServiceInfosByUserInfo flatJson u = .ok infos ∧
      (∀ info ∈ infos, info.userInfo.dbKey ∈
        (runCalls flatJson ("local" : Text) calls).store) ∧
      ∀ key : Text,
        ((runCalls flatJson ("local" : Text) calls).deleteServiceInfo
            ("local" : Text) u).2.store[key]? =
          (if key ∈ infos.map fun s => s.userInfo.dbKey then none
          else (runCalls flatJson ("local" : Text) calls).store[key]?) ∧
        ((runCalls flatJson ("local" : Text) calls).deleteServiceInfo
            ("local" : Text) u).2.syncStore[key]? =
          (if u.udid = ("local" : Text) ∧ key ∈ infos.map fun s => s.userInfo.dbKey then none
          else (runCalls flatJson ("local" : Text) calls).syncStore[key]?) :=
  deleteServiceInfo_removes_queried ("local" : Text) flatJson_isFaithful
    (by
      intro call hcall
      rcases List.mem_cons.mp hcall with rfl | hcall
      · exact show '\x00' ∉ ("peer" : Text) by decide
      · rw [List.mem_singleton.mp hcall]
        exact show '\x00' ∉ ("peer" : Text) by decide)
    (by decide +kernel) (by decide +kernel)

/-! ## Where a deletion and a query differ -/

/-- The info of a service by its number. -/
def numbered (udid : Text) (n : Nat) : ServiceInfo :=
  { sampleInfo 4 with udid, serviceId := Int64.ofNat n }

/-- Puts that are all stored leave just their records. -/
theorem store_runCalls_puts (json : Json) (localUdid : Text) {infos : List ServiceInfo}
    (hvalid : ∀ s ∈ infos, IsSvrInfoValid s) :
    (runCalls json localUdid (infos.map fun s => .put true true s)).store =
      insertAll (fun s => s.userInfo.dbKey) (fun s => json.print s.members) infos ∅ := by
  induction infos using List.reverseRecOn with
  | nil => rfl
  | append_singleton infos s ih =>
    have hs := hvalid s (List.mem_append_right _ List.mem_cons_self)
    have hrest := ih fun x hx => hvalid x (List.mem_append_left _ hx)
    rw [insertAll_append, ← hrest, List.map_append, runCalls, List.foldl_append, ← runCalls,
      List.map_singleton, List.foldl_cons, List.foldl_nil, runCall, store_putServiceInfo,
      if_pos ⟨hs, rfl⟩]
    rfl

/-- The infos of the services of one device, and one of another device. -/
def manyInfos (count : Nat) : List ServiceInfo :=
  numbered ("other" : Text) 0 :: (List.range count).map (numbered ("peer" : Text))

theorem toInt_ofNat_of_lt_count {n count : Nat} (hn : n < count) (hcount : count < 2 ^ 63) :
    (Int64.ofNat n).toInt = n :=
  Int64.toInt_ofNat_of_lt (hn.trans hcount)

theorem manyInfos_valid {count : Nat} (hcount : count < 2 ^ 63) {s : ServiceInfo}
    (h : s ∈ manyInfos count) : IsSvrInfoValid s := by
  have hsample : IsSvrInfoValid (sampleInfo 4) := by decide
  have hother : IsKeyValid ("other" : Text) := by decide
  obtain ⟨htexts, ⟨huser, hdisplay, howner, hregister, hservice, htime, hstate, hlen⟩, hudid⟩ :=
    hsample
  rcases List.mem_cons.mp h with rfl | h
  · exact ⟨htexts, ⟨huser, hdisplay, howner, hregister, by decide, htime, hstate, hlen⟩, hother⟩
  · obtain ⟨n, hn, rfl⟩ := List.mem_map.mp h
    have hnumber : Int64.ofNat n ≠ DEFAULT_SERVICE_ID := by
      intro heq
      have htoInt := congrArg Int64.toInt heq
      rw [toInt_ofNat_of_lt_count (List.mem_range.mp hn) hcount] at htoInt
      have hdefault : DEFAULT_SERVICE_ID.toInt = -1 := rfl
      omega
    exact ⟨htexts, ⟨huser, hdisplay, howner, hregister, hnumber, htime, hstate, hlen⟩, hudid⟩

/-- The keys of one device do not begin for another. -/
theorem dbKey_numbered_ne (n : Nat) :
    ¬keyStart ("other" : Text) <+: (numbered ("peer" : Text) n).userInfo.dbKey := by
  rintro ⟨rest, h⟩
  have hchar := congrArg (fun key => key[8]?) h
  have hudid : (numbered ("peer" : Text) n).userInfo.udid = ("peer" : Text) := rfl
  rw [dbKey_eq, hudid] at hchar
  exact absurd hchar (by
    rw [List.getElem?_append_left (by decide), List.getElem?_append_left (by decide)]
    decide)

/-- Different services have different keys. -/
theorem nodup_manyInfos {count : Nat} (hcount : count < 2 ^ 63) :
    ((manyInfos count).map fun s => s.userInfo.dbKey).Nodup := by
  rw [manyInfos, List.map_cons, List.nodup_cons, List.map_map]
  constructor
  · intro hmem
    obtain ⟨n, -, hn⟩ := List.mem_map.mp hmem
    refine dbKey_numbered_ne n ?_
    rw [show (numbered ("peer" : Text) n).userInfo.dbKey = _ from hn, dbKey_eq]
    exact List.prefix_append _ _
  · refine List.Nodup.map_on (fun a ha b hb h => ?_) List.nodup_range
    change (numbered ("peer" : Text) a).userInfo.dbKey = (numbered ("peer" : Text) b).userInfo.dbKey
      at h
    rw [dbKey_eq, dbKey_eq] at h
    have hnumeral := numeral_injective (List.append_cancel_left (List.append_cancel_left h))
    change (Int64.ofNat a).toInt = (Int64.ofNat b).toInt at hnumeral
    rw [toInt_ofNat_of_lt_count (List.mem_range.mp ha) hcount,
      toInt_ofNat_of_lt_count (List.mem_range.mp hb) hcount] at hnumeral
    exact Int.ofNat.inj hnumeral

/-- The run that puts all these infos. -/
def manyCalls (count : Nat) : List InfoCall := (manyInfos count).map fun s => .put true true s

/-- A query is refused once the store has too many records. -/
theorem query_manyCalls {count : Nat} (hcount : count < 2 ^ 63) (hmany : MAX_DB_SIZE ≤ count)
    (u : UserInfo) (infos : List ServiceInfo) :
    (runCalls flatJson ("local" : Text) (manyCalls count)).getServiceInfosByUserInfo flatJson u ≠
      .ok infos := by
  intro h
  have hsize := (getServiceInfosByUserInfo_eq_ok_iff.mp h).2.1
  rw [manyCalls, store_runCalls_puts _ _ fun s hs => manyInfos_valid hcount hs] at hsize
  have hlength := length_le_size (nodup_manyInfos hcount) (m := insertAll
    (fun s : ServiceInfo => s.userInfo.dbKey) (fun s => flatJson.print s.members)
    (manyInfos count) ∅) fun key hkey => mem_insertAll.mpr (.inl (List.mem_map.mp hkey))
  have hcard : (manyInfos count).length = count + 1 := by
    rw [manyInfos, List.length_cons, List.length_map, List.length_range]
  rw [List.length_map, hcard] at hlength
  omega

/-- A deletion of the other device is not: it scans just that device. -/
theorem delete_manyCalls {count : Nat} (hcount : count < 2 ^ 63) :
    IsDeletable { udid := ("other" : Text) }
      (runCalls flatJson ("local" : Text) (manyCalls count)).store := by
  have hother : numbered ("other" : Text) 0 ∈ manyInfos count := List.mem_cons_self
  have hmatch := (keyStart_prefix_and_isKeyMatch_iff (u := { udid := ("other" : Text) })
    (v := (numbered ("other" : Text) 0).userInfo) (by decide)).mpr ⟨rfl, .inl rfl, .inl rfl⟩
  rw [manyCalls, store_runCalls_puts _ _ fun s hs => manyInfos_valid hcount hs]
  refine ⟨by decide, ?_, ?_⟩
  · refine List.ne_nil_of_mem (mem_deletedKeys.mpr ⟨Option.isSome_iff_exists.mp ?_, hmatch⟩)
    exact ExtTreeMap.mem_iff_isSome_getElem?.mp (mem_insertAll.mpr (.inl ⟨_, hother, rfl⟩))
  · have hone : ((∅ : Entries).insert (numbered ("other" : Text) 0).userInfo.dbKey []).size ≤
        MAX_DB_SIZE := by
      rw [ExtTreeMap.size_insert]
      decide
    refine (size_le_size fun key hkey => ?_).trans hone
    rw [ExtTreeMap.mem_iff_isSome_getElem?, InfoStore.getElem?_getEntries] at hkey
    split at hkey
    · rename_i hstart
      obtain ⟨value, hvalue⟩ := Option.isSome_iff_exists.mp hkey
      rcases exists_of_getElem?_insertAll hvalue with ⟨s, hs, rfl, -⟩ | hempty
      · rcases List.mem_cons.mp hs with rfl | hs
        · exact ExtTreeMap.mem_insert_self
        · obtain ⟨n, -, rfl⟩ := List.mem_map.mp hs
          exact absurd hstart (dbKey_numbered_ne n)
      · rw [ExtTreeMap.getElem?_empty] at hempty
        cases hempty
    · cases hkey

/-- With a NUL in the device id, and in a store of too many records, a deletion succeeds although
the query for the same request returns nothing. -/
theorem delete_and_query_differ :
    ((runCalls flatJson ("local" : Text)
        [.put true true { sampleInfo 4 with udid := ("peer\x00" : Text) }]).deleteServiceInfo
          ("local" : Text) { udid := ("peer\x00" : Text) }).1 = .ok () ∧
      (runCalls flatJson ("local" : Text)
        [.put true true
          { sampleInfo 4 with udid := ("peer\x00" : Text) }]).getServiceInfosByUserInfo
          flatJson { udid := ("peer\x00" : Text) } = .error .notFindData ∧
      ((runCalls flatJson ("local" : Text) (manyCalls MAX_DB_SIZE)).deleteServiceInfo
          ("local" : Text) { udid := ("other" : Text) }).1 = .ok () ∧
      ¬∃ infos, (runCalls flatJson ("local" : Text)
        (manyCalls MAX_DB_SIZE)).getServiceInfosByUserInfo flatJson
          { udid := ("other" : Text) } = .ok infos := by
  refine ⟨by decide +kernel, by decide +kernel, ?_, ?_⟩
  · rw [deleteServiceInfo_of_isDeletable _ (delete_manyCalls (by decide))]
  · rintro ⟨infos, h⟩
    exact query_manyCalls (by decide) (Nat.le_refl _) _ _ h

end InfoManager

end DeviceProfile.Info
