import DeviceProfile.Info.Delete

/-!
# Changes of the synchronised store

A change that another device has made is taken over into the local store. For an inserted or
updated key the body decides which record is written; for a deleted key the numbers that its
segments are read as decide which records are deleted. So a change stays within the record of
its key only as far as the body and the spelling of the segments agree with the key.
-/

namespace DeviceProfile.Info

open Library Std

namespace InfoManager

variable (json : Json) (localUdid : Text)

/-! ## Keys -/

/-- Of the keys with four segments only those of service infos are taken. -/
def isConverted (dbKey : Text) : Bool :=
  match splitString dbKey with
  | some [first, _, _, _] => first = SERINFO_PREFIX
  | _ => true

/-- The records that are not keys of the manager itself are left out, the last of two records of one
key counts. -/
def convertRecordsToMap (records : List (Text × Text)) : Entries :=
  insertAll Prod.fst Prod.snd (records.filter fun record => isConverted record.1) ∅

/-- What the segments of a key are read as. -/
def parseUserInfo (key : Text) : Option UserInfo :=
  match splitString key with
  | some [_, udid, userPart, servicePart] => some ⟨udid, atoi userPart, atoll servicePart⟩
  | _ => none

/-- The request of a deleted key, and the first info that a query for it finds. -/
def entriesToUserInfo (key : Text) (m : InfoManager) : Option (UserInfo × ServiceInfo) :=
  match parseUserInfo key with
  | none => none
  | some u =>
    match m.getServiceInfosByUserInfo json u with
    | .error _ => none
    | .ok serviceInfos => some (u, serviceInfos.headD {})

/-! ## Changes -/

/-- The values that the synchronised store still has for keys. -/
def getEntriesByKeys (keys : List Text) (m : InfoManager) : List (Text × Text) :=
  keys.filterMap fun key => (m.syncStore.valueAt key).map fun value => (key, value)

/-- One inserted or updated entry; `answers` are those of the two stores to the put for a key.
The infos of other devices are collected. -/
def processEntry (answers : Text → Bool × Bool) (state : InfoManager × List ServiceInfo)
    (entry : Text × Text) : InfoManager × List ServiceInfo :=
  match readRecord json entry.2 with
  | none => state
  | some s =>
    let (result, m) := state.1.putServiceInfo json localUdid (answers entry.1).1
      (answers entry.1).2 s
    if result = .ok () ∧ s.udid ≠ localUdid then (m, state.2 ++ [s]) else (m, state.2)

/-- A change of stored service infos: they are read back from the store and handed on one by one. -/
def processInsertOrUpdate (answers : Text → Bool × Bool) (keyList : List Text)
    (m : InfoManager) : InfoManager × List ServiceInfo :=
  let allEntries := m.getEntriesByKeys keyList
  if allEntries = [] ∨ MAX_DB_RECORD_SIZE < allEntries.length then (m, [])
  else (convertRecordsToMap allEntries).toList.foldl (processEntry json localUdid answers) (m, [])

/-- One deleted key. -/
def processDeletedKey (state : InfoManager × List ServiceInfo) (key : Text) :
    InfoManager × List ServiceInfo :=
  match state.1.entriesToUserInfo json key with
  | none => state
  | some (u, s) =>
    let (result, m) := state.1.deleteServiceInfo localUdid u
    if result = .ok () ∧ u.udid ≠ localUdid then (m, state.2 ++ [s]) else (m, state.2)

/-- A deletion of stored service infos: the keys alone say whose infos are gone. -/
def processDelete (keyList : List Text) (m : InfoManager) : InfoManager × List ServiceInfo :=
  if keyList = [] ∨ MAX_DB_RECORD_SIZE < keyList.length then (m, [])
  else
    (convertRecordsToMap (keyList.map fun key => (key, []))).toList.foldl
      (fun state entry => processDeletedKey json localUdid state entry.1) (m, [])

/-! ## One change -/

variable {json localUdid}

/-- A single record is handed on if it is of a service info. -/
theorem toList_convertRecordsToMap (key value : Text) :
    (convertRecordsToMap [(key, value)]).toList =
      if isConverted key then [(key, value)] else [] := by
  by_cases h : isConverted key
  · have hfilter : ([(key, value)].filter fun record => isConverted record.1) =
        [(key, value)] := by simp [h]
    rw [if_pos h, convertRecordsToMap, hfilter]
    exact toList_insert_empty key value
  · have hfilter : ([(key, value)].filter fun record => isConverted record.1) = [] := by simp [h]
    rw [if_neg h, convertRecordsToMap, hfilter]
    rfl

/-- A deleted key asks for a deletion that is not refused, and a query for it finds infos. -/
def IsDeletionOf (json : Json) (m : InfoManager) (key : Text) (u : UserInfo) : Prop :=
  isConverted key ∧ parseUserInfo key = some u ∧
    (∃ infos, m.getServiceInfosByUserInfo json u = .ok infos) ∧ IsDeletable u m.store

/-- The keys that the deletion of a key matches are gone. -/
theorem store_processDelete {m : InfoManager} {key : Text} {u : UserInfo}
    (h : IsDeletionOf json m key u) :
    (m.processDelete json localUdid [key]).1.store =
      (deletedKeys u m.store).foldl ExtTreeMap.erase m.store := by
  obtain ⟨hconverted, hparse, ⟨infos, hget⟩, hok⟩ := h
  rw [processDelete, if_neg (by simp [MAX_DB_RECORD_SIZE]), List.map_singleton,
    toList_convertRecordsToMap, if_pos hconverted, List.foldl_cons, List.foldl_nil,
    processDeletedKey]
  simp only [entriesToUserInfo, hparse, hget, deleteServiceInfo_of_isDeletable localUdid hok]
  split <;> rfl

/-- Without such a request nothing is deleted. -/
theorem store_processDelete_of_not {m : InfoManager} {key : Text}
    (h : ∀ u, ¬IsDeletionOf json m key u) :
    (m.processDelete json localUdid [key]).1.store = m.store := by
  rw [processDelete, if_neg (by simp [MAX_DB_RECORD_SIZE]), List.map_singleton,
    toList_convertRecordsToMap]
  by_cases hconverted : isConverted key
  · rw [if_pos hconverted, List.foldl_cons, List.foldl_nil, processDeletedKey]
    cases hparse : parseUserInfo key with
    | none => simp only [entriesToUserInfo, hparse]
    | some u =>
      cases hget : m.getServiceInfosByUserInfo json u with
      | error e => simp only [entriesToUserInfo, hparse, hget]
      | ok infos =>
        have hnot : ¬IsDeletable u m.store :=
          fun hok => h u ⟨hconverted, hparse, ⟨infos, hget⟩, hok⟩
        obtain ⟨e, heq⟩ := deleteServiceInfo_of_not_isDeletable localUdid hnot
        simp only [entriesToUserInfo, hparse, hget, heq]
        split <;> rfl
  · rw [if_neg hconverted]
    rfl

/-- A deleted key removes at most its own record exactly if the request read from it matches no
other stored key. -/
theorem processDelete_touches_own_iff {m : InfoManager} {key : Text} :
    (∀ k ≠ key, (m.processDelete json localUdid [key]).1.store[k]? = m.store[k]?) ↔
      ∀ u, IsDeletionOf json m key u → ∀ k ∈ deletedKeys u m.store, k = key := by
  by_cases hany : ∃ u, IsDeletionOf json m key u
  · obtain ⟨u, hu⟩ := hany
    have hunique : ∀ v, IsDeletionOf json m key v → v = u :=
      fun v hv => Option.some.inj (hv.2.1.symm.trans hu.2.1)
    rw [store_processDelete hu]
    simp only [getElem?_foldl_erase]
    constructor
    · intro h v hv k hk
      obtain rfl := hunique v hv
      by_contra hne
      obtain ⟨⟨value, hvalue⟩, -⟩ := mem_deletedKeys.mp hk
      have hkept := h k hne
      rw [if_pos hk, hvalue] at hkept
      cases hkept
    · intro h k hne
      rw [if_neg fun hk => hne (h u hu k hk)]
  · rw [store_processDelete_of_not fun u hu => hany ⟨u, hu⟩]
    exact iff_of_true (fun k _ => rfl) fun u hu => absurd ⟨u, hu⟩ hany

/-- A changed key whose value is read as a valid info that the store takes. -/
def IsPutOf (json : Json) (answers : Text → Bool × Bool) (m : InfoManager) (key : Text)
    (s : ServiceInfo) : Prop :=
  isConverted key ∧ (answers key).1 = true ∧ IsSvrInfoValid s ∧
    ∃ value, m.syncStore.valueAt key = some value ∧ readRecord json value = some s

/-- The record of the info that is read from the body is written. -/
theorem store_processInsertOrUpdate {answers : Text → Bool × Bool} {m : InfoManager} {key : Text}
    {s : ServiceInfo} (h : IsPutOf json answers m key s) :
    (m.processInsertOrUpdate json localUdid answers [key]).1.store =
      withRecord json s m.store := by
  obtain ⟨hconverted, hanswer, hvalid, value, hvalue, hread⟩ := h
  have hentries : m.getEntriesByKeys [key] = [(key, value)] := by
    rw [getEntriesByKeys, List.filterMap_cons, hvalue]
    rfl
  have hput := store_putServiceInfo json localUdid (answers key).1 (answers key).2 s m
  rw [if_pos ⟨hvalid, hanswer⟩] at hput
  rw [processInsertOrUpdate, hentries, if_neg (by simp [MAX_DB_RECORD_SIZE]),
    toList_convertRecordsToMap, if_pos hconverted, List.foldl_cons, List.foldl_nil, processEntry]
  simp only [hread]
  split
  · exact hput
  · exact hput

/-- Without such an info nothing is written. -/
theorem store_processInsertOrUpdate_of_not {answers : Text → Bool × Bool} {m : InfoManager}
    {key : Text} (h : ∀ s, ¬IsPutOf json answers m key s) :
    (m.processInsertOrUpdate json localUdid answers [key]).1.store = m.store := by
  cases hvalue : m.syncStore.valueAt key with
  | none =>
    have hentries : m.getEntriesByKeys [key] = [] := by
      rw [getEntriesByKeys, List.filterMap_cons, hvalue]
      rfl
    rw [processInsertOrUpdate, hentries, if_pos (.inl rfl)]
  | some value =>
    have hentries : m.getEntriesByKeys [key] = [(key, value)] := by
      rw [getEntriesByKeys, List.filterMap_cons, hvalue]
      rfl
    rw [processInsertOrUpdate, hentries, if_neg (by simp [MAX_DB_RECORD_SIZE]),
      toList_convertRecordsToMap]
    by_cases hconverted : isConverted key
    · rw [if_pos hconverted, List.foldl_cons, List.foldl_nil, processEntry]
      cases hread : readRecord json value with
      | none => simp only
      | some s =>
        have hput := store_putServiceInfo json localUdid (answers key).1 (answers key).2 s m
        rw [if_neg fun hok => h s ⟨hconverted, hok.2, hok.1, value, hvalue, hread⟩] at hput
        simp only
        split
        · exact hput
        · exact hput
    · rw [if_neg hconverted]
      rfl

/-- A changed entry writes at most its own record exactly if the info in its body has the key of
the entry, or is stored already. -/
theorem processInsertOrUpdate_touches_own_iff {answers : Text → Bool × Bool} {m : InfoManager}
    {key : Text} :
    (∀ k ≠ key, (m.processInsertOrUpdate json localUdid answers [key]).1.store[k]? =
        m.store[k]?) ↔
      ∀ s, IsPutOf json answers m key s →
        s.userInfo.dbKey = key ∨
          m.store[s.userInfo.dbKey]? = some (json.print s.members) := by
  by_cases hany : ∃ s, IsPutOf json answers m key s
  · obtain ⟨s, hs⟩ := hany
    have hunique : ∀ t, IsPutOf json answers m key t → t = s := by
      rintro t ⟨-, -, -, value, hvalue, hread⟩
      obtain ⟨-, -, -, value', hvalue', hread'⟩ := hs
      obtain rfl := Option.some.inj (hvalue.symm.trans hvalue')
      exact Option.some.inj (hread.symm.trans hread')
    rw [store_processInsertOrUpdate hs]
    simp only [getElem?_withRecord]
    constructor
    · intro h t ht
      obtain rfl := hunique t ht
      by_cases hkey : t.userInfo.dbKey = key
      · exact .inl hkey
      · have hkept := h _ hkey
        rw [if_pos rfl] at hkept
        exact .inr hkept.symm
    · intro h k hne
      split
      · rename_i hk
        subst hk
        rcases h s hs with hkey | hsame
        · exact absurd hkey hne
        · exact hsame.symm
      · rfl
  · rw [store_processInsertOrUpdate_of_not fun s hs => hany ⟨s, hs⟩]
    exact iff_of_true (fun k _ => rfl) fun s hs => absurd ⟨s, hs⟩ hany

/-- When a change of the synchronised store stays within the record of its key. -/
theorem change_touches_own_iff (json : Json) (localUdid : Text) (answers : Text → Bool × Bool)
    (m : InfoManager) (key : Text) :
    ((∀ k ≠ key, (m.processDelete json localUdid [key]).1.store[k]? = m.store[k]?) ↔
      ∀ u, IsDeletionOf json m key u → ∀ k ∈ deletedKeys u m.store, k = key) ∧
    ((∀ k ≠ key, (m.processInsertOrUpdate json localUdid answers [key]).1.store[k]? =
        m.store[k]?) ↔
      ∀ s, IsPutOf json answers m key s →
        s.userInfo.dbKey = key ∨
          m.store[s.userInfo.dbKey]? = some (json.print s.members)) :=
  ⟨processDelete_touches_own_iff, processInsertOrUpdate_touches_own_iff⟩

/-- The record of a peer's service, and that of another user's service. -/
def twoRecords : InfoManager :=
  runCalls flatJson ("local" : Text) [.put true true (sampleInfo 4),
    .put true true { sampleInfo 4 with userId := 101, serviceId := 6 }]

/-- The entry of one service whose body is about another device. -/
def foreignBody : InfoManager where
  syncStore := (∅ : KvStore).insert ("serInfo#peer#100#5" : Text)
    ⟨flatJson.print { sampleInfo 4 with udid := ("other" : Text) }.members, ("peer" : Text)⟩

/-- A deleted key with wildcards deletes the records of a device, and an entry about one device
writes the record of another one. -/
theorem change_touches_others :
    twoRecords.store[("serInfo#peer#100#5" : Text)]? ≠ none ∧
      twoRecords.store[("serInfo#peer#101#6" : Text)]? ≠ none ∧
      (twoRecords.processDelete flatJson ("local" : Text)
        [("serInfo#peer#-1#-1" : Text)]).1.store[("serInfo#peer#100#5" : Text)]? = none ∧
      (twoRecords.processDelete flatJson ("local" : Text)
        [("serInfo#peer#-1#-1" : Text)]).1.store[("serInfo#peer#101#6" : Text)]? = none ∧
      foreignBody.store[("serInfo#other#100#5" : Text)]? = none ∧
      (foreignBody.processInsertOrUpdate flatJson ("local" : Text) (fun _ => (true, true))
        [("serInfo#peer#100#5" : Text)]).1.store[("serInfo#other#100#5" : Text)]? ≠ none := by
  decide +kernel

end InfoManager

end DeviceProfile.Info
