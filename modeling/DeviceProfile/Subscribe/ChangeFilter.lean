import DeviceProfile.Profile.Store
import DeviceProfile.Subscribe.Notify

/-!
# Filtering a batch of changes

A profile whose name can have the suffix may be stored twice, with the suffix and without it, but
its subscribers are to hear of it once. A key with the suffix takes the place of the key without
it, whether the two come in one batch or the first is only in the store. A name that ends in the
suffix may itself be what is left when the suffix is taken off another one: then a key is crossed
out that nothing takes the place of.
-/

namespace DeviceProfile

open Library Std

/-! ## The name in a key -/

/-- The third segment of a key, empty when there is none. -/
def keyName (dbKey : Text) : Text := (dbKey.splitOn separator)[2]?.getD []

/-- Put another name into a key; a key with fewer segments stays. -/
def renameKey (dbKey name : Text) : Text := joinString ((dbKey.splitOn separator).set 2 name)

/-- The name in the key has the suffix. -/
def IsOhKey (dbKey : Text) : Prop := OH_PROFILE_SUFFIX <:+ keyName dbKey

instance (dbKey : Text) : Decidable (IsOhKey dbKey) := inferInstanceAs (Decidable (_ <:+ _))

/-- The key with the suffix added to its name. -/
def suffixKey (dbKey : Text) : Text := renameKey dbKey (keyName dbKey ++ OH_PROFILE_SUFFIX)

theorem separator_not_mem_keyName (dbKey : Text) : separator ∉ keyName dbKey := by
  rw [keyName]
  cases hname : (dbKey.splitOn separator)[2]? with
  | none => exact List.not_mem_nil
  | some name => exact separator_not_mem_of_mem_splitOn (List.mem_of_getElem? hname)

/-- Only the name is replaced. -/
theorem splitOn_renameKey {name : Text} (h : separator ∉ name) (dbKey : Text) :
    (renameKey dbKey name).splitOn separator = (dbKey.splitOn separator).set 2 name := by
  refine List.splitOn_intercalate separator (fun segment hsegment => ?_) ?_
  · rcases List.mem_or_eq_of_mem_set hsegment with hsegment | rfl
    · exact separator_not_mem_of_mem_splitOn hsegment
    · exact h
  · rw [ne_eq, List.set_eq_nil_iff]
    exact List.splitOn_ne_nil _ _

theorem renameKey_renameKey {name : Text} (h : separator ∉ name) (dbKey name' : Text) :
    renameKey (renameKey dbKey name) name' = renameKey dbKey name' := by
  rw [renameKey, splitOn_renameKey h, List.set_set, renameKey]

theorem renameKey_keyName (dbKey : Text) : renameKey dbKey (keyName dbKey) = dbKey := by
  have hset : (dbKey.splitOn separator).set 2 (keyName dbKey) = dbKey.splitOn separator := by
    refine List.ext_getElem? fun i => ?_
    rw [List.getElem?_set]
    split
    · rename_i hi
      subst hi
      rw [keyName]
      split
      · rename_i hlength
        rw [List.getElem?_eq_getElem hlength]
        rfl
      · rename_i hlength
        rw [List.getElem?_eq_none (Nat.not_lt.mp hlength)]
    · rfl
  rw [renameKey, hset]
  exact List.intercalate_splitOn separator

theorem keyName_renameKey {name dbKey : Text} (h : separator ∉ name)
    (hlength : 2 < (dbKey.splitOn separator).length) : keyName (renameKey dbKey name) = name := by
  rw [keyName, splitOn_renameKey h, List.getElem?_set_self hlength]
  rfl

/-- The subscriptions are looked up under the key with the suffix taken off its name. -/
theorem dbKeyToSubcribeKey_eq_renameKey (dbKey : Text) :
    dbKeyToSubcribeKey dbKey = renameKey dbKey (checkAndRemoveOhSuffix (keyName dbKey)) := by
  have hshort : (dbKey.splitOn separator).length ≤ 2 →
      ∀ name, renameKey dbKey name = dbKey := by
    intro hlength name
    rw [renameKey, List.set_eq_of_length_le hlength]
    exact List.intercalate_splitOn separator
  rw [dbKeyToSubcribeKey, splitString]
  by_cases hempty : dbKey = []
  · rw [if_pos hempty]
    refine (hshort ?_ _).symm
    rw [hempty, List.splitOn_nil]
    decide
  · rw [if_neg hempty]
    dsimp only
    split
    · rfl
    · rename_i hlength
      exact (hshort (Nat.not_lt.mp hlength) _).symm

theorem IsOhKey.length_splitOn {dbKey : Text} (h : IsOhKey dbKey) :
    2 < (dbKey.splitOn separator).length := by
  by_contra hlength
  rw [IsOhKey, keyName, List.getElem?_eq_none (Nat.not_lt.mp hlength)] at h
  exact absurd (List.suffix_nil.mp h) (by decide)

theorem separator_not_mem_suffixed (dbKey : Text) :
    separator ∉ keyName dbKey ++ OH_PROFILE_SUFFIX := by
  rw [List.mem_append, not_or]
  exact ⟨separator_not_mem_keyName dbKey, by decide⟩

/-- Removing the suffix undoes adding it. -/
theorem checkAndRemoveOhSuffix_append (name : Text) :
    checkAndRemoveOhSuffix (name ++ OH_PROFILE_SUFFIX) = name := by
  rw [checkAndRemoveOhSuffix, if_pos (List.suffix_append _ _), List.length_append,
    Nat.add_sub_cancel, List.take_left]

theorem keyName_suffixKey {dbKey : Text} (h : 2 < (dbKey.splitOn separator).length) :
    keyName (suffixKey dbKey) = keyName dbKey ++ OH_PROFILE_SUFFIX :=
  keyName_renameKey (separator_not_mem_suffixed dbKey) h

/-- The suffix makes a key one with the suffix. -/
theorem isOhKey_suffixKey {dbKey : Text} (h : 2 < (dbKey.splitOn separator).length) :
    IsOhKey (suffixKey dbKey) := by
  rw [IsOhKey, keyName_suffixKey h]
  exact List.suffix_append _ _

/-- Subscribers hear of a key with the suffix under the key without it. -/
theorem dbKeyToSubcribeKey_suffixKey {dbKey : Text} (h : 2 < (dbKey.splitOn separator).length) :
    dbKeyToSubcribeKey (suffixKey dbKey) = dbKey := by
  rw [dbKeyToSubcribeKey_eq_renameKey, keyName_suffixKey h, checkAndRemoveOhSuffix_append,
    suffixKey, renameKey_renameKey (separator_not_mem_suffixed dbKey), renameKey_keyName]

/-- A key with the suffix is the key it is looked up under with the suffix. -/
theorem IsOhKey.suffixKey_dbKeyToSubcribeKey {dbKey : Text} (h : IsOhKey dbKey) :
    suffixKey (dbKeyToSubcribeKey dbKey) = dbKey := by
  have hlength := h.length_splitOn
  have hkeyName := renameKey_keyName dbKey
  have hclean := separator_not_mem_keyName dbKey
  obtain ⟨front, hfront⟩ := h
  rw [← hfront] at hkeyName hclean
  have hfrontClean : separator ∉ front := fun hmem =>
    hclean (List.mem_append_left _ hmem)
  rw [dbKeyToSubcribeKey_eq_renameKey, ← hfront, checkAndRemoveOhSuffix_append, suffixKey,
    keyName_renameKey hfrontClean hlength, renameKey_renameKey hfrontClean, hkeyName]

/-- A key without the suffix is looked up under itself. -/
theorem dbKeyToSubcribeKey_of_not_isOhKey {dbKey : Text} (h : ¬IsOhKey dbKey) :
    dbKeyToSubcribeKey dbKey = dbKey := by
  rw [dbKeyToSubcribeKey_eq_renameKey, (checkAndRemoveOhSuffix_eq_iff _).mpr h,
    renameKey_keyName]

/-! ## The filter -/

/-- A key of a property of a profile, other than the property of a characteristic that repeats
its key. -/
def IsAcceptedKey (dbKey : Text) : Prop :=
  let res := dbKey.splitOn separator
  ¬res.length < 3 ∧
    ¬(res.head? ≠ some DEV_PREFIX ∧ res.head? ≠ some SVR_PREFIX ∧ res.head? ≠ some CHAR_PREFIX) ∧
      ¬(res.head? = some CHAR_PREFIX ∧ res[4]? = some CHARACTERISTIC_KEY)

instance (dbKey : Text) : Decidable (IsAcceptedKey dbKey) := inferInstanceAs (Decidable (_ ∧ _))

/-- The key gets the suffix when its profile is stored. -/
def NeedsOhSuffix (dbKey : Text) : Prop :=
  IsNeedAddOhSuffix (keyName dbKey) ((dbKey.splitOn separator).head? = some SVR_PREFIX)

instance (dbKey : Text) : Decidable (NeedsOhSuffix dbKey) :=
  inferInstanceAs (Decidable (IsNeedAddOhSuffix _ _))

/-- What is gathered from the records of a batch. -/
structure FilterState where
  entriesMap : Entries := ∅
  ohSuffix2NonMaps : Entries := ∅
  non2OhSuffixMaps : Entries := ∅

/-- A record is sorted in unless its key is too short, of no known kind, or that of the key of a
characteristic. -/
def filterRecord (s : FilterState) (item : Text × Text) : FilterState :=
  match splitString item.1 with
  | none => s
  | some res =>
    if res.length < 3 then s
    else if res.head? ≠ some DEV_PREFIX ∧ res.head? ≠ some SVR_PREFIX ∧
        res.head? ≠ some CHAR_PREFIX then s
    else if res.head? = some CHAR_PREFIX ∧ res[4]? = some CHARACTERISTIC_KEY then s
    else
      let s := { s with entriesMap := s.entriesMap.insert item.1 item.2 }
      let name := res[2]?.getD []
      let isSvr : Bool := res.head? = some SVR_PREFIX
      if OH_PROFILE_SUFFIX <:+ name then
        { s with
          ohSuffix2NonMaps := s.ohSuffix2NonMaps.insert item.1
            (joinString (res.set 2 (checkAndRemoveOhSuffix name))) }
      else if IsNeedAddOhSuffix name isSvr then
        { s with
          non2OhSuffixMaps := s.non2OhSuffixMaps.insert item.1
            (joinString (res.set 2 (checkAndAddOhSuffix name isSvr))) }
      else s

/-- The entries under those of the keys that are in the store. -/
def KvStore.getEntriesByKeys (store : KvStore) (keys : List Text) : List (Text × Text) :=
  keys.filterMap fun key => (store.valueAt key).map (key, ·)

/-- Each suffixed key of the batch crosses out the key without the suffix; unless the batch is one
of deletions, so does a suffixed key in the store. -/
def filterEntries (store : KvStore) (records : List (Text × Text)) (entriesMap : Entries)
    (isDelete : Bool) : Entries :=
  let s := records.foldl filterRecord { entriesMap }
  let nonOhSuffixKeys := s.ohSuffix2NonMaps.toList.map Prod.snd
  let entriesMap := nonOhSuffixKeys.foldl ExtTreeMap.erase s.entriesMap
  let non2OhSuffixMaps := nonOhSuffixKeys.foldl ExtTreeMap.erase s.non2OhSuffixMaps
  if isDelete then entriesMap
  else if non2OhSuffixMaps.isEmpty then entriesMap
  else
    let ohSuffix2NonMaps := insertAll Prod.snd Prod.fst non2OhSuffixMaps.toList (∅ : Entries)
    let ohSuffixKeys := non2OhSuffixMaps.toList.map Prod.snd
    let entries := store.getEntriesByKeys ohSuffixKeys
    if entries.isEmpty then entriesMap
    else
      (entries.map fun item => ohSuffix2NonMaps[item.1]?.getD []).foldl ExtTreeMap.erase entriesMap

/-! ## What is gathered -/

/-- A record that is not accepted is left out. -/
theorem filterRecord_of_not_accepted {item : Text × Text} (h : ¬IsAcceptedKey item.1)
    (s : FilterState) : filterRecord s item = s := by
  rw [filterRecord, splitString]
  by_cases hempty : item.1 = []
  · rw [if_pos hempty]
  · rw [if_neg hempty]
    dsimp only
    split
    · rfl
    · split
      · rfl
      · split
        · rfl
        · exact absurd ⟨‹_›, ‹_›, ‹_›⟩ h

/-- An accepted record goes into the map, and into one of the two lists. -/
theorem filterRecord_of_accepted {item : Text × Text} (h : IsAcceptedKey item.1)
    (s : FilterState) :
    filterRecord s item =
      { entriesMap := s.entriesMap.insert item.1 item.2
        ohSuffix2NonMaps :=
          if IsOhKey item.1 then
            s.ohSuffix2NonMaps.insert item.1 (dbKeyToSubcribeKey item.1)
          else s.ohSuffix2NonMaps
        non2OhSuffixMaps :=
          if ¬IsOhKey item.1 ∧ NeedsOhSuffix item.1 then
            s.non2OhSuffixMaps.insert item.1 (suffixKey item.1)
          else s.non2OhSuffixMaps } := by
  have hempty : item.1 ≠ [] := by
    intro hempty
    refine h.1 ?_
    rw [hempty, List.splitOn_nil]
    decide
  rw [filterRecord, splitString, if_neg hempty]
  dsimp only
  rw [if_neg h.1, if_neg h.2.1, if_neg h.2.2, dbKeyToSubcribeKey_eq_renameKey]
  by_cases hoh : IsOhKey item.1
  · have hname : OH_PROFILE_SUFFIX <:+ ((item.1.splitOn separator)[2]?.getD []) := hoh
    rw [if_pos hname, if_pos hoh, if_neg fun hneg => hneg.1 hoh]
    rfl
  · have hname : ¬OH_PROFILE_SUFFIX <:+ ((item.1.splitOn separator)[2]?.getD []) := hoh
    rw [if_neg hname, if_neg hoh]
    by_cases hneeds : NeedsOhSuffix item.1
    · have hneed : IsNeedAddOhSuffix ((item.1.splitOn separator)[2]?.getD [])
          ((item.1.splitOn separator).head? = some SVR_PREFIX) := hneeds
      rw [if_pos hneed, if_pos ⟨hoh, hneeds⟩, checkAndAddOhSuffix, if_pos hneed]
      rfl
    · have hneed : ¬IsNeedAddOhSuffix ((item.1.splitOn separator)[2]?.getD [])
          ((item.1.splitOn separator).head? = some SVR_PREFIX) := hneeds
      rw [if_neg hneed, if_neg fun hneg => hneeds hneg.2]

/-- The records that are accepted. -/
def acceptedRecords (records : List (Text × Text)) : List (Text × Text) :=
  records.filter fun item => IsAcceptedKey item.1

/-- Each map holds the accepted records of its kind. -/
theorem foldl_filterRecord (records : List (Text × Text)) (s : FilterState) :
    records.foldl filterRecord s =
      { entriesMap := insertAll Prod.fst Prod.snd (acceptedRecords records) s.entriesMap
        ohSuffix2NonMaps :=
          insertAll Prod.fst (fun item => dbKeyToSubcribeKey item.1)
            ((acceptedRecords records).filter fun item => IsOhKey item.1) s.ohSuffix2NonMaps
        non2OhSuffixMaps :=
          insertAll Prod.fst (fun item => suffixKey item.1)
            ((acceptedRecords records).filter fun item => ¬IsOhKey item.1 ∧ NeedsOhSuffix item.1)
            s.non2OhSuffixMaps } := by
  induction records generalizing s with
  | nil => rfl
  | cons item rest ih =>
    rw [List.foldl_cons, ih]
    by_cases haccepted : IsAcceptedKey item.1
    · have hrecords : acceptedRecords (item :: rest) = item :: acceptedRecords rest := by
        simp [acceptedRecords, haccepted]
      rw [filterRecord_of_accepted haccepted, hrecords]
      by_cases hoh : IsOhKey item.1 <;> by_cases hneeds : NeedsOhSuffix item.1 <;>
        simp [hoh, hneeds, insertAll]
    · have hrecords : acceptedRecords (item :: rest) = acceptedRecords rest := by
        simp [acceptedRecords, haccepted]
      rw [filterRecord_of_not_accepted haccepted, hrecords]

/-! ## What is let through -/

theorem mem_acceptedRecords {records : List (Text × Text)} {item : Text × Text} :
    item ∈ acceptedRecords records ↔ item ∈ records ∧ IsAcceptedKey item.1 := by
  rw [acceptedRecords, List.mem_filter, decide_eq_true_iff]

theorem IsAcceptedKey.length_splitOn {dbKey : Text} (h : IsAcceptedKey dbKey) :
    2 < (dbKey.splitOn separator).length :=
  Nat.lt_of_succ_le (Nat.not_lt.mp h.1)

/-- The suffix tells apart what was apart. -/
theorem IsAcceptedKey.eq_of_suffixKey_eq {dbKey dbKey' : Text} (h : IsAcceptedKey dbKey)
    (h' : IsAcceptedKey dbKey') (heq : suffixKey dbKey = suffixKey dbKey') : dbKey = dbKey' := by
  rw [← dbKeyToSubcribeKey_suffixKey h.length_splitOn, heq,
    dbKeyToSubcribeKey_suffixKey h'.length_splitOn]

section LetThrough

variable (store : KvStore) (records : List (Text × Text)) (isDelete : Bool)

/-- The accepted records with the suffix cross a key out. -/
def IsCrossedOut (dbKey : Text) : Prop :=
  ∃ item ∈ acceptedRecords records, IsOhKey item.1 ∧ dbKeyToSubcribeKey item.1 = dbKey

instance (dbKey : Text) : Decidable (IsCrossedOut records dbKey) :=
  inferInstanceAs (Decidable (∃ item ∈ acceptedRecords records, _))

/-- The store has the key with the suffix for a key that gets it. -/
def IsShadowed (dbKey : Text) : Prop :=
  ¬IsOhKey dbKey ∧ NeedsOhSuffix dbKey ∧ suffixKey dbKey ∈ store

instance (dbKey : Text) : Decidable (IsShadowed store dbKey) :=
  inferInstanceAs (Decidable (_ ∧ _))

/-- Neither the batch nor the store takes the place of the key. -/
def Survives (dbKey : Text) : Prop :=
  ¬IsCrossedOut records dbKey ∧ (isDelete ∨ ¬IsShadowed store dbKey)

instance (dbKey : Text) : Decidable (Survives store records isDelete dbKey) :=
  inferInstanceAs (Decidable (_ ∧ _))

/-- The keys without the suffix that the batch crosses out. -/
def nonOhSuffixKeys : List Text :=
  (records.foldl filterRecord {}).ohSuffix2NonMaps.toList.map Prod.snd

/-- The keys without the suffix that are crossed out. -/
theorem mem_nonOhSuffixKeys (dbKey : Text) :
    dbKey ∈ nonOhSuffixKeys records ↔ IsCrossedOut records dbKey := by
  rw [nonOhSuffixKeys, foldl_filterRecord]
  constructor
  · intro hmem
    obtain ⟨entry, hentry, rfl⟩ := List.mem_map.mp hmem
    rcases exists_of_getElem?_insertAll (ExtTreeMap.mem_toList_iff_getElem?_eq_some.mp hentry) with
      ⟨item, hitem, -, hval⟩ | hnone
    · obtain ⟨hitem, hoh⟩ := List.mem_filter.mp hitem
      exact ⟨item, hitem, of_decide_eq_true hoh, hval⟩
    · rw [ExtTreeMap.getElem?_empty] at hnone
      cases hnone
  · rintro ⟨item, hitem, hoh, rfl⟩
    have hfilter : item ∈ (acceptedRecords records).filter fun item => IsOhKey item.1 :=
      List.mem_filter.mpr ⟨hitem, decide_eq_true hoh⟩
    have hval : ∀ y ∈ (acceptedRecords records).filter fun item => IsOhKey item.1,
        y.1 = item.1 → dbKeyToSubcribeKey y.1 = dbKeyToSubcribeKey item.1 :=
      fun y _ hkey => by rw [hkey]
    have hget := getElem?_insertAll_of_mem hfilter hval (∅ : Entries)
    exact List.mem_map.mpr ⟨_, ExtTreeMap.mem_toList_iff_getElem?_eq_some.mpr hget, rfl⟩

/-- The keys that get the suffix and are still to be looked up. -/
def non2OhSuffixMaps : Entries :=
  (nonOhSuffixKeys records).foldl ExtTreeMap.erase
    (records.foldl filterRecord {}).non2OhSuffixMaps

/-- The keys without the suffix that are looked up with it. -/
theorem getElem?_non2OhSuffixMaps {dbKey ohKey : Text} :
    (non2OhSuffixMaps records)[dbKey]? = some ohKey ↔
      (∃ item ∈ acceptedRecords records, item.1 = dbKey) ∧ ¬IsOhKey dbKey ∧ NeedsOhSuffix dbKey ∧
        ¬IsCrossedOut records dbKey ∧ suffixKey dbKey = ohKey := by
  rw [non2OhSuffixMaps, getElem?_foldl_erase, foldl_filterRecord]
  have hmem := mem_nonOhSuffixKeys records dbKey
  by_cases hcrossed : IsCrossedOut records dbKey
  · rw [if_pos (hmem.mpr hcrossed)]
    exact iff_of_false nofun fun h => h.2.2.2.1 hcrossed
  · rw [if_neg fun h => hcrossed (hmem.mp h)]
    constructor
    · intro hget
      rcases exists_of_getElem?_insertAll hget with ⟨item, hitem, rfl, rfl⟩ | hnone
      · obtain ⟨hitem, hkind⟩ := List.mem_filter.mp hitem
        obtain ⟨hoh, hneeds⟩ := of_decide_eq_true hkind
        exact ⟨⟨item, hitem, rfl⟩, hoh, hneeds, hcrossed, rfl⟩
      · rw [ExtTreeMap.getElem?_empty] at hnone
        cases hnone
    · rintro ⟨⟨item, hitem, rfl⟩, hoh, hneeds, -, rfl⟩
      have hfilter : item ∈ (acceptedRecords records).filter
          fun item => ¬IsOhKey item.1 ∧ NeedsOhSuffix item.1 :=
        List.mem_filter.mpr ⟨hitem, decide_eq_true ⟨hoh, hneeds⟩⟩
      exact getElem?_insertAll_of_mem hfilter (fun y _ hkey => by rw [hkey]) ∅

/-- The keys without the suffix of the keys with the suffix that are found in the store. -/
def shadowedKeys : List Text :=
  let ohSuffix2NonMaps :=
    insertAll Prod.snd Prod.fst (non2OhSuffixMaps records).toList (∅ : Entries)
  (store.getEntriesByKeys ((non2OhSuffixMaps records).toList.map Prod.snd)).map
    fun item => ohSuffix2NonMaps[item.1]?.getD []

theorem mem_getEntriesByKeys {keys : List Text} {item : Text × Text} :
    item ∈ store.getEntriesByKeys keys ↔
      item.1 ∈ keys ∧ store.valueAt item.1 = some item.2 := by
  rw [KvStore.getEntriesByKeys, List.mem_filterMap]
  constructor
  · rintro ⟨key, hkey, hsome⟩
    obtain ⟨value, hvalue, rfl⟩ := Option.map_eq_some_iff.mp hsome
    exact ⟨hkey, hvalue⟩
  · rintro ⟨hkey, hvalue⟩
    exact ⟨item.1, hkey, by rw [hvalue, Option.map_some]⟩

/-- The key without the suffix is found again under the key with it. -/
theorem getElem?_insertAll_non2OhSuffixMaps {dbKey ohKey : Text}
    (h : (non2OhSuffixMaps records)[dbKey]? = some ohKey) :
    (insertAll Prod.snd Prod.fst (non2OhSuffixMaps records).toList (∅ : Entries))[ohKey]? =
      some dbKey := by
  have haccepted : ∀ {dbKey ohKey : Text}, (non2OhSuffixMaps records)[dbKey]? = some ohKey →
      IsAcceptedKey dbKey ∧ suffixKey dbKey = ohKey := by
    intro dbKey ohKey hget
    obtain ⟨⟨item, hitem, rfl⟩, -, -, -, hsuffix⟩ := (getElem?_non2OhSuffixMaps records).mp hget
    exact ⟨(mem_acceptedRecords.mp hitem).2, hsuffix⟩
  obtain ⟨hkey, rfl⟩ := haccepted h
  refine getElem?_insertAll_of_mem
    (ExtTreeMap.mem_toList_iff_getElem?_eq_some.mpr h)
    (fun y hy hsame => ?_) ∅
  obtain ⟨hkey', hsuffix⟩ := haccepted (ExtTreeMap.mem_toList_iff_getElem?_eq_some.mp hy)
  exact hkey'.eq_of_suffixKey_eq hkey (hsuffix.trans hsame)

/-- The keys that the store hides behind one with the suffix. -/
theorem mem_shadowedKeys {dbKey : Text} :
    dbKey ∈ shadowedKeys store records ↔
      (∃ item ∈ acceptedRecords records, item.1 = dbKey) ∧ ¬IsCrossedOut records dbKey ∧
        IsShadowed store dbKey := by
  rw [shadowedKeys, List.mem_map]
  constructor
  · rintro ⟨item, hitem, rfl⟩
    obtain ⟨hkey, hvalue⟩ := (mem_getEntriesByKeys store).mp hitem
    obtain ⟨entry, hentry, hohKey⟩ := List.mem_map.mp hkey
    have hget := ExtTreeMap.mem_toList_iff_getElem?_eq_some.mp hentry
    rw [← hohKey, getElem?_insertAll_non2OhSuffixMaps records hget, Option.getD_some]
    obtain ⟨hrecord, hoh, hneeds, hcrossed, hsuffix⟩ :=
      (getElem?_non2OhSuffixMaps records).mp hget
    refine ⟨hrecord, hcrossed, hoh, hneeds, ?_⟩
    rw [hsuffix, hohKey, KvStore.mem_iff_valueAt, hvalue]
    rfl
  · rintro ⟨hrecord, hcrossed, hoh, hneeds, hmem⟩
    have hget := (getElem?_non2OhSuffixMaps records).mpr ⟨hrecord, hoh, hneeds, hcrossed, rfl⟩
    obtain ⟨value, hvalue⟩ := Option.isSome_iff_exists.mp (KvStore.mem_iff_valueAt.mp hmem)
    refine ⟨(suffixKey dbKey, value), (mem_getEntriesByKeys store).mpr ⟨?_, hvalue⟩, ?_⟩
    · exact List.mem_map.mpr ⟨_, ExtTreeMap.mem_toList_iff_getElem?_eq_some.mpr hget, rfl⟩
    · rw [getElem?_insertAll_non2OhSuffixMaps records hget, Option.getD_some]

/-- The accepted records without those crossed out and, unless they are deletions, without those
that the store shadows. -/
theorem filterEntries_eq :
    filterEntries store records ∅ isDelete =
      (if isDelete then [] else shadowedKeys store records).foldl ExtTreeMap.erase
        ((nonOhSuffixKeys records).foldl ExtTreeMap.erase
          (insertAll Prod.fst Prod.snd (acceptedRecords records) ∅)) := by
  have hentries : (records.foldl filterRecord {}).entriesMap =
      insertAll Prod.fst Prod.snd (acceptedRecords records) ∅ := by rw [foldl_filterRecord]
  rw [← hentries]
  unfold filterEntries
  cases isDelete with
  | true => rfl
  | false =>
    have hnone : (shadowedKeys store records = [] →
        (shadowedKeys store records).foldl ExtTreeMap.erase
          ((nonOhSuffixKeys records).foldl ExtTreeMap.erase
            (records.foldl filterRecord {}).entriesMap) =
          (nonOhSuffixKeys records).foldl ExtTreeMap.erase
            (records.foldl filterRecord {}).entriesMap) := by
      intro h
      rw [h, List.foldl_nil]
    dsimp only
    rw [if_neg Bool.false_ne_true]
    split
    · rename_i hempty
      refine (hnone ?_).symm
      have hmaps : non2OhSuffixMaps records = ∅ := ExtTreeMap.isEmpty_iff.mp hempty
      rw [shadowedKeys, hmaps]
      rfl
    · split
      · rename_i hempty
        refine (hnone ?_).symm
        rw [shadowedKeys, List.map_eq_nil_iff]
        exact List.isEmpty_iff.mp hempty
      · rfl

/-- What is left of the records after the filtering. -/
theorem getElem?_filterEntries (dbKey : Text) :
    (filterEntries store records ∅ isDelete)[dbKey]? =
      if Survives store records isDelete dbKey then
        (insertAll Prod.fst Prod.snd (acceptedRecords records) (∅ : Entries))[dbKey]?
      else none := by
  rw [filterEntries_eq, getElem?_foldl_erase, getElem?_foldl_erase]
  simp only [mem_nonOhSuffixKeys]
  by_cases hcrossed : IsCrossedOut records dbKey
  · rw [if_pos hcrossed, ite_self, if_neg fun h => h.1 hcrossed]
  · rw [if_neg hcrossed]
    cases isDelete with
    | true =>
      have hsurvives : Survives store records true dbKey := ⟨hcrossed, .inl rfl⟩
      simp only [if_true, List.not_mem_nil, if_false, if_pos hsurvives]
    | false =>
      simp only [Bool.false_eq_true, if_false, mem_shadowedKeys]
      by_cases hshadowed : IsShadowed store dbKey
      · have hnot : ¬Survives store records false dbKey :=
          fun h => h.2.elim Bool.false_ne_true (· hshadowed)
        rw [if_neg hnot]
        split
        · rfl
        · rename_i hkept
          refine Option.eq_none_iff_forall_ne_some.mpr fun value hvalue => hkept ?_
          rcases exists_of_getElem?_insertAll hvalue with ⟨item, hitem, hkey, -⟩ | hnone
          · exact ⟨⟨item, hitem, hkey⟩, hcrossed, hshadowed⟩
          · rw [ExtTreeMap.getElem?_empty] at hnone
            cases hnone
      · rw [if_neg fun h => hshadowed h.2.2, if_pos ⟨hcrossed, .inr hshadowed⟩]

/-- Which keys are left after the filtering. -/
theorem mem_filterEntries_iff {dbKey : Text} :
    dbKey ∈ filterEntries store records ∅ isDelete ↔
      (∃ item ∈ acceptedRecords records, item.1 = dbKey) ∧
        Survives store records isDelete dbKey := by
  have hinsert : dbKey ∈ insertAll Prod.fst Prod.snd (acceptedRecords records) (∅ : Entries) ↔
      ∃ item ∈ acceptedRecords records, item.1 = dbKey := by
    rw [mem_insertAll, or_iff_left ExtTreeMap.not_mem_empty]
  rw [ExtTreeMap.mem_iff_isSome_getElem?, getElem?_filterEntries, ← hinsert,
    ExtTreeMap.mem_iff_isSome_getElem?]
  split
  · rename_i hsurvives
    rw [and_iff_left hsurvives]
  · rename_i hsurvives
    exact iff_of_false Bool.false_ne_true fun h => hsurvives h.2

end LetThrough

/-! ## One entry for each changed profile -/

/-- The subscription key is that of a key that is let through, or of one with the suffix in the
store. -/
def IsRepresented (store : KvStore) (records : List (Text × Text)) (isDelete : Bool)
    (subscribeKey : Text) : Prop :=
  ∃ dbKey, (dbKey ∈ filterEntries store records ∅ isDelete ∨ IsOhKey dbKey ∧ dbKey ∈ store) ∧
    dbKeyToSubcribeKey dbKey = subscribeKey

/-- No subscription key comes twice, and none of those of the accepted records is missing. -/
structure FiltersExactly (store : KvStore) (records : List (Text × Text)) (isDelete : Bool) :
    Prop where
  unique : ∀ dbKey ∈ filterEntries store records ∅ isDelete,
    ∀ dbKey' ∈ filterEntries store records ∅ isDelete,
      dbKeyToSubcribeKey dbKey = dbKeyToSubcribeKey dbKey' → dbKey = dbKey'
  covered : ∀ item ∈ records, IsAcceptedKey item.1 →
    IsRepresented store records isDelete (dbKeyToSubcribeKey item.1)

/-- Keys that have the suffix and are looked up under the same key are the same. -/
theorem IsOhKey.eq_of_dbKeyToSubcribeKey_eq {dbKey dbKey' : Text} (h : IsOhKey dbKey)
    (h' : IsOhKey dbKey') (heq : dbKeyToSubcribeKey dbKey = dbKeyToSubcribeKey dbKey') :
    dbKey = dbKey' := by
  rw [← h.suffixKey_dbKeyToSubcribeKey, heq, h'.suffixKey_dbKeyToSubcribeKey]

/-- An accepted key stays accepted with the suffix. -/
theorem IsAcceptedKey.suffixKey {dbKey : Text} (h : IsAcceptedKey dbKey) :
    IsAcceptedKey (suffixKey dbKey) := by
  have hsplit : (DeviceProfile.suffixKey dbKey).splitOn separator =
      (dbKey.splitOn separator).set 2 (keyName dbKey ++ OH_PROFILE_SUFFIX) :=
    splitOn_renameKey (separator_not_mem_suffixed dbKey) dbKey
  have hhead : ((dbKey.splitOn separator).set 2 (keyName dbKey ++ OH_PROFILE_SUFFIX)).head? =
      (dbKey.splitOn separator).head? := by
    rw [List.head?_eq_getElem?, List.head?_eq_getElem?, List.getElem?_set_ne (by decide)]
  rw [IsAcceptedKey, hsplit, List.length_set, hhead, List.getElem?_set_ne (by decide)]
  exact h

section Exact

variable {store : KvStore} {records : List (Text × Text)} {isDelete : Bool}

/-- A key with the suffix is crossed out exactly when the batch has it with one suffix more. -/
theorem isCrossedOut_iff_suffixKey {dbKey : Text} (h : IsAcceptedKey dbKey) (hoh : IsOhKey dbKey) :
    IsCrossedOut records dbKey ↔ suffixKey dbKey ∈ records.map Prod.fst := by
  rw [List.mem_map]
  constructor
  · rintro ⟨item, hitem, hitemOh, rfl⟩
    exact ⟨item, (mem_acceptedRecords.mp hitem).1, hitemOh.suffixKey_dbKeyToSubcribeKey.symm⟩
  · rintro ⟨item, hitem, hkey⟩
    refine ⟨item, mem_acceptedRecords.mpr ⟨hitem, hkey ▸ h.suffixKey⟩, ?_, ?_⟩
    · rw [hkey]
      exact isOhKey_suffixKey hoh.length_splitOn
    · rw [hkey, dbKeyToSubcribeKey_suffixKey hoh.length_splitOn]

/-- What is let through has different subscription keys: of a key with the suffix and the one
without it, the first crosses out the second. -/
theorem eq_of_mem_filterEntries {dbKey dbKey' : Text}
    (h : dbKey ∈ filterEntries store records ∅ isDelete)
    (h' : dbKey' ∈ filterEntries store records ∅ isDelete)
    (heq : dbKeyToSubcribeKey dbKey = dbKeyToSubcribeKey dbKey') : dbKey = dbKey' := by
  have hcross : ∀ {dbKey dbKey' : Text}, dbKey ∈ filterEntries store records ∅ isDelete →
      dbKey' ∈ filterEntries store records ∅ isDelete → IsOhKey dbKey →
      dbKeyToSubcribeKey dbKey = dbKeyToSubcribeKey dbKey' → IsOhKey dbKey' := by
    intro dbKey dbKey' hmem hmem' hoh hsame
    by_contra hplain
    rw [dbKeyToSubcribeKey_of_not_isOhKey hplain] at hsame
    obtain ⟨⟨item, hitem, rfl⟩, -⟩ := (mem_filterEntries_iff _ _ _).mp hmem
    exact ((mem_filterEntries_iff _ _ _).mp hmem').2.1 ⟨item, hitem, hoh, hsame⟩
  by_cases hoh : IsOhKey dbKey
  · exact hoh.eq_of_dbKeyToSubcribeKey_eq (hcross h h' hoh heq) heq
  · have hoh' : ¬IsOhKey dbKey' := fun hoh' => hoh (hcross h' h hoh' heq.symm)
    rwa [dbKeyToSubcribeKey_of_not_isOhKey hoh, dbKeyToSubcribeKey_of_not_isOhKey hoh'] at heq

/-- A record with the suffix is represented exactly when it is not crossed out or is stored. -/
theorem isRepresented_iff_of_isOhKey {item : Text × Text} (hitem : item ∈ records)
    (haccepted : IsAcceptedKey item.1) (hoh : IsOhKey item.1) :
    IsRepresented store records isDelete (dbKeyToSubcribeKey item.1) ↔
      ¬IsCrossedOut records item.1 ∨ item.1 ∈ store := by
  have hrecord := mem_acceptedRecords.mpr ⟨hitem, haccepted⟩
  constructor
  · rintro ⟨dbKey, hfound, hsame⟩
    by_cases hkey : IsOhKey dbKey
    · obtain rfl := hkey.eq_of_dbKeyToSubcribeKey_eq hoh hsame
      rcases hfound with hfound | ⟨-, hfound⟩
      · exact .inl ((mem_filterEntries_iff _ _ _).mp hfound).2.1
      · exact .inr hfound
    · rw [dbKeyToSubcribeKey_of_not_isOhKey hkey] at hsame
      rcases hfound with hfound | ⟨hfound, -⟩
      · exact absurd ⟨item, hrecord, hoh, hsame.symm⟩
          ((mem_filterEntries_iff _ _ _).mp hfound).2.1
      · exact absurd hfound hkey
  · rintro (hkept | hstored)
    · refine ⟨item.1, .inl ((mem_filterEntries_iff _ _ _).mpr ⟨⟨item, hrecord, rfl⟩, hkept, ?_⟩),
        rfl⟩
      exact .inr fun hshadowed => hshadowed.1 hoh
    · exact ⟨item.1, .inr ⟨hoh, hstored⟩, rfl⟩

/-- A record without the suffix is represented when the records with the suffix are. -/
theorem isRepresented_of_not_isOhKey {item : Text × Text} (hitem : item ∈ records)
    (haccepted : IsAcceptedKey item.1) (hplain : ¬IsOhKey item.1)
    (hsuffixed : ∀ other ∈ records, IsAcceptedKey other.1 → IsOhKey other.1 →
      IsRepresented store records isDelete (dbKeyToSubcribeKey other.1)) :
    IsRepresented store records isDelete (dbKeyToSubcribeKey item.1) := by
  have hlookup := dbKeyToSubcribeKey_of_not_isOhKey hplain
  by_cases hcrossed : IsCrossedOut records item.1
  · obtain ⟨other, hother, hoh, hsame⟩ := hcrossed
    obtain ⟨hmem, hkey⟩ := mem_acceptedRecords.mp hother
    have hrepresented := hsuffixed other hmem hkey hoh
    rwa [hsame, ← hlookup] at hrepresented
  · by_cases hsurvives : isDelete ∨ ¬IsShadowed store item.1
    · exact ⟨item.1, .inl ((mem_filterEntries_iff _ _ _).mpr
        ⟨⟨item, mem_acceptedRecords.mpr ⟨hitem, haccepted⟩, rfl⟩, hcrossed, hsurvives⟩), rfl⟩
    · obtain ⟨-, -, hstored⟩ := not_not.mp (not_or.mp hsurvives).2
      have hlength := haccepted.length_splitOn
      exact ⟨suffixKey item.1, .inr ⟨isOhKey_suffixKey hlength, hstored⟩,
        (dbKeyToSubcribeKey_suffixKey hlength).trans hlookup.symm⟩

end Exact

/-- The changes of a batch are let through once each exactly when every accepted key with the
suffix that the batch also has with one suffix more is in the store. -/
theorem filtersExactly_iff (store : KvStore) (records : List (Text × Text)) (isDelete : Bool) :
    FiltersExactly store records isDelete ↔
      ∀ item ∈ records, IsAcceptedKey item.1 → IsOhKey item.1 →
        suffixKey item.1 ∈ records.map Prod.fst → item.1 ∈ store := by
  constructor
  · intro hexact item hitem haccepted hoh hsuffix
    have hrepresented := hexact.covered item hitem haccepted
    rw [isRepresented_iff_of_isOhKey hitem haccepted hoh,
      isCrossedOut_iff_suffixKey haccepted hoh] at hrepresented
    exact hrepresented.resolve_left (not_not.mpr hsuffix)
  · intro hstored
    have hsuffixed : ∀ item ∈ records, IsAcceptedKey item.1 → IsOhKey item.1 →
        IsRepresented store records isDelete (dbKeyToSubcribeKey item.1) := by
      intro item hitem haccepted hoh
      rw [isRepresented_iff_of_isOhKey hitem haccepted hoh,
        isCrossedOut_iff_suffixKey haccepted hoh]
      exact or_iff_not_imp_left.mpr fun h => hstored item hitem haccepted hoh (not_not.mp h)
    refine ⟨fun _ h _ h' => eq_of_mem_filterEntries h h', fun item hitem haccepted => ?_⟩
    by_cases hoh : IsOhKey item.1
    · exact hsuffixed item hitem haccepted hoh
    · exact isRepresented_of_not_isOhKey hitem haccepted hoh hsuffixed

/-- A batch that deletes a service whose name has the suffix, and one with the suffix twice. -/
def suffixedTwiceBatch : List (Text × Text) :=
  [(("svr#d#x_OH#serviceType" : Text), []), (("svr#d#x_OH_OH#serviceType" : Text), [])]

/-- The deletion of the first service is not announced, although it is not in the store. -/
theorem not_filtersExactly_suffixedTwiceBatch : ¬FiltersExactly ∅ suffixedTwiceBatch true := by
  intro hexact
  obtain ⟨dbKey, hfound, hsame⟩ :=
    hexact.covered _ (List.mem_cons_self (l := suffixedTwiceBatch.tail)) (by decide)
  rcases hfound with hfound | ⟨-, hfound⟩
  · obtain ⟨⟨item, hitem, rfl⟩, hsurvives⟩ := (mem_filterEntries_iff _ _ _).mp hfound
    obtain ⟨hitem, -⟩ := mem_acceptedRecords.mp hitem
    rcases List.mem_cons.mp hitem with rfl | hitem
    · exact absurd hsurvives (by decide)
    · rw [List.mem_singleton.mp hitem] at hsame
      exact absurd hsame (by decide)
  · exact ExtTreeMap.not_mem_empty hfound

end DeviceProfile
