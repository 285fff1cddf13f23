import DeviceProfile.Profile.Codec

/-!
# The profile store

Each key of the store has a value and the device that wrote it last. The adapter in front
of the store refuses requests that are too large, and does not write values that are stored
already. The calls of the store itself succeed, except that a batch of writes may fail.
-/

namespace DeviceProfile

open Library Std

/-- The most entries of one batch of the store. -/
def MAX_PROFILE_SIZE : Nat := 10000

/-- The most entries that one read brings. -/
def MAX_DB_SIZE : Nat := 5000

/-- A stored value and the device that wrote it. -/
structure Cell where
  value : Text
  writer : Text
  deriving DecidableEq, Repr

/-- What the store holds under each key, with the device that wrote it. -/
abbrev KvStore := ExtTreeMap Text Cell

/-- The error codes of the adapter. -/
inductive KvError where
  | invalidParams
  | putKvDbFail
  deriving DecidableEq, Repr

namespace KvStore

/-- The value under a key. -/
def valueAt (s : KvStore) (key : Text) : Option Text := s[key]?.map Cell.value

/-- The entries whose keys start with a text. -/
def getEntries (s : KvStore) (keyStart : Text) : Entries :=
  s.filterMap fun key cell => if keyStart <+: key then some cell.value else none

/-- The entries are added to the values that are passed in. -/
def getByPrefix (s : KvStore) (keyStart : Text) (values : Entries := ∅) :
    Except KvError Entries :=
  let allEntries := s.getEntries keyStart
  if allEntries.size = 0 ∨ MAX_DB_SIZE < allEntries.size then .error .invalidParams
  else .ok (values ∪ allEntries)

/-- The entries that a device has written. -/
def getDeviceEntries (s : KvStore) (uuid : Text) : Except KvError Entries :=
  if uuid = [] then .error .invalidParams
  else .ok (s.filterMap fun key cell =>
    if cell.writer = uuid ∧ key ≠ [] then some cell.value else none)

/-- The entries that are not stored with this value. -/
def newEntries (s : KvStore) (values : Entries) : Entries :=
  values.filter fun key value => s.valueAt key ≠ some value

/-- A device writes entries; `stored` is the answer of the store. -/
def putBatch (writer : Text) (stored : Bool) (values : Entries) (s : KvStore) :
    Except KvError KvStore :=
  if values.isEmpty ∨ MAX_PROFILE_SIZE < values.size then .error .invalidParams
  else if (s.newEntries values).isEmpty then .ok s
  else if stored then .ok (s ∪ (s.newEntries values).map fun _ value => { value, writer })
  else .error .putKvDbFail

/-- Deletes a list of keys that is neither empty nor too long; absent keys are no error. -/
def deleteBatch (keys : List Text) (s : KvStore) : Except KvError KvStore :=
  if keys = [] ∨ MAX_PROFILE_SIZE < keys.length then .error .invalidParams
  else .ok (keys.foldl ExtTreeMap.erase s)

/-! ## Reading -/

theorem getElem?_getEntries (s : KvStore) (keyStart key : Text) :
    (s.getEntries keyStart)[key]? = if keyStart <+: key then s.valueAt key else none := by
  rw [getEntries, ExtTreeMap.getElem?_filterMap', valueAt]
  cases s[key]? <;> split <;> rfl

theorem mem_iff_valueAt {s : KvStore} {key : Text} : key ∈ s ↔ (s.valueAt key).isSome := by
  rw [valueAt, Option.isSome_map, ExtTreeMap.mem_iff_isSome_getElem?]

theorem valueAt_eq_none_iff {s : KvStore} {key : Text} : s.valueAt key = none ↔ key ∉ s := by
  rw [mem_iff_valueAt, Option.not_isSome_iff_eq_none]

/-- A request succeeds exactly when it finds entries and not too many of them. -/
theorem getByPrefix_eq_ok_iff {s : KvStore} {keyStart : Text} {values values' : Entries} :
    s.getByPrefix keyStart values = .ok values' ↔
      (s.getEntries keyStart).size ≠ 0 ∧ (s.getEntries keyStart).size ≤ MAX_DB_SIZE ∧
        values' = values ∪ s.getEntries keyStart := by
  rw [getByPrefix]
  split
  · rename_i h
    refine iff_of_false nofun fun hok => ?_
    rcases h with h | h
    · exact hok.1 h
    · exact absurd h (Nat.not_lt.mpr hok.2.1)
  · rename_i h
    rw [not_or, Nat.not_lt] at h
    rw [Except.ok.injEq, eq_comm]
    exact ⟨fun heq => ⟨h.1, h.2, heq⟩, fun hok => hok.2.2⟩

/-- A scan finds entries, and not too many of them. -/
def IsAccepted (s : KvStore) (keyStart : Text) : Prop :=
  (s.getEntries keyStart).size ≠ 0 ∧ (s.getEntries keyStart).size ≤ MAX_DB_SIZE

instance (s : KvStore) (keyStart : Text) : Decidable (s.IsAccepted keyStart) :=
  inferInstanceAs (Decidable (_ ∧ _))

/-- An accepted read adds the entries under the start to those it was given. -/
theorem getByPrefix_eq_of_isAccepted {s : KvStore} {keyStart : Text} (h : s.IsAccepted keyStart)
    (values : Entries) : s.getByPrefix keyStart values = .ok (values ∪ s.getEntries keyStart) :=
  getByPrefix_eq_ok_iff.mpr ⟨h.1, h.2, rfl⟩

/-- An accepted read finds the entries under the start. -/
theorem getByPrefix_of_isAccepted {s : KvStore} {keyStart : Text} (h : s.IsAccepted keyStart) :
    s.getByPrefix keyStart = .ok (s.getEntries keyStart) := by
  rw [getByPrefix_eq_of_isAccepted h]
  refine congrArg Except.ok (ExtTreeMap.ext_getElem? fun k => ?_)
  rw [ExtTreeMap.getElem?_union, ExtTreeMap.getElem?_empty, Option.or_none]

/-- A read that is not accepted is refused. -/
theorem getByPrefix_of_not_isAccepted {s : KvStore} {keyStart : Text}
    (h : ¬s.IsAccepted keyStart) (values : Entries) :
    s.getByPrefix keyStart values = .error .invalidParams := by
  refine if_pos ?_
  by_contra hnot
  exact h ⟨(not_or.mp hnot).1, Nat.not_lt.mp (not_or.mp hnot).2⟩

/-- The entries of a device are those with its id. -/
theorem getElem?_getDeviceEntries {s : KvStore} {uuid : Text} {entries : Entries}
    (h : s.getDeviceEntries uuid = .ok entries) (key value : Text) :
    entries[key]? = some value ↔ s[key]? = some ⟨value, uuid⟩ ∧ key ≠ [] := by
  rw [getDeviceEntries] at h
  split at h
  · cases h
  · rw [← Except.ok.inj h, ExtTreeMap.getElem?_filterMap']
    cases s[key]? with
    | none => simp
    | some cell =>
      obtain ⟨v, w⟩ := cell
      simp only [Option.bind_some, Option.some.injEq, Cell.mk.injEq]
      split
      · rename_i hcell
        simp [hcell.1, hcell.2]
      · rename_i hcell
        refine iff_of_false nofun ?_
        rintro ⟨⟨-, hw⟩, hne⟩
        exact hcell ⟨hw, hne⟩

/-! ## Writing -/

/-- The new entries are those whose value differs from the stored one. -/
theorem getElem?_newEntries (s : KvStore) (values : Entries) (key : Text) :
    (s.newEntries values)[key]? =
      values[key]?.filter fun value => s.valueAt key ≠ some value := by
  rw [newEntries, ExtTreeMap.getElem?_filter']

/-- A written key has the new value and the writer, unless it had the value already. -/
theorem getElem?_putBatch {writer : Text} {stored : Bool} {values : Entries} {s s' : KvStore}
    (h : s.putBatch writer stored values = .ok s') (key : Text) :
    s'[key]? = ((s.newEntries values)[key]?.map fun value => { value, writer }).or s[key]? := by
  rw [putBatch] at h
  split at h
  · cases h
  · split at h
    · rename_i hempty
      rw [← Except.ok.inj h, ExtTreeMap.isEmpty_iff.mp hempty, ExtTreeMap.getElem?_empty]
      rfl
    · split at h
      · rw [← Except.ok.inj h, ExtTreeMap.getElem?_union, ExtTreeMap.getElem?_map]
      · cases h

/-- After a batch the values of the batch are found, and elsewhere the old ones. -/
theorem valueAt_putBatch {writer : Text} {stored : Bool} {values : Entries} {s s' : KvStore}
    (h : s.putBatch writer stored values = .ok s') (key : Text) :
    s'.valueAt key = values[key]?.or (s.valueAt key) := by
  rw [valueAt, getElem?_putBatch h, getElem?_newEntries]
  cases hvalue : values[key]? with
  | none => rfl
  | some value =>
    by_cases hsame : s.valueAt key = some value
    · simp only [Option.filter_some, hsame, ne_eq, not_true_eq_false, decide_false,
        Bool.false_eq_true, if_false, Option.map_none, Option.none_or, Option.some_or]
      exact hsame
    · simp only [Option.filter_some, hsame, ne_eq, not_false_eq_true, decide_true, if_true,
        Option.map_some, Option.some_or]

/-- A batch adds its keys. -/
theorem mem_putBatch {writer : Text} {stored : Bool} {values : Entries} {s s' : KvStore}
    (h : s.putBatch writer stored values = .ok s') {key : Text} :
    key ∈ s' ↔ key ∈ values ∨ key ∈ s := by
  rw [mem_iff_valueAt, valueAt_putBatch h, Option.isSome_or, Bool.or_eq_true,
    ← ExtTreeMap.mem_iff_isSome_getElem?, ← mem_iff_valueAt]

/-- A batch of values that are stored already changes nothing. -/
theorem putBatch_of_stored {writer : Text} {stored : Bool} {values : Entries} {s s' : KvStore}
    (h : s.putBatch writer stored values = .ok s')
    (hvalues : ∀ k v, values[k]? = some v → s.valueAt k = some v) : s' = s := by
  refine ExtTreeMap.ext_getElem? fun key => ?_
  rw [getElem?_putBatch h, getElem?_newEntries]
  cases hvalue : values[key]? with
  | none => rfl
  | some v =>
    have hsame := hvalues key v hvalue
    simp [Option.filter_some, hsame]

/-- A batch is written if it has entries, not too many, and the store answers. -/
theorem putBatch_isOk {values : Entries} (hne : values ≠ ∅) (hsize : values.size ≤ MAX_PROFILE_SIZE)
    (writer : Text) (s : KvStore) : ∃ s', s.putBatch writer true values = .ok s' := by
  rw [putBatch, if_neg (not_or.mpr ⟨mt ExtTreeMap.isEmpty_iff.mp hne, Nat.not_lt.mpr hsize⟩)]
  split
  · exact ⟨_, rfl⟩
  · exact ⟨_, rfl⟩

/-! ## Deleting -/

/-- The keys of the batch are gone, and all others are kept. -/
theorem getElem?_deleteBatch {keys : List Text} {s s' : KvStore}
    (h : s.deleteBatch keys = .ok s') (key : Text) :
    s'[key]? = if key ∈ keys then none else s[key]? := by
  rw [deleteBatch] at h
  split at h
  · cases h
  · rw [← Except.ok.inj h, getElem?_foldl_erase]

theorem valueAt_deleteBatch {keys : List Text} {s s' : KvStore}
    (h : s.deleteBatch keys = .ok s') (key : Text) :
    s'.valueAt key = if key ∈ keys then none else s.valueAt key := by
  rw [valueAt, getElem?_deleteBatch h]
  split <;> rfl

theorem deleteBatch_isOk {keys : List Text} (hne : keys ≠ [])
    (hsize : keys.length ≤ MAX_PROFILE_SIZE) (s : KvStore) : ∃ s', s.deleteBatch keys = .ok s' :=
  ⟨_, if_neg (not_or.mpr ⟨hne, Nat.not_lt.mpr hsize⟩)⟩

end KvStore

end DeviceProfile
