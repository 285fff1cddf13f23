import DeviceProfile.Profile.ForegroundView

/-!
# Puts during a change of the foreground user

A put reads the foreground user before it writes. A change of the foreground user keeps puts
from reading while it scans, saves and deletes, but not from writing: a put can write for the
last user what the change has deleted already.
-/

namespace DeviceProfile

open Library Std

/-- How far a change has come, with the entries of its scan as long as they are used. -/
inductive ChangePhase where
  | idle
  | locked
  | scanned (profileMap : Entries)
  | saved (profileMap : Entries)
  | changed
  | finished
  deriving DecidableEq

/-- The lock of the foreground user is held. -/
def ChangePhase.IsLocked : ChangePhase → Prop
  | .idle | .finished => False
  | _ => True

instance (phase : ChangePhase) : Decidable phase.IsLocked := by
  cases phase
  · exact isFalse id
  · exact isTrue trivial
  · exact isTrue trivial
  · exact isTrue trivial
  · exact isTrue trivial
  · exact isFalse id

/-- A put that has read the foreground user, with the entries it is about to write. -/
structure PendingPut where
  userId : Int32
  entries : Entries

/-- The state of the manager during a change of the foreground user. -/
structure ChangeState where
  manager : Manager
  phase : ChangePhase := .idle
  pending : List PendingPut := []
  /-- The users for whom the values under the keys of no user were written last. -/
  writtenFor : ExtTreeMap Text Int32 := ∅

/-- A put reads the foreground user, or a put that has read it writes, or the change goes on. -/
inductive ChangeEvent where
  | read (p : UserProfile)
  | write (i : Nat) (stored : Bool)
  | advance (stored : Bool)

/-- The user of a put, under those of its keys that are of no user. -/
def PendingPut.writers (put : PendingPut) : ExtTreeMap Text Int32 :=
  put.entries.filterMap fun key _ =>
    if getUserIdFromDbKey key = DEFAULT_USER_ID then some put.userId else none

instance (localUdid : Text) (p : UserProfile) : Decidable (p.call.IsChecked localUdid) := by
  cases p with
  | service p => exact inferInstanceAs (Decidable (IsSvrProfileValid _ _))
  | characteristic p => exact inferInstanceAs (Decidable (IsCharProfileValid _ _))

section Steps

variable (device : LocalDevice) (curUserId : Int32)

/-- A valid put adds its entries when it gets the lock of the foreground user. -/
def readStep (p : UserProfile) (s : ChangeState) : ChangeState :=
  if ¬p.call.IsChecked device.udid ∨ s.phase.IsLocked then s
  else
    let x := s.manager.addProfile device { profile := p.stored, isMultiUser := true } ∅
    { s with
      manager := x.2
      pending := s.pending ++ [{ userId := p.stored.userId, entries := x.1 }] }

/-- The second half of a put: its entries are written as they were made, and kept for the start when
the store is not open. -/
def writeStep (put : PendingPut) (stored : Bool) (s : ChangeState) : ChangeState :=
  match Manager.putEntries device stored (put.entries, s.manager) with
  | (.error _, manager) => { s with manager }
  | (.ok _, manager) =>
    { s with
      manager
      writtenFor := if s.manager.isFirst then s.writtenFor else s.writtenFor ∪ put.writers }

/-- One step of the change: the lock, the scan, the entries of the new user, the deletions, the new
user. A failing call skips to the last. -/
def advanceStep (stored : Bool) (s : ChangeState) : ChangeState :=
  match s.phase with
  | .idle => { s with phase := .locked }
  | .locked =>
    if s.manager.foregroundUserId = curUserId then { s with phase := .changed }
    else if device.udid = [] then { s with phase := .changed }
    else
      match Manager.getProfilesByKeyPrefix device.udid s.manager.store with
      | .error _ => { s with phase := .changed }
      | .ok profileMap =>
        if profileMap.isEmpty then { s with phase := .changed }
        else { s with phase := .scanned profileMap }
  | .scanned profileMap =>
    let curUserProfilesWithoutUID := Manager.entriesWithoutUID curUserId profileMap
    match s.manager.saveBatchByKeys device stored curUserProfilesWithoutUID with
    | .error _ => { s with phase := .changed }
    | .ok manager =>
      { s with
        manager
        phase := .saved profileMap
        writtenFor := s.writtenFor ∪ curUserProfilesWithoutUID.map fun _ _ => curUserId }
  | .saved profileMap =>
    let delKeys := Manager.lastUserKeys s.manager.foregroundUserId curUserId profileMap
    match s.manager.deleteBatchByKeys delKeys with
    | .error _ => { s with phase := .changed }
    | .ok manager =>
      { s with
        manager
        phase := .changed
        writtenFor := delKeys.foldl ExtTreeMap.erase s.writtenFor }
  | .changed =>
    { s with
      manager := { s.manager with foregroundUserId := curUserId }
      phase := .finished }
  | .finished => s

/-- One event: a put reads the foreground user, a put writes, or the change moves on. -/
def changeStep (s : ChangeState) : ChangeEvent → ChangeState
  | .read p => readStep device p s
  | .write i stored =>
    match s.pending[i]? with
    | none => s
    | some put => writeStep device put stored { s with pending := s.pending.eraseIdx i }
  | .advance stored => advanceStep device curUserId stored s

end Steps

/-! ## What is expected of the steps -/

/-- No entry of no user has a value that was written for the user. -/
def ChangeState.Hides (userId : Int32) (s : ChangeState) : Prop :=
  ∀ key ∈ s.manager.store.keys, s.writtenFor[key]? ≠ some userId

/-- The store takes a batch: it has entries, not too many, and the store answers unless all of
them are stored already. -/
def KvStore.TakesBatch (stored : Bool) (values : Entries) (s : KvStore) : Prop :=
  ¬values.isEmpty ∧ values.size ≤ MAX_PROFILE_SIZE ∧
    ((s.newEntries values).isEmpty ∨ stored = true)

instance (userId : Int32) (s : ChangeState) : Decidable (s.Hides userId) :=
  inferInstanceAs (Decidable (∀ key ∈ s.manager.store.keys, _))

instance (stored : Bool) (values : Entries) (s : KvStore) :
    Decidable (s.TakesBatch stored values) :=
  inferInstanceAs (Decidable (_ ∧ _ ∧ _))

/-- A batch is written exactly when the store takes it. -/
theorem KvStore.putBatch_isOk_iff {writer : Text} {stored : Bool} {values : Entries} {s : KvStore} :
    (∃ s', s.putBatch writer stored values = .ok s') ↔ s.TakesBatch stored values := by
  rw [KvStore.putBatch, KvStore.TakesBatch]
  by_cases hempty : values.isEmpty
  · simp [hempty]
  by_cases hsize : values.size ≤ MAX_PROFILE_SIZE
  · have hsmall : ¬MAX_PROFILE_SIZE < values.size := Nat.not_lt.mpr hsize
    by_cases hnew : (s.newEntries values).isEmpty
    · simp [hempty, hsize, hsmall, hnew]
    · cases stored <;> simp [hempty, hsize, hsmall, hnew]
  · have hlarge : MAX_PROFILE_SIZE < values.size := Nat.not_le.mp hsize
    simp [hsize, hlarge]

section Conditions

variable (device : LocalDevice) (lastUserId curUserId : Int32)

/-- What is written under the key for the last user is overwritten or deleted by the rest of the
change. -/
def IsCleared (key : Text) : ChangePhase → Prop
  | .idle | .locked => True
  | .scanned profileMap =>
      key ∈ Manager.entriesWithoutUID curUserId profileMap ∨
        key ∈ Manager.lastUserKeys lastUserId curUserId profileMap
  | .saved profileMap => key ∈ Manager.lastUserKeys lastUserId curUserId profileMap
  | .changed | .finished => False

/-- The scan of the change, its save and its deletion are carried out. -/
def IsAnswered (stored : Bool) (s : ChangeState) : Prop :=
  match s.phase with
  | .locked => device.udid ≠ [] ∧ IsScanAccepted device.udid s.manager.store
  | .scanned profileMap =>
      (Manager.entriesWithoutUID curUserId profileMap).isEmpty ∨
        s.manager.store.TakesBatch stored (Manager.entriesWithoutUID curUserId profileMap)
  | .saved profileMap =>
      (Manager.lastUserKeys s.manager.foregroundUserId curUserId profileMap).length ≤
        MAX_PROFILE_SIZE
  | _ => True

/-- Puts write for the last user only what the rest of the change clears, and the change is
carried out unless nothing is in view that was written for the last user. -/
def IsTimely (s : ChangeState) : ChangeEvent → Prop
  | .read _ => True
  | .write i stored =>
      ∀ put ∈ s.pending[i]?, put.userId = lastUserId → s.manager.isFirst = false →
        s.manager.store.TakesBatch stored put.entries →
          ∀ key ∈ put.entries.keys, getUserIdFromDbKey key = DEFAULT_USER_ID →
            IsCleared lastUserId curUserId key s.phase
  | .advance stored => s.Hides lastUserId ∨ IsAnswered device curUserId stored s

/-- The key is one of the last user, and is that of an entry of no user but for the user. -/
def IsUserKey (key userKey : Text) : Prop :=
  IsKeyOf device.udid userKey ∧ getUserIdFromDbKey userKey = lastUserId ∧
    Manager.withoutUID userKey = some key

/-- The change of the foreground user from one user to another begins; the values that were
written for the last user under keys of no user are stored for the last user too. -/
structure IsChangeStart (s : ChangeState) : Prop where
  idle : s.phase = .idle
  pending : s.pending = []
  foreground : s.manager.foregroundUserId = lastUserId
  known : lastUserId ≠ DEFAULT_USER_ID
  other : lastUserId ≠ curUserId
  recorded : ∀ key, s.writtenFor[key]? = some lastUserId → key ∈ s.manager.store ∧
    ∃ userKey ∈ s.manager.store, IsUserKey device lastUserId key userKey

instance (key : Text) (phase : ChangePhase) :
    Decidable (IsCleared lastUserId curUserId key phase) :=
  match phase with
  | .idle | .locked => isTrue trivial
  | .scanned _ => inferInstanceAs (Decidable (_ ∨ _))
  | .saved _ => inferInstanceAs (Decidable (_ ∈ _))
  | .changed | .finished => isFalse id

instance (stored : Bool) (s : ChangeState) : Decidable (IsAnswered device curUserId stored s) := by
  unfold IsAnswered
  cases s.phase
  · exact isTrue trivial
  · exact inferInstanceAs (Decidable (_ ∧ _))
  · exact inferInstanceAs (Decidable (_ ∨ _))
  · exact inferInstanceAs (Decidable (_ ≤ _))
  · exact isTrue trivial
  · exact isTrue trivial

instance (s : ChangeState) (event : ChangeEvent) :
    Decidable (IsTimely device lastUserId curUserId s event) :=
  match event with
  | .read _ => isTrue trivial
  | .write i stored => Option.decidableForallMem (p := fun put : PendingPut =>
      put.userId = lastUserId → s.manager.isFirst = false →
        s.manager.store.TakesBatch stored put.entries →
          ∀ key ∈ put.entries.keys, getUserIdFromDbKey key = DEFAULT_USER_ID →
            IsCleared lastUserId curUserId key s.phase) s.pending[i]?
  | .advance _ => inferInstanceAs (Decidable (_ ∨ _))

end Conditions

/-! ## Puts and changes on their own -/

section Connection

variable {device : LocalDevice} {curUserId : Int32}

/-- What a valid put adds are its entries for the foreground user. -/
theorem addProfile_eq_entries {p : UserProfile} (hp : p.call.IsChecked device.udid) (m : Manager) :
    m.addProfile device { profile := p.stored, isMultiUser := true } ∅ =
      (p.call.entries device.udid (m.currentUser device), m.asked device) := by
  have hvalid := UserProfile.isValid_of_isChecked hp
  rw [Manager.addProfile_eq, PutCall.entries, p.profiles_call, Manager.pairsOf]
  simp only [List.filter_cons, hvalid, decide_true, if_true, List.filter_nil, List.flatMap_cons,
    List.flatMap_nil, List.append_nil]

/-- A put whose steps follow each other is the put of the manager. -/
theorem manager_put_alone (p : UserProfile) (stored : Bool) {s : ChangeState}
    (hfree : ¬s.phase.IsLocked) (hpending : s.pending = []) :
    (changeStep device curUserId (changeStep device curUserId s (.read p))
      (.write 0 stored)).manager = (p.call.run device stored s.manager).2 := by
  by_cases hp : p.call.IsChecked device.udid
  · have hvalid := UserProfile.isValid_of_isChecked hp
    have hadd : s.manager.addProfiles device p.call.profiles ∅ =
        s.manager.addProfile device { profile := p.stored, isMultiUser := true } ∅ := by
      rw [p.profiles_call, Manager.addProfiles, List.foldl_cons, List.foldl_nil,
        if_neg (not_not.mpr hvalid)]
    rw [PutCall.run_eq hp, hadd, changeStep, readStep,
      if_neg (not_or.mpr ⟨not_not.mpr hp, hfree⟩), hpending]
    simp only [changeStep, List.nil_append, List.getElem?_cons_zero, writeStep]
    cases Manager.putEntries device stored
      (s.manager.addProfile device { profile := p.stored, isMultiUser := true } ∅) with
    | mk result m => cases result <;> rfl
  · rw [PutCall.run_eq_of_not_checked hp, changeStep, readStep, if_pos (.inl hp), changeStep,
      hpending]
    rfl

/-- The last steps of a change. -/
theorem advanceStep_changed (stored : Bool) (n : Nat) {s : ChangeState}
    (hphase : s.phase = .changed) :
    (advanceStep device curUserId stored)^[n + 1] s =
      { s with
        manager := { s.manager with foregroundUserId := curUserId }
        phase := .finished } := by
  obtain ⟨m, phase, pending, writtenFor⟩ := s
  obtain rfl : phase = .changed := hphase
  rw [Function.iterate_succ_apply]
  exact Function.iterate_fixed rfl n

/-- A change whose steps follow each other is the change of the manager. -/
theorem manager_change_alone (stored : Bool) {s : ChangeState} (hphase : s.phase = .idle) :
    ((advanceStep device curUserId stored)^[5] s).phase = .finished ∧
      ((advanceStep device curUserId stored)^[5] s).manager =
        s.manager.setCurrentForegroundUserID device stored curUserId := by
  obtain ⟨m, phase, pending, writtenFor⟩ := s
  obtain rfl : phase = .idle := hphase
  rw [Function.iterate_succ_apply, advanceStep, Function.iterate_succ_apply, advanceStep,
    Manager.setCurrentForegroundUserID, Manager.onUserChange]
  by_cases hsame : m.foregroundUserId = curUserId
  · simp only [hsame, if_true, advanceStep_changed, and_self]
  by_cases hudid : device.udid = []
  · simp only [hsame, hudid, if_true, if_false, advanceStep_changed, and_self]
  cases hscan : Manager.getProfilesByKeyPrefix device.udid m.store with
  | error e => simp only [hsame, hudid, if_false, advanceStep_changed, and_self]
  | ok profileMap =>
    by_cases hempty : profileMap.isEmpty
    · simp only [hsame, hudid, hempty, if_true, if_false, advanceStep_changed, and_self]
    simp only [hsame, hudid, hempty, if_false, Bool.false_eq_true]
    rw [Function.iterate_succ_apply, advanceStep]
    cases hsave : m.saveBatchByKeys device stored
      (Manager.entriesWithoutUID curUserId profileMap) with
    | error e => simp only [hsave, advanceStep_changed, and_self]
    | ok m₁ =>
      have hforeground : m₁.foregroundUserId = m.foregroundUserId := by
        rw [(saveBatchByKeys_ok hsave).1]
      simp only [hsave]
      rw [Function.iterate_succ_apply, advanceStep]
      simp only [hforeground]
      cases m₁.deleteBatchByKeys (Manager.lastUserKeys m.foregroundUserId curUserId profileMap) with
      | error e => simp only [advanceStep_changed, and_self]
      | ok m₂ => simp only [advanceStep_changed, and_self]

end Connection

/-! ## Values of the last user -/

section LastUser

variable {device : LocalDevice} {lastUserId curUserId : Int32} {s : ChangeState} {key : Text}

/-- While a change runs, the values that are written for the last user are found by its scan or
cleared by the rest of it. -/
structure ClearsLastUser (device : LocalDevice) (lastUserId curUserId : Int32) (s : ChangeState) :
    Prop where
  foreground : s.phase ≠ .finished → s.manager.foregroundUserId = lastUserId
  pending : ∀ put ∈ s.pending, put.userId = lastUserId → ∀ key ∈ put.entries,
    getUserIdFromDbKey key = DEFAULT_USER_ID →
      ∃ userKey ∈ put.entries, IsUserKey device lastUserId key userKey
  cleared : ∀ key, s.writtenFor[key]? = some lastUserId →
    key ∈ s.manager.store ∧ IsCleared lastUserId curUserId key s.phase
  unscanned : s.phase = .idle ∨ s.phase = .locked → ∀ key, s.writtenFor[key]? = some lastUserId →
    ∃ userKey ∈ s.manager.store, IsUserKey device lastUserId key userKey

/-- The path of the keys of a valid profile starts with the device. -/
theorem head?_path_key {p : StoredProfile} (h : p.IsValid device.udid) :
    (p.key h).path.head? = some device.udid := by
  have hdevice : some p.deviceId = some device.udid := congrArg some (p.deviceId_eq h)
  cases p <;> exact hdevice

/-- A put is the writer of the plain keys that it writes. -/
theorem getElem?_writers {put : PendingPut} {userId : Int32} :
    put.writers[key]? = some userId ↔
      key ∈ put.entries ∧ getUserIdFromDbKey key = DEFAULT_USER_ID ∧ put.userId = userId := by
  rw [PendingPut.writers, ExtTreeMap.getElem?_filterMap', ExtTreeMap.mem_iff_isSome_getElem?]
  cases put.entries[key]? with
  | none => exact iff_of_false nofun fun h => nomatch h.1
  | some value =>
    by_cases hplain : getUserIdFromDbKey key = DEFAULT_USER_ID
    · simp [hplain]
    · simp [hplain]

/-- A put for a user writes each entry of no user for the user too. -/
theorem exists_userKey {p : UserProfile} {userId : Int32}
    (hkey : key ∈ p.call.entries device.udid userId)
    (hplain : getUserIdFromDbKey key = DEFAULT_USER_ID) :
    ∃ userKey ∈ p.call.entries device.udid userId,
      IsUserKey device p.stored.userId key userKey := by
  obtain ⟨q, hq, hvalid, u, hu, name, hname, rfl⟩ := PutCall.mem_entries.mp hkey
  rw [p.profiles_call, List.mem_singleton] at hq
  subst hq
  replace hvalid : p.stored.IsValid device.udid := hvalid
  replace hname : name ∈ p.stored.kind.propertyNames := hname
  have hrender := StoredProfile.generateDBKey_eq_entryKey _ hvalid hname
  rw [hrender, DbKey.getUserIdFromDbKey_render] at hplain
  obtain rfl : u = DEFAULT_USER_ID := hplain
  have hown : p.stored.userId ∈
      Flagged.writtenUsers userId { profile := p.stored, isMultiUser := true } := by
    rw [Flagged.writtenUsers, if_pos rfl]
    split <;> exact List.mem_cons_self
  refine ⟨generateDBKey p.stored.profileKey name p.stored.userId,
    PutCall.mem_entries.mpr ⟨_, p.profiles_call ▸ List.mem_singleton_self _, hvalid, _, hown,
      name, hname, rfl⟩, ?_, ?_, ?_⟩
  · rw [hrender]
    exact isKeyOf_render (head?_path_key hvalid)
  · rw [hrender, DbKey.getUserIdFromDbKey_render]
    rfl
  · rw [hrender, hrender, withoutUID_render]
    rfl

/-- A put that reads the foreground user leaves what is written. -/
theorem ClearsLastUser.read (h : ClearsLastUser device lastUserId curUserId s)
    (hknown : lastUserId ≠ DEFAULT_USER_ID) (p : UserProfile) :
    ClearsLastUser device lastUserId curUserId (readStep device p s) := by
  rw [readStep]
  split
  · exact h
  · rename_i hfree
    have hp : p.call.IsChecked device.udid := not_not.mp (not_or.mp hfree).1
    rw [addProfile_eq_entries hp]
    refine ⟨fun hphase => ?_, fun put hput huser key hkey hplain => ?_, h.cleared, h.unscanned⟩
    · have hforeground := h.foreground hphase
      have hcur : s.manager.currentUser device = s.manager.foregroundUserId :=
        if_neg (hforeground ▸ hknown)
      exact hcur.trans hforeground
    · rcases List.mem_append.mp hput with hold | hnew
      · exact h.pending put hold huser key hkey hplain
      · obtain rfl := List.mem_singleton.mp hnew
        obtain rfl : p.stored.userId = lastUserId := huser
        exact exists_userKey hkey hplain

/-- A put writes its entries to the store, or it leaves the store. -/
theorem writeStep_cases (put : PendingPut) (stored : Bool) (s : ChangeState) :
    (∃ putTempCache, writeStep device put stored s =
      { s with manager := { s.manager with putTempCache } }) ∨
    s.manager.isFirst = false ∧ s.manager.store.TakesBatch stored put.entries ∧
      ∃ store, s.manager.store.putBatch device.uuid stored put.entries = .ok store ∧
        writeStep device put stored s =
          { s with
            manager := { s.manager with store }
            writtenFor := s.writtenFor ∪ put.writers } := by
  cases hfirst : s.manager.isFirst with
  | true =>
    refine .inl ⟨(s.manager.addToPutTempCache put.entries).putTempCache, ?_⟩
    rw [writeStep, Manager.putEntries, if_pos hfirst]
    dsimp only
    rw [if_pos hfirst, Manager.addToPutTempCache]
    split
    · rfl
    · split <;> rfl
  | false =>
    rw [writeStep, Manager.putEntries, if_neg (by rw [hfirst]; exact Bool.false_ne_true)]
    cases hput : s.manager.store.putBatch device.uuid stored put.entries with
    | error e => exact .inl ⟨s.manager.putTempCache, rfl⟩
    | ok store =>
      refine .inr ⟨rfl, KvStore.putBatch_isOk_iff.mp ⟨store, hput⟩, store, rfl, ?_⟩
      simp only [hfirst, Bool.false_eq_true, if_false]

/-- A put that writes in time keeps what the change clears. -/
theorem ClearsLastUser.write (h : ClearsLastUser device lastUserId curUserId s) {i : Nat}
    {stored : Bool} (htimely : IsTimely device lastUserId curUserId s (.write i stored)) :
    ClearsLastUser device lastUserId curUserId
      (changeStep device curUserId s (.write i stored)) := by
  rw [changeStep]
  cases hi : s.pending[i]? with
  | none => exact h
  | some put =>
    have hpending : ∀ put ∈ s.pending.eraseIdx i, put.userId = lastUserId →
        ∀ key ∈ put.entries, getUserIdFromDbKey key = DEFAULT_USER_ID →
          ∃ userKey ∈ put.entries, IsUserKey device lastUserId key userKey :=
      fun put hput => h.pending put (List.mem_of_mem_eraseIdx hput)
    dsimp only
    rcases writeStep_cases put stored { s with pending := s.pending.eraseIdx i } with
      ⟨putTempCache, heq⟩ | ⟨hfirst, htakes, store, hput, heq⟩
    · rw [heq]
      exact ⟨h.foreground, hpending, h.cleared, h.unscanned⟩
    · have hgrown : ∀ key, key ∈ put.entries ∨ key ∈ s.manager.store → key ∈ store :=
        fun key => (KvStore.mem_putBatch hput).mpr
      have hwritten : ∀ key, (s.writtenFor ∪ put.writers)[key]? = some lastUserId →
          (key ∈ put.entries ∧ getUserIdFromDbKey key = DEFAULT_USER_ID ∧
            put.userId = lastUserId) ∨ s.writtenFor[key]? = some lastUserId := by
        intro key hkey
        rw [ExtTreeMap.getElem?_union, Option.or_eq_some_iff] at hkey
        exact hkey.imp getElem?_writers.mp And.right
      rw [heq]
      refine ⟨h.foreground, hpending, fun key hkey => ?_, fun hphase key hkey => ?_⟩
      · rcases hwritten key hkey with ⟨hmem, hplain, huser⟩ | hold
        · exact ⟨hgrown key (.inl hmem), htimely put hi huser hfirst htakes key
            (ExtTreeMap.mem_keys.mpr hmem) hplain⟩
        · exact ⟨hgrown key (.inr (h.cleared key hold).1), (h.cleared key hold).2⟩
      · rcases hwritten key hkey with ⟨hmem, hplain, huser⟩ | hold
        · obtain ⟨userKey, huserKey, hwithout⟩ :=
            h.pending put (List.mem_of_getElem? hi) huser key hmem hplain
          exact ⟨userKey, hgrown userKey (.inl huserKey), hwithout⟩
        · obtain ⟨userKey, huserKey, hwithout⟩ := h.unscanned hphase key hold
          exact ⟨userKey, hgrown userKey (.inr huserKey), hwithout⟩

/-- What the scan finds for the last user is cleared by the rest of the change. -/
theorem isCleared_of_scan {profileMap : Entries} {userKey : Text}
    (hscan : Manager.getProfilesByKeyPrefix device.udid s.manager.store = .ok profileMap)
    (hknown : lastUserId ≠ DEFAULT_USER_ID) (huserKey : userKey ∈ s.manager.store)
    (hwithout : IsUserKey device lastUserId key userKey) :
    IsCleared lastUserId curUserId key (.scanned profileMap) := by
  obtain ⟨hkeyOf, huser, hkey⟩ := hwithout
  have hlast : key ∈ Manager.entriesWithoutUID lastUserId profileMap :=
    mem_entriesWithoutUID.mpr ⟨userKey, (mem_getProfilesByKeyPrefix hscan).mpr
      ⟨huserKey, hkeyOf⟩, ⟨hknown, huser⟩, hkey⟩
  by_cases hcur : key ∈ Manager.entriesWithoutUID curUserId profileMap
  · exact .inl hcur
  · exact .inr (mem_lastUserKeys.mpr ⟨hlast, hcur⟩)

/-- Where nothing of the last user is in view, a change that goes on leaves it so. -/
theorem ClearsLastUser.of_hides (h : ClearsLastUser device lastUserId curUserId s)
    (hhides : s.Hides lastUserId) (hold : s.phase ≠ .finished) (phase : ChangePhase) :
    ClearsLastUser device lastUserId curUserId { s with phase } := by
  have hnone : ∀ key, s.writtenFor[key]? ≠ some lastUserId := fun key hkey =>
    hhides key (ExtTreeMap.mem_keys.mpr (h.cleared key hkey).1) hkey
  exact ⟨fun _ => h.foreground hold, h.pending, fun key hkey => absurd hkey (hnone key),
    fun _ key hkey => absurd hkey (hnone key)⟩

/-- The scan of a change finds what was written for the last user. -/
theorem ClearsLastUser.scan {m : Manager} {pending : List PendingPut}
    {writtenFor : ExtTreeMap Text Int32} {stored : Bool}
    (h : ClearsLastUser device lastUserId curUserId ⟨m, .locked, pending, writtenFor⟩)
    (hknown : lastUserId ≠ DEFAULT_USER_ID) (hother : lastUserId ≠ curUserId)
    (htimely : IsTimely device lastUserId curUserId ⟨m, .locked, pending, writtenFor⟩
      (.advance stored)) :
    ClearsLastUser device lastUserId curUserId
      (advanceStep device curUserId stored ⟨m, .locked, pending, writtenFor⟩) := by
  have hforeground : m.foregroundUserId = lastUserId := h.foreground nofun
  rw [advanceStep]
  simp only [hforeground, hother, if_false]
  rcases htimely with hhides | ⟨hudid, haccepted⟩
  · have hnext : ∀ phase,
        ClearsLastUser device lastUserId curUserId ⟨m, phase, pending, writtenFor⟩ :=
      fun phase => h.of_hides hhides nofun phase
    split
    · exact hnext _
    · split
      · exact hnext _
      · split
        · exact hnext _
        · exact hnext _
  · rw [if_neg hudid]
    cases hscan : Manager.getProfilesByKeyPrefix device.udid m.store with
    | error e =>
      rw [getProfilesByKeyPrefix_eq_ok_iff.mpr ⟨hudid, haccepted, rfl⟩] at hscan
      cases hscan
    | ok profileMap =>
      dsimp only
      rw [if_neg (not_isEmpty_getProfilesByKeyPrefix hscan)]
      refine ⟨fun _ => hforeground, h.pending, fun key hkey => ⟨(h.cleared key hkey).1, ?_⟩, nofun⟩
      obtain ⟨userKey, huserKey, hwithout⟩ := h.unscanned (.inr rfl) key hkey
      exact isCleared_of_scan hscan hknown huserKey hwithout

/-- A batch that is taken is saved. -/
theorem saveBatchByKeys_of_takesBatch {entries : Entries} {stored : Bool} {m : Manager}
    (h : entries.isEmpty ∨ m.store.TakesBatch stored entries) :
    ∃ m', m.saveBatchByKeys device stored entries = .ok m' := by
  rw [Manager.saveBatchByKeys]
  split
  · exact ⟨_, rfl⟩
  · rename_i hne
    obtain ⟨store, hput⟩ : ∃ store, m.store.putBatch device.uuid stored entries = .ok store :=
      KvStore.putBatch_isOk_iff.mpr (h.resolve_left hne)
    rw [hput]
    exact ⟨_, rfl⟩

/-- The save of a change clears what is saved for the current user. -/
theorem ClearsLastUser.save {m : Manager} {profileMap : Entries} {pending : List PendingPut}
    {writtenFor : ExtTreeMap Text Int32} {stored : Bool}
    (h : ClearsLastUser device lastUserId curUserId ⟨m, .scanned profileMap, pending, writtenFor⟩)
    (hother : lastUserId ≠ curUserId)
    (htimely : IsTimely device lastUserId curUserId
      ⟨m, .scanned profileMap, pending, writtenFor⟩ (.advance stored)) :
    ClearsLastUser device lastUserId curUserId
      (advanceStep device curUserId stored ⟨m, .scanned profileMap, pending, writtenFor⟩) := by
  simp only [advanceStep]
  cases hsave : m.saveBatchByKeys device stored
      (Manager.entriesWithoutUID curUserId profileMap) with
  | error e =>
    rcases htimely with hhides | hanswered
    · exact h.of_hides hhides nofun .changed
    · obtain ⟨m', hm'⟩ : ∃ m', m.saveBatchByKeys device stored
          (Manager.entriesWithoutUID curUserId profileMap) = .ok m' :=
        saveBatchByKeys_of_takesBatch hanswered
      rw [hsave] at hm'
      cases hm'
  | ok m₁ =>
    obtain ⟨hm₁, hvalue⟩ := saveBatchByKeys_ok hsave
    refine ⟨fun _ => ?_, h.pending, fun key hkey => ?_, nofun⟩
    · rw [hm₁]
      exact h.foreground nofun
    · dsimp only at hkey ⊢
      rw [ExtTreeMap.getElem?_union, ExtTreeMap.getElem?_map] at hkey
      cases hsaved : (Manager.entriesWithoutUID curUserId profileMap)[key]? with
      | some value =>
        rw [hsaved] at hkey
        exact absurd (Option.some.inj hkey).symm hother
      | none =>
        rw [hsaved, Option.map_none, Option.none_or] at hkey
        obtain ⟨hmem, hcleared⟩ := h.cleared key hkey
        refine ⟨?_, hcleared.resolve_left ?_⟩
        · rw [KvStore.mem_iff_valueAt, hvalue, hsaved, Option.none_or]
          exact KvStore.mem_iff_valueAt.mp hmem
        · rw [ExtTreeMap.mem_iff_isSome_getElem?, hsaved]
          exact Bool.false_ne_true

/-- The deletion of a change clears what only the last user has. -/
theorem ClearsLastUser.delete {m : Manager} {profileMap : Entries} {pending : List PendingPut}
    {writtenFor : ExtTreeMap Text Int32} {stored : Bool}
    (h : ClearsLastUser device lastUserId curUserId ⟨m, .saved profileMap, pending, writtenFor⟩)
    (htimely : IsTimely device lastUserId curUserId
      ⟨m, .saved profileMap, pending, writtenFor⟩ (.advance stored)) :
    ClearsLastUser device lastUserId curUserId
      (advanceStep device curUserId stored ⟨m, .saved profileMap, pending, writtenFor⟩) := by
  have hforeground : m.foregroundUserId = lastUserId := h.foreground nofun
  simp only [advanceStep]
  cases hdelete : m.deleteBatchByKeys
      (Manager.lastUserKeys m.foregroundUserId curUserId profileMap) with
  | error e =>
    rcases htimely with hhides | hanswered
    · exact h.of_hides hhides nofun .changed
    · obtain ⟨m', hm'⟩ := deleteBatchByKeys_isOk hanswered m
      rw [hdelete] at hm'
      cases hm'
  | ok m₁ =>
    obtain ⟨hm₁, -⟩ := deleteBatchByKeys_ok hdelete
    refine ⟨fun _ => ?_, h.pending, fun key hkey => ?_, nofun⟩
    · rw [hm₁]
      exact hforeground
    · dsimp only at hkey
      rw [getElem?_foldl_erase, hforeground] at hkey
      split at hkey
      · cases hkey
      · rename_i hkept
        exact absurd (h.cleared key hkey).2 hkept

/-- A step of the change that is carried out keeps what the change clears. -/
theorem ClearsLastUser.advance (h : ClearsLastUser device lastUserId curUserId s)
    (hknown : lastUserId ≠ DEFAULT_USER_ID) (hother : lastUserId ≠ curUserId) {stored : Bool}
    (htimely : IsTimely device lastUserId curUserId s (.advance stored)) :
    ClearsLastUser device lastUserId curUserId (advanceStep device curUserId stored s) := by
  obtain ⟨m, phase, pending, writtenFor⟩ := s
  cases phase with
  | idle =>
    exact ⟨fun _ => h.foreground nofun, h.pending, h.cleared, fun _ => h.unscanned (.inl rfl)⟩
  | locked => exact h.scan hknown hother htimely
  | scanned profileMap => exact h.save hother htimely
  | saved profileMap => exact h.delete htimely
  | changed => exact ⟨fun hphase => absurd rfl hphase, h.pending, h.cleared, nofun⟩
  | finished => exact h

/-- A change that begins clears what was written for the last user. -/
theorem IsChangeStart.clearsLastUser (h : IsChangeStart device lastUserId curUserId s) :
    ClearsLastUser device lastUserId curUserId s := by
  refine ⟨fun _ => h.foreground, fun put hput => ?_, fun key hkey => ⟨(h.recorded key hkey).1, ?_⟩,
    fun _ key hkey => (h.recorded key hkey).2⟩
  · rw [h.pending] at hput
    cases hput
  · rw [h.idle]
    trivial

/-- In every run of puts and a change in which puts write for the last user only what the rest of
the change clears, and in which the change is carried out, no entry of no user has a value of the
last user once the change has finished. -/
theorem change_hides_last_user (device : LocalDevice) (lastUserId curUserId : Int32)
    (s : ChangeState) (hstart : IsChangeStart device lastUserId curUserId s)
    (events : List ChangeEvent)
    (hevents : Admits (changeStep device curUserId) (IsTimely device lastUserId curUserId) s events)
    (n : Nat) :
    let s' := (events.take n).foldl (changeStep device curUserId) s
    s'.phase = .finished → s'.Hides lastUserId := by
  intro s' hfinished key _ hkey
  have hclears := foldl_invariant (P := ClearsLastUser device lastUserId curUserId)
    (fun s event h htimely => by
      cases event with
      | read p => exact h.read hstart.known p
      | write i stored => exact h.write htimely
      | advance stored => exact h.advance hstart.known hstart.other htimely)
    hstart.clearsLastUser (hevents.take n)
  have hcleared := (hclears.cleared key hkey).2
  rw [hfinished] at hcleared
  exact hcleared

/-- What a put writes for the last user is in view as long as the change does not clear it. -/
theorem not_hides_of_write {i : Nat} {put : PendingPut} {stored : Bool}
    (hi : s.pending[i]? = some put) (hfirst : s.manager.isFirst = false)
    (htakes : s.manager.store.TakesBatch stored put.entries) (hkey : key ∈ put.entries)
    (hplain : getUserIdFromDbKey key = DEFAULT_USER_ID) :
    ¬(changeStep device curUserId s (.write i stored)).Hides put.userId := by
  obtain ⟨store, hput⟩ : ∃ store, s.manager.store.putBatch device.uuid stored put.entries =
      .ok store := KvStore.putBatch_isOk_iff.mpr htakes
  have hwrite : changeStep device curUserId s (.write i stored) =
      { s with
        manager := { s.manager with store }
        pending := s.pending.eraseIdx i
        writtenFor := s.writtenFor ∪ put.writers } := by
    simp only [changeStep, hi, writeStep, Manager.putEntries, hfirst, hput, Bool.false_eq_true,
      if_false]
  have hstored : key ∈ store := (KvStore.mem_putBatch hput).mpr (.inl hkey)
  rw [hwrite]
  intro hhides
  refine hhides key (ExtTreeMap.mem_keys.mpr hstored) ?_
  dsimp only
  rw [ExtTreeMap.getElem?_union, getElem?_writers.mpr ⟨hkey, hplain, rfl⟩, Option.some_or]

end LastUser

/-! ## A put across a change -/

/-- The state of a device whose user is the given one. -/
def foregroundState (userId : Int32) : ChangeState :=
  { manager := { ownManager with foregroundUserId := userId } }

/-- The steps of a change that the store answers. -/
def wholeChange : List ChangeEvent := List.replicate 5 (.advance true)

/-- A manager with the last user in the foreground is a start of the change. -/
theorem isChangeStart_foregroundState {lastUserId curUserId : Int32}
    (hknown : lastUserId ≠ DEFAULT_USER_ID) (hother : lastUserId ≠ curUserId) :
    IsChangeStart sampleDevice lastUserId curUserId (foregroundState lastUserId) :=
  ⟨rfl, rfl, rfl, hknown, hother, fun _ hkey => nomatch ExtTreeMap.getElem?_empty.symm.trans hkey⟩

/-- A put that writes before the scan is cleared. -/
theorem put_before_scan_is_hidden :
    (wholeChange.foldl (changeStep sampleDevice 200)
      ([.read (lettersService 0 100), .write 0 true].foldl (changeStep sampleDevice 200)
        (foregroundState 100))).Hides 100 := by
  have hhides := change_hides_last_user sampleDevice 100 200 (foregroundState 100)
    (isChangeStart_foregroundState (by decide) (by decide))
    ([.read (lettersService 0 100), .write 0 true] ++ wholeChange) (by decide +kernel) 7
  exact hhides (by decide +kernel)

/-- A put that has read the foreground user before a change and writes after it shows the value
of the last user. -/
theorem put_after_change_is_shown :
    ∃ events : List ChangeEvent, IsChangeStart sampleDevice 100 200 (foregroundState 100) ∧
      (events.foldl (changeStep sampleDevice 200) (foregroundState 100)).phase = .finished ∧
      (events.foldl (changeStep sampleDevice 200) (foregroundState 100)).pending.length = 0 ∧
      ¬(events.foldl (changeStep sampleDevice 200) (foregroundState 100)).Hides 100 :=
  ⟨.read (lettersService 0 100) :: wholeChange ++ [.write 0 true],
    isChangeStart_foregroundState (by decide) (by decide), by decide +kernel, by decide +kernel,
    by decide +kernel⟩

end DeviceProfile
