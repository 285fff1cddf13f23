import Mathlib.Data.List.ProdSigma
import DeviceProfile.Profile.Delete
import DeviceProfile.Profile.UserChange

/-!
# The view of the foreground user

Puts, deletions and changes of the foreground user keep the entries of no user in step with
those of the foreground user, as long as no query of a change is refused.
-/

namespace DeviceProfile

open Library Std

/-- A profile that is put for a user. -/
inductive UserProfile where
  | service (p : ServiceProfile)
  | characteristic (p : CharacteristicProfile)
  deriving DecidableEq, Repr

namespace UserProfile

/-- The put of a profile for a user of several. -/
def call : UserProfile → PutCall
  | service p => .service { profile := p, isMultiUser := true }
  | characteristic p => .characteristic { profile := p, isMultiUser := true }

/-- The profile as it is stored. -/
def stored : UserProfile → StoredProfile
  | service p => .svr p
  | characteristic p => .char p

theorem profiles_call (p : UserProfile) :
    p.call.profiles = [{ profile := p.stored, isMultiUser := true }] := by
  cases p <;> rfl

/-- A put that is checked is of a valid profile. -/
theorem isValid_of_isChecked {localUdid : Text} {p : UserProfile}
    (h : p.call.IsChecked localUdid) : p.stored.IsValid localUdid := by
  cases p <;> exact h

end UserProfile

/-- What happens to the profiles of users. -/
inductive UserEvent where
  | put (answer : Bool) (p : UserProfile)
  | delete (call : DeleteCall)
  | change (answer : Bool) (userId : Int32)
  deriving DecidableEq, Repr

section Events

variable (device : LocalDevice)

/-- A put, a deletion or a change of the foreground user. -/
def userStep (s : ProfileCache × Manager) : UserEvent → ProfileCache × Manager
  | .put answer p => (s.1, putStep device s.2 (answer, p.call))
  | .delete call => (call.run device s.1 s.2).2
  | .change answer userId => (s.1, s.2.setCurrentForegroundUserID device answer userId)

/-- The call is for a user and succeeds; before a change each query finds entries. -/
def UserSucceeds (s : ProfileCache × Manager) : UserEvent → Prop
  | .put answer p => 0 < p.stored.userId ∧ PutSucceeds device s.2 (answer, p.call)
  | .delete call => call.isMultiUser = true ∧ 0 < call.userId ∧ (call.run device s.1 s.2).1 = .ok ()
  | .change answer userId => 0 < userId ∧ answer = true ∧
      (s.2.store.getEntries (DEV_PREFIX ++ SEPARATOR ++ device.udid)).size ≠ 0 ∧
      (s.2.store.getEntries (SVR_PREFIX ++ SEPARATOR ++ device.udid)).size ≠ 0 ∧
      (s.2.store.getEntries (CHAR_PREFIX ++ SEPARATOR ++ device.udid)).size ≠ 0

instance (s : ProfileCache × Manager) (event : UserEvent) :
    Decidable (UserSucceeds device s event) := by
  cases event <;> exact inferInstanceAs (Decidable (_ ∧ _))

/-- No query of a change finds too many entries. -/
def ScansAreSmall (s : ProfileCache × Manager) : UserEvent → Prop
  | .change _ _ =>
      (s.2.store.getEntries (DEV_PREFIX ++ SEPARATOR ++ device.udid)).size ≤ MAX_DB_SIZE ∧
      (s.2.store.getEntries (SVR_PREFIX ++ SEPARATOR ++ device.udid)).size ≤ MAX_DB_SIZE ∧
      (s.2.store.getEntries (CHAR_PREFIX ++ SEPARATOR ++ device.udid)).size ≤ MAX_DB_SIZE
  | _ => True

instance (s : ProfileCache × Manager) (event : UserEvent) :
    Decidable (ScansAreSmall device s event) := by
  cases event with
  | change answer userId => exact inferInstanceAs (Decidable (_ ∧ _))
  | put answer p => exact isTrue trivial
  | delete call => exact isTrue trivial

/-- Some event puts a profile with this key. -/
def IsWritten (events : List UserEvent) (key : ProfileKey) : Prop :=
  ∃ answer p, UserEvent.put answer p ∈ events ∧
    ∃ h : p.stored.IsValid device.udid, p.stored.key h = key

/-- The profiles are services and characteristics of the device. -/
def AreOwn (W : ProfileKey → Prop) : Prop :=
  ∀ key, W key → key.kind ≠ .dev ∧ key.path.head? = some device.udid

/-- At the start the start-up phase is over, a user is in the foreground, and all entries are of
no user and of other profiles than those that are put. -/
structure IsStart (events : List UserEvent) (m : Manager) : Prop where
  started : m.isFirst = false
  positive : 0 < m.currentUser device
  plain : ∀ key ∈ m.store, getUserIdFromDbKey key = DEFAULT_USER_ID
  apart : ∀ k : DbKey, IsWritten device events k.toProfileKey → k.render ∉ m.store

/-- The entries of no user of the profiles that are put are those of the foreground user, and
there are no other entries of users. -/
structure FollowsForeground (W : ProfileKey → Prop) (m : Manager) : Prop where
  started : m.isFirst = false
  positive : 0 < m.currentUser device
  users : ∀ key ∈ m.store, getUserIdFromDbKey key ≠ DEFAULT_USER_ID →
    ∃ k : DbKey, W k.toProfileKey ∧ k.render = key
  unknown : m.foregroundUserId = DEFAULT_USER_ID →
    ∀ key ∈ m.store, getUserIdFromDbKey key = DEFAULT_USER_ID
  follows : ∀ k : DbKey, W k.toProfileKey →
    m.store.valueAt (k.forUser DEFAULT_USER_ID).render =
      m.store.valueAt (k.forUser (m.currentUser device)).render

end Events

namespace FollowsForeground

variable {device : LocalDevice} {W : ProfileKey → Prop} {m : Manager} {c : ProfileCache}

/-! ## Puts and deletions -/

/-- What is written for a user is written for no user exactly when it is for the foreground
user. -/
theorem mem_users_iff {curUserId userId : Int32} (huser : 0 < userId) :
    DEFAULT_USER_ID ∈ (if curUserId = userId then [userId, DEFAULT_USER_ID] else [userId]) ↔
      curUserId ∈ (if curUserId = userId then [userId, DEFAULT_USER_ID] else [userId]) := by
  have hdefault : DEFAULT_USER_ID < 0 := by decide
  by_cases hsame : curUserId = userId
  · simp [hsame]
  · have hne : DEFAULT_USER_ID ≠ userId := by grind
    simp [hsame, hne]

/-- A call that asks for the foreground user and treats the keys of no user like those of the
foreground user keeps them in step. -/
theorem update (h : FollowsForeground device W m) {store : KvStore}
    (husers : ∀ key ∈ store, getUserIdFromDbKey key ≠ DEFAULT_USER_ID →
      key ∈ m.store ∨ ∃ k : DbKey, W k.toProfileKey ∧ k.render = key)
    (hfollows : ∀ k : DbKey, W k.toProfileKey →
      store.valueAt (k.forUser DEFAULT_USER_ID).render =
        store.valueAt (k.forUser (m.currentUser device)).render) :
    FollowsForeground device W { m.asked device with store } := by
  have hcur : Manager.currentUser device { m.asked device with store } = m.currentUser device :=
    Manager.currentUser_asked device m
  have hpositive := h.positive
  refine ⟨h.started, hcur ▸ h.positive, fun key hkey hne => ?_, fun hunknown => ?_, hcur ▸ hfollows⟩
  · rcases husers key hkey hne with hold | hnew
    · exact h.users key hold hne
    · exact hnew
  · have hdefault : m.currentUser device = DEFAULT_USER_ID := hunknown
    rw [hdefault] at hpositive
    cases hpositive

/-- A put for a user keeps the view. -/
theorem put (h : FollowsForeground device W m) {answer : Bool} {p : UserProfile}
    (huser : 0 < p.stored.userId) (hput : PutSucceeds device m (answer, p.call))
    (hW : ∀ hp : p.stored.IsValid device.udid, W (p.stored.key hp)) :
    FollowsForeground device W (putStep device m (answer, p.call)) := by
  obtain ⟨hchecked, m₁, -, hasks, ⟨hfirst, -⟩ | ⟨-, store, hstore, hm⟩⟩ :=
    PutCall.run_ok hput.run_eq
  · rw [h.started] at hfirst
    cases hfirst
  · have hp := UserProfile.isValid_of_isChecked hchecked
    have hm₁ : m₁ = m.asked device :=
      hasks ⟨_, p.profiles_call ▸ List.mem_singleton_self _, hp, rfl⟩
    have hvalue := KvStore.valueAt_putBatch hstore
    rw [hm, hm₁]
    refine h.update (fun key hkey _ => ?_) fun k hk => ?_
    · rw [KvStore.mem_iff_valueAt, hvalue] at hkey
      cases hentry : (p.call.entries device.udid (m.currentUser device))[key]? with
      | none =>
        rw [hentry, Option.none_or] at hkey
        exact .inl (KvStore.mem_iff_valueAt.mpr hkey)
      | some v =>
        obtain ⟨q, hq, -, u, -, hmem⟩ := PutCall.exists_of_getElem?_entries hentry
        rw [p.profiles_call, List.mem_singleton] at hq
        subst hq
        obtain ⟨name, hname, hkey⟩ := StoredProfile.mem_pairs.mp hmem
        rw [StoredProfile.generateDBKey_eq_entryKey _ hp
          (StoredProfile.mem_propertyNames hname)] at hkey
        exact .inr ⟨_, hW hp, hkey⟩
    · have hentries : (p.call.entries device.udid (m.currentUser device))[
            (k.forUser DEFAULT_USER_ID).render]? =
          (p.call.entries device.udid (m.currentUser device))[
            (k.forUser (m.currentUser device)).render]? := by
        refine Option.ext fun v => ?_
        rw [PutCall.getElem?_entries_render p.profiles_call hp,
          PutCall.getElem?_entries_render p.profiles_call hp]
        simp only [DbKey.toProfileKey_forUser, DbKey.userId_forUser, DbKey.property_forUser,
          Flagged.writtenUsers, if_true, mem_users_iff huser]
      rw [hvalue, hvalue, hentries, h.follows k hk]

/-- A deletion for a user keeps the view. -/
theorem delete (h : FollowsForeground device W m) {call : DeleteCall}
    (hmulti : call.isMultiUser = true) (huser : 0 < call.userId)
    (hdelete : (call.run device c m).1 = .ok ()) :
    FollowsForeground device W (call.run device c m).2.2 := by
  have hrun : call.run device c m =
      (.ok (), (call.run device c m).2.1, (call.run device c m).2.2) := Prod.ext hdelete rfl
  obtain ⟨hp, store, hstore, hm⟩ := DeleteCall.run_ok hrun
  have hvalue := KvStore.valueAt_deleteBatch hstore
  rw [hm, hmulti]
  refine h.update (fun key hkey _ => .inl ?_) fun k hk => ?_
  · rw [KvStore.mem_iff_valueAt, hvalue] at hkey
    split at hkey
    · cases hkey
    · exact KvStore.mem_iff_valueAt.mpr hkey
  · have hkeys : (k.forUser DEFAULT_USER_ID).render ∈ call.keys (m.currentUser device) ↔
        (k.forUser (m.currentUser device)).render ∈ call.keys (m.currentUser device) := by
      rw [DeleteCall.render_mem_keys hp, DeleteCall.render_mem_keys hp]
      simp only [DbKey.toProfileKey_forUser, DbKey.userId_forUser, DbKey.property_forUser,
        DeleteCall.deletedUsers, hmulti, if_true, mem_users_iff huser]
    rw [hvalue, hvalue, h.follows k hk]
    simp only [hkeys]

/-! ## Changes -/

section Change

variable {profileMap : Entries} {userId lastUserId : Int32}

/-- The keys of users in a scan are well-formed. -/
theorem formed (h : FollowsForeground device W m)
    (hscan : Manager.getProfilesByKeyPrefix device.udid m.store = .ok profileMap)
    (huser : userId ≠ DEFAULT_USER_ID) :
    ∀ key ∈ profileMap, getUserIdFromDbKey key = userId →
      ∃ k : DbKey, W k.toProfileKey ∧ k.render = key := by
  intro key hkey hid
  rw [ExtTreeMap.mem_iff_isSome_getElem?, getElem?_getProfilesByKeyPrefix hscan] at hkey
  split at hkey
  · exact h.users key (KvStore.mem_iff_valueAt.mpr hkey) (hid ▸ huser)
  · cases hkey

/-- The entries of a user in a scan are no more than a batch may have. -/
theorem size_userEntries_le (h : FollowsForeground device W m) (hW : AreOwn device W)
    (hscan : Manager.getProfilesByKeyPrefix device.udid m.store = .ok profileMap) (userId : Int32) :
    (userEntries userId profileMap).size ≤ MAX_PROFILE_SIZE := by
  obtain ⟨-, haccepted, -⟩ := getProfilesByKeyPrefix_eq_ok_iff.mp hscan
  have hsub : ∀ key ∈ userEntries userId profileMap,
      key ∈ m.store.getEntries (SVR_PREFIX ++ SEPARATOR ++ device.udid) ∪
        m.store.getEntries (CHAR_PREFIX ++ SEPARATOR ++ device.udid) := by
    intro key hkey
    obtain ⟨hmem, huser, hid⟩ := mem_userEntries.mp hkey
    obtain ⟨k, hk, rfl⟩ := h.formed hscan huser key hmem hid
    obtain ⟨hkind, hpath⟩ := hW _ hk
    have hprefix := DbKey.prefix_render hpath
    rw [ExtTreeMap.mem_iff_isSome_getElem?, getElem?_getProfilesByKeyPrefix hscan,
      if_pos (isKeyOf_render hpath)] at hmem
    rw [ExtTreeMap.mem_union_iff]
    cases hkind' : k.kind <;> rw [hkind'] at hprefix
    · exact absurd hkind' hkind
    · left
      rw [ExtTreeMap.mem_iff_isSome_getElem?, KvStore.getElem?_getEntries]
      exact (if_pos hprefix).symm ▸ hmem
    · right
      rw [ExtTreeMap.mem_iff_isSome_getElem?, KvStore.getElem?_getEntries]
      exact (if_pos hprefix).symm ▸ hmem
  have hunion : (m.store.getEntries (SVR_PREFIX ++ SEPARATOR ++ device.udid) ∪
      m.store.getEntries (CHAR_PREFIX ++ SEPARATOR ++ device.udid)).size ≤ _ :=
    ExtTreeMap.size_union_le_size_add_size
  have hbound : MAX_DB_SIZE + MAX_DB_SIZE = MAX_PROFILE_SIZE := rfl
  have hsize := size_le_size hsub
  have hsvr := haccepted.2.1.2
  have hchar := haccepted.2.2.2
  omega

/-- No key of a user is among the keys of no user. -/
theorem not_mem_entriesWithoutUID (h : FollowsForeground device W m)
    (hscan : Manager.getProfilesByKeyPrefix device.udid m.store = .ok profileMap) {key : Text}
    (hkey : getUserIdFromDbKey key ≠ DEFAULT_USER_ID) (userId : Int32) :
    key ∉ Manager.entriesWithoutUID userId profileMap := by
  intro hmem
  obtain ⟨source, hsource, ⟨huser, hid⟩, hwithout⟩ := mem_entriesWithoutUID.mp hmem
  obtain ⟨k, -, rfl⟩ := h.formed hscan huser source hsource hid
  rw [withoutUID_render] at hwithout
  obtain rfl := Option.some.inj hwithout
  rw [DbKey.getUserIdFromDbKey_render] at hkey
  exact hkey rfl

/-- A change keeps the view. -/
theorem change (h : FollowsForeground device W m) (hW : AreOwn device W)
    (hudid : device.udid ≠ []) (huser : 0 < userId)
    (haccepted : IsScanAccepted device.udid m.store) :
    FollowsForeground device W (m.setCurrentForegroundUserID device true userId) := by
  have hdefault : userId ≠ DEFAULT_USER_ID := by
    rintro rfl
    cases huser
  by_cases hsame : m.foregroundUserId = userId
  · have hstay : m.setCurrentForegroundUserID device true userId = m := by
      rw [Manager.setCurrentForegroundUserID, Manager.onUserChange, if_pos hsame, ← hsame]
    rw [hstay]
    exact h
  have hscan := getProfilesByKeyPrefix_eq_ok_iff.mpr ⟨hudid, haccepted, rfl⟩
  generalize hmap : ∅ ∪ m.store.getEntries _ ∪ _ ∪ _ = profileMap at hscan
  have hsave : (Manager.entriesWithoutUID userId profileMap).size ≤ MAX_PROFILE_SIZE :=
    (size_entriesWithoutUID_le _ _).trans (h.size_userEntries_le hW hscan userId)
  have hdelete : (Manager.lastUserKeys m.foregroundUserId userId profileMap).length ≤
      MAX_PROFILE_SIZE :=
    (length_lastUserKeys_le _ _ _).trans ((size_entriesWithoutUID_le _ _).trans
      (h.size_userEntries_le hW hscan m.foregroundUserId))
  obtain ⟨store, hchange, hvalue⟩ := onUserChange_eq hsame hscan hsave hdelete
  -- the entries of users stay as they are
  have hkept : ∀ key, getUserIdFromDbKey key ≠ DEFAULT_USER_ID →
      store.valueAt key = m.store.valueAt key := by
    intro key hkey
    have hnone := h.not_mem_entriesWithoutUID hscan hkey userId
    have hlast : key ∉ Manager.lastUserKeys m.foregroundUserId userId profileMap := fun hmem =>
      h.not_mem_entriesWithoutUID hscan hkey m.foregroundUserId (mem_lastUserKeys.mp hmem).1
    rw [ExtTreeMap.mem_iff_isSome_getElem?, Option.not_isSome_iff_eq_none] at hnone
    rw [hvalue, hnone, Option.none_or, if_neg hlast]
  have hcur : Manager.currentUser device
      { { m with store } with foregroundUserId := userId } = userId := if_neg hdefault
  rw [Manager.setCurrentForegroundUserID, hchange]
  refine ⟨h.started, hcur.symm ▸ huser, fun key hkey hne => ?_, fun hunknown => ?_,
    fun k hk => ?_⟩
  · rw [KvStore.mem_iff_valueAt, hkept key hne] at hkey
    exact h.users key (KvStore.mem_iff_valueAt.mpr hkey) hne
  · exact absurd hunknown hdefault
  · have hpath := (hW _ hk).2
    have hscanned : ∀ u, profileMap[(k.forUser u).render]? =
        m.store.valueAt (k.forUser u).render := by
      intro u
      have hkeyOf : IsKeyOf device.udid (k.forUser u).render := isKeyOf_render hpath
      rw [getElem?_getProfilesByKeyPrefix hscan, if_pos hkeyOf]
    have hcopied : ∀ u, u ≠ DEFAULT_USER_ID → (Manager.entriesWithoutUID u profileMap)[
        (k.forUser DEFAULT_USER_ID).render]? = m.store.valueAt (k.forUser u).render := by
      intro u hu
      rw [getElem?_entriesWithoutUID_render hu fun key hkey hid => ?_, hscanned]
      obtain ⟨k', -, hk'⟩ := h.formed hscan hu key hkey hid
      exact ⟨k', hk'⟩
    have hown : getUserIdFromDbKey (k.forUser userId).render ≠ DEFAULT_USER_ID := by
      rw [DbKey.getUserIdFromDbKey_render]
      exact hdefault
    rw [hcur, hkept _ hown, hvalue, hcopied userId hdefault]
    cases hnew : m.store.valueAt (k.forUser userId).render with
    | some v => rfl
    | none =>
      rw [Option.none_or, ite_eq_left_iff]
      intro hstays
      rw [h.follows k hk]
      by_cases hunknown : m.foregroundUserId = DEFAULT_USER_ID
      · rw [KvStore.valueAt_eq_none_iff]
        intro hmem
        have hplain := h.unknown hunknown _ hmem
        rw [DbKey.getUserIdFromDbKey_render, DbKey.userId_forUser] at hplain
        have hpositive := h.positive
        rw [hplain] at hpositive
        cases hpositive
      · have hlast : m.currentUser device = m.foregroundUserId := if_neg hunknown
        rw [hlast, ← hcopied m.foregroundUserId hunknown, ← Option.not_isSome_iff_eq_none,
          ← ExtTreeMap.mem_iff_isSome_getElem?]
        intro hmem
        refine hstays (mem_lastUserKeys.mpr ⟨hmem, ?_⟩)
        rw [ExtTreeMap.mem_iff_isSome_getElem?, hcopied userId hdefault, hnew]
        exact Bool.false_ne_true

end Change

end FollowsForeground

/-! ## Runs -/

section Runs

variable {device : LocalDevice} {events : List UserEvent} {m : Manager}

/-- The keys of the puts so far are keys of this device. -/
theorem areOwn_isWritten (device : LocalDevice) (events : List UserEvent) :
    AreOwn device (IsWritten device events) := by
  rintro key ⟨answer, p, -, hp, rfl⟩
  have hdevice := p.stored.deviceId_eq hp
  cases p with
  | service p => exact ⟨nofun, congrArg some hdevice⟩
  | characteristic p => exact ⟨nofun, congrArg some hdevice⟩

/-- Where a profile is written this device has an id. -/
theorem udid_ne_nil_of_isWritten {key : ProfileKey} (h : IsWritten device events key) :
    device.udid ≠ [] := by
  obtain ⟨answer, p, -, hp, -⟩ := h
  have hlocal : IsLocalUdid device.udid p.stored.deviceId := by
    cases p with
    | service p => exact hp.2.1
    | characteristic p => exact hp.2.1
  exact hlocal.2 ▸ List.ne_nil_of_length_pos (Nat.pos_of_ne_zero hlocal.1.1)

/-- A start follows the foreground, as nothing of what is going to be put is stored. -/
theorem IsStart.followsForeground (h : IsStart device events m) :
    FollowsForeground device (IsWritten device events) m := by
  refine ⟨h.started, h.positive, fun key hkey hne => absurd (h.plain key hkey) hne,
    fun _ => h.plain, fun k hk => ?_⟩
  have hnone : ∀ u, m.store.valueAt (k.forUser u).render = none := fun u =>
    KvStore.valueAt_eq_none_iff.mpr (h.apart (k.forUser u) hk)
  rw [hnone, hnone]

/-- One step keeps the view. -/
theorem followsForeground_userStep (hudid : device.udid ≠ []) {s : ProfileCache × Manager}
    {event : UserEvent} (h : FollowsForeground device (IsWritten device events) s.2)
    (hevent : event ∈ events) (hsucceeds : UserSucceeds device s event)
    (hsmall : ScansAreSmall device s event) :
    FollowsForeground device (IsWritten device events) (userStep device s event).2 := by
  cases event with
  | put answer p => exact h.put hsucceeds.1 hsucceeds.2 fun hp => ⟨answer, p, hevent, hp, rfl⟩
  | delete call => exact h.delete hsucceeds.1 hsucceeds.2.1 hsucceeds.2.2
  | change answer userId =>
    obtain ⟨huser, rfl, hdev, hsvr, hchar⟩ := hsucceeds
    exact h.change (areOwn_isWritten device events) hudid huser
      ⟨⟨hdev, hsmall.1⟩, ⟨hsvr, hsmall.2.1⟩, ⟨hchar, hsmall.2.2⟩⟩

/-- In every run of successful calls in which no query of a change finds too many entries, the
entries of no user of the services and characteristics that are put for users are, at every
point, those of the foreground user. -/
theorem plain_entries_follow_foreground (device : LocalDevice) (c : ProfileCache) (m : Manager)
    (events : List UserEvent) (hstart : IsStart device events m)
    (hsucceeds : Admits (userStep device) (UserSucceeds device) (c, m) events)
    (hsmall : Admits (userStep device) (ScansAreSmall device) (c, m) events) (n : Nat)
    (k : DbKey) (hk : IsWritten device events k.toProfileKey) :
    let s := (events.take n).foldl (userStep device) (c, m)
    s.2.store.valueAt (k.forUser DEFAULT_USER_ID).render =
      s.2.store.valueAt (k.forUser (s.2.currentUser device)).render := by
  have hview := (hsucceeds.and hsmall).invariant (Q := fun event => event ∈ events)
    (P := fun s => FollowsForeground device (IsWritten device events) s.2) (fun _ h => h)
    (fun s event h hevent hcond => followsForeground_userStep (udid_ne_nil_of_isWritten hk) h
      hevent hcond.1 hcond.2)
    hstart.followsForeground n
  exact hview.follows k hk

end Runs

/-! ## A device with entries of its own -/

/-- A key of a profile of the device itself. -/
def ownKey (kind : Kind) : DbKey :=
  match kind with
  | .dev => {
    kind := .dev, path := [("udid" : Text)], length_path := rfl, clean_path := by decide
    property := OS_VERSION, userId := DEFAULT_USER_ID, clean_property := by decide }
  | .svr => {
    kind := .svr, path := [("udid" : Text), ("own" : Text)], length_path := rfl
    clean_path := by decide
    property := SERVICE_NAME, userId := DEFAULT_USER_ID, clean_property := by decide }
  | .char => {
    kind := .char, path := [("udid" : Text), ("own" : Text), ("own" : Text)], length_path := rfl
    clean_path := by decide
    property := CHARACTERISTIC_KEY, userId := DEFAULT_USER_ID, clean_property := by decide }

/-- The state of the device with an entry of each kind of its own, and a user in the
foreground. -/
def ownManager : Manager :=
  { store := insertAll (fun kind : Kind => (ownKey kind).render)
      (fun _ => ⟨("1" : Text), ("uuid" : Text)⟩) [.dev, .svr, .char] ∅
    foregroundUserId := 100 }

/-- The store of the manager holds one key of each kind. -/
theorem mem_ownManager {key : Text} (h : key ∈ ownManager.store) :
    ∃ kind, key = (ownKey kind).render := by
  obtain ⟨cell, hcell⟩ := mem_iff_exists_getElem?.mp h
  rcases exists_of_getElem?_insertAll hcell with ⟨kind, -, hkey, -⟩ | hcell
  · exact ⟨kind, hkey.symm⟩
  · rw [ExtTreeMap.getElem?_empty] at hcell
    cases hcell

/-- A run of events that put no profile of the device itself can start. -/
theorem isStart_ownManager {events : List UserEvent}
    (h : ∀ answer p, UserEvent.put answer p ∈ events → p.stored.serviceName ≠ ("own" : Text)) :
    IsStart sampleDevice events ownManager := by
  have hpositive : (0 : Int32) < 100 := by decide
  have hname : ∀ name : Text, checkAndAddOhSuffix name true = ("own" : Text) →
      name = ("own" : Text) := by
    intro name hadd
    have hplain : checkAndAddOhSuffix ("own" : Text) true = ("own" : Text) := by decide
    rcases (checkAndAddOhSuffix_eq_iff name ("own" : Text)).mp (hadd.trans hplain.symm) with
      hsame | ⟨hmem, hvariant⟩ | ⟨hmem, -⟩
    · exact hsame
    · have hother : ∀ name ∈ NEED_ADD_OH_SUFFIX_SVR_NAMES,
          ("own" : Text) ≠ name ++ OH_PROFILE_SUFFIX := by decide
      exact absurd hvariant (hother name hmem)
    · exact absurd hmem (by decide)
  refine ⟨rfl, hpositive, fun key hkey => ?_, fun k hk hmem => ?_⟩
  · obtain ⟨kind, rfl⟩ := mem_ownManager hkey
    rw [DbKey.getUserIdFromDbKey_render]
    cases kind <;> rfl
  · obtain ⟨kind, hkind⟩ := mem_ownManager hmem
    obtain rfl := DbKey.render_injective hkind
    obtain ⟨answer, p, hput, hp, hkey⟩ := hk
    have hpath := congrArg ProfileKey.path hkey
    refine h answer p hput (hname _ ?_)
    cases p <;> cases kind <;>
      simp only [UserProfile.stored, StoredProfile.key, ServiceProfile.key,
        CharacteristicProfile.key, ownKey, List.cons.injEq, reduceCtorEq, and_false, and_true]
        at hpath
    · exact hpath.2
    · exact hpath.2.1

/-- A service of a user, with a name of the given length. -/
def lettersService (i : Nat) (userId : Int32) : UserProfile :=
  .service { deviceId := ("udid" : Text), serviceName := List.replicate (i + 1) 'a',
             serviceType := ("1" : Text), userId }

/-- Two users put the same service, with changes between them. -/
def sampleEvents : List UserEvent :=
  [.put true (lettersService 1 100), .change true 200, .put true (lettersService 1 200),
    .change true 100]

/-- The services are valid as long as their names are short. -/
theorem isValid_lettersService {i : Nat} (hi : i < MAX_STRING_LEN) (userId : Int32) :
    (lettersService i userId).stored.IsValid sampleDevice.udid := by
  have hlength : (List.replicate (i + 1) 'a').length = i + 1 := List.length_replicate
  have hkey : IsKeyValid ("udid" : Text) := by decide
  refine ⟨hkey, ⟨hkey.1, rfl⟩, ⟨?_, ?_⟩, fun hmem => ?_⟩
  · rw [hlength]
    exact Nat.succ_ne_zero i
  · rw [hlength]
    exact hi
  · exact absurd (List.eq_of_mem_replicate hmem) (by decide)

/-- With two users the plain entries follow the one in the foreground. -/
theorem plain_entries_follow_letters :
    let s := (sampleEvents.take 3).foldl (userStep sampleDevice) ({}, ownManager)
    let k := (lettersService 1 100).stored.entryKey (isValid_lettersService (by decide) 100)
      List.mem_cons_self 100
    s.2.store.valueAt (k.forUser DEFAULT_USER_ID).render =
      s.2.store.valueAt (k.forUser (s.2.currentUser sampleDevice)).render := by
  have hstart : IsStart sampleDevice sampleEvents ownManager := by
    refine isStart_ownManager fun answer p hp => ?_
    simp only [sampleEvents, List.mem_cons, reduceCtorEq, List.not_mem_nil, or_false, false_or,
      UserEvent.put.injEq] at hp
    rcases hp with ⟨-, rfl⟩ | ⟨-, rfl⟩ <;> decide
  exact plain_entries_follow_foreground sampleDevice {} ownManager sampleEvents hstart
    (by decide +kernel) (by decide +kernel) 3 _
    ⟨true, lettersService 1 100, List.mem_cons_self, isValid_lettersService (by decide) 100, rfl⟩

/-! ## Too many entries -/

/-- Puts of services for one user, with names of different lengths. -/
def lettersPuts (numbers : List Nat) : List UserEvent :=
  numbers.map fun i => .put true (lettersService i 100)

/-- A state in which one user is in the foreground, the entries of the device are there and those
of another user are not. -/
structure IsFilling (m : Manager) : Prop where
  started : m.isFirst = false
  foreground : m.foregroundUserId = 100
  own : ∀ kind, (ownKey kind).render ∈ m.store
  other : ∀ key, getUserIdFromDbKey key = 200 → key ∉ m.store

/-- The keys of a service that are written for the user in the foreground. -/
def lettersKeys (i : Nat) : List Text :=
  [SERVICE_NAME, SERVICE_TYPE].flatMap fun name =>
    [(100 : Int32), DEFAULT_USER_ID].map fun userId =>
      generateDBKey (lettersService i 100).stored.profileKey name userId

/-- The keys of a service for the user in the foreground. -/
theorem mem_lettersKeys {i : Nat} {key : Text} :
    key ∈ lettersKeys i ↔ ∃ name ∈ [SERVICE_NAME, SERVICE_TYPE],
      ∃ userId ∈ [(100 : Int32), DEFAULT_USER_ID],
        generateDBKey (lettersService i 100).stored.profileKey name userId = key := by
  simp only [lettersKeys, List.mem_flatMap, List.mem_map]

/-- A put of a service writes its own keys. -/
theorem mem_entries_lettersService {i : Nat} (hi : i < MAX_STRING_LEN) {key : Text} :
    key ∈ (lettersService i 100).call.entries sampleDevice.udid 100 ↔ key ∈ lettersKeys i := by
  have hvalid := isValid_lettersService hi 100
  have husers : Flagged.writtenUsers 100
      { profile := (lettersService i 100).stored, isMultiUser := true } =
        [100, DEFAULT_USER_ID] := rfl
  have hnames : (lettersService i 100).stored.kind.propertyNames =
      [SERVICE_NAME, SERVICE_TYPE] := rfl
  rw [PutCall.mem_entries, mem_lettersKeys]
  simp only [UserProfile.profiles_call, List.mem_singleton, exists_eq_left, hvalid, true_and,
    husers, hnames]
  constructor
  · rintro ⟨u, hu, name, hname, hk⟩
    exact ⟨name, hname, u, hu, hk⟩
  · rintro ⟨name, hname, u, hu, hk⟩
    exact ⟨u, hu, name, hname, hk⟩

/-- No key of another user is written. -/
theorem getUserIdFromDbKey_of_mem_lettersKeys {i : Nat} (hi : i < MAX_STRING_LEN) {key : Text}
    (h : key ∈ lettersKeys i) :
    getUserIdFromDbKey key = 100 ∨ getUserIdFromDbKey key = DEFAULT_USER_ID := by
  obtain ⟨name, hname, u, hu, rfl⟩ := mem_lettersKeys.mp h
  rw [StoredProfile.generateDBKey_eq_entryKey _ (isValid_lettersService hi 100) hname,
    DbKey.getUserIdFromDbKey_render]
  rwa [List.mem_cons, List.mem_singleton] at hu

/-- A put of one more service. -/
theorem IsFilling.step {m : Manager} (h : IsFilling m) {i : Nat} (hi : i < MAX_STRING_LEN) :
    PutSucceeds sampleDevice m (true, (lettersService i 100).call) ∧
      IsFilling (putStep sampleDevice m (true, (lettersService i 100).call)) ∧
      ∀ key, key ∈ (putStep sampleDevice m (true, (lettersService i 100).call)).store ↔
        key ∈ lettersKeys i ∨ key ∈ m.store := by
  have hcur : m.currentUser sampleDevice = 100 := by
    rw [Manager.currentUser, h.foreground]
    rfl
  have hmem : ∀ key, key ∈ (lettersService i 100).call.entries sampleDevice.udid 100 ↔
      key ∈ lettersKeys i := fun key => mem_entries_lettersService hi
  have hput : PutSucceeds sampleDevice m (true, (lettersService i 100).call) := by
    refine PutCall.run_isOk (isValid_lettersService hi 100) h.started ?_ ?_
    · rw [hcur]
      intro hempty
      have hfirst : generateDBKey (lettersService i 100).stored.profileKey SERVICE_NAME 100 ∈
          lettersKeys i := List.mem_cons_self
      rw [← hmem, hempty] at hfirst
      exact ExtTreeMap.not_mem_empty hfirst
    · rw [hcur, ← ExtTreeMap.length_keys]
      have hlength := ExtTreeMap.nodup_keys.length_le_of_subset
        fun key hkey => (hmem key).mp (ExtTreeMap.mem_keys.mp hkey)
      have hfour : (lettersKeys i).length = 4 := rfl
      rw [hfour] at hlength
      exact hlength.trans (by decide)
  have hstore : ∀ key, key ∈ (putStep sampleDevice m (true, (lettersService i 100).call)).store ↔
      key ∈ lettersKeys i ∨ key ∈ m.store := by
    intro key
    rw [KvStore.mem_iff_valueAt, valueAt_putStep hput h.started, hcur, Option.isSome_or,
      Bool.or_eq_true, ← ExtTreeMap.mem_iff_isSome_getElem?, hmem, ← KvStore.mem_iff_valueAt]
  refine ⟨hput, ⟨(isFirst_putStep hput).trans h.started, ?_, fun kind => ?_, fun key hkey => ?_⟩,
    hstore⟩
  · obtain ⟨-, m₁, hasked, -, ⟨hfirst, -⟩ | ⟨-, store, -, hm⟩⟩ := PutCall.run_ok hput.run_eq
    · rw [h.started] at hfirst
      cases hfirst
    · rw [hm]
      rcases hasked with rfl | rfl
      · exact h.foreground
      · exact hcur
  · exact (hstore _).mpr (.inr (h.own kind))
  · rw [hstore]
    rintro (hnew | hold)
    · rcases getUserIdFromDbKey_of_mem_lettersKeys hi hnew with hid | hid
      · rw [hid] at hkey
        exact absurd hkey (by decide)
      · rw [hid] at hkey
        exact absurd hkey (by decide)
    · exact h.other key hkey hold

/-- Puts of many services. -/
theorem IsFilling.run {m : Manager} (h : IsFilling m) {numbers : List Nat}
    (hnumbers : ∀ i ∈ numbers, i < MAX_STRING_LEN) (c : ProfileCache) :
    let s := (lettersPuts numbers).foldl (userStep sampleDevice) (c, m)
    Admits (userStep sampleDevice) (UserSucceeds sampleDevice) (c, m) (lettersPuts numbers) ∧
      IsFilling s.2 ∧
      ∀ key, key ∈ s.2.store ↔ (∃ i ∈ numbers, key ∈ lettersKeys i) ∨ key ∈ m.store := by
  induction numbers generalizing m with
  | nil => exact ⟨trivial, h, fun key => by simp [lettersPuts]⟩
  | cons i rest ih =>
    obtain ⟨hput, hfilling, hstore⟩ := h.step (hnumbers i List.mem_cons_self)
    obtain ⟨hadmits, hfilled, hrest⟩ :=
      ih hfilling fun j hj => hnumbers j (List.mem_cons_of_mem i hj)
    have hpositive : (0 : Int32) < 100 := by decide
    refine ⟨⟨⟨hpositive, hput⟩, hadmits⟩, hfilled, fun key => ?_⟩
    rw [List.exists_mem_cons_iff, or_right_comm, ← hstore, or_comm, ← hrest]
    rfl

/-- The names get no suffix. -/
theorem checkAndAddOhSuffix_letters (i : Nat) :
    checkAndAddOhSuffix (List.replicate (i + 1) 'a') true = List.replicate (i + 1) 'a' := by
  have hother : ∀ name ∈ NEED_ADD_OH_SUFFIX_SVR_NAMES, (name.any fun letter => letter ≠ 'a') := by
    decide
  refine if_neg fun hneed => ?_
  obtain ⟨letter, hmem, hne⟩ := List.any_eq_true.mp (hother _ hneed.2)
  exact of_decide_eq_true hne (List.eq_of_mem_replicate hmem)

/-- The keys of different services and properties are different. -/
theorem eq_of_lettersKey_eq {i j : Nat} (hi : i < MAX_STRING_LEN) (hj : j < MAX_STRING_LEN)
    {name name' : Text} (hname : name ∈ [SERVICE_NAME, SERVICE_TYPE])
    (hname' : name' ∈ [SERVICE_NAME, SERVICE_TYPE]) {u u' : Int32}
    (h : generateDBKey (lettersService i 100).stored.profileKey name u =
      generateDBKey (lettersService j 100).stored.profileKey name' u') :
    i = j ∧ name = name' ∧ u = u' := by
  have hvalid := isValid_lettersService hi 100
  have hvalid' := isValid_lettersService hj 100
  obtain ⟨hkey, hsame⟩ := StoredProfile.eq_of_generateDBKey_eq hvalid hvalid' hname hname' h
  obtain ⟨-, -, hnames, -⟩ := (StoredProfile.key_eq_iff hvalid hvalid').mp hkey
  have hletters : List.replicate (i + 1) 'a' = List.replicate (j + 1) 'a' := by
    rw [← checkAndAddOhSuffix_letters i, ← checkAndAddOhSuffix_letters j]
    exact hnames
  have hlength := congrArg List.length hletters
  rw [List.length_replicate, List.length_replicate] at hlength
  exact ⟨Nat.succ.inj hlength, hsame⟩

/-- The store holds more entries of services than a query may find. -/
theorem not_isAccepted_of_many {count : Nat} (hcount : count ≤ MAX_STRING_LEN)
    (hmany : MAX_DB_SIZE < count * 4) {store : KvStore}
    (h : ∀ i < count, ∀ key ∈ lettersKeys i, key ∈ store) :
    ¬store.IsAccepted (SVR_PREFIX ++ SEPARATOR ++ sampleDevice.udid) := by
  have hshort : ∀ {i : Nat}, i < count → i < MAX_STRING_LEN := fun hi => hi.trans_le hcount
  let entries :=
    List.range count ×ˢ ([SERVICE_NAME, SERVICE_TYPE] ×ˢ [(100 : Int32), DEFAULT_USER_ID])
  let keyOf : Nat × Text × Int32 → Text := fun x =>
    generateDBKey (lettersService x.1 100).stored.profileKey x.2.1 x.2.2
  have hentries : ∀ x ∈ entries, x.1 < count ∧ x.2.1 ∈ [SERVICE_NAME, SERVICE_TYPE] ∧
      x.2.2 ∈ [(100 : Int32), DEFAULT_USER_ID] := by
    rintro ⟨i, name, u⟩ hx
    obtain ⟨hi, hrest⟩ := List.pair_mem_product.mp hx
    exact ⟨List.mem_range.mp hi, List.pair_mem_product.mp hrest⟩
  have hnodup : (entries.map keyOf).Nodup := by
    refine List.Nodup.map_on (fun x hx y hy heq => ?_)
      (List.nodup_range.product (List.Nodup.product (by decide) (by decide)))
    obtain ⟨hi, hname, hu⟩ := hentries x hx
    obtain ⟨hj, hname', hu'⟩ := hentries y hy
    obtain ⟨h₁, h₂, h₃⟩ := eq_of_lettersKey_eq (hshort hi) (hshort hj) hname hname' heq
    exact Prod.ext h₁ (Prod.ext h₂ h₃)
  have hscanned : ∀ key ∈ entries.map keyOf,
      key ∈ store.getEntries (SVR_PREFIX ++ SEPARATOR ++ sampleDevice.udid) := by
    intro key hkey
    obtain ⟨x, hx, rfl⟩ := List.mem_map.mp hkey
    obtain ⟨hi, hname, hu⟩ := hentries x hx
    have hmem := h x.1 hi _ (mem_lettersKeys.mpr ⟨x.2.1, hname, x.2.2, hu, rfl⟩)
    have hprefix : SVR_PREFIX ++ SEPARATOR ++ sampleDevice.udid <+: keyOf x := by
      have hvalid := isValid_lettersService (hshort hi) 100
      have hkey : keyOf x = _ := StoredProfile.generateDBKey_eq_entryKey _ hvalid hname x.2.2
      rw [hkey]
      exact DbKey.prefix_render (k := StoredProfile.entryKey _ hvalid hname x.2.2) rfl
    rw [ExtTreeMap.mem_iff_isSome_getElem?, KvStore.getElem?_getEntries, if_pos hprefix]
    exact KvStore.mem_iff_valueAt.mp hmem
  have hsize := length_le_size hnodup hscanned
  have hlength : (entries.map keyOf).length = count * 4 := by
    rw [List.length_map, List.length_product, List.length_range]
    rfl
  rw [hlength] at hsize
  intro haccepted
  exact absurd (hsize.trans haccepted.2) (Nat.not_le.mpr hmany)

/-- The puts of many services, and then a change of the user. -/
def manyEvents (count : Nat) : List UserEvent :=
  lettersPuts (List.range count) ++ [UserEvent.change true 200]

theorem mem_manyEvents {count i : Nat} (h : i < count) :
    UserEvent.put true (lettersService i 100) ∈ manyEvents count := by
  rw [manyEvents, List.mem_append, lettersPuts, List.mem_map]
  exact .inl ⟨i, List.mem_range.mpr h, rfl⟩

theorem isStart_manyEvents (count : Nat) :
    IsStart sampleDevice (manyEvents count) ownManager := by
  refine isStart_ownManager fun answer p hput => ?_
  rcases List.mem_append.mp hput with hput | hput
  · obtain ⟨i, -, heq⟩ := List.mem_map.mp hput
    obtain ⟨-, rfl⟩ := UserEvent.put.inj heq
    intro hname
    have hletters : (lettersService i 100).stored.serviceName = List.replicate (i + 1) 'a' := rfl
    have hmem : 'o' ∈ List.replicate (i + 1) 'a' := by
      rw [← hletters, hname]
      decide
    exact absurd (List.eq_of_mem_replicate hmem) (by decide)
  · cases List.mem_singleton.mp hput

theorem isFilling_ownManager : IsFilling ownManager := by
  refine ⟨rfl, rfl, fun kind => ?_, fun key hkey hmem => ?_⟩
  · exact mem_insertAll.mpr (.inl ⟨kind, by cases kind <;> decide, rfl⟩)
  · obtain ⟨kind, rfl⟩ := mem_ownManager hmem
    rw [DbKey.getUserIdFromDbKey_render] at hkey
    cases kind <;> exact absurd hkey (by decide)

/-- Each query of a change finds an entry of the device. -/
theorem IsFilling.size_getEntries {m : Manager} (h : IsFilling m) (kind : Kind) :
    (m.store.getEntries (kind.tag ++ SEPARATOR ++ sampleDevice.udid)).size ≠ 0 := by
  intro hzero
  have hown := KvStore.mem_iff_valueAt.mp (h.own kind)
  have hprefix : kind.tag ++ SEPARATOR ++ sampleDevice.udid <+: (ownKey kind).render := by
    cases kind
    · exact DbKey.prefix_render (k := ownKey .dev) rfl
    · exact DbKey.prefix_render (k := ownKey .svr) rfl
    · exact DbKey.prefix_render (k := ownKey .char) rfl
  have hget := KvStore.getElem?_getEntries m.store (kind.tag ++ SEPARATOR ++ sampleDevice.udid)
    (ownKey kind).render
  rw [ExtTreeMap.eq_empty_iff_size_eq_zero.mpr hzero, if_pos hprefix,
    ExtTreeMap.getElem?_empty] at hget
  rw [← hget] at hown
  cases hown

/-- A change whose queries find too many entries only changes the user. -/
theorem setCurrentForegroundUserID_of_not_isAccepted {m : Manager} (stored : Bool) (userId : Int32)
    (h : ¬m.store.IsAccepted (SVR_PREFIX ++ SEPARATOR ++ sampleDevice.udid)) :
    m.setCurrentForegroundUserID sampleDevice stored userId =
      { m with foregroundUserId := userId } := by
  have honUserChange : m.onUserChange sampleDevice stored m.foregroundUserId userId = m := by
    unfold Manager.onUserChange
    split
    · rfl
    · split
      · rfl
      · cases hscan : Manager.getProfilesByKeyPrefix sampleDevice.udid m.store with
        | error e => rfl
        | ok values => exact absurd (getProfilesByKeyPrefix_eq_ok_iff.mp hscan).2.1.2.1 h
  rw [Manager.setCurrentForegroundUserID, honUserChange]

/-- After puts of many services the change of the user is not carried out, and the entries of the
last user stay in view. -/
theorem exists_not_follow {count : Nat} (hcount : count ≤ MAX_STRING_LEN)
    (hmany : MAX_DB_SIZE < count * 4) :
    IsStart sampleDevice (manyEvents count) ownManager ∧
    Admits (userStep sampleDevice) (UserSucceeds sampleDevice) ({}, ownManager)
      (manyEvents count) ∧
    ∃ k : DbKey, IsWritten sampleDevice (manyEvents count) k.toProfileKey ∧
      ∃ s, s = (manyEvents count).foldl (userStep sampleDevice) ({}, ownManager) ∧
        (s.2.store.valueAt (k.forUser DEFAULT_USER_ID).render).isSome ∧
        s.2.store.valueAt (k.forUser (s.2.currentUser sampleDevice)).render = none := by
  have hpositive : 0 < count := by
    have hsize : 0 < MAX_DB_SIZE := by decide
    omega
  have hfirst : 0 ∈ List.range count := List.mem_range.mpr hpositive
  obtain ⟨hadmits, hfilled, hstore⟩ := isFilling_ownManager.run
    (fun i hi => (List.mem_range.mp hi).trans_le hcount) {}
  have hvalid := isValid_lettersService (i := 0) (by decide) 100
  have hrefused := not_isAccepted_of_many hcount hmany fun i hi key hkey =>
    (hstore key).mpr (.inl ⟨i, List.mem_range.mpr hi, hkey⟩)
  generalize hlast : (lettersPuts (List.range count)).foldl (userStep sampleDevice)
    ({}, ownManager) = s at hfilled hstore hrefused
  have hchange := setCurrentForegroundUserID_of_not_isAccepted true 200 hrefused
  have hevents : (manyEvents count).foldl (userStep sampleDevice) ({}, ownManager) =
      (s.1, { s.2 with foregroundUserId := 200 }) := by
    rw [manyEvents, List.foldl_append, hlast, List.foldl_cons, List.foldl_nil, userStep, hchange]
  have hsucceeds : UserSucceeds sampleDevice s (.change true 200) :=
    ⟨by decide, rfl, hfilled.size_getEntries .dev, hfilled.size_getEntries .svr,
      hfilled.size_getEntries .char⟩
  let k := (lettersService 0 100).stored.entryKey hvalid List.mem_cons_self 100
  have hkeyOf : ∀ userId, (k.forUser userId).render =
      generateDBKey (lettersService 0 100).stored.profileKey SERVICE_NAME userId := fun userId =>
    (StoredProfile.generateDBKey_eq_entryKey _ hvalid List.mem_cons_self userId).symm
  have hplain : (k.forUser DEFAULT_USER_ID).render ∈ s.2.store := by
    refine (hstore _).mpr (.inl ⟨0, hfirst, mem_lettersKeys.mpr ?_⟩)
    exact ⟨SERVICE_NAME, List.mem_cons_self, DEFAULT_USER_ID, by decide, (hkeyOf _).symm⟩
  have hother : (k.forUser 200).render ∉ s.2.store :=
    hfilled.other _ (DbKey.getUserIdFromDbKey_render _)
  refine ⟨isStart_manyEvents count, ?_, k,
    ⟨true, lettersService 0 100, mem_manyEvents hpositive, hvalid, rfl⟩, _, hevents.symm,
    KvStore.mem_iff_valueAt.mp hplain, KvStore.valueAt_eq_none_iff.mpr hother⟩
  rw [manyEvents, admits_append, hlast]
  exact ⟨hadmits, hsucceeds, trivial⟩

/-- 1251 services of the user 100 have more entries than a query may find. -/
theorem not_follow_of_large_scan :
    IsStart sampleDevice (manyEvents 1251) ownManager ∧
    Admits (userStep sampleDevice) (UserSucceeds sampleDevice) ({}, ownManager)
      (manyEvents 1251) ∧
    ∃ k : DbKey, IsWritten sampleDevice (manyEvents 1251) k.toProfileKey ∧
      ∃ s, s = (manyEvents 1251).foldl (userStep sampleDevice) ({}, ownManager) ∧
        (s.2.store.valueAt (k.forUser DEFAULT_USER_ID).render).isSome ∧
        s.2.store.valueAt (k.forUser (s.2.currentUser sampleDevice)).render = none :=
  exists_not_follow (by decide) (by decide)

end DeviceProfile
