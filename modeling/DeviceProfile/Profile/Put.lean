import DeviceProfile.Library.Run
import DeviceProfile.Profile.Manager

/-!
# What a put writes

Every put encodes its valid profiles, each for the users that are to see it, and writes the
entries in one batch. In the start-up phase the batch goes to the cache of the puts.
-/

namespace DeviceProfile

open Library Std

/-! ## Keys and values of a profile -/

namespace StoredProfile

variable {localUdid : Text}

/-- The part of the keys that the entries of a profile share. -/
def profileKey : StoredProfile → Text
  | dev p => generateDeviceProfileKey p.deviceId
  | svr p => generateServiceProfileKey p.deviceId (checkAndAddOhSuffix p.serviceName true)
  | char p => generateCharProfileKey p.deviceId (checkAndAddOhSuffix p.serviceName true)
      p.characteristicKey

/-- The keys and values that are written under a user id. -/
def pairs (p : StoredProfile) (userId : Int32) : List (Text × Text) :=
  p.properties.map fun x => (generateDBKey p.profileKey x.1 userId, x.2)

/-- Add the entries of a profile to others. -/
def putInto (p : StoredProfile) (values : Entries) (isMultiUser : Bool) : Entries :=
  match p with
  | dev p => deviceProfileToEntries p values isMultiUser
  | svr p => serviceProfileToEntries p values isMultiUser
  | char p => characteristicProfileToEntries p values isMultiUser

/-- A profile is written as its pairs. -/
theorem putInto_eq (p : StoredProfile) (values : Entries) (isMultiUser : Bool) :
    p.putInto values isMultiUser =
      insertAll Prod.fst Prod.snd (p.pairs (writtenUserId p.userId isMultiUser)) values := by
  have hfold : ∀ (profileKey : Text) (userId : Int32) (properties : List (Text × Text)),
      putProperties profileKey userId properties values =
        insertAll Prod.fst Prod.snd
          (properties.map fun x => (generateDBKey profileKey x.1 userId, x.2)) values := by
    intro profileKey userId properties
    rw [insertAll, List.foldl_map, putProperties]
  cases p <;> exact hfold _ _ _

theorem profileKey_eq (p : StoredProfile) (h : p.IsValid localUdid) :
    p.profileKey = (p.key h).render := by
  cases p with
  | dev p => exact generateDeviceProfileKey_eq p.deviceId
  | svr p => exact generateServiceProfileKey_eq p.deviceId _
  | char p => exact generateCharProfileKey_eq p.deviceId _ p.characteristicKey

/-- Valid profiles have one key when their keys start alike. -/
theorem key_eq_iff_profileKey {p q : StoredProfile} (hp : p.IsValid localUdid)
    (hq : q.IsValid localUdid) : p.key hp = q.key hq ↔ p.profileKey = q.profileKey := by
  rw [p.profileKey_eq hp, q.profileKey_eq hq]
  exact ⟨congrArg ProfileKey.render, ProfileKey.render_injective⟩

theorem deviceId_eq (p : StoredProfile) (h : p.IsValid localUdid) : p.deviceId = localUdid := by
  cases p with
  | dev p => exact h.2.2.symm
  | svr p => exact h.2.1.2.symm
  | char p => exact h.2.1.2.symm

theorem mem_pairs {p : StoredProfile} {userId : Int32} {x : Text × Text} :
    x ∈ p.pairs userId ↔
      ∃ name, (name, x.2) ∈ p.properties ∧ generateDBKey p.profileKey name userId = x.1 := by
  rw [pairs, List.mem_map]
  constructor
  · rintro ⟨y, hy, rfl⟩
    exact ⟨y.1, hy, rfl⟩
  · rintro ⟨name, hmem, hkey⟩
    exact ⟨(name, x.2), hmem, Prod.ext hkey rfl⟩

theorem mem_propertyNames {p : StoredProfile} {x : Text × Text} (h : x ∈ p.properties) :
    x.1 ∈ p.kind.propertyNames :=
  p.map_fst_properties ▸ List.mem_map_of_mem h

/-- A property has one value. -/
theorem properties_functional {p : StoredProfile} {name value value' : Text}
    (h : (name, value) ∈ p.properties) (h' : (name, value') ∈ p.properties) : value = value' := by
  have hnodup : (p.properties.map Prod.fst).Nodup :=
    p.map_fst_properties ▸ nodup_propertyNames p.kind
  exact congrArg Prod.snd (List.inj_on_of_nodup_map hnodup h h' rfl)

/-- What the key of a property says, for a user. -/
def entryKey (p : StoredProfile) (h : p.IsValid localUdid) {name : Text}
    (hname : name ∈ p.kind.propertyNames) (userId : Int32) : DbKey :=
  { p.key h with
    property := name
    userId
    clean_property := clean_property hname }

theorem generateDBKey_eq_entryKey (p : StoredProfile) (h : p.IsValid localUdid) {name : Text}
    (hname : name ∈ p.kind.propertyNames) (userId : Int32) :
    generateDBKey p.profileKey name userId = (p.entryKey h hname userId).render := by
  rw [p.profileKey_eq h]
  exact generateDBKey_eq_render (p.entryKey h hname userId)

/-- A key says which profile, property and user it belongs to. -/
theorem eq_of_generateDBKey_eq {p q : StoredProfile} (hp : p.IsValid localUdid)
    (hq : q.IsValid localUdid) {name name' : Text} (hname : name ∈ p.kind.propertyNames)
    (hname' : name' ∈ q.kind.propertyNames) {userId userId' : Int32}
    (h : generateDBKey p.profileKey name userId = generateDBKey q.profileKey name' userId') :
    p.key hp = q.key hq ∧ name = name' ∧ userId = userId' := by
  rw [p.generateDBKey_eq_entryKey hp hname, q.generateDBKey_eq_entryKey hq hname'] at h
  have heq := DbKey.render_injective h
  exact ⟨congrArg DbKey.toProfileKey heq, congrArg DbKey.property heq, congrArg DbKey.userId heq⟩

/-- The profiles have the same names. -/
def IsSame (p q : StoredProfile) : Prop :=
  p.kind = q.kind ∧ p.deviceId = q.deviceId ∧ p.serviceName = q.serviceName ∧
    p.characteristicKey = q.characteristicKey

instance (p q : StoredProfile) : Decidable (p.IsSame q) := inferInstanceAs (Decidable (_ ∧ _))

/-- The service name of one profile is that of the other with the suffix that is added to it. -/
def IsTwin (p q : StoredProfile) : Prop :=
  IsOhVariant p.serviceName q.serviceName ∨ IsOhVariant q.serviceName p.serviceName

instance (p q : StoredProfile) : Decidable (p.IsTwin q) := inferInstanceAs (Decidable (_ ∨ _))

/-- Profiles with other names are stored apart, up to the suffix that is added to names. -/
theorem key_ne {p q : StoredProfile} (hp : p.IsValid localUdid) (hq : q.IsValid localUdid)
    (hsame : ¬p.IsSame q) (htwin : ¬p.IsTwin q) : p.key hp ≠ q.key hq := by
  rw [ne_eq, key_eq_iff hp hq, checkAndAddOhSuffix_eq_iff]
  rintro ⟨hkind, hdevice, hname, hkey⟩
  rcases hname with hname | hname
  · exact hsame ⟨hkind, hdevice, hname, hkey⟩
  · exact htwin hname

end StoredProfile

/-- The mark goes along with a profile. -/
def Flagged.map {α β : Type} (f : α → β) (p : Flagged α) : Flagged β :=
  { profile := f p.profile, isMultiUser := p.isMultiUser }

/-- The users under whose ids a profile is written. -/
def Flagged.writtenUsers (curUserId : Int32) (p : Flagged StoredProfile) : List Int32 :=
  if p.isMultiUser then
    if curUserId = p.profile.userId then [p.profile.userId, DEFAULT_USER_ID]
    else [p.profile.userId]
  else [DEFAULT_USER_ID]

/-- The keys and values that are written for a profile. -/
def Flagged.pairs (curUserId : Int32) (p : Flagged StoredProfile) : List (Text × Text) :=
  (p.writtenUsers curUserId).flatMap p.profile.pairs

/-! ## The foreground user -/

namespace Manager

variable (device : LocalDevice) {m m' : Manager}

/-- The user that is found in the foreground. -/
def currentUser (m : Manager) : Int32 :=
  if m.foregroundUserId = DEFAULT_USER_ID then device.osForegroundUserId else m.foregroundUserId

/-- The state after the question for the foreground user. -/
def asked (m : Manager) : Manager := { m with foregroundUserId := m.currentUser device }

/-- The answer for the foreground user, and the manager that asked. -/
theorem getCurrentForegroundUserID_eq (m : Manager) :
    m.getCurrentForegroundUserID device = (m.currentUser device, m.asked device) := by
  unfold getCurrentForegroundUserID asked currentUser
  split <;> rfl

@[simp] theorem currentUser_asked (m : Manager) :
    (m.asked device).currentUser device = m.currentUser device := by
  unfold asked currentUser
  by_cases h : m.foregroundUserId = DEFAULT_USER_ID
  · simp only [h, if_true, ite_self]
  · simp only [h, if_false]

@[simp] theorem asked_asked (m : Manager) :
    (m.asked device).asked device = m.asked device := by
  rw [asked, currentUser_asked]
  rfl

/-- At most the foreground user was asked for. -/
def IsAsked (m m' : Manager) : Prop := m' = m ∨ m' = m.asked device

namespace IsAsked

variable {device}

theorem refl (m : Manager) : IsAsked device m m := .inl rfl

theorem trans {m'' : Manager} (h : IsAsked device m m') (h' : IsAsked device m' m'') :
    IsAsked device m m'' := by
  rcases h with rfl | rfl
  · exact h'
  · rw [IsAsked, asked_asked, or_self] at h'
    exact .inr h'

theorem store (h : IsAsked device m m') : m'.store = m.store := by
  rcases h with rfl | rfl <;> rfl

theorem isFirst (h : IsAsked device m m') : m'.isFirst = m.isFirst := by
  rcases h with rfl | rfl <;> rfl

theorem putTempCache (h : IsAsked device m m') : m'.putTempCache = m.putTempCache := by
  rcases h with rfl | rfl <;> rfl

theorem currentUser (h : IsAsked device m m') :
    m'.currentUser device = m.currentUser device := by
  rcases h with rfl | rfl
  · rfl
  · exact currentUser_asked device m

theorem asked (h : IsAsked device m m') : m'.asked device = m.asked device := by
  rcases h with rfl | rfl
  · rfl
  · exact asked_asked device m

end IsAsked

/-- The check of a reader at most asks for the foreground user. -/
theorem isAsked_isMultiUserValid (m : Manager) (deviceId : Text) (isMultiUser : Bool)
    (userId : Int32) :
    IsAsked device m (m.isMultiUserValid device deviceId isMultiUser userId).2 := by
  rw [isMultiUserValid, getCurrentForegroundUserID_eq]
  split
  · exact .refl m
  · split
    · dsimp only
      split
      · exact .inr rfl
      · exact .inr rfl
    · exact .refl m

/-! ## Adding entries -/

/-- Add the entries of a profile of any kind. -/
def addProfile (p : Flagged StoredProfile) (entries : Entries) (m : Manager) :
    Entries × Manager :=
  m.addEntries device p.profile.putInto p.profile.userId p.isMultiUser entries

/-- Adding a profile inserts its pairs for the user in the foreground, and asks for that user when
it has to. -/
theorem addProfile_eq (p : Flagged StoredProfile) (entries : Entries) (m : Manager) :
    m.addProfile device p entries =
      (insertAll Prod.fst Prod.snd (p.pairs (m.currentUser device)) entries,
        if p.isMultiUser then m.asked device else m) := by
  unfold addProfile addEntries Flagged.pairs Flagged.writtenUsers
  rw [getCurrentForegroundUserID_eq]
  cases p.isMultiUser with
  | false => simp [StoredProfile.putInto_eq, writtenUserId]
  | true =>
    by_cases hcur : m.currentUser device = p.profile.userId
    · simp [StoredProfile.putInto_eq, writtenUserId, hcur, insertAll, List.foldl_append]
    · simp [StoredProfile.putInto_eq, writtenUserId, hcur]

/-- Adding a profile at most asks for the foreground user. -/
theorem isAsked_addProfile (p : Flagged StoredProfile) (entries : Entries) (m : Manager) :
    IsAsked device m (m.addProfile device p entries).2 := by
  rw [addProfile_eq]
  cases p.isMultiUser
  · exact .inl rfl
  · exact .inr rfl

/-- Add the entries of the valid ones among profiles. -/
def addProfiles (ps : List (Flagged StoredProfile)) (entries : Entries) (m : Manager) :
    Entries × Manager :=
  ps.foldl (fun x p =>
    if ¬p.profile.IsValid device.udid then x else x.2.addProfile device p x.1) (entries, m)

/-- The keys and values of the valid ones among profiles, in order. -/
def pairsOf (localUdid : Text) (curUserId : Int32) (ps : List (Flagged StoredProfile)) :
    List (Text × Text) :=
  (ps.filter fun p => p.profile.IsValid localUdid).flatMap (Flagged.pairs curUserId)

/-- Adding profiles inserts all their pairs for one user, and asks for that user at most once. -/
theorem addProfiles_spec (ps : List (Flagged StoredProfile)) (entries : Entries) (m : Manager) :
    (m.addProfiles device ps entries).1 =
        insertAll Prod.fst Prod.snd (pairsOf device.udid (m.currentUser device) ps) entries ∧
      IsAsked device m (m.addProfiles device ps entries).2 ∧
      ((∃ p ∈ ps, p.profile.IsValid device.udid ∧ p.isMultiUser = true) →
        (m.addProfiles device ps entries).2 = m.asked device) := by
  induction ps generalizing entries m with
  | nil => exact ⟨rfl, .refl m, fun ⟨p, hp, _⟩ => nomatch hp⟩
  | cons p rest ih =>
    by_cases hvalid : p.profile.IsValid device.udid
    · have hstep : m.addProfiles device (p :: rest) entries =
          (m.addProfile device p entries).2.addProfiles device rest
            (m.addProfile device p entries).1 := by
        simp only [addProfiles, List.foldl_cons, hvalid, not_true_eq_false, if_false]
      have hasked := isAsked_addProfile device p entries m
      obtain ⟨hentries, hrest, hasks⟩ := ih (m.addProfile device p entries).1
        (m.addProfile device p entries).2
      rw [hstep]
      refine ⟨?_, hasked.trans hrest, ?_⟩
      · rw [hentries, hasked.currentUser, addProfile_eq]
        simp only [pairsOf, List.filter_cons, hvalid, decide_true, if_true, List.flatMap_cons,
          insertAll, List.foldl_append]
      · rintro ⟨q, hq, hqvalid, hmulti⟩
        rcases List.mem_cons.mp hq with rfl | hq
        · have hstate : (m.addProfile device q entries).2 = m.asked device := by
            rw [addProfile_eq, hmulti, if_pos rfl]
          rw [hstate] at hrest ⊢
          rcases hrest with h | h
          · exact h
          · rw [h, asked_asked]
        · rw [hasks ⟨q, hq, hqvalid, hmulti⟩]
          exact hasked.asked
    · have hstep :
          m.addProfiles device (p :: rest) entries = m.addProfiles device rest entries := by
        simp only [addProfiles, List.foldl_cons, hvalid, not_false_eq_true, if_true]
      rw [hstep]
      refine ⟨?_, (ih entries m).2.1, ?_⟩
      · simp only [(ih entries m).1, pairsOf, List.filter_cons, hvalid, decide_false,
        Bool.false_eq_true, if_false]
      · rintro ⟨q, hq, hqvalid, hmulti⟩
        rcases List.mem_cons.mp hq with rfl | hq
        · exact absurd hqvalid hvalid
        · exact (ih entries m).2.2 ⟨q, hq, hqvalid, hmulti⟩

end Manager

/-! ## Puts -/

/-- The puts of the manager. -/
inductive PutCall where
  | device (p : Flagged DevProfile)
  | service (p : Flagged ServiceProfile)
  | serviceBatch (ps : List (Flagged ServiceProfile))
  | characteristic (p : Flagged CharacteristicProfile)
  | characteristicBatch (ps : List (Flagged CharacteristicProfile))
  deriving DecidableEq, Repr

namespace PutCall

variable {device : LocalDevice} {stored : Bool} {call : PutCall} {m m' : Manager}

/-- The profiles that a put is given. -/
def profiles : PutCall → List (Flagged StoredProfile)
  | .device p => [p.map .dev]
  | .service p => [p.map .svr]
  | .serviceBatch ps => ps.map (·.map .svr)
  | .characteristic p => [p.map .char]
  | .characteristicBatch ps => ps.map (·.map .char)

/-- Runs a put on the manager. -/
def run (device : LocalDevice) (stored : Bool) :
    PutCall → Manager → Except ManagerError Unit × Manager
  | .device p => Manager.putDeviceProfile device stored p
  | .service p => Manager.putServiceProfile device stored p
  | .serviceBatch ps => Manager.putServiceProfileBatch device stored ps
  | .characteristic p => Manager.putCharacteristicProfile device stored p
  | .characteristicBatch ps => Manager.putCharacteristicProfileBatch device stored ps

/-- The entries that a put writes. -/
def entries (localUdid : Text) (curUserId : Int32) (call : PutCall) : Entries :=
  insertAll Prod.fst Prod.snd (Manager.pairsOf localUdid curUserId call.profiles) ∅

/-- A put of a single profile refuses an invalid one. -/
def IsChecked (localUdid : Text) : PutCall → Prop
  | .serviceBatch _ | .characteristicBatch _ => True
  | .device p => IsDevProfileValid localUdid p.profile
  | .service p => IsSvrProfileValid localUdid p.profile
  | .characteristic p => IsCharProfileValid localUdid p.profile

/-- A put that is not refused adds its profiles to no entries and hands them over. -/
theorem run_eq (h : call.IsChecked device.udid) (stored : Bool) (m : Manager) :
    call.run device stored m =
      Manager.putEntries device stored (m.addProfiles device call.profiles ∅) := by
  have hsingle : ∀ p : Flagged StoredProfile, p.profile.IsValid device.udid →
      m.addProfiles device [p] ∅ = m.addProfile device p ∅ := by
    intro p hp
    rw [Manager.addProfiles, List.foldl_cons, List.foldl_nil, if_neg (not_not.mpr hp)]
  cases call with
  | device p =>
    rw [profiles, hsingle (p.map .dev) h]
    exact if_neg (not_not.mpr h)
  | service p =>
    rw [profiles, hsingle (p.map .svr) h]
    exact if_neg (not_not.mpr h)
  | characteristic p =>
    rw [profiles, hsingle (p.map .char) h]
    exact if_neg (not_not.mpr h)
  | serviceBatch ps =>
    rw [profiles, Manager.addProfiles, List.foldl_map]
    rfl
  | characteristicBatch ps =>
    rw [profiles, Manager.addProfiles, List.foldl_map]
    rfl

/-- A put of invalid profiles is refused and changes nothing. -/
theorem run_eq_of_not_checked (h : ¬call.IsChecked device.udid) (stored : Bool) (m : Manager) :
    call.run device stored m = (.error .invalidParams, m) := by
  cases call with
  | device p => exact if_pos h
  | service p => exact if_pos h
  | characteristic p => exact if_pos h
  | serviceBatch ps => exact absurd trivial h
  | characteristicBatch ps => exact absurd trivial h

/-- What a successful put does: in the start-up phase the entries are cached, later they are
stored. -/
theorem run_ok (h : call.run device stored m = (.ok (), m')) :
    call.IsChecked device.udid ∧ ∃ m₁, Manager.IsAsked device m m₁ ∧
      ((∃ p ∈ call.profiles, p.profile.IsValid device.udid ∧ p.isMultiUser = true) →
        m₁ = m.asked device) ∧
      (m.isFirst = true ∧
          m' = m₁.addToPutTempCache (call.entries device.udid (m.currentUser device)) ∨
        m.isFirst = false ∧ ∃ store,
          m.store.putBatch device.uuid stored (call.entries device.udid (m.currentUser device)) =
            .ok store ∧ m' = { m₁ with store }) := by
  by_cases hchecked : call.IsChecked device.udid
  · obtain ⟨hentries, hasked, hasks⟩ := Manager.addProfiles_spec device call.profiles ∅ m
    refine ⟨hchecked, _, hasked, hasks, ?_⟩
    rw [run_eq hchecked, Manager.putEntries, hentries, hasked.isFirst, hasked.store] at h
    rw [entries]
    split at h
    · rename_i hfirst
      exact .inl ⟨hfirst, (congrArg Prod.snd h).symm⟩
    · rename_i hfirst
      split at h
      · cases h
      · rename_i store hput
        exact .inr ⟨eq_false_of_ne_true hfirst, store, hput, (congrArg Prod.snd h).symm⟩
  · rw [run_eq_of_not_checked hchecked] at h
    cases h

/-- A put that writes entries, and not too many of them, succeeds when the store answers. -/
theorem run_isOk (hchecked : call.IsChecked device.udid) (hfirst : m.isFirst = false)
    (hne : call.entries device.udid (m.currentUser device) ≠ ∅)
    (hsize : (call.entries device.udid (m.currentUser device)).size ≤ MAX_PROFILE_SIZE) :
    (call.run device true m).1 = .ok () := by
  obtain ⟨hentries, hasked, -⟩ := Manager.addProfiles_spec device call.profiles ∅ m
  obtain ⟨store, hput⟩ := KvStore.putBatch_isOk hne hsize device.uuid m.store
  rw [entries] at hput
  rw [run_eq hchecked, Manager.putEntries, hasked.isFirst, hfirst, hasked.store, hentries, hput]
  rfl

/-! ## What is found among the entries -/

variable {localUdid : Text} {curUserId : Int32} {k v : Text}

/-- The pairs of a list of profiles are those of its valid members, for each user they are written
for. -/
theorem mem_pairsOf {ps : List (Flagged StoredProfile)} {x : Text × Text} :
    x ∈ Manager.pairsOf localUdid curUserId ps ↔
      ∃ p ∈ ps, p.profile.IsValid localUdid ∧ ∃ u ∈ p.writtenUsers curUserId,
        x ∈ p.profile.pairs u := by
  simp only [Manager.pairsOf, Flagged.pairs, List.mem_flatMap, List.mem_filter, decide_eq_true_eq,
    and_assoc]

/-- The keys of the entries are those of the properties of the valid profiles. -/
theorem mem_entries :
    k ∈ call.entries localUdid curUserId ↔
      ∃ p ∈ call.profiles, p.profile.IsValid localUdid ∧ ∃ u ∈ p.writtenUsers curUserId,
        ∃ name ∈ p.profile.kind.propertyNames, generateDBKey p.profile.profileKey name u = k := by
  rw [entries, mem_insertAll]
  simp only [mem_pairsOf, ExtTreeMap.not_mem_empty, or_false]
  constructor
  · rintro ⟨x, ⟨p, hp, hvalid, u, hu, hx⟩, rfl⟩
    obtain ⟨name, hname, hk⟩ := StoredProfile.mem_pairs.mp hx
    exact ⟨p, hp, hvalid, u, hu, name, StoredProfile.mem_propertyNames hname, hk⟩
  · rintro ⟨p, hp, hvalid, u, hu, name, hname, rfl⟩
    obtain ⟨x, hx, rfl⟩ := List.mem_map.mp (p.profile.map_fst_properties ▸ hname)
    exact ⟨(generateDBKey p.profile.profileKey x.1 u, x.2),
      ⟨p, hp, hvalid, u, hu, StoredProfile.mem_pairs.mpr ⟨x.1, hx, rfl⟩⟩, rfl⟩

theorem ne_nil_of_mem_entries (h : k ∈ call.entries localUdid curUserId) : k ≠ [] := by
  obtain ⟨p, -, hp, u, -, name, hname, rfl⟩ := mem_entries.mp h
  rw [StoredProfile.generateDBKey_eq_entryKey _ hp hname]
  exact DbKey.render_ne_nil _

/-- Each entry is one of a valid profile of the put. -/
theorem exists_of_getElem?_entries (h : (call.entries localUdid curUserId)[k]? = some v) :
    ∃ p ∈ call.profiles, p.profile.IsValid localUdid ∧ ∃ u ∈ p.writtenUsers curUserId,
      (k, v) ∈ p.profile.pairs u := by
  rcases exists_of_getElem?_insertAll h with ⟨x, hx, rfl, rfl⟩ | h
  · exact mem_pairsOf.mp hx
  · rw [ExtTreeMap.getElem?_empty] at h
    cases h

/-- A put of one profile writes its properties. -/
theorem getElem?_entries_of_singleton {p : Flagged StoredProfile} (hcall : call.profiles = [p])
    (hp : p.profile.IsValid localUdid) {u : Int32} (hu : u ∈ p.writtenUsers curUserId)
    (h : (k, v) ∈ p.profile.pairs u) : (call.entries localUdid curUserId)[k]? = some v := by
  have hmem : (k, v) ∈ Manager.pairsOf localUdid curUserId call.profiles :=
    mem_pairsOf.mpr ⟨p, hcall ▸ List.mem_singleton_self p, hp, u, hu, h⟩
  refine getElem?_insertAll_of_mem hmem (fun y hy hkey => ?_) ∅
  obtain ⟨q, hq, -, u', -, hy⟩ := mem_pairsOf.mp hy
  rw [hcall, List.mem_singleton] at hq
  subst hq
  obtain ⟨name, hname, hk⟩ := StoredProfile.mem_pairs.mp h
  obtain ⟨name', hname', hk'⟩ := StoredProfile.mem_pairs.mp hy
  obtain ⟨-, rfl, -⟩ := StoredProfile.eq_of_generateDBKey_eq hp hp
    (StoredProfile.mem_propertyNames hname') (StoredProfile.mem_propertyNames hname)
    ((hk'.trans hkey).trans hk.symm)
  exact StoredProfile.properties_functional hname' hname

/-- What a put of one profile writes under a key is what the key says about the profile. -/
theorem getElem?_entries_render {p : Flagged StoredProfile} (hcall : call.profiles = [p])
    (hp : p.profile.IsValid localUdid) {k : DbKey} :
    (call.entries localUdid curUserId)[k.render]? = some v ↔
      k.toProfileKey = p.profile.key hp ∧ k.userId ∈ p.writtenUsers curUserId ∧
        (k.property, v) ∈ p.profile.properties := by
  constructor
  · intro h
    obtain ⟨q, hq, -, u, hu, hmem⟩ := exists_of_getElem?_entries h
    rw [hcall, List.mem_singleton] at hq
    subst hq
    obtain ⟨name, hname, hk⟩ := StoredProfile.mem_pairs.mp hmem
    replace hname : (name, v) ∈ q.profile.properties := hname
    rw [StoredProfile.generateDBKey_eq_entryKey _ hp (StoredProfile.mem_propertyNames hname)] at hk
    obtain rfl := DbKey.render_injective hk
    exact ⟨rfl, hu, hname⟩
  · rintro ⟨hkey, hu, hname⟩
    refine getElem?_entries_of_singleton hcall hp hu (StoredProfile.mem_pairs.mpr ⟨_, hname, ?_⟩)
    rw [p.profile.profileKey_eq hp, ← hkey]
    exact generateDBKey_eq_render k

/-- The entries of a profile are not touched by the put of profiles that are stored apart. -/
theorem getElem?_entries_of_key_ne {p : StoredProfile} (hp : p.IsValid localUdid)
    (hother : ∀ q ∈ call.profiles, ∀ hq : q.profile.IsValid localUdid,
      p.key hp ≠ q.profile.key hq) {name : Text} (hname : name ∈ p.kind.propertyNames) (u : Int32) :
    (call.entries localUdid curUserId)[generateDBKey p.profileKey name u]? = none := by
  rw [Option.eq_none_iff_forall_ne_some]
  intro v h
  obtain ⟨q, hq, hvalid, u', -, hmem⟩ := exists_of_getElem?_entries h
  obtain ⟨name', hname', hk⟩ := StoredProfile.mem_pairs.mp hmem
  have heq := StoredProfile.eq_of_generateDBKey_eq hp hvalid hname
    (StoredProfile.mem_propertyNames hname') hk.symm
  exact hother q hq hvalid heq.1

end PutCall

/-! ## Runs of puts -/

/-- The state after a put; the store answers as it is said. -/
def putStep (device : LocalDevice) (m : Manager) (x : Bool × PutCall) : Manager :=
  (x.2.run device x.1 m).2

/-- The put returns without an error. -/
def PutSucceeds (device : LocalDevice) (m : Manager) (x : Bool × PutCall) : Prop :=
  (x.2.run device x.1 m).1 = .ok ()

instance (device : LocalDevice) (m : Manager) (x : Bool × PutCall) :
    Decidable (PutSucceeds device m x) :=
  inferInstanceAs (Decidable (_ = _))

section Puts

variable {device : LocalDevice} {m : Manager} {p : StoredProfile} {x : Bool × PutCall}

/-- A put that succeeds is its step. -/
theorem PutSucceeds.run_eq (h : PutSucceeds device m x) :
    x.2.run device x.1 m = (.ok (), putStep device m x) :=
  Prod.ext h rfl

/-- A put neither ends the start-up phase nor goes back to it. -/
theorem isFirst_putStep (h : PutSucceeds device m x) :
    (putStep device m x).isFirst = m.isFirst := by
  obtain ⟨-, m₁, hasked, -, ⟨-, hm⟩ | ⟨-, store, -, hm⟩⟩ := PutCall.run_ok h.run_eq
  · rw [hm, ← hasked.isFirst, Manager.addToPutTempCache]
    split
    · rfl
    · split <;> rfl
  · rw [hm]
    exact hasked.isFirst

/-- A put keeps the user in the foreground. -/
theorem currentUser_putStep (h : PutSucceeds device m x) :
    (putStep device m x).currentUser device = m.currentUser device := by
  obtain ⟨-, m₁, hasked, -, ⟨-, hm⟩ | ⟨-, store, -, hm⟩⟩ := PutCall.run_ok h.run_eq
  · rw [hm, ← hasked.currentUser, Manager.addToPutTempCache]
    split
    · rfl
    · split <;> rfl
  · rw [hm, ← hasked.currentUser]
    rfl

/-- After the start-up phase a put stores its entries. -/
theorem valueAt_putStep (h : PutSucceeds device m x) (hfirst : m.isFirst = false) (key : Text) :
    (putStep device m x).store.valueAt key =
      (x.2.entries device.udid (m.currentUser device))[key]?.or (m.store.valueAt key) := by
  obtain ⟨-, m₁, -, -, ⟨htrue, -⟩ | ⟨-, store, hput, hm⟩⟩ := PutCall.run_ok h.run_eq
  · rw [hfirst] at htrue
    cases htrue
  · rw [hm]
    exact KvStore.valueAt_putBatch hput key

/-- The entries of a profile stay through puts of profiles that are stored apart. -/
theorem valueAt_foldl_putStep {puts : List (Bool × PutCall)}
    (hputs : Admits (putStep device) (PutSucceeds device) m puts) (hfirst : m.isFirst = false)
    (hp : p.IsValid device.udid)
    (hother : ∀ x ∈ puts, ∀ q ∈ x.2.profiles, ∀ hq : q.profile.IsValid device.udid,
      p.key hp ≠ q.profile.key hq)
    {name : Text} (hname : name ∈ p.kind.propertyNames) (userId : Int32) :
    (puts.foldl (putStep device) m).store.valueAt (generateDBKey p.profileKey name userId) =
      m.store.valueAt (generateDBKey p.profileKey name userId) := by
  have hkept : (puts.foldl (putStep device) m).isFirst = false ∧
      (puts.foldl (putStep device) m).store.valueAt (generateDBKey p.profileKey name userId) =
        m.store.valueAt (generateDBKey p.profileKey name userId) := by
    refine foldl_invariant (P := fun m' => m'.isFirst = false ∧
      m'.store.valueAt (generateDBKey p.profileKey name userId) =
        m.store.valueAt (generateDBKey p.profileKey name userId)) ?_ ⟨hfirst, rfl⟩
      (hputs.and_forall hother)
    rintro m' x ⟨hfirst', hvalue⟩ ⟨hsucceeds, hapart⟩
    refine ⟨(isFirst_putStep hsucceeds).trans hfirst', ?_⟩
    rw [valueAt_putStep hsucceeds hfirst', PutCall.getElem?_entries_of_key_ne hp hapart hname,
      Option.none_or, hvalue]
  exact hkept.2

end Puts

end DeviceProfile
