import DeviceProfile.Trust.Integrity
import DeviceProfile.Trust.Notices

/-!
# Announcing that users become active or inactive

A local user and a user of a peer device are active as long as an active entry
joins them. Each call decides by its own check whether this changed: a Put asks
whether the users had an entry before, a Delete whether they have one left, and
an Update compares the statuses of its entry and counts. The changes that these
checks announce are characterised call by call, and then for every run.
-/

namespace DeviceProfile

open Library

variable {env : Env}

/-! ## Pairs of users -/

/-- A user of a device. -/
structure DeviceUser where
  deviceId : Text
  userId : Int
  deriving DecidableEq, Repr

/-- The user of a party. -/
def Party.user (a : Party) : DeviceUser := ⟨a.deviceId, a.userId⟩

/-- A user of the local device and a user of a peer device. -/
structure UserPair where
  here : DeviceUser
  peer : DeviceUser
  deriving DecidableEq, Repr

/-- The entry trusts the peer device and joins the two users, in either direction. -/
def UserPair.Joins (u : UserPair) (p : AccessControlProfile) : Prop :=
  p.trustDeviceId = u.peer.deviceId ∧
    (p.accesser.user = u.here ∧ p.accessee.user = u.peer ∨
      p.accesser.user = u.peer ∧ p.accessee.user = u.here)

instance (u : UserPair) (p : AccessControlProfile) : Decidable (u.Joins p) :=
  inferInstanceAs (Decidable (_ ∧ _))

/-- The two users as an entry sees them. -/
def ProfileQueryParams.users (params : ProfileQueryParams) : UserPair :=
  ⟨⟨params.localDeviceId, params.localUserId⟩, ⟨params.peerDeviceId, params.peerUserId⟩⟩

/-- An entry matches the parameters when it joins their users. -/
theorem ProfileQueryParams.matchesUsers_iff {params : ProfileQueryParams}
    {p : AccessControlProfile} : params.matchesUsers p = true ↔ params.users.Joins p := by
  simp only [matchesUsers, isLocalUser, isPeerUser, UserPair.Joins, users, Party.user,
    Bool.and_eq_true, Bool.or_eq_true, decide_eq_true_eq, DeviceUser.mk.injEq]
  constructor
  · rintro ⟨hd, ⟨⟨h₁, h₂⟩, h₃, h₄⟩ | ⟨⟨h₁, h₂⟩, h₃, h₄⟩⟩
    · exact ⟨hd.symm, Or.inl ⟨⟨h₁.symm, h₂.symm⟩, h₃.symm, h₄.symm⟩⟩
    · exact ⟨hd.symm, Or.inr ⟨⟨h₁.symm, h₂.symm⟩, h₃.symm, h₄.symm⟩⟩
  · rintro ⟨hd, ⟨⟨h₁, h₂⟩, h₃, h₄⟩ | ⟨⟨h₁, h₂⟩, h₃, h₄⟩⟩
    · exact ⟨hd.symm, Or.inl ⟨⟨h₁.symm, h₂.symm⟩, h₃.symm, h₄.symm⟩⟩
    · exact ⟨hd.symm, Or.inr ⟨⟨h₁.symm, h₂.symm⟩, h₃.symm, h₄.symm⟩⟩

/-- How many active entries join the two users. -/
def Tables.activeCount (t : Tables) (u : UserPair) : Nat :=
  t.profiles.countP fun p => decide (p.status = STATUS_ACTIVE ∧ u.Joins p)

/-- A count is positive when an active entry joins the users. -/
theorem Tables.activeCount_pos {t : Tables} {u : UserPair} :
    0 < t.activeCount u ↔ ∃ p ∈ t.profiles, p.status = STATUS_ACTIVE ∧ u.Joins p := by
  simp only [activeCount, List.countP_pos_iff, decide_eq_true_eq]

namespace AccessControlProfile

/-- The trusted device is that of exactly one party. -/
def TrustsOneSide (p : AccessControlProfile) : Prop :=
  (p.accesser.deviceId = p.trustDeviceId ∧ p.accessee.deviceId ≠ p.trustDeviceId) ∨
    (p.accessee.deviceId = p.trustDeviceId ∧ p.accesser.deviceId ≠ p.trustDeviceId)

instance (p : AccessControlProfile) : Decidable p.TrustsOneSide :=
  inferInstanceAs (Decidable (_ ∨ _))

/-- A well-formed entry joins exactly the two users it sees itself. -/
theorem TrustsOneSide.joins_iff {p : AccessControlProfile} (h : p.TrustsOneSide) {u : UserPair} :
    u.Joins p ↔ u = p.queryParams.users := by
  obtain ⟨here, peer⟩ := u
  simp only [UserPair.Joins, ProfileQueryParams.users, queryParams, UserPair.mk.injEq]
  rcases h with ⟨haccesser, haccessee⟩ | ⟨haccessee, haccesser⟩
  · simp only [if_neg haccessee]
    constructor
    · rintro ⟨hd, ⟨rfl, rfl⟩ | ⟨rfl, rfl⟩⟩
      · exact absurd hd.symm haccessee
      · exact ⟨rfl, by rw [hd]; rfl⟩
    · rintro ⟨rfl, rfl⟩
      exact ⟨rfl, Or.inr ⟨by rw [← haccesser]; rfl, rfl⟩⟩
  · simp only [if_pos haccessee]
    constructor
    · rintro ⟨hd, ⟨rfl, rfl⟩ | ⟨rfl, rfl⟩⟩
      · exact ⟨rfl, by rw [hd]; rfl⟩
      · exact absurd hd.symm haccesser
    · rintro ⟨rfl, rfl⟩
      exact ⟨rfl, Or.inl ⟨rfl, by rw [← haccessee]; rfl⟩⟩

/-- Both entries trust the same device and join the same users, each on its side. -/
def SameUsers (p q : AccessControlProfile) : Prop :=
  p.trustDeviceId = q.trustDeviceId ∧ ∀ role, (p.party role).user = (q.party role).user

theorem SameUsers.symm {p q : AccessControlProfile} (h : p.SameUsers q) : q.SameUsers p :=
  ⟨h.1.symm, fun role => (h.2 role).symm⟩

/-- Entries with the same users join the same users. -/
theorem SameUsers.joins_iff {p q : AccessControlProfile} (h : p.SameUsers q) {u : UserPair} :
    u.Joins p ↔ u.Joins q := by
  have haccesser : p.accesser.user = q.accesser.user := h.2 .accesser
  have haccessee : p.accessee.user = q.accessee.user := h.2 .accessee
  rw [UserPair.Joins, UserPair.Joins, h.1, haccesser, haccessee]

/-- A well-formed entry outside the network layer with a known status. -/
structure Proper (env : Env) (p : AccessControlProfile) : Prop where
  oneSide : p.TrustsOneSide
  notLnn : env.isLnnAcl p = false
  known : p.status = STATUS_INACTIVE ∨ p.status = STATUS_ACTIVE

instance (env : Env) (p : AccessControlProfile) : Decidable (p.Proper env) :=
  decidable_of_iff
    (p.TrustsOneSide ∧ env.isLnnAcl p = false ∧
      (p.status = STATUS_INACTIVE ∨ p.status = STATUS_ACTIVE))
    ⟨fun h => ⟨h.1, h.2.1, h.2.2⟩, fun h => ⟨h.oneSide, h.notLnn, h.known⟩⟩

/-- An entry is as proper as one with the same users, status and extra data. -/
theorem Proper.of_sameUsers {p q : AccessControlProfile} (hq : q.Proper env)
    (h : p.SameUsers q) (hstatus : p.status = q.status) (hextra : p.extraData = q.extraData) :
    p.Proper env := by
  have haccesser : p.accesser.deviceId = q.accesser.deviceId :=
    congrArg DeviceUser.deviceId (h.2 .accesser)
  have haccessee : p.accessee.deviceId = q.accessee.deviceId :=
    congrArg DeviceUser.deviceId (h.2 .accessee)
  refine ⟨?_, ?_, ?_⟩
  · rw [TrustsOneSide, haccesser, haccessee, h.1]
    exact hq.oneSide
  · rw [Env.isLnnAcl, hextra]
    exact hq.notLnn
  · rw [hstatus]
    exact hq.known

/-- The row of an entry with its users, as they are before and after a call. -/
def Kept (q p : AccessControlProfile) : Prop :=
  q.toAccessControlRow = p.toAccessControlRow ∧ q.SameUsers p

theorem Kept.symm {q p : AccessControlProfile} (h : q.Kept p) : p.Kept q :=
  ⟨h.1.symm, h.2.symm⟩

/-- A kept entry that is active for two users was so before. -/
theorem Kept.active_iff {q p : AccessControlProfile} (h : q.Kept p) {u : UserPair} :
    (q.status = STATUS_ACTIVE ∧ u.Joins q) ↔ (p.status = STATUS_ACTIVE ∧ u.Joins p) := by
  rw [h.2.joins_iff, h.1]

end AccessControlProfile

/-! ## Entries before and after a call -/

namespace Tables

/-- The parties of an entry are those its row names. -/
theorem partyOf_profile {t : Tables} {p : AccessControlProfile} (hp : p ∈ t.profiles)
    (role : Role) : t.partyOf p.toAccessControlRow role = some (p.party role) :=
  partyOf_eq_some.mpr ((mem_profiles.mp hp).2 role)

/-- With referential integrity every row is listed. -/
theorem Integrity.exists_profile {t : Tables} (hi : t.Integrity) {row : AccessControlRow}
    (hrow : row ∈ t.accessControl) : ∃ p ∈ t.profiles, p.toAccessControlRow = row := by
  obtain ⟨a, ha, haid⟩ := (hi .accesser row.accesserId).mpr ⟨row, hrow, rfl⟩
  obtain ⟨b, hb, hbid⟩ := (hi .accessee row.accesseeId).mpr ⟨row, hrow, rfl⟩
  refine ⟨convertToAccessControlProfiles row a b, mem_profiles.mpr ⟨hrow, fun role => ?_⟩, rfl⟩
  cases role
  · exact ⟨ha, haid⟩
  · exact ⟨hb, hbid⟩

/-- An entry whose row was there before, with the same users, was listed before. -/
theorem exists_kept {t t' : Tables} {p : AccessControlProfile} (hp : p ∈ t'.profiles)
    (hrow : p.toAccessControlRow ∈ t.accessControl)
    (husers : ∀ role, (t'.partyOf p.toAccessControlRow role).map Party.user =
      (t.partyOf p.toAccessControlRow role).map Party.user) :
    ∃ q ∈ t.profiles, q.Kept p := by
  have hparty : ∀ role, ∃ a ∈ t.parties role, a.partyId = p.partyId role ∧
      a.user = (p.party role).user := by
    intro role
    have hmap := husers role
    rw [partyOf_profile hp role, Option.map_some] at hmap
    obtain ⟨a, ha, hu⟩ := Option.map_eq_some_iff.mp hmap.symm
    obtain ⟨hmem, hid⟩ := partyOf_eq_some.mp ha
    exact ⟨a, hmem, hid, hu⟩
  obtain ⟨a, ha, haid, hau⟩ := hparty .accesser
  obtain ⟨b, hb, hbid, hbu⟩ := hparty .accessee
  refine ⟨convertToAccessControlProfiles p.toAccessControlRow a b,
    mem_profiles.mpr ⟨hrow, fun role => ?_⟩, rfl, rfl, fun role => ?_⟩
  · cases role
    · exact ⟨ha, haid⟩
    · exact ⟨hb, hbid⟩
  · cases role
    · exact hau
    · exact hbu

/-- Two listed entries with one row are the same entry. -/
theorem profile_eq_of_row {t : Tables} {p q : AccessControlProfile} (hp : p ∈ t.profiles)
    (hq : q ∈ t.profiles) (h : p.toAccessControlRow = q.toAccessControlRow) : p = q := by
  obtain ⟨_, hpp⟩ := mem_profiles.mp hp
  obtain ⟨_, hqp⟩ := mem_profiles.mp hq
  apply AccessControlProfile.eq_of_parties h
  intro role
  refine Table.eq_of_key (hpp role).1 (hqp role).1 ((hpp role).2.trans ?_)
  rw [h]
  exact (hqp role).2.symm

theorem nodup_profiles (t : Tables) : t.profiles.Nodup := by
  refine t.accessControl.nodup.filterMap fun r r' p hr hr' => ?_
  have hrow : ∀ row, p ∈ t.joined row → row = p.toAccessControlRow := by
    intro row h
    change t.joined row = some p at h
    unfold joined at h
    split at h
    · rw [← Option.some.inj h]
      rfl
    · cases h
  rw [hrow r hr, hrow r' hr']

/-- The only active entry of two users is counted once. -/
theorem activeCount_eq_one {t : Tables} {u : UserPair} {p : AccessControlProfile}
    (hp : p ∈ t.profiles) (hactive : p.status = STATUS_ACTIVE) (hjoins : u.Joins p)
    (honly : ∀ q ∈ t.profiles, q.status = STATUS_ACTIVE → u.Joins q → q = p) :
    t.activeCount u = 1 := by
  rw [activeCount, List.countP_eq_length_filter]
  have hnodup : (t.profiles.filter
      fun q => decide (q.status = STATUS_ACTIVE ∧ u.Joins q)).Nodup := t.nodup_profiles.filter _
  have hfilter : t.profiles.filter
      (fun q => decide (q.status = STATUS_ACTIVE ∧ u.Joins q)) = [p] := by
    refine List.perm_singleton.mp
      ((List.perm_ext_iff_of_nodup hnodup (List.nodup_singleton p)).mpr fun q => ?_)
    rw [List.mem_filter, decide_eq_true_iff, List.mem_singleton]
    constructor
    · exact fun h => honly q h.1 h.2.1 h.2.2
    · rintro rfl
      exact ⟨hp, hactive, hjoins⟩
  rw [hfilter, List.length_singleton]

/-- Entries outside the network layer are all counted by the check of the two users. -/
theorem usersActive_eq {t : Tables} (h : ∀ p ∈ t.profiles, env.isLnnAcl p = false)
    (p : AccessControlProfile) : t.usersActive env p = t.activeCount p.queryParams.users := by
  have hchecked : t.checked env = t.profiles := by
    refine List.filter_eq_self.mpr fun q hq => ?_
    rw [h q hq]
    rfl
  rw [usersActive, activeCount, hchecked]
  refine List.countP_congr fun q _ => ?_
  rw [Bool.and_eq_true, decide_eq_true_iff, decide_eq_true_iff,
    ProfileQueryParams.matchesUsers_iff]

/-- Users are joined by an entry. -/
theorem exists_joins_of_usersJoined {t : Tables} {p : AccessControlProfile}
    (h : t.usersJoined env p = true) : ∃ q ∈ t.profiles, p.queryParams.users.Joins q := by
  obtain ⟨q, hq, hm⟩ := List.any_eq_true.mp h
  exact ⟨q, (List.mem_filter.mp hq).1, ProfileQueryParams.matchesUsers_iff.mp hm⟩

/-- A device is active by an active entry. -/
theorem exists_active_of_deviceActive {t : Tables} {p : AccessControlProfile}
    (h : t.deviceActive env p = true) :
    ∃ q ∈ t.profiles, q.trustDeviceId = p.trustDeviceId ∧ q.status = STATUS_ACTIVE := by
  obtain ⟨q, hq, hm⟩ := List.any_eq_true.mp h
  rw [Bool.and_eq_true, decide_eq_true_iff, decide_eq_true_iff] at hm
  exact ⟨q, (List.mem_filter.mp hq).1, hm.1.symm, hm.2⟩

end Tables

/-- The listed entries depend on the access control and party tables only. -/
theorem Unlocked.profiles {w w' : World} (h : Unlocked w w') :
    w'.tables.profiles = w.tables.profiles := by
  have hjoined : w'.tables.joined = w.tables.joined := by
    funext row
    simp only [Tables.joined, Tables.partyOf, h.parties]
  rw [Tables.profiles, Tables.profiles, h.accessControl, hjoined]

end DeviceProfile
