import DeviceProfile.Trust.Activation

/-!
# Every call announces the users it activates

What each call does to the listed entries, together with the notifications it
sends. From this it follows which changes of the active count of two users are
announced, for every call that keeps its entry with its users, and so in every
run of such calls.
-/

namespace DeviceProfile

open Library

variable {env : Env}

/-! ## What the calls do to the listed entries -/

/-- An entry that a Put added has the users, the status and the extra data of the call. -/
structure AddedBy (env : Env) (w w' : World) (p q' : AccessControlProfile) : Prop where
  sameUsers : q'.SameUsers p
  status : q'.status = p.status
  extraData : q'.extraData = p.extraData
  notice : w.tables.usersJoined env p = false → env.isLnnAcl p = false →
    Notice.trustDeviceProfileAdd (convertToTrustDeviceProfile p) ∈ issued w w'

/-- A put keeps every entry and adds its own at most. -/
theorem put_profiles {p : AccessControlProfile} {w w' : World} {r : Except DpError Unit}
    (hw : w.faults = []) (hi : w.tables.Integrity)
    (h : (putAccessControlProfile env p).exec w = (r, w')) :
    (∀ q ∈ w.tables.profiles, ∃ q' ∈ w'.tables.profiles, q.Kept q') ∧
      ∀ q' ∈ w'.tables.profiles, (∃ q ∈ w.tables.profiles, q.Kept q') ∨
        AddedBy env w w' p q' := by
  obtain ⟨_, he, _⟩ := putAccessControlProfile_effect h
  have hrows : ∀ row ∈ w.tables.accessControl, row ∈ w'.tables.accessControl := by
    intro row hrow
    cases he with
    | failed e hfaults => exact absurd hw hfaults
    | found hacl => exact hacl ▸ hrow
    | stored _ _ hacl => exact (Table.mem_insert? hacl).mpr (Or.inr hrow)
  have husers : ∀ row ∈ w.tables.accessControl, ∀ role,
      (w'.tables.partyOf row role).map Party.user = (w.tables.partyOf row role).map Party.user :=
    fun row hrow role => congrArg _ (he.partyOf_eq hw hi hrow role)
  constructor
  · intro q hq
    have hrow := (Tables.mem_profiles.mp hq).1
    obtain ⟨q', hq', hkept⟩ := Tables.exists_kept hq (hrows _ hrow)
      fun role => (husers _ hrow role).symm
    exact ⟨q', hq', hkept.symm⟩
  · intro q' hq'
    by_cases hold : q'.toAccessControlRow ∈ w.tables.accessControl
    · exact Or.inl (Tables.exists_kept hq' hold (husers _ hold))
    right
    obtain ⟨hrow', hstored⟩ := Tables.mem_profiles.mp hq'
    -- the row was stored by this call
    obtain ⟨e, h₁, _⟩ | ⟨h₁, _⟩ | ⟨q, u, a, w₁, h₁, h₂⟩ := putAccessControlProfile_cases h
    · cases putAccessControlProfileLocked_effect h₁ with
      | failed _ hfaults => exact absurd hw hfaults
    · cases putAccessControlProfileLocked_effect h₁ with
      | found hacl => exact absurd (hacl ▸ hrow') hold
    have hl := Locked.of_exec (locked_putAccessControlProfileLocked env p) h₁
    have hu := Unlocked.of_exec (unlocked_putTail q u a) h₂
    cases putAccessControlProfileLocked_effect h₁ with
    | stored _ _ hacl hparties hflags =>
      obtain hrow | hrow := (Table.mem_insert? hacl).mp (hu.accessControl ▸ hrow')
      swap
      · exact absurd hrow hold
      refine ⟨⟨?_, fun role => ?_⟩, ?_, ?_, fun hjoined hlnn => ?_⟩
      · rw [hrow]
        rfl
      · obtain ⟨hmem, hid⟩ := hstored role
        rw [hu.parties] at hmem
        have hcols := (hparties role).indexColumns_eq hmem (by rw [hid, hrow])
        exact congrArg (fun c => DeviceUser.mk c.deviceId c.userId) hcols
      · rw [hrow]
        rfl
      · rw [hrow]
        rfl
      · obtain ⟨rfl, _⟩ := hflags hw
        have hadd : w₁.notices ++
            [.trustDeviceProfileAdd (convertToTrustDeviceProfile (w.tables.prepared p))] <+:
            w'.notices := by
          have hprepared : env.isLnnAcl (w.tables.prepared p) = false := hlnn
          have hnotices : ∀ {w₂ x}, (putAclCheck env (w.tables.prepared p)
              (w.tables.usersJoined env p) a).exec w₁ = (x, w₂) → w₁.notices ++
              [.trustDeviceProfileAdd (convertToTrustDeviceProfile (w.tables.prepared p))] <+:
              w₂.notices := by
            intro w₂ x hx
            have hput := putAclCheck_notices hx
            rwa [hjoined, hprepared, Bool.not_false, Bool.and_self, if_pos rfl] at hput
          obtain ⟨_, w₂, h₂, h₃⟩ | ⟨e, h₂, _⟩ := Prog.exec_bind_cases h₂
          · exact (hnotices h₂).trans (Notifies.of_exec (notifies_notify _) h₃).notices
          · exact hnotices h₂
        rw [hl.notices, Tables.convertToTrustDeviceProfile_prepared] at hadd
        exact mem_issued List.prefix_rfl hadd

/-- What a Delete announces about the entry it deleted. -/
structure DeletedBy (env : Env) (w w' : World) (q : AccessControlProfile) : Prop where
  delete : w'.tables.usersJoined env q = false → env.isLnnAcl q = false →
    Notice.trustDeviceProfileDelete (convertToTrustDeviceProfile q) ∈ issued w w'
  inactive : w'.tables.deviceActive env q = false → env.isLnnAcl q = false →
    Notice.deviceAclInactiveByDelete (convertToTrustDeviceProfile q) ∈ issued w w'

/-- A deletion keeps every entry but its own. -/
theorem delete_profiles {id : Int} {w w' : World} {r : Except DpError Unit}
    (hw : w.faults = []) (hi : w.tables.Integrity)
    (h : (deleteAccessControlProfile env id).exec w = (r, w')) :
    (∀ q' ∈ w'.tables.profiles, ∃ q ∈ w.tables.profiles, q.Kept q') ∧
      ∀ q ∈ w.tables.profiles, (∃ q' ∈ w'.tables.profiles, q.Kept q') ∨
        DeletedBy env w w' q := by
  obtain ⟨_, he⟩ := deleteAccessControlProfile_effect h
  have hrows : ∀ row ∈ w'.tables.accessControl, row ∈ w.tables.accessControl := by
    intro row hrow
    cases he with
    | missing htables => exact htables ▸ hrow
    | failed e hfaults => exact absurd hw hfaults
    | deleted _ _ _ hacl => exact ((hacl row).mp hrow).1
  have husers : ∀ row ∈ w'.tables.accessControl, ∀ role,
      (w'.tables.partyOf row role).map Party.user = (w.tables.partyOf row role).map Party.user :=
    fun row hrow role => congrArg _ (he.partyOf_eq hw hi (hrows row hrow) hrow role)
  constructor
  · intro q' hq'
    have hrow := (Tables.mem_profiles.mp hq').1
    exact Tables.exists_kept hq' (hrows _ hrow) (husers _ hrow)
  · intro q hq
    by_cases hstays : q.toAccessControlRow ∈ w'.tables.accessControl
    · left
      obtain ⟨q', hq', hkept⟩ := Tables.exists_kept hq hstays
        fun role => (husers _ hstays role).symm
      exact ⟨q', hq', hkept.symm⟩
    right
    obtain ⟨hrow, _⟩ := Tables.mem_profiles.mp hq
    -- the row was deleted by this call
    obtain ⟨e, h₁, _⟩ | ⟨p, w₁, h₁, h₂⟩ := deleteAccessControlProfile_cases h
    · cases deleteAccessControlProfileLocked_effect h₁ with
      | missing htables =>
        rw [htables] at hstays
        exact absurd hrow hstays
      | failed _ hfaults => exact absurd hw hfaults
    have hl := Locked.of_exec (locked_deleteAccessControlProfileLocked id) h₁
    have hu := Unlocked.of_exec (unlocked_deleteTrustDeviceCheck env p) h₂
    have hnotices := deleteTrustDeviceCheck_notices (hl.calm hw) h₂
    cases deleteAccessControlProfileLocked_effect h₁ with
    | deleted row hmem _ hacl hparties =>
      have hdeleted : q.toAccessControlRow = row := by
        by_contra hne
        refine hstays ?_
        rw [hu.accessControl]
        exact (hacl _).mpr ⟨hrow, hne⟩
      have hentry : ({ row with
          accesser := (w.tables.partyOf row .accesser).getD {}
          accessee := (w.tables.partyOf row .accessee).getD {} } : AccessControlProfile) = q := by
        rw [← hdeleted, Tables.partyOf_profile hq, Tables.partyOf_profile hq]
        rfl
      rw [hentry, hl.notices, Tables.usersJoined, Tables.deviceActive, Tables.checked,
        ← hu.profiles] at hnotices
      refine ⟨fun hjoined hlnn => ?_, fun hactive hlnn => ?_⟩
      · rw [Tables.usersJoined, Tables.checked] at hjoined
        rw [hjoined, hlnn] at hnotices
        exact mem_issued List.prefix_rfl ((List.prefix_append _ _).trans hnotices)
      · rw [Tables.deviceActive, Tables.checked] at hactive
        rw [hactive, hlnn] at hnotices
        exact mem_issued (List.prefix_append _ _) hnotices

/-- The Update keeps the trusted device of its row and the users of both parties. -/
def KeepsUsers (w : World) : Call → Prop
  | .update p => ∀ row ∈ w.tables.accessControl, row.accessControlId = p.accessControlId →
      p.NamesPartiesOf row → row.trustDeviceId = p.trustDeviceId ∧
        ∀ role a, w.tables.partyOf row role = some a → a.user = (p.party role).user
  | _ => True

/-- An entry that an Update changed kept its users; a change of its status is announced when
it makes the users active or inactive. -/
structure ChangedBy (env : Env) (w w' : World) (p q q' : AccessControlProfile) : Prop where
  sameUsers : q.SameUsers q'
  newUsers : q'.SameUsers p
  row : q'.toAccessControlRow = p.toAccessControlRow
  active : w'.tables.usersActive env p = 1 → p.status = STATUS_ACTIVE →
    q.status = STATUS_INACTIVE → env.isLnnAcl p = false →
    Notice.trustDeviceProfileActive (convertToTrustDeviceProfile p) ∈ issued w w'
  inactive : w'.tables.usersActive env p = 0 → p.status = STATUS_INACTIVE →
    q.status = STATUS_ACTIVE → env.isLnnAcl p = false →
    Notice.trustDeviceProfileInactive (convertToTrustDeviceProfile p) ∈ issued w w'

/-- Rewriting a party of the same user changes the user of no row. -/
theorem Tables.Rewritten.user_partyOf {t t' : Tables} {role : Role} {p : AccessControlProfile}
    (h : t.Rewritten t' role p) (hid : (p.party role).partyId = p.partyId role)
    (hkeep : ∀ a ∈ t.parties role, a.partyId = p.partyId role → a.user = (p.party role).user)
    (row : AccessControlRow) :
    (t'.partyOf row role).map Party.user = (t.partyOf row role).map Party.user := by
  by_cases hrow : row.partyId role = p.partyId role
  · rcases h.partyOf_cases hid hrow with hsame | hnew
    · rw [hsame]
    · rw [hnew]
      cases hb : t.partyOf row role with
      | none => rfl
      | some b =>
        obtain ⟨hmem, hbid⟩ := partyOf_eq_some.mp hb
        rw [Option.map_some, Option.map_some, Option.map_some, hkeep b hmem (hbid.trans hrow)]
  · rw [h.partyOf_of_ne hid hrow]

/-- An update that keeps its users leaves the users of every row. -/
theorem KeepsUsers.user_partyOf {p : AccessControlProfile} {w : World} {t' : Tables}
    (hk : KeepsUsers w (.update p)) {row : AccessControlRow}
    (hrow : row ∈ w.tables.accessControl) (hid : row.accessControlId = p.accessControlId)
    (hnames : p.NamesPartiesOf row) (hparties : ∀ role, w.tables.Rewritten t' role p)
    (r : AccessControlRow) (role : Role) :
    (t'.partyOf r role).map Party.user = (w.tables.partyOf r role).map Party.user := by
  refine (hparties role).user_partyOf (hnames.partyId_party role)
    (fun a ha haid => ?_) r
  exact (hk row hrow hid hnames).2 role a
    (Tables.partyOf_eq_some.mpr ⟨ha, haid.trans (hnames role).2.symm⟩)

/-- Where no row and no user of a party changes, every entry is kept. -/
theorem Tables.profiles_kept {t t' : Tables} (hacl : t'.accessControl = t.accessControl)
    (husers : ∀ row role, (t'.partyOf row role).map Party.user =
      (t.partyOf row role).map Party.user) :
    (∀ q ∈ t.profiles, ∃ q' ∈ t'.profiles, q.Kept q') ∧
      ∀ q' ∈ t'.profiles, ∃ q ∈ t.profiles, q.Kept q' := by
  refine ⟨fun q hq => ?_, fun q' hq' => ?_⟩
  · have hrow := (mem_profiles.mp hq).1
    obtain ⟨q', hq', hkept⟩ := exists_kept hq (hacl ▸ hrow) fun role => (husers _ role).symm
    exact ⟨q', hq', hkept.symm⟩
  · have hrow := (mem_profiles.mp hq').1
    exact exists_kept hq' (hacl ▸ hrow) fun role => husers _ role

/-- The entry of a row that an Update rewrites, before and after: the tail of the call announces
the change of its status. -/
theorem changedBy_of_updated {p q₀ q₁ : AccessControlProfile} {row : AccessControlRow}
    {w w₁ w' : World} {r : Except DpError Unit} (hk : KeepsUsers w (.update p))
    (hrow : row ∈ w.tables.accessControl) (hid : row.accessControlId = p.accessControlId)
    (hnames : p.NamesPartiesOf row) (hparties : ∀ role, w.tables.Rewritten w₁.tables role p)
    (hq₀ : q₀ ∈ w.tables.profiles) (hqrow₀ : q₀.toAccessControlRow = row)
    (hq₁ : q₁ ∈ w₁.tables.profiles) (hqrow₁ : q₁.toAccessControlRow = p.toAccessControlRow)
    (hcalm : w₁.faults = []) (hsent : w₁.notices = w.notices)
    (htail : (updateTail env p { row with }).exec w₁ = (r, w')) :
    ChangedBy env w w' p q₀ q₁ := by
  have hfrom : q₀.SameUsers p := by
    refine ⟨?_, fun role => ?_⟩
    · rw [hqrow₀]
      exact (hk row hrow hid hnames).1
    · refine (hk row hrow hid hnames).2 role _ ?_
      rw [← hqrow₀]
      exact Tables.partyOf_profile hq₀ role
  have hto : ∀ role, (q₁.party role).user = (q₀.party role).user := by
    intro role
    have hresolved : w.tables.partyOf p.toAccessControlRow role = some (q₀.party role) := by
      rw [← Tables.partyOf_profile hq₀ role, hqrow₀, Tables.partyOf, Tables.partyOf,
        (hnames role).2]
    have hmap := hk.user_partyOf hrow hid hnames hparties q₁.toAccessControlRow role
    rw [Tables.partyOf_profile hq₁ role, hqrow₁, hresolved] at hmap
    exact Option.some.inj hmap
  have hu := Unlocked.of_exec (unlocked_updateTail p { row with }) htail
  have hactive : w'.tables.usersActive env p = w₁.tables.usersActive env p := by
    rw [Tables.usersActive, Tables.usersActive, Tables.checked, Tables.checked, hu.profiles]
  obtain ⟨l, hprefix, hnotices⟩ := updateTail_notices hcalm (List.ne_nil_of_mem hq₁) htail
  rw [hsent] at hprefix
  refine ⟨⟨?_, fun role => (hto role).symm⟩, ⟨?_, fun role => (hto role).trans (hfrom.2 role)⟩,
    hqrow₁, fun hone hp hq hlnn => ?_, fun hzero hp hq hlnn => ?_⟩
  · rw [hqrow₁]
    exact hfrom.1
  · rw [hqrow₁]
  · rw [hqrow₀] at hq
    rw [hactive] at hone
    have hcond : decide (w₁.tables.usersActive env p = 1 ∧ p.status = STATUS_ACTIVE ∧
        row.status = STATUS_INACTIVE) = true := decide_eq_true ⟨hone, hp, hq⟩
    rw [hcond, hlnn] at hnotices
    exact mem_issued hprefix ((List.prefix_append _ _).trans hnotices)
  · rw [hqrow₀] at hq
    rw [hactive] at hzero
    have hcond : decide (w₁.tables.usersActive env p = 0 ∧ p.status = STATUS_INACTIVE ∧
        row.status = STATUS_ACTIVE) = true := decide_eq_true ⟨hzero, hp, hq⟩
    rw [hcond, hlnn] at hnotices
    exact mem_issued (List.IsPrefix.trans hprefix (List.prefix_append _ _)) hnotices

/-- An update keeps every entry or changes its own. -/
theorem update_profiles {p : AccessControlProfile} {w w' : World} {r : Except DpError Unit}
    (hw : w.faults = []) (hi : w.tables.Integrity) (hk : KeepsUsers w (.update p))
    (h : (updateAccessControlProfile env p).exec w = (r, w')) :
    (∀ q ∈ w.tables.profiles, ∃ q' ∈ w'.tables.profiles, q.Kept q' ∨ ChangedBy env w w' p q q') ∧
      ∀ q' ∈ w'.tables.profiles, ∃ q ∈ w.tables.profiles,
        q.Kept q' ∨ ChangedBy env w w' p q q' := by
  obtain ⟨e, h₁, _⟩ | ⟨old, w₁, h₁, h₂⟩ := updateAccessControlProfile_cases h
  · have hsame : w'.tables.accessControl = w.tables.accessControl ∧
        ∀ row role, (w'.tables.partyOf row role).map Party.user =
          (w.tables.partyOf row role).map Party.user := by
      cases updateAccessControlProfileLocked_effect hw h₁ with
      | refused _ htables => exact ⟨by rw [htables], fun row role => by rw [htables]⟩
      | conflict _ row hrow hid hnames _ hacl hparties =>
        exact ⟨hacl, hk.user_partyOf hrow hid hnames hparties⟩
    obtain ⟨hforth, hback⟩ := Tables.profiles_kept hsame.1 hsame.2
    refine ⟨fun q hq => ?_, fun q' hq' => ?_⟩
    · obtain ⟨q', hq', hkept⟩ := hforth q hq
      exact ⟨q', hq', Or.inl hkept⟩
    · obtain ⟨q, hq, hkept⟩ := hback q' hq'
      exact ⟨q, hq, Or.inl hkept⟩
  have hl := Locked.of_exec (locked_updateAccessControlProfileLocked p) h₁
  have hu := Unlocked.of_exec (unlocked_updateTail p old) h₂
  have hi' : w₁.tables.Integrity :=
    (updateAccessControlProfileLocked_effect hw h₁).integrity hi
  cases updateAccessControlProfileLocked_effect hw h₁ with
  | updated row hrow hid hnames hacl hparties =>
    have husers := hk.user_partyOf hrow hid hnames hparties
    have hnew : p.toAccessControlRow ∈ w₁.tables.accessControl :=
      (Table.mem_update? hacl).mpr (Or.inl ⟨rfl, row, hrow, hid⟩)
    obtain ⟨q₁, hq₁, hqrow₁⟩ := hi'.exists_profile hnew
    obtain ⟨q₀, hq₀, hqrow₀⟩ := hi.exists_profile hrow
    have hchanged : ChangedBy env w w' p q₀ q₁ :=
      changedBy_of_updated hk hrow hid hnames hparties hq₀ hqrow₀ hq₁ hqrow₁ (hl.calm hw)
        hl.notices h₂
    have hkeys : ∀ q : AccessControlProfile, q.toAccessControlRow ∈ w.tables.accessControl →
        q.accessControlId = p.accessControlId → q.toAccessControlRow = row :=
      fun q hq hqid => Table.eq_of_key hq hrow (hqid.trans hid.symm)
    refine ⟨fun q hq => ?_, fun q' hq' => ?_⟩
    · have hqrow := (Tables.mem_profiles.mp hq).1
      by_cases hqid : q.accessControlId = p.accessControlId
      · obtain rfl := Tables.profile_eq_of_row hq hq₀ ((hkeys q hqrow hqid).trans hqrow₀.symm)
        exact ⟨q₁, hu.profiles ▸ hq₁, Or.inr hchanged⟩
      · have hstays : q.toAccessControlRow ∈ w₁.tables.accessControl :=
          (Table.mem_update? hacl).mpr (Or.inr ⟨hqrow, hqid⟩)
        obtain ⟨q', hq', hkept⟩ := Tables.exists_kept hq hstays
          fun role => (husers _ role).symm
        exact ⟨q', hu.profiles ▸ hq', Or.inl hkept.symm⟩
    · rw [hu.profiles] at hq'
      have hqrow := (Tables.mem_profiles.mp hq').1
      rcases (Table.mem_update? hacl).mp hqrow with ⟨hqrow, _⟩ | ⟨hqrow, _⟩
      · obtain rfl := Tables.profile_eq_of_row hq' hq₁ (hqrow.trans hqrow₁.symm)
        exact ⟨q₀, hq₀, Or.inr hchanged⟩
      · obtain ⟨q, hq, hkept⟩ := Tables.exists_kept hq' hqrow fun role => husers _ role
        exact ⟨q, hq, Or.inl hkept⟩

/-! ## Announced changes -/

/-- The profile tells about the peer user, as the local user's partner. -/
def TrustDeviceProfile.Concerns (x : TrustDeviceProfile) (u : UserPair) : Prop :=
  x.deviceId = u.peer.deviceId ∧ x.peerUserId = u.peer.userId ∧ x.localUserId = u.here.userId

instance (x : TrustDeviceProfile) (u : UserPair) : Decidable (x.Concerns u) :=
  inferInstanceAs (Decidable (_ ∧ _))

/-- The device of an entry concerns the users of that entry. -/
theorem concerns_convertToTrustDeviceProfile (p : AccessControlProfile) :
    (convertToTrustDeviceProfile p).Concerns p.queryParams.users :=
  ⟨rfl, rfl, rfl⟩

/-- The notification says that the peer user is trusted, or active, from now on. -/
def Notice.Raises (u : UserPair) : Notice → Prop
  | .trustDeviceProfileAdd x => x.Concerns u
  | .trustDeviceProfileActive x => x.Concerns u
  | _ => False

/-- The notification says that the peer user, or the peer device, is not trusted or not
active any more. -/
def Notice.Lowers (u : UserPair) : Notice → Prop
  | .trustDeviceProfileDelete x => x.Concerns u
  | .trustDeviceProfileInactive x => x.Concerns u
  | .deviceAclInactiveByDelete x => x.Concerns u
  | .deviceAclInactiveByUpdate x => x.Concerns u
  | _ => False

instance (u : UserPair) : DecidablePred (Notice.Raises u)
  | .trustDeviceProfileAdd x => inferInstanceAs (Decidable (x.Concerns u))
  | .trustDeviceProfileActive x => inferInstanceAs (Decidable (x.Concerns u))
  | .trustDeviceProfileUpdate _ _ | .trustDeviceProfileDelete _ | .trustDeviceProfileInactive _
  | .deviceAclInactiveByDelete _ | .deviceAclInactiveByUpdate _ | .accountAclAdd _
  | .accountAclDelete _ | .accountAclActive _ | .accountAclInactive _ | .dpAclAdd _ _ _ =>
    inferInstanceAs (Decidable False)

instance (u : UserPair) : DecidablePred (Notice.Lowers u)
  | .trustDeviceProfileDelete x => inferInstanceAs (Decidable (x.Concerns u))
  | .trustDeviceProfileInactive x => inferInstanceAs (Decidable (x.Concerns u))
  | .deviceAclInactiveByDelete x => inferInstanceAs (Decidable (x.Concerns u))
  | .deviceAclInactiveByUpdate x => inferInstanceAs (Decidable (x.Concerns u))
  | .trustDeviceProfileUpdate _ _ | .trustDeviceProfileAdd _ | .trustDeviceProfileActive _
  | .accountAclAdd _ | .accountAclDelete _ | .accountAclActive _ | .accountAclInactive _
  | .dpAclAdd _ _ _ =>
    inferInstanceAs (Decidable False)

/-- The users become active across the call. -/
def Activated (w w' : World) (u : UserPair) : Prop :=
  w.tables.activeCount u = 0 ∧ 0 < w'.tables.activeCount u

/-- The users become inactive across the call. -/
def Deactivated (w w' : World) (u : UserPair) : Prop :=
  0 < w.tables.activeCount u ∧ w'.tables.activeCount u = 0

instance (w w' : World) (u : UserPair) : Decidable (Activated w w' u) :=
  inferInstanceAs (Decidable (_ ∧ _))

instance (w w' : World) (u : UserPair) : Decidable (Deactivated w w' u) :=
  inferInstanceAs (Decidable (_ ∧ _))

/-- The entry of a Put or an Update is proper. -/
def Call.Proper (env : Env) : Call → Prop
  | .put p => p.Proper env
  | .update p => p.Proper env
  | .delete _ => True

instance (env : Env) : DecidablePred (Call.Proper env)
  | .put p => inferInstanceAs (Decidable (p.Proper env))
  | .update p => inferInstanceAs (Decidable (p.Proper env))
  | .delete _ => inferInstanceAs (Decidable True)

/-- Every listed entry is proper. -/
def ProperEntries (env : Env) (w : World) : Prop := ∀ q ∈ w.tables.profiles, q.Proper env

/-- A call that keeps its entry with its users leaves only proper entries. -/
theorem properEntries_run {w : World} {call : Call} (hw : w.faults = [])
    (hi : w.tables.Integrity) (hproper : ProperEntries env w) (hcall : call.Proper env)
    (hk : KeepsUsers w call) : ProperEntries env (call.run env w) := by
  obtain ⟨r, hexec⟩ := call.exists_exec env w
  have hkept : ∀ {q q' : AccessControlProfile}, q.Proper env → q.Kept q' → q'.Proper env :=
    fun hq h => hq.of_sameUsers h.2.symm (by rw [← h.1]) (by rw [← h.1])
  intro q' hq'
  cases call with
  | put p =>
    rcases (put_profiles hw hi hexec).2 q' hq' with ⟨q, hq, h⟩ | hadded
    · exact hkept (hproper q hq) h
    · exact AccessControlProfile.Proper.of_sameUsers hcall hadded.sameUsers hadded.status
        hadded.extraData
  | update p =>
    obtain ⟨q, hq, h | hchanged⟩ := (update_profiles hw hi hk hexec).2 q' hq'
    · exact hkept (hproper q hq) h
    · exact AccessControlProfile.Proper.of_sameUsers hcall hchanged.newUsers
        (by rw [hchanged.row]) (by rw [hchanged.row])
  | delete id =>
    obtain ⟨q, hq, h⟩ := (delete_profiles hw hi hexec).1 q' hq'
    exact hkept (hproper q hq) h

/-- A kept active entry keeps its users active. -/
private theorem active_of_kept {t t' : Tables} {u : UserPair}
    (hkept : ∀ q ∈ t.profiles, ∃ q' ∈ t'.profiles, q.Kept q') (h : 0 < t.activeCount u) :
    0 < t'.activeCount u := by
  obtain ⟨q, hq, hactive⟩ := Tables.activeCount_pos.mp h
  obtain ⟨q', hq', hk⟩ := hkept q hq
  exact Tables.activeCount_pos.mpr ⟨q', hq', hk.active_iff.mp hactive⟩

/-- A Put that activates its users announces them, unless they had an entry already. -/
theorem put_announces {p : AccessControlProfile} {w : World} {u : UserPair}
    (hw : w.faults = []) (hi : w.tables.Integrity) (hp : p.Proper env) :
    (Activated w (Call.run env w (.put p)) u →
      (∃ n ∈ issued w (Call.run env w (.put p)), n.Raises u) ∨
        ∃ q ∈ w.tables.profiles, u.Joins q) ∧
      ¬Deactivated w (Call.run env w (.put p)) u := by
  obtain ⟨r, hexec⟩ := Call.exists_exec env w (.put p)
  obtain ⟨hforth, hback⟩ := put_profiles hw hi hexec
  constructor
  · rintro ⟨hzero, hpos⟩
    obtain ⟨q', hq', hactive, hjoins⟩ := Tables.activeCount_pos.mp hpos
    rcases hback q' hq' with ⟨q, hq, hkept⟩ | hadded
    · have hbefore := Tables.activeCount_pos.mpr ⟨q, hq, hkept.active_iff.mpr ⟨hactive, hjoins⟩⟩
      omega
    have hu : u = p.queryParams.users :=
      hp.oneSide.joins_iff.mp (hadded.sameUsers.joins_iff.mp hjoins)
    cases hjoined : w.tables.usersJoined env p with
    | true =>
      right
      rw [hu]
      exact Tables.exists_joins_of_usersJoined hjoined
    | false =>
      refine Or.inl ⟨_, hadded.notice hjoined hp.notLnn, ?_⟩
      rw [hu]
      exact concerns_convertToTrustDeviceProfile p
  · rintro ⟨hpos, hzero⟩
    have hafter := active_of_kept hforth hpos
    omega

/-- A Delete that deactivates its users announces them, unless they keep an entry and their
device an active one. -/
theorem delete_announces {id : Int} {w : World} {u : UserPair} (hw : w.faults = [])
    (hi : w.tables.Integrity) (hproper : ProperEntries env w) :
    ¬Activated w (Call.run env w (.delete id)) u ∧
      (Deactivated w (Call.run env w (.delete id)) u →
        (∃ n ∈ issued w (Call.run env w (.delete id)), n.Lowers u) ∨
          (∃ q ∈ (Call.run env w (.delete id)).tables.profiles, u.Joins q) ∧
          ∃ q ∈ (Call.run env w (.delete id)).tables.profiles,
            q.trustDeviceId = u.peer.deviceId ∧ q.status = STATUS_ACTIVE) := by
  obtain ⟨r, hexec⟩ := Call.exists_exec env w (.delete id)
  obtain ⟨hback, hforth⟩ := delete_profiles hw hi hexec
  constructor
  · rintro ⟨hzero, hpos⟩
    obtain ⟨q', hq', hactive⟩ := Tables.activeCount_pos.mp hpos
    obtain ⟨q, hq, hkept⟩ := hback q' hq'
    have hbefore := Tables.activeCount_pos.mpr ⟨q, hq, hkept.active_iff.mpr hactive⟩
    omega
  · rintro ⟨hpos, hzero⟩
    obtain ⟨q, hq, hactive, hjoins⟩ := Tables.activeCount_pos.mp hpos
    rcases hforth q hq with ⟨q', hq', hkept⟩ | hdeleted
    · have hafter :=
        Tables.activeCount_pos.mpr ⟨q', hq', hkept.active_iff.mp ⟨hactive, hjoins⟩⟩
      omega
    have hqp := hproper q hq
    have hu : u = q.queryParams.users := hqp.oneSide.joins_iff.mp hjoins
    cases hjoined : (Call.run env w (.delete id)).tables.usersJoined env q with
    | false =>
      refine Or.inl ⟨_, hdeleted.delete hjoined hqp.notLnn, ?_⟩
      rw [hu]
      exact concerns_convertToTrustDeviceProfile q
    | true =>
      cases hdevice : (Call.run env w (.delete id)).tables.deviceActive env q with
      | false =>
        refine Or.inl ⟨_, hdeleted.inactive hdevice hqp.notLnn, ?_⟩
        rw [hu]
        exact concerns_convertToTrustDeviceProfile q
      | true =>
        right
        rw [hu]
        exact ⟨Tables.exists_joins_of_usersJoined hjoined,
          Tables.exists_active_of_deviceActive hdevice⟩

/-- An Update that keeps its entry with its users announces every change. -/
theorem update_announces {p : AccessControlProfile} {w : World} {u : UserPair}
    (hw : w.faults = []) (hi : w.tables.Integrity) (hproper : ProperEntries env w)
    (hp : p.Proper env) (hk : KeepsUsers w (.update p)) :
    (Activated w (Call.run env w (.update p)) u →
      ∃ n ∈ issued w (Call.run env w (.update p)), n.Raises u) ∧
      (Deactivated w (Call.run env w (.update p)) u →
        ∃ n ∈ issued w (Call.run env w (.update p)), n.Lowers u) := by
  obtain ⟨r, hexec⟩ := Call.exists_exec env w (.update p)
  have hcall : (Call.update p).Proper env := hp
  have hafter : ProperEntries env (Call.run env w (.update p)) :=
    properEntries_run hw hi hproper hcall hk
  obtain ⟨hforth, hback⟩ := update_profiles hw hi hk hexec
  have hcount : (Call.run env w (.update p)).tables.usersActive env p =
      (Call.run env w (.update p)).tables.activeCount p.queryParams.users :=
    Tables.usersActive_eq (fun q hq => (hafter q hq).notLnn) p
  constructor
  · rintro ⟨hzero, hpos⟩
    -- an entry that is active now was not active before, so it is the changed one
    have hnew : ∀ q' ∈ (Call.run env w (.update p)).tables.profiles,
        q'.status = STATUS_ACTIVE → u.Joins q' →
        ∃ q ∈ w.tables.profiles, ChangedBy env w (Call.run env w (.update p)) p q q' := by
      intro q' hq' hactive hjoins
      obtain ⟨q, hq, hkept | hchanged⟩ := hback q' hq'
      · have hbefore :=
          Tables.activeCount_pos.mpr ⟨q, hq, hkept.active_iff.mpr ⟨hactive, hjoins⟩⟩
        omega
      · exact ⟨q, hq, hchanged⟩
    obtain ⟨q', hq', hactive, hjoins⟩ := Tables.activeCount_pos.mp hpos
    obtain ⟨q, hq, hchanged⟩ := hnew q' hq' hactive hjoins
    have hu : u = p.queryParams.users :=
      hp.oneSide.joins_iff.mp (hchanged.newUsers.joins_iff.mp hjoins)
    have hone : (Call.run env w (.update p)).tables.usersActive env p = 1 := by
      rw [hcount, ← hu]
      refine Tables.activeCount_eq_one hq' hactive hjoins fun q'' hq'' hactive' hjoins' => ?_
      obtain ⟨_, _, hchanged'⟩ := hnew q'' hq'' hactive' hjoins'
      exact Tables.profile_eq_of_row hq'' hq' (hchanged'.row.trans hchanged.row.symm)
    have hpactive : p.status = STATUS_ACTIVE := by
      rw [hchanged.row] at hactive
      exact hactive
    have hqinactive : q.status = STATUS_INACTIVE := by
      rcases (hproper q hq).known with hs | hs
      · exact hs
      · have hbefore := Tables.activeCount_pos.mpr
          ⟨q, hq, hs, hchanged.sameUsers.joins_iff.mpr hjoins⟩
        omega
    refine ⟨_, hchanged.active hone hpactive hqinactive hp.notLnn, ?_⟩
    rw [hu]
    exact concerns_convertToTrustDeviceProfile p
  · rintro ⟨hpos, hzero⟩
    obtain ⟨q, hq, hactive, hjoins⟩ := Tables.activeCount_pos.mp hpos
    obtain ⟨q', hq', hkept | hchanged⟩ := hforth q hq
    · have hstill :=
        Tables.activeCount_pos.mpr ⟨q', hq', hkept.active_iff.mp ⟨hactive, hjoins⟩⟩
      omega
    have hjoins' : u.Joins q' := hchanged.sameUsers.joins_iff.mp hjoins
    have hu : u = p.queryParams.users :=
      hp.oneSide.joins_iff.mp (hchanged.newUsers.joins_iff.mp hjoins')
    have hpinactive : p.status = STATUS_INACTIVE := by
      rcases hp.known with hs | hs
      · exact hs
      · have hstill := Tables.activeCount_pos.mpr ⟨q', hq', by rw [hchanged.row]; exact hs, hjoins'⟩
        omega
    refine ⟨_, hchanged.inactive (by rw [hcount, ← hu, hzero]) hpinactive hactive hp.notLnn, ?_⟩
    rw [hu]
    exact concerns_convertToTrustDeviceProfile p

/-! ## Every run -/

/-- In a run of calls with proper entries whose Updates keep their entry with its users, a
call that activates two users announces them unless it is a Put and they had an entry, and
one that deactivates them announces that unless it is a Delete that leaves them an entry and
their peer's device an active one. -/
theorem changes_are_announced (env : Env) (calls : List Call)
    (hproper : ∀ call ∈ calls, call.Proper env)
    (hkeeps : Admits (Call.run env) KeepsUsers {} calls) (n : Nat) (call : Call)
    (hcall : calls[n]? = some call) (u : UserPair) :
    (Activated (run env {} (calls.take n)) (run env {} (calls.take (n + 1))) u →
      (∃ notice ∈ issued (run env {} (calls.take n)) (run env {} (calls.take (n + 1))),
        notice.Raises u) ∨
      (∃ p, call = .put p) ∧ ∃ q ∈ (run env {} (calls.take n)).tables.profiles, u.Joins q) ∧
    (Deactivated (run env {} (calls.take n)) (run env {} (calls.take (n + 1))) u →
      (∃ notice ∈ issued (run env {} (calls.take n)) (run env {} (calls.take (n + 1))),
        notice.Lowers u) ∨
      (∃ id, call = .delete id) ∧
        (∃ q ∈ (run env {} (calls.take (n + 1))).tables.profiles, u.Joins q) ∧
        ∃ q ∈ (run env {} (calls.take (n + 1))).tables.profiles,
          q.trustDeviceId = u.peer.deviceId ∧ q.status = STATUS_ACTIVE) := by
  have hkeep : KeepsUsers (run env {} (calls.take n)) call := hkeeps.get hcall
  have hcallProper : call.Proper env := hproper call (List.mem_of_getElem? hcall)
  have hinv : (run env {} (calls.take n)).faults = [] ∧
      (run env {} (calls.take n)).tables.Integrity ∧
      ProperEntries env (run env {} (calls.take n)) := by
    refine hkeeps.invariant (P := fun w => w.faults = [] ∧ w.tables.Integrity ∧
      ProperEntries env w) hproper (fun w call hw hcall hk => ?_) ?_ n
    · exact ⟨calm_run env call hw.1, integrity_run env call hw.1 hw.2.1,
        properEntries_run hw.1 hw.2.1 hw.2.2 hcall hk⟩
    · have hempty : Reachable env {} := ⟨[], rfl⟩
      exact ⟨rfl, hempty.integrity, fun q hq => absurd hq List.not_mem_nil⟩
  obtain ⟨hw, hi, hentries⟩ := hinv
  rw [run_take_succ hcall]
  cases call with
  | put p =>
    obtain ⟨hrise, hfall⟩ := put_announces (u := u) hw hi hcallProper
    exact ⟨fun h => (hrise h).imp_right fun hq => ⟨⟨p, rfl⟩, hq⟩, fun h => absurd h hfall⟩
  | update p =>
    obtain ⟨hrise, hfall⟩ := update_announces (u := u) hw hi hentries hcallProper hkeep
    exact ⟨fun h => Or.inl (hrise h), fun h => Or.inl (hfall h)⟩
  | delete id =>
    obtain ⟨hrise, hfall⟩ := @delete_announces env id _ u hw hi hentries
    exact ⟨fun h => absurd h hrise, fun h => (hfall h).imp_right fun hq => ⟨⟨id, rfl⟩, hq⟩⟩

/-- The two users of the bound entry. -/
def boundUsers : UserPair := ⟨⟨"local", 100⟩, ⟨"peer", 100⟩⟩

/-- The bound entry becomes inactive. -/
def pausedRun : List Call := [.put boundEntry, .update inactiveEntry]

/-- An entry that is made inactive keeps its users, and the change is announced. -/
theorem changes_are_announced_paused :
    (∃ notice ∈ issued (run .bare {} (pausedRun.take 1)) (run .bare {} (pausedRun.take 2)),
      notice.Lowers boundUsers) ∨
    (∃ id, Call.update inactiveEntry = .delete id) ∧
      (∃ q ∈ (run .bare {} (pausedRun.take 2)).tables.profiles, boundUsers.Joins q) ∧
      ∃ q ∈ (run .bare {} (pausedRun.take 2)).tables.profiles,
        q.trustDeviceId = boundUsers.peer.deviceId ∧ q.status = STATUS_ACTIVE := by
  have hkeeps : Admits (Call.run .bare) KeepsUsers {} pausedRun := by
    refine ⟨trivial, fun row hrow _ _ => ?_, trivial⟩
    have hrows : ∀ row ∈ (Call.run .bare {} (.put boundEntry)).tables.accessControl.rows,
        row.trustDeviceId = inactiveEntry.trustDeviceId ∧
        ((Call.run .bare {} (.put boundEntry)).tables.partyOf row .accesser).map Party.user =
          some inactiveEntry.accesser.user ∧
        ((Call.run .bare {} (.put boundEntry)).tables.partyOf row .accessee).map Party.user =
          some inactiveEntry.accessee.user := by
      decide +kernel
    obtain ⟨hdevice, haccesser, haccessee⟩ := hrows row hrow
    refine ⟨hdevice, fun role a ha => ?_⟩
    cases role
    · rw [ha] at haccesser
      exact Option.some.inj haccesser
    · rw [ha] at haccessee
      exact Option.some.inj haccessee
  exact (changes_are_announced .bare pausedRun (by decide) hkeeps 1 (.update inactiveEntry) rfl
    boundUsers).2 (by decide +kernel)

/-- The entry of a Put or an Update is well-formed and outside the network layer. -/
def Call.WellFormed (env : Env) : Call → Prop
  | .put p => p.TrustsOneSide ∧ env.isLnnAcl p = false
  | .update p => p.TrustsOneSide ∧ env.isLnnAcl p = false
  | .delete _ => True

instance (env : Env) : DecidablePred (Call.WellFormed env)
  | .put _ => inferInstanceAs (Decidable (_ ∧ _))
  | .update _ => inferInstanceAs (Decidable (_ ∧ _))
  | .delete _ => inferInstanceAs (Decidable True)

/-- The peer device stays active through another of its users. -/
def otherUserEntry : AccessControlProfile :=
  { boundEntry with accessee := { boundEntry.accessee with userId := 200 } }

/-- Runs whose last call changes whether the bound users are active. Their entry is
activated by a Put next to an inactive one; deleted next to an inactive one; moved to
another user; turned around; and activated by an Update of an entry that was neither active
nor inactive. -/
def silentRuns : List (List Call) :=
  [[.put otherUserEntry, .put { boundEntry with status := STATUS_INACTIVE },
      .put { boundEntry with bindType := 2 }],
    [.put otherUserEntry, .put { boundEntry with status := STATUS_INACTIVE },
      .put { boundEntry with bindType := 2 }, .delete 3],
    [.put boundEntry,
      .update { storedEntry with accessee := { storedEntry.accessee with userId := 200 } }],
    [.put boundEntry, .update { storedEntry with trustDeviceId := "local" }],
    [.put { boundEntry with status := 2 }, .put otherUserEntry, .update storedEntry]]

/-- The last call of a run of well-formed ones changes the active entries of the users, and
none of its notifications says so. -/
def SilentChange (calls : List Call) : Prop :=
  (∀ call ∈ calls, call.WellFormed .bare) ∧
    (Activated (run .bare {} calls.dropLast) (run .bare {} calls) boundUsers ∨
      Deactivated (run .bare {} calls.dropLast) (run .bare {} calls) boundUsers) ∧
    ∀ notice ∈ issued (run .bare {} calls.dropLast) (run .bare {} calls),
      ¬notice.Raises boundUsers ∧ ¬notice.Lowers boundUsers

instance : DecidablePred SilentChange := fun calls =>
  inferInstanceAs (Decidable ((∀ call ∈ calls, _) ∧ _ ∧ _))

/-- None of these changes is announced. -/
theorem silent_changes : silentRuns.Forall SilentChange := by
  decide +kernel

end DeviceProfile
