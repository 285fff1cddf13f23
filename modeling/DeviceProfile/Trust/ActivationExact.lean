import DeviceProfile.Trust.Activation
import DeviceProfile.Trust.UpdateFrame

/-!
# An Update that only switches an entry on or off

Such an Update cannot be refused, and it leaves every party and every other entry as it is. So
the check that counts the active entries of two users after the row is written says what it is
meant to say: whether the entry is the first one that is active, or was the last. The
notifications that this decides are followed through the whole call, so that none is sent besides.
-/

namespace DeviceProfile

open Library

variable {env : Env}

/-! ## Programs that announce no activation -/

/-- The users of an entry became active, or inactive. -/
def Notice.isActivation : Notice → Bool
  | .trustDeviceProfileActive _ | .trustDeviceProfileInactive _ => true
  | _ => false

/-- The activations among the notifications of a world. -/
def World.activations (w : World) : List Notice := w.notices.filter Notice.isActivation

/-- No activation is announced. -/
def Quiet (w w' : World) : Prop := w'.activations = w.activations

/-- A quiet program ends in a quiet change. -/
theorem Quiet.of_exec {α : Type} {m : DpProg α} {w w' : World} {r : Except DpError α}
    (hm : m.Steps Quiet) (h : m.exec w = (r, w')) : Quiet w w' := by
  have hquiet := hm.exec (fun _ => rfl) (fun _ _ _ hab hbc => hbc.trans hab) w
  rwa [h] at hquiet

theorem Reads.quiet {w w' : World} (h : Reads w w') : Quiet w w' := by
  rw [Quiet, World.activations, World.activations, h.notices]

private theorem quiet_of_reads {α : Type} {m : DpProg α} (h : m.Steps Reads) : m.Steps Quiet :=
  h.mono fun _ _ => Reads.quiet

/-- A notice that is no activation is quiet. -/
theorem quiet_notify {n : Notice} (h : n.isActivation = false) : (notify n).Steps Quiet := by
  refine fun w => ⟨?_, trivial⟩
  simp [Quiet, World.activations, h]

/-- Issuing such a notice or none is quiet. -/
theorem quiet_notifyIf (c : Bool) {n : Notice} (h : n.isActivation = false) :
    (notifyIf c n).Steps Quiet := by
  cases c
  · trivial
  · exact quiet_notify h

/-- The check of the accounts is quiet. -/
theorem quiet_notifyAccountAclCheck (env : Env) (p old : AccessControlProfile) :
    (notifyAccountAclCheck env p old).Steps Quiet :=
  Prog.steps_bind (Prog.steps_orFail
    (quiet_of_reads (reads_checkAccountAclActiveCount env p)) _) fun _ =>
  Prog.steps_bind (Prog.steps_getD (quiet_of_reads (reads_queryServiceIdList env p)) []) fun _ =>
  Prog.steps_bind (quiet_notifyIf _ rfl) fun _ => quiet_notifyIf _ rfl

/-- The update of a trusted device is quiet. -/
theorem quiet_updateTrustDeviceProfile (profile : TrustDeviceProfile) :
    (updateTrustDeviceProfile profile).Steps Quiet := by
  refine Prog.steps_bind (quiet_of_reads (reads_getResultSet _)) fun rows => ?_
  cases rows with
  | nil => trivial
  | cons row _ =>
    refine Prog.steps_bind (steps_execute (fun _ => rfl) fun _ _ _ => rfl) fun _ => ?_
    split
    · exact quiet_notify rfl
    · trivial

/-! ## What an Update announces -/

/-- The activations that the count of the users' active entries asks for. -/
def Tables.activationsOf (env : Env) (t : Tables) (p old : AccessControlProfile) : List Notice :=
  (if decide (t.usersActive env p = 1 ∧ p.status = STATUS_ACTIVE ∧
      old.status = STATUS_INACTIVE) && !env.isLnnAcl p then
    [.trustDeviceProfileActive (convertToTrustDeviceProfile p)] else []) ++
  (if decide (t.usersActive env p = 0 ∧ p.status = STATUS_INACTIVE ∧
      old.status = STATUS_ACTIVE) && !env.isLnnAcl p then
    [.trustDeviceProfileInactive (convertToTrustDeviceProfile p)] else [])

/-- The check sends the activations that the count asks for, and no others. -/
theorem notifyCheck_activations {p old : AccessControlProfile} {w w' : World}
    {r : Except DpError Unit} (hw : w.faults = []) (hne : w.tables.profiles ≠ [])
    (h : (notifyCheck env p old).exec w = (r, w')) :
    w'.activations = w.activations ++ w.tables.activationsOf env p old := by
  have hsteps : ∀ found, (notifyIf (!found && !env.isLnnAcl p)
      (.deviceAclInactiveByUpdate (convertToTrustDeviceProfile p))).Steps Quiet :=
    fun found => quiet_notifyIf _ rfl
  unfold notifyCheck at h
  obtain ⟨_, w₁, h₁, h⟩ | ⟨e, h₁, _⟩ := Prog.exec_bind_cases h
  swap
  · obtain ⟨_, _, hv⟩ := Prog.exec_getD_cases h₁
    cases hv
  have hn := Notifies.of_exec
    (Prog.steps_getD (notifies_notifyAccountAclCheck env p old) ()) h₁
  have hquiet := Quiet.of_exec
    (Prog.steps_getD (quiet_notifyAccountAclCheck env p old) ()) h₁
  obtain ⟨t, f, l⟩ := w₁
  obtain rfl : t = w.tables := hn.tables
  obtain rfl : f = [] := hn.calm hw
  rw [Prog.exec_bind_ok (exec_checkDeviceIdAndUserIdActive hne p .notifyTrustDeviceFail l)] at h
  rw [Prog.exec_bind_ok (exec_notifyIf _ _ _), Prog.exec_bind_ok (exec_notifyIf _ _ _)] at h
  have hrest := Quiet.of_exec (Prog.steps_bind (Prog.steps_getD
    (quiet_of_reads (reads_checkDeviceIdActiveAclExists env p)) false) hsteps) h
  have hl : l.filter Notice.isActivation = w.activations := hquiet
  rw [hrest, ← hl, World.activations, Tables.activationsOf]
  simp only [List.filter_append, List.append_assoc]
  congr 2
  · split <;> rfl
  · split <;> rfl

/-- What follows the check announces no activation. -/
theorem updateTail_activations {p old : AccessControlProfile} {w w' : World}
    {r : Except DpError Unit} (hw : w.faults = []) (hne : w.tables.profiles ≠ [])
    (h : (updateTail env p old).exec w = (r, w')) :
    w'.activations = w.activations ++ w.tables.activationsOf env p old := by
  obtain ⟨_, w₁, h₁, h⟩ | ⟨e, h₁, _⟩ := Prog.exec_bind_cases h
  · obtain ⟨x, hx, _⟩ := Prog.exec_getD_cases h₁
    have hrest := Quiet.of_exec (Prog.steps_bind (Prog.steps_getD
      (quiet_of_reads (reads_getResultStatus p.trustDeviceId)) STATUS_INACTIVE) fun _ =>
      Prog.steps_orFail (quiet_updateTrustDeviceProfile _) _) h
    rw [hrest, notifyCheck_activations hw hne hx]
  · obtain ⟨_, _, hv⟩ := Prog.exec_getD_cases h₁
    cases hv

/-! ## Switching an entry on or off -/

/-- The profile is a listed entry outside the network layer with the other status, and the entry
trusts the device of one of its parties. -/
structure Switches (env : Env) (t : Tables) (q p : AccessControlProfile) : Prop where
  listed : q ∈ t.profiles
  notLnn : env.isLnnAcl q = false
  trusted : q.accesser.deviceId = q.trustDeviceId ∨ q.accessee.deviceId = q.trustDeviceId
  switched : q.status = STATUS_INACTIVE ∧ p = { q with status := STATUS_ACTIVE } ∨
    q.status = STATUS_ACTIVE ∧ p = { q with status := STATUS_INACTIVE }

namespace Switches

variable {w w' : World} {q p : AccessControlProfile}

/-- A switched entry differs in its status only. -/
theorem eq {t : Tables} (h : Switches env t q p) : p = { q with status := p.status } := by
  rcases h.switched with ⟨-, rfl⟩ | ⟨-, rfl⟩ <;> rfl

/-- A switch is on or off. -/
theorem statuses {t : Tables} (h : Switches env t q p) :
    p.status = STATUS_ACTIVE ∧ q.status = STATUS_INACTIVE ∨
      p.status = STATUS_INACTIVE ∧ q.status = STATUS_ACTIVE := by
  rcases h.switched with ⟨hq, rfl⟩ | ⟨hq, rfl⟩
  · exact .inl ⟨rfl, hq⟩
  · exact .inr ⟨rfl, hq⟩

theorem party_eq {t : Tables} (h : Switches env t q p) (role : Role) :
    p.party role = q.party role := by
  rw [h.eq]
  cases role <;> rfl

theorem partyId_eq {t : Tables} (h : Switches env t q p) (role : Role) :
    p.partyId role = q.partyId role := by
  rw [h.eq]
  cases role <;> rfl

theorem namesPartiesOf {t : Tables} (h : Switches env t q p) :
    p.NamesPartiesOf q.toAccessControlRow := by
  intro role
  rw [h.party_eq, h.partyId_eq]
  exact ⟨((Tables.mem_profiles.mp h.listed).2 role).2.symm, rfl⟩

/-- The party of the entry is rewritten to what it is. -/
theorem partyOf_eq {t t' : Tables} (h : Switches env t q p) {role : Role}
    (hparties : t.Rewritten t' role p) (row : AccessControlRow) :
    t'.partyOf row role = t.partyOf row role := by
  obtain ⟨hstored, hid⟩ := (Tables.mem_profiles.mp h.listed).2 role
  have hpid : (p.party role).partyId = p.partyId role := by rw [h.party_eq, h.partyId_eq, hid]
  by_cases hrow : row.partyId role = p.partyId role
  · refine (hparties.partyOf_iff hpid hrow).mpr fun b hb hbid => .inl ?_
    rw [h.party_eq]
    exact Table.eq_of_key hb hstored (by rw [hbid, h.partyId_eq, hid])
  · exact hparties.partyOf_of_ne hpid hrow

/-- The row of the entry is rewritten; it is not refused, since the status is no index column. -/
theorem locked_ok (hw : w.faults = []) (h : Switches env w.tables q p)
    {r : Except DpError AccessControlProfile}
    (hexec : (updateAccessControlProfileLocked p).exec w = (r, w')) :
    r = .ok { q.toAccessControlRow with } ∧
      w.tables.accessControl.update? p.accessControlId p.toAccessControlRow =
        some w'.tables.accessControl ∧
      ∀ role row, w'.tables.partyOf row role = w.tables.partyOf row role := by
  have hqrow := (Tables.mem_profiles.mp h.listed).1
  have hid : q.accessControlId = p.accessControlId := by rw [h.eq]
  cases updateAccessControlProfileLocked_effect hw hexec with
  | refused e _ hrefused => exact absurd h.namesPartiesOf (hrefused _ hqrow hid)
  | conflict e row hrow hrowId hnames hconflict =>
    obtain ⟨-, a, ha, hne, hindex⟩ := (Table.update?_eq_none rfl).mp hconflict
    have hcolumns : p.toAccessControlRow.indexColumns = q.toAccessControlRow.indexColumns := by
      rw [h.eq]
      rfl
    refine absurd ?_ hne
    rw [Table.eq_of_index ha hqrow (hindex.trans hcolumns), hid]
  | updated row hrow hrowId hnames hacl hparties =>
    obtain rfl : row = q.toAccessControlRow := Table.eq_of_key hrow hqrow (hrowId.trans hid.symm)
    exact ⟨rfl, hacl, fun role row => h.partyOf_eq (hparties role) row⟩

/-- The entry is replaced, and all others stay. -/
theorem mem_profiles_iff (hw : w.faults = []) (h : Switches env w.tables q p)
    {r : Except DpError AccessControlProfile}
    (hexec : (updateAccessControlProfileLocked p).exec w = (r, w')) {a : AccessControlProfile} :
    a ∈ w'.tables.profiles ↔ a = p ∨ a ∈ w.tables.profiles ∧ a ≠ q := by
  obtain ⟨-, hacl, hparties⟩ := h.locked_ok hw hexec
  obtain ⟨hqrow, hqparty⟩ := Tables.mem_profiles.mp h.listed
  have hid : q.accessControlId = p.accessControlId := by rw [h.eq]
  have hresolves : ∀ {t : Tables} {a : AccessControlProfile}, a ∈ t.profiles ↔
      a.toAccessControlRow ∈ t.accessControl ∧
        ∀ role, t.partyOf a.toAccessControlRow role = some (a.party role) := by
    intro t a
    simp only [Tables.mem_profiles, Tables.partyOf_eq_some]
  rw [hresolves, hresolves, Table.mem_update? hacl]
  simp only [hparties]
  constructor
  · rintro ⟨⟨hrow, -⟩ | ⟨hrow, hne⟩, hparty⟩
    · left
      apply AccessControlProfile.eq_of_parties hrow
      intro role
      have hresolved := hparty role
      rw [hrow, Tables.partyOf_eq_some] at hresolved
      rw [h.party_eq]
      refine Table.eq_of_key hresolved.1 (hqparty role).1 (hresolved.2.trans ?_)
      rw [h.partyId_eq, (hqparty role).2]
    · refine .inr ⟨⟨hrow, hparty⟩, ?_⟩
      rintro rfl
      exact hne hid
  · rintro (rfl | ⟨⟨hrow, hparty⟩, hne⟩)
    · refine ⟨.inl ⟨rfl, _, hqrow, hid⟩, fun role => ?_⟩
      rw [Tables.partyOf_eq_some, h.party_eq, h.partyId_eq]
      exact hqparty role
    · refine ⟨.inr ⟨hrow, fun hsame => hne ?_⟩, hparty⟩
      exact Tables.profile_eq_of_row (hresolves.mpr ⟨hrow, hparty⟩) h.listed
        (Table.eq_of_key hrow hqrow (hsame.trans hid.symm))

end Switches

/-! ## Entries of the same users -/

/-- Both entries join the same local user to the same user of the peer device. -/
def AccessControlProfile.SharesUsers (p a : AccessControlProfile) : Prop :=
  ∃ u : UserPair, u.Joins p ∧ u.Joins a

/-- An active entry outside the network layer for the users of the given one. -/
def AccessControlProfile.ActiveFor (env : Env) (p a : AccessControlProfile) : Prop :=
  a.status = STATUS_ACTIVE ∧ env.isLnnAcl a = false ∧ p.SharesUsers a

/-- If both parties are on the trusted device either may be the peer, but then the entries that
join them are the same. -/
theorem UserPair.Joins.of_joins {u v : UserPair} {p a : AccessControlProfile} (hu : u.Joins p)
    (hv : v.Joins p) (h : u.Joins a) : v.Joins a := by
  obtain ⟨here, peer⟩ := u
  obtain ⟨here', peer'⟩ := v
  obtain ⟨hdevice, hparties⟩ := hu
  obtain ⟨hdevice', hparties'⟩ := hv
  obtain ⟨htrust, ha⟩ := h
  refine ⟨htrust.trans (hdevice.symm.trans hdevice'), ?_⟩
  rcases hparties with ⟨rfl, rfl⟩ | ⟨rfl, rfl⟩ <;> rcases hparties' with ⟨rfl, rfl⟩ | ⟨rfl, rfl⟩
  · exact ha
  · exact ha.symm
  · exact ha.symm
  · exact ha

/-- An entry that trusts the device of one of its parties joins the users it sees itself. -/
theorem AccessControlProfile.joins_users {p : AccessControlProfile}
    (h : p.accesser.deviceId = p.trustDeviceId ∨ p.accessee.deviceId = p.trustDeviceId) :
    p.queryParams.users.Joins p := by
  refine ⟨rfl, ?_⟩
  by_cases haccessee : p.accessee.deviceId = p.trustDeviceId
  · left
    simp only [ProfileQueryParams.users, queryParams, if_pos haccessee]
    exact ⟨rfl, by rw [← haccessee]; rfl⟩
  · right
    have haccesser := h.resolve_right haccessee
    simp only [ProfileQueryParams.users, queryParams, if_neg haccessee]
    exact ⟨by rw [← haccesser]; rfl, rfl⟩

/-- Two entries share users when one joins those of the other. -/
theorem AccessControlProfile.sharesUsers_iff {p a : AccessControlProfile}
    (h : p.accesser.deviceId = p.trustDeviceId ∨ p.accessee.deviceId = p.trustDeviceId) :
    p.SharesUsers a ↔ p.queryParams.users.Joins a :=
  ⟨fun ⟨_, hu, ha⟩ => hu.of_joins (joins_users h) ha, fun ha => ⟨_, joins_users h, ha⟩⟩

/-! ## The count after the Update -/

section Count

variable {t : Tables} {p : AccessControlProfile}

/-- The count is taken over the active entries of the users outside the network layer. -/
theorem Tables.usersActive_eq_length (t : Tables) (p : AccessControlProfile) :
    t.usersActive env p = (t.profiles.filter fun a => (!env.isLnnAcl a) &&
      (decide (a.status = STATUS_ACTIVE) && p.queryParams.matchesUsers a)).length := by
  rw [usersActive, List.countP_eq_length_filter, checked, Env.removeLnnAcl, List.filter_filter]
  refine congrArg List.length (List.filter_congr fun a _ => ?_)
  rw [Bool.and_comm]

/-- The counted entries are the active ones for these users. -/
theorem Tables.mem_counted_iff {a : AccessControlProfile}
    (h : p.accesser.deviceId = p.trustDeviceId ∨ p.accessee.deviceId = p.trustDeviceId) :
    (a ∈ t.profiles.filter fun a => (!env.isLnnAcl a) &&
      (decide (a.status = STATUS_ACTIVE) && p.queryParams.matchesUsers a)) ↔
      a ∈ t.profiles ∧ p.ActiveFor env a := by
  rw [List.mem_filter, AccessControlProfile.ActiveFor, AccessControlProfile.sharesUsers_iff h,
    Bool.and_eq_true, Bool.and_eq_true, Bool.not_eq_true', decide_eq_true_iff,
    ProfileQueryParams.matchesUsers_iff, and_left_comm (a := a.status = STATUS_ACTIVE)]

/-- None is counted exactly when no active entry joins the users. -/
theorem Tables.usersActive_eq_zero_iff
    (h : p.accesser.deviceId = p.trustDeviceId ∨ p.accessee.deviceId = p.trustDeviceId) :
    t.usersActive env p = 0 ↔ ¬∃ a ∈ t.profiles, p.ActiveFor env a := by
  rw [usersActive_eq_length, List.length_eq_zero_iff, List.eq_nil_iff_forall_not_mem]
  simp only [mem_counted_iff h, not_exists]

/-- One is counted exactly when the entry, if it is counted, is the only one. -/
theorem Tables.usersActive_eq_one_iff
    (h : p.accesser.deviceId = p.trustDeviceId ∨ p.accessee.deviceId = p.trustDeviceId)
    (hp : p ∈ t.profiles) (hactive : p.ActiveFor env p) :
    t.usersActive env p = 1 ↔ ¬∃ a ∈ t.profiles, a ≠ p ∧ p.ActiveFor env a := by
  have hmem := (mem_counted_iff (t := t) h).mpr ⟨hp, hactive⟩
  have hnodup := t.nodup_profiles.filter fun a => (!env.isLnnAcl a) &&
    (decide (a.status = STATUS_ACTIVE) && p.queryParams.matchesUsers a)
  rw [usersActive_eq_length]
  constructor
  · rintro hone ⟨a, ha, hne, hafor⟩
    obtain ⟨b, hb⟩ := List.length_eq_one_iff.mp hone
    have hamem := (mem_counted_iff (t := t) h).mpr ⟨ha, hafor⟩
    rw [hb, List.mem_singleton] at hmem hamem
    exact hne (hamem.trans hmem.symm)
  · intro honly
    rw [List.length_eq_one_iff]
    refine ⟨p, List.perm_singleton.mp
      ((List.perm_ext_iff_of_nodup hnodup (List.nodup_singleton p)).mpr fun a => ?_)⟩
    rw [mem_counted_iff h, List.mem_singleton]
    constructor
    · rintro ⟨ha, hafor⟩
      by_contra hne
      exact honly ⟨a, ha, hne, hafor⟩
    · rintro rfl
      exact ⟨hp, hactive⟩

end Count

/-! ## What is announced -/

/-- The activations of a call are those it adds. -/
theorem mem_issued_iff_of_activations {w w' : World} {l : List Notice} {n : Notice}
    (hn : n.isActivation = true) (hnotices : w.notices <+: w'.notices)
    (h : w'.activations = w.activations ++ l) : n ∈ issued w w' ↔ n ∈ l := by
  obtain ⟨added, hadded⟩ := hnotices
  have hl : l = added.filter Notice.isActivation := by
    rw [World.activations, World.activations, ← hadded, List.filter_append] at h
    exact (List.append_cancel_left h).symm
  rw [issued, ← hadded, List.drop_left, hl, List.mem_filter, and_iff_left hn]

/-- When a device is announced as active. -/
theorem Tables.exists_active_mem_activationsOf {t : Tables} {p old : AccessControlProfile} :
    (∃ x, .trustDeviceProfileActive x ∈ t.activationsOf env p old) ↔
      t.usersActive env p = 1 ∧ p.status = STATUS_ACTIVE ∧ old.status = STATUS_INACTIVE ∧
        env.isLnnAcl p = false := by
  simp only [activationsOf, Bool.and_eq_true, decide_eq_true_eq, Bool.not_eq_true', List.mem_append,
    List.mem_ite_nil_right, List.mem_singleton, Notice.trustDeviceProfileActive.injEq, reduceCtorEq,
    and_false, or_false, and_assoc]
  exact ⟨fun ⟨_, h⟩ => ⟨h.1, h.2.1, h.2.2.1, h.2.2.2.1⟩,
    fun h => ⟨_, h.1, h.2.1, h.2.2.1, h.2.2.2, rfl⟩⟩

/-- When a device is announced as inactive. -/
theorem Tables.exists_inactive_mem_activationsOf {t : Tables} {p old : AccessControlProfile} :
    (∃ x, .trustDeviceProfileInactive x ∈ t.activationsOf env p old) ↔
      t.usersActive env p = 0 ∧ p.status = STATUS_INACTIVE ∧ old.status = STATUS_ACTIVE ∧
        env.isLnnAcl p = false := by
  simp only [activationsOf, Bool.and_eq_true, decide_eq_true_eq, Bool.not_eq_true', List.mem_append,
    List.mem_ite_nil_right, List.mem_singleton, Notice.trustDeviceProfileInactive.injEq,
    reduceCtorEq, and_false, false_or, and_assoc]
  exact ⟨fun ⟨_, h⟩ => ⟨h.1, h.2.1, h.2.2.1, h.2.2.2.1⟩,
    fun h => ⟨_, h.1, h.2.1, h.2.2.1, h.2.2.2, rfl⟩⟩

/-- The profile is not listed before, since its entry had the other status. -/
theorem Switches.not_listed {t : Tables} {q p : AccessControlProfile} (h : Switches env t q p) :
    p ∉ t.profiles := by
  intro hp
  have hrow := Table.eq_of_key (Tables.mem_profiles.mp hp).1 (Tables.mem_profiles.mp h.listed).1
    (by rw [h.eq])
  have hstatus : p.status = q.status := congrArg AccessControlRow.status hrow
  rcases h.statuses with ⟨hactive, hinactive⟩ | ⟨hinactive, hactive⟩
  · exact absurd (hactive.symm.trans (hstatus.trans hinactive)) (by decide)
  · exact absurd (hinactive.symm.trans (hstatus.trans hactive)) (by decide)

/-- An Update that switches an entry announces what the count after it asks for. -/
theorem Switches.activations_run {w : World} {q p : AccessControlProfile} (hw : w.faults = [])
    (h : Switches env w.tables q p) :
    w.notices <+: (Call.run env w (.update p)).notices ∧
      (Call.run env w (.update p)).activations = w.activations ++
        (Call.run env w (.update p)).tables.activationsOf env p { q.toAccessControlRow with } ∧
      ∀ a, a ∈ (Call.run env w (.update p)).tables.profiles ↔
        a = p ∨ a ∈ w.tables.profiles ∧ a ≠ q := by
  obtain ⟨r, hexec⟩ := Call.exists_exec env w (.update p)
  obtain ⟨e, h₁, -⟩ | ⟨old, w₁, h₁, h₂⟩ := updateAccessControlProfile_cases hexec
  · cases (h.locked_ok hw h₁).1
  obtain ⟨hold, -⟩ := h.locked_ok hw h₁
  obtain rfl := Except.ok.inj hold
  have hlocked := Locked.of_exec (locked_updateAccessControlProfileLocked p) h₁
  have hunlocked := Unlocked.of_exec (unlocked_updateTail p _) h₂
  have hmem : p ∈ w₁.tables.profiles := (h.mem_profiles_iff hw h₁).mpr (.inl rfl)
  have htail := updateTail_activations (hlocked.calm hw) (List.ne_nil_of_mem hmem) h₂
  refine ⟨hlocked.notices ▸ hunlocked.notices, ?_, fun a => ?_⟩
  · have hquiet : w₁.activations = w.activations := by
      rw [World.activations, World.activations, hlocked.notices]
    rw [htail, hquiet, Tables.activationsOf, Tables.activationsOf, Tables.usersActive,
      Tables.usersActive, Tables.checked, Tables.checked, hunlocked.profiles]
  · rw [hunlocked.profiles]
    exact h.mem_profiles_iff hw h₁

/-- An Update that makes an inactive entry active announces it exactly when no other active entry
joined its users before, and one that makes an active entry inactive exactly when none joins
them afterwards; no other Update of this kind announces either. -/
theorem switching_announces_iff (env : Env) {w : World} {q p : AccessControlProfile}
    (hw : w.faults = []) (h : Switches env w.tables q p) :
    ((∃ x, .trustDeviceProfileActive x ∈ issued w (Call.run env w (.update p))) ↔
      p.status = STATUS_ACTIVE ∧
        ¬∃ a ∈ w.tables.profiles, a ≠ q ∧ q.ActiveFor env a) ∧
    ((∃ x, .trustDeviceProfileInactive x ∈ issued w (Call.run env w (.update p))) ↔
      ¬∃ a ∈ (Call.run env w (.update p)).tables.profiles, q.ActiveFor env a) := by
  obtain ⟨hnotices, hactivations, hprofiles⟩ := h.activations_run hw
  have hactiveFor : ∀ a, p.ActiveFor env a ↔ q.ActiveFor env a := by
    rw [h.eq]
    exact fun _ => Iff.rfl
  have htrusted : p.accesser.deviceId = p.trustDeviceId ∨
      p.accessee.deviceId = p.trustDeviceId := by
    rw [h.eq]
    exact h.trusted
  have hlnn : env.isLnnAcl p = false := by
    rw [h.eq]
    exact h.notLnn
  have hpmem := (hprofiles p).mpr (.inl rfl)
  have hself : p.status = STATUS_ACTIVE → p.ActiveFor env p := fun hp =>
    ⟨hp, hlnn, (AccessControlProfile.sharesUsers_iff htrusted).mpr
      (AccessControlProfile.joins_users htrusted)⟩
  have hone : p.status = STATUS_ACTIVE →
      ((Call.run env w (.update p)).tables.usersActive env p = 1 ↔
        ¬∃ a ∈ w.tables.profiles, a ≠ q ∧ q.ActiveFor env a) := by
    intro hp
    rw [Tables.usersActive_eq_one_iff htrusted hpmem (hself hp)]
    refine not_congr (exists_congr fun a => ?_)
    rw [hprofiles, hactiveFor]
    constructor
    · rintro ⟨rfl | ⟨ha, hne⟩, hnep, hafor⟩
      · exact absurd rfl hnep
      · exact ⟨ha, hne, hafor⟩
    · rintro ⟨ha, hne, hafor⟩
      refine ⟨.inr ⟨ha, hne⟩, ?_, hafor⟩
      rintro rfl
      exact h.not_listed ha
  have hzero : (Call.run env w (.update p)).tables.usersActive env p = 0 ↔
      ¬∃ a ∈ (Call.run env w (.update p)).tables.profiles, q.ActiveFor env a := by
    rw [Tables.usersActive_eq_zero_iff htrusted]
    simp only [hactiveFor]
  have hissued : ∀ n : Notice, n.isActivation = true →
      (n ∈ issued w (Call.run env w (.update p)) ↔
        n ∈ (Call.run env w (.update p)).tables.activationsOf env p
          { q.toAccessControlRow with }) :=
    fun n hn => mem_issued_iff_of_activations hn hnotices hactivations
  constructor
  · rw [exists_congr fun x => hissued (.trustDeviceProfileActive x) rfl,
      Tables.exists_active_mem_activationsOf]
    constructor
    · rintro ⟨hcount, hp, -⟩
      exact ⟨hp, (hone hp).mp hcount⟩
    · rintro ⟨hp, hnone⟩
      refine ⟨(hone hp).mpr hnone, hp, ?_, hlnn⟩
      rcases h.statuses with ⟨-, hq⟩ | ⟨hp', -⟩
      · exact hq
      · exact absurd (hp.symm.trans hp') (by decide)
  · rw [exists_congr fun x => hissued (.trustDeviceProfileInactive x) rfl,
      Tables.exists_inactive_mem_activationsOf, hzero]
    constructor
    · exact fun hsent => hsent.1
    · intro hnone
      rcases h.statuses with ⟨hp, -⟩ | ⟨hp, hq⟩
      · exact absurd ⟨p, hpmem, (hactiveFor p).mp (hself hp)⟩ hnone
      · exact ⟨hnone, hp, hq, hlnn⟩

/-- The only entry of two users is made inactive, and this is announced. -/
theorem switching_announces_iff_paused :
    ((∃ x, .trustDeviceProfileActive x ∈
        issued (run .bare {} [.put boundEntry]) (run .bare {} [.put boundEntry,
          .update inactiveEntry])) ↔
      inactiveEntry.status = STATUS_ACTIVE ∧
        ¬∃ a ∈ (run .bare {} [.put boundEntry]).tables.profiles,
          a ≠ storedEntry ∧ storedEntry.ActiveFor .bare a) ∧
    ((∃ x, .trustDeviceProfileInactive x ∈
        issued (run .bare {} [.put boundEntry]) (run .bare {} [.put boundEntry,
          .update inactiveEntry])) ↔
      ¬∃ a ∈ (run .bare {} [.put boundEntry, .update inactiveEntry]).tables.profiles,
        storedEntry.ActiveFor .bare a) :=
  switching_announces_iff .bare (w := run .bare {} [.put boundEntry]) rfl
    ⟨by decide +kernel, by decide, by decide, .inr ⟨rfl, rfl⟩⟩

end DeviceProfile
