import DeviceProfile.Trust.Manager

/-!
# What each program leaves alone

Frame relations met by every single step: reading changes no table, the locked
sections leave the trust device rows and the notifications alone, and everything
outside the lock leaves the access control and party tables alone. No step makes
a database call fail that would not have failed anyway.
-/

namespace DeviceProfile

open Library

/-- Nothing but the pending outcomes of database calls changes. -/
structure Reads (w w' : World) : Prop where
  tables : w'.tables = w.tables
  notices : w'.notices = w.notices
  calm : w.faults = [] → w'.faults = []

/-- The trust device rows and the notifications stay. -/
structure Locked (w w' : World) : Prop where
  trustDevice : w'.tables.trustDevice = w.tables.trustDevice
  notices : w'.notices = w.notices
  calm : w.faults = [] → w'.faults = []

/-- No table changes; notifications are only added. -/
structure Notifies (w w' : World) : Prop where
  tables : w'.tables = w.tables
  notices : w.notices <+: w'.notices
  calm : w.faults = [] → w'.faults = []

/-- The access control rows and both parties tables stay; notifications are only added. -/
structure Unlocked (w w' : World) : Prop where
  accessControl : w'.tables.accessControl = w.tables.accessControl
  parties : ∀ role, w'.tables.parties role = w.tables.parties role
  notices : w.notices <+: w'.notices
  calm : w.faults = [] → w'.faults = []

theorem Reads.refl (w : World) : Reads w w := ⟨rfl, rfl, id⟩

/-- Reading after reading is reading. -/
theorem Reads.trans (a b c : World) (hab : Reads a b) (hbc : Reads b c) : Reads a c :=
  ⟨hbc.tables.trans hab.tables, hbc.notices.trans hab.notices, hbc.calm ∘ hab.calm⟩

theorem Locked.refl (w : World) : Locked w w := ⟨rfl, rfl, id⟩

/-- Steps under the lock compose. -/
theorem Locked.trans (a b c : World) (hab : Locked a b) (hbc : Locked b c) : Locked a c :=
  ⟨hbc.trustDevice.trans hab.trustDevice, hbc.notices.trans hab.notices, hbc.calm ∘ hab.calm⟩

theorem Notifies.refl (w : World) : Notifies w w := ⟨rfl, List.prefix_rfl, id⟩

/-- Notices follow one another. -/
theorem Notifies.trans (a b c : World) (hab : Notifies a b) (hbc : Notifies b c) : Notifies a c :=
  ⟨hbc.tables.trans hab.tables, hab.notices.trans hbc.notices, hbc.calm ∘ hab.calm⟩

theorem Unlocked.refl (w : World) : Unlocked w w := ⟨rfl, fun _ => rfl, List.prefix_rfl, id⟩

/-- Steps after the lock compose. -/
theorem Unlocked.trans (a b c : World) (hab : Unlocked a b) (hbc : Unlocked b c) : Unlocked a c :=
  ⟨hbc.accessControl.trans hab.accessControl,
    fun role => (hbc.parties role).trans (hab.parties role), hab.notices.trans hbc.notices,
    hbc.calm ∘ hab.calm⟩

/-- A reading may be under the lock. -/
theorem Reads.locked {w w' : World} (h : Reads w w') : Locked w w' :=
  ⟨by rw [h.tables], h.notices, h.calm⟩

/-- A reading notifies nobody. -/
theorem Reads.notifies {w w' : World} (h : Reads w w') : Notifies w w' :=
  ⟨h.tables, h.notices ▸ List.prefix_rfl, h.calm⟩

/-- Notices may be issued after the lock. -/
theorem Notifies.unlocked {w w' : World} (h : Notifies w w') : Unlocked w w' :=
  ⟨by rw [h.tables], fun _ => by rw [h.tables], h.notices, h.calm⟩

/-- A reading may be after the lock. -/
theorem Reads.unlocked {w w' : World} (h : Reads w w') : Unlocked w w' := h.notifies.unlocked

/-- A run of a reading program. -/
theorem Reads.of_exec {α : Type} {m : DpProg α} {w w' : World} {r : Except DpError α}
    (hm : m.Steps Reads) (h : m.exec w = (r, w')) : Reads w w' := by
  have := hm.exec Reads.refl Reads.trans w
  rwa [h] at this

/-- A run under the lock. -/
theorem Locked.of_exec {α : Type} {m : DpProg α} {w w' : World} {r : Except DpError α}
    (hm : m.Steps Locked) (h : m.exec w = (r, w')) : Locked w w' := by
  have := hm.exec Locked.refl Locked.trans w
  rwa [h] at this

/-- A run that only notifies. -/
theorem Notifies.of_exec {α : Type} {m : DpProg α} {w w' : World} {r : Except DpError α}
    (hm : m.Steps Notifies) (h : m.exec w = (r, w')) : Notifies w w' := by
  have := hm.exec Notifies.refl Notifies.trans w
  rwa [h] at this

/-- A run outside the lock. -/
theorem Unlocked.of_exec {α : Type} {m : DpProg α} {w w' : World} {r : Except DpError α}
    (hm : m.Steps Unlocked) (h : m.exec w = (r, w')) : Unlocked w w' := by
  have := hm.exec Unlocked.refl Unlocked.trans w
  rwa [h] at this

/-! ## Steps of the database calls -/

theorem World.faults_pop {w : World} (h : w.faults = []) : w.pop.faults = [] := by
  rw [World.pop, h, List.tail_nil]

theorem reads_getResultSet {ρ : Type} (query : Tables → List ρ) :
    (getResultSet query).Steps Reads := by
  intro w
  refine ⟨⟨rfl, rfl, World.faults_pop⟩, ?_⟩
  by_cases hf : w.fault = true
  · simp only [hf, if_true]
    trivial
  · simp only [hf, if_false, Bool.false_eq_true]
    trivial

/-- The steps of a write, given what the write itself leaves alone. -/
theorem steps_execute {G : World → World → Prop} {write : Tables → Option Tables} {err : DpError}
    (hpop : ∀ w, G w w.pop)
    (hwrite : ∀ w t', write w.tables = some t' → G w { w.pop with tables := t' }) :
    (execute write err).Steps G := by
  intro w
  constructor
  · change G w (w.written write)
    cases ho : w.outcome write with
    | none =>
      have hw : w.written write = w.pop := by rw [World.written, ho]; rfl
      rw [hw]
      exact hpop w
    | some t' =>
      have hw : w.written write = { w.pop with tables := t' } := by rw [World.written, ho]; rfl
      rw [hw]
      refine hwrite w t' ?_
      unfold World.outcome at ho
      split at ho
      · cases ho
      · exact ho
  · by_cases ho : (w.outcome write).isSome = true
    · simp only [ho, if_true]
      trivial
    · simp only [ho, if_false, Bool.false_eq_true]
      trivial

/-- A write to the access control or party tables. -/
theorem locked_execute {write : Tables → Option Tables} {err : DpError}
    (h : ∀ t t', write t = some t' → t'.trustDevice = t.trustDevice) :
    (execute write err).Steps Locked :=
  steps_execute (fun _ => ⟨rfl, rfl, World.faults_pop⟩)
    fun w t' ht => ⟨h w.tables t' ht, rfl, World.faults_pop⟩

/-- A write to the trust device table. -/
theorem unlocked_execute {write : Tables → Option Tables} {err : DpError}
    (h : ∀ t t', write t = some t' →
      t'.accessControl = t.accessControl ∧ ∀ role, t'.parties role = t.parties role) :
    (execute write err).Steps Unlocked :=
  steps_execute (fun _ => ⟨rfl, fun _ => rfl, List.prefix_rfl, World.faults_pop⟩)
    fun w t' ht => ⟨(h w.tables t' ht).1, (h w.tables t' ht).2, List.prefix_rfl, World.faults_pop⟩

theorem notifies_notify (n : Notice) : (notify n).Steps Notifies :=
  fun w => ⟨⟨rfl, List.prefix_append w.notices [n], id⟩, trivial⟩

/-- A notice that depends on a test notifies or does nothing. -/
theorem notifies_notifyIf (c : Bool) (n : Notice) : (notifyIf c n).Steps Notifies := by
  cases c
  · trivial
  · exact notifies_notify n

/-! ## Reading -/

/-- Joining a row with its parties reads. -/
theorem reads_getAccessControlProfile (row : AccessControlRow) :
    (getAccessControlProfile row).Steps Reads := by
  refine Prog.steps_bind (reads_getResultSet _) fun accessers => ?_
  cases accessers with
  | nil => trivial
  | cons accesser _ =>
    refine Prog.steps_bind (reads_getResultSet _) fun accessees => ?_
    cases accessees <;> trivial

/-- Joining rows with their parties reads. -/
theorem reads_collectProfiles (rows : List AccessControlRow) :
    (collectProfiles rows).Steps Reads := by
  induction rows with
  | nil => trivial
  | cons row rows ih =>
    exact Prog.steps_bind (Prog.steps_attempt (reads_getAccessControlProfile row)) fun _ =>
      Prog.steps_bind ih fun _ => trivial

/-- Listing all profiles reads. -/
theorem reads_getAllAccessControlProfiles : getAllAccessControlProfiles.Steps Reads := by
  refine Prog.steps_bind (reads_getResultSet _) fun rows => ?_
  cases rows with
  | nil => trivial
  | cons row rows =>
    refine Prog.steps_bind (reads_collectProfiles _) fun profiles => ?_
    cases profiles <;> trivial

section Checks

variable (env : Env)

/-- Listing the checked profiles reads. -/
theorem reads_getCheckedProfiles : (getCheckedProfiles env).Steps Reads :=
  Prog.steps_bind reads_getAllAccessControlProfiles fun _ => trivial

theorem reads_checkDeviceIdAndUserIdActive (profile : AccessControlProfile) :
    (checkDeviceIdAndUserIdActive env profile).Steps Reads :=
  Prog.steps_bind (reads_getCheckedProfiles env) fun _ => trivial

theorem reads_checkDeviceIdAndUserIdExists (profile : AccessControlProfile) :
    (checkDeviceIdAndUserIdExists env profile).Steps Reads :=
  Prog.steps_bind (reads_getCheckedProfiles env) fun _ => trivial

theorem reads_checkDeviceIdActiveAclExists (profile : AccessControlProfile) :
    (checkDeviceIdActiveAclExists env profile).Steps Reads :=
  Prog.steps_bind (reads_getCheckedProfiles env) fun _ => trivial

theorem reads_checkAccountAclExists (profile : AccessControlProfile) :
    (checkAccountAclExists env profile).Steps Reads :=
  Prog.steps_bind (reads_getCheckedProfiles env) fun _ => trivial

theorem reads_checkAccountAclActiveCount (profile : AccessControlProfile) :
    (checkAccountAclActiveCount env profile).Steps Reads :=
  Prog.steps_bind (reads_getCheckedProfiles env) fun _ => trivial

theorem reads_queryServiceIdList (profile : AccessControlProfile) :
    (queryServiceIdList env profile).Steps Reads :=
  Prog.steps_bind (reads_getCheckedProfiles env) fun _ => trivial

/-- The status of a device is read. -/
theorem reads_getResultStatus (trustDeviceId : Text) :
    (getResultStatus trustDeviceId).Steps Reads := by
  refine Prog.steps_bind (reads_getResultSet _) fun rows => ?_
  cases rows <;> trivial

end Checks

/-! ## The locked sections -/

section LockedSections

variable (env : Env)

private theorem locked_of_reads {α : Type} {m : DpProg α} (h : m.Steps Reads) :
    m.Steps Locked :=
  h.mono fun _ _ => Reads.locked

/-- A write to one of the parties tables. -/
theorem locked_execute_parties {role : Role} (write : PartyTable → Option PartyTable)
    {err : DpError} :
    (execute (fun t => (write (t.parties role)).map (t.setParties · role)) err).Steps Locked :=
  locked_execute fun t t' h => by
    obtain ⟨x, _, rfl⟩ := Option.map_eq_some_iff.mp h
    exact Tables.trustDevice_setParties t x role

/-- A write to the access control rows is under the lock. -/
theorem locked_execute_acl (write : AccessControlTable → Option AccessControlTable)
    {err : DpError} :
    (execute (fun t => (write t.accessControl).map fun x => { t with accessControl := x })
      err).Steps Locked :=
  locked_execute fun t t' h => by
    obtain ⟨x, _, rfl⟩ := Option.map_eq_some_iff.mp h
    rfl

theorem reads_setPartyId (role : Role) (profile : AccessControlProfile) :
    (setPartyId role profile).Steps Reads := by
  refine Prog.steps_bind (reads_getResultSet _) fun parties => ?_
  cases parties with
  | cons a _ => trivial
  | nil =>
    refine Prog.steps_bind (reads_getResultSet _) fun rows => ?_
    split <;> trivial

/-- The numbers of a profile are read. -/
theorem reads_setAccessControlProfileId (profile : AccessControlProfile) :
    (setAccessControlProfileId profile).Steps Reads := by
  refine Prog.steps_bind (Prog.steps_bind (reads_getResultSet _) fun rows => ?_) fun _ =>
    Prog.steps_bind (reads_setPartyId _ _) fun _ =>
      Prog.steps_bind (reads_setPartyId _ _) fun _ => trivial
  split <;> trivial

/-- A put of a party is under the lock. -/
theorem locked_putPartyProfile (role : Role) (err : DpError) (profile : AccessControlProfile) :
    (putPartyProfile role err profile).Steps Locked := by
  refine Prog.steps_bind (locked_of_reads (reads_getResultSet _)) fun parties => ?_
  cases parties with
  | cons a _ => trivial
  | nil => exact locked_execute_parties fun x => x.insert? (profile.party role)

theorem reads_isAclExists (profile : AccessControlProfile) :
    (isAclExists profile).Steps Reads :=
  Prog.steps_bind (reads_getResultSet _) fun _ => trivial

/-- A put is under the lock up to its tail. -/
theorem locked_putAccessControlProfileLocked (profile : AccessControlProfile) :
    (putAccessControlProfileLocked env profile).Steps Locked := by
  refine Prog.steps_bind (Prog.steps_getD
    (locked_of_reads (reads_checkDeviceIdAndUserIdExists env profile)) _) fun _ => ?_
  refine Prog.steps_bind (Prog.steps_getD
    (locked_of_reads (reads_checkAccountAclExists env profile)) _) fun _ => ?_
  refine Prog.steps_bind (locked_of_reads (reads_setAccessControlProfileId _)) fun q => ?_
  refine Prog.steps_bind (locked_putPartyProfile _ _ _) fun _ => ?_
  refine Prog.steps_bind (locked_putPartyProfile _ _ _) fun _ => ?_
  refine Prog.steps_bind (Prog.steps_getD (locked_of_reads (reads_isAclExists q)) _)
    fun found => ?_
  cases found
  · exact Prog.steps_bind
      (locked_execute_acl (fun x => x.insert? q.toAccessControlRow)) fun _ => trivial
  · trivial

/-- An update of a party is under the lock. -/
theorem locked_updatePartyProfile (role : Role) (err : DpError)
    (profile : AccessControlProfile) : (updatePartyProfile role err profile).Steps Locked :=
  locked_execute_parties
    fun x => x.update? (profile.partyId role) (profile.party role)

theorem reads_updateAclCheck (profile : AccessControlProfile) :
    (updateAclCheck profile).Steps Reads := by
  refine Prog.steps_bind (reads_getResultSet _) fun rows => ?_
  cases rows with
  | nil => trivial
  | cons row _ =>
    dsimp only
    split <;> trivial

/-- An update is under the lock up to its tail. -/
theorem locked_updateAccessControlProfileLocked (profile : AccessControlProfile) :
    (updateAccessControlProfileLocked profile).Steps Locked :=
  Prog.steps_bind (locked_of_reads (reads_updateAclCheck profile)) fun _ =>
  Prog.steps_bind (Prog.steps_getD (locked_updatePartyProfile _ _ _) _) fun _ =>
  Prog.steps_bind (Prog.steps_getD (locked_updatePartyProfile _ _ _) _) fun _ =>
  Prog.steps_bind (locked_execute_acl
    (fun x => x.update? profile.accessControlId profile.toAccessControlRow)) fun _ =>
  trivial

/-- The deletion of a party that nobody names is under the lock. -/
theorem locked_deletePartyCheck (role : Role) (err : DpError) (id : Int) :
    (deletePartyCheck role err id).Steps Locked := by
  refine Prog.steps_bind (locked_of_reads (reads_getResultSet _)) fun rows => ?_
  refine Prog.steps_bind (locked_of_reads (reads_getResultSet _)) fun parties => ?_
  cases decide (rows.length = 1)
  · trivial
  · exact Prog.steps_bind (locked_execute_parties
      (fun x => some (x.delete fun a => decide (a.partyId = id)))) fun _ => trivial

/-- A deletion is under the lock up to its tail. -/
theorem locked_deleteAccessControlProfileLocked (accessControlId : Int) :
    (deleteAccessControlProfileLocked accessControlId).Steps Locked := by
  refine Prog.steps_bind (locked_of_reads (reads_getResultSet _)) fun rows => ?_
  cases rows with
  | nil => trivial
  | cons row _ =>
    exact Prog.steps_bind (locked_deletePartyCheck _ _ _) fun _ =>
      Prog.steps_bind (locked_deletePartyCheck _ _ _) fun _ =>
      Prog.steps_bind (locked_execute_acl
        (fun x => some (x.delete fun r =>
          decide (r.accessControlId = row.accessControlId)))) fun _ => trivial

end LockedSections

/-! ## The trust device row -/

private theorem unlocked_of_reads {α : Type} {m : DpProg α} (h : m.Steps Reads) :
    m.Steps Unlocked :=
  h.mono fun _ _ => Reads.unlocked

/-- A program that notifies may run after the lock. -/
theorem unlocked_of_notifies {α : Type} {m : DpProg α} (h : m.Steps Notifies) :
    m.Steps Unlocked :=
  h.mono fun _ _ => Notifies.unlocked

/-- A put of a trusted device runs after the lock. -/
theorem unlocked_putTrustDeviceProfile (profile : TrustDeviceProfile) :
    (putTrustDeviceProfile profile).Steps Unlocked := by
  refine unlocked_execute fun t t' h => ?_
  obtain ⟨x, _, rfl⟩ := Option.map_eq_some_iff.mp h
  exact ⟨rfl, fun role => by cases role <;> rfl⟩

/-- An update of a trusted device runs after the lock. -/
theorem unlocked_updateTrustDeviceProfile (profile : TrustDeviceProfile) :
    (updateTrustDeviceProfile profile).Steps Unlocked := by
  refine Prog.steps_bind (unlocked_of_reads (reads_getResultSet _)) fun rows => ?_
  cases rows with
  | nil => trivial
  | cons row _ =>
    refine Prog.steps_bind (unlocked_execute fun t t' h => ?_) fun _ => ?_
    · unfold Tables.updateTrustDevice at h
      split at h
      · obtain rfl := Option.some.inj h
        exact ⟨rfl, fun _ => rfl⟩
      · obtain ⟨x, _, rfl⟩ := Option.map_eq_some_iff.mp h
        exact ⟨rfl, fun role => by cases role <;> rfl⟩
    · split
      · exact unlocked_of_notifies (notifies_notify _)
      · trivial

/-- A deletion of a trusted device runs after the lock. -/
theorem unlocked_deleteTrustDeviceProfile (deviceId : Text) :
    (deleteTrustDeviceProfile deviceId).Steps Unlocked := by
  refine Prog.steps_bind (unlocked_of_reads (reads_getResultSet _)) fun rows => ?_
  cases rows with
  | nil => trivial
  | cons row _ =>
    refine unlocked_execute fun t t' h => ?_
    obtain rfl := Option.some.inj h
    exact ⟨rfl, fun role => by cases role <;> rfl⟩

section Operations

variable (env : Env)

private theorem notifies_of_reads {α : Type} {m : DpProg α} (h : m.Steps Reads) :
    m.Steps Notifies :=
  h.mono fun _ _ => Reads.notifies

/-- The notice to an account notifies at most. -/
theorem notifies_notifyAccountAcl (c : Bool) (profile : AccessControlProfile)
    (trustProfile : TrustDeviceProfile) (notice : TrustDeviceProfile → Notice) :
    (notifyAccountAcl env c profile trustProfile notice).Steps Notifies := by
  cases c
  · trivial
  · exact Prog.steps_bind
      (Prog.steps_getD (notifies_of_reads (reads_queryServiceIdList env profile)) []) fun _ =>
      Prog.steps_bind (notifies_notify _) fun _ => trivial

/-- After the lock a Put only notifies and writes trust device rows. -/
theorem unlocked_putAclCheck (profile : AccessControlProfile) (u a : Bool) :
    (putAclCheck env profile u a).Steps Unlocked := by
  refine Prog.steps_bind (unlocked_of_notifies (notifies_notifyIf _ _)) fun _ => ?_
  refine Prog.steps_bind (unlocked_of_notifies (notifies_notifyAccountAcl env _ _ _ _))
    fun trustProfile => ?_
  refine Prog.steps_bind (unlocked_of_reads (reads_getResultSet _)) fun rows => ?_
  cases rows with
  | nil => exact Prog.steps_getD (unlocked_putTrustDeviceProfile _) ()
  | cons row _ =>
    exact Prog.steps_bind
      (Prog.steps_orFail (unlocked_of_reads (reads_getResultStatus _)) _) fun _ =>
      Prog.steps_orFail (unlocked_updateTrustDeviceProfile _) _

/-- The check of the accounts notifies at most. -/
theorem notifies_notifyAccountAclCheck (profile oldProfile : AccessControlProfile) :
    (notifyAccountAclCheck env profile oldProfile).Steps Notifies :=
  Prog.steps_bind (Prog.steps_orFail
    (notifies_of_reads (reads_checkAccountAclActiveCount env profile)) _) fun _ =>
  Prog.steps_bind
    (Prog.steps_getD (notifies_of_reads (reads_queryServiceIdList env profile)) []) fun _ =>
  Prog.steps_bind (notifies_notifyIf _ _) fun _ => notifies_notifyIf _ _

/-- The check of an update notifies at most. -/
theorem notifies_notifyCheck (profile oldProfile : AccessControlProfile) :
    (notifyCheck env profile oldProfile).Steps Notifies :=
  Prog.steps_bind (Prog.steps_getD (notifies_notifyAccountAclCheck env _ _) ()) fun _ =>
  Prog.steps_bind (Prog.steps_orFail
    (notifies_of_reads (reads_checkDeviceIdAndUserIdActive env profile)) _) fun _ =>
  Prog.steps_bind (notifies_notifyIf _ _) fun _ =>
  Prog.steps_bind (notifies_notifyIf _ _) fun _ =>
  Prog.steps_bind (Prog.steps_getD
    (notifies_of_reads (reads_checkDeviceIdActiveAclExists env profile)) false) fun _ =>
  notifies_notifyIf _ _

/-- After the lock a Delete only notifies and writes trust device rows. -/
theorem unlocked_deleteTrustDeviceCheck (profile : AccessControlProfile) :
    (deleteTrustDeviceCheck env profile).Steps Unlocked := by
  refine Prog.steps_bind (Prog.steps_getD
    (unlocked_of_reads (reads_checkDeviceIdAndUserIdExists env profile)) false) fun _ => ?_
  refine Prog.steps_bind (unlocked_of_notifies (notifies_notifyIf _ _)) fun _ => ?_
  refine Prog.steps_bind (Prog.steps_getD
    (unlocked_of_reads (reads_checkDeviceIdActiveAclExists env profile)) false) fun _ => ?_
  refine Prog.steps_bind (unlocked_of_notifies (notifies_notifyIf _ _)) fun _ => ?_
  refine Prog.steps_bind (Prog.steps_getD
    (unlocked_of_reads (reads_checkAccountAclExists env profile)) false) fun _ => ?_
  refine Prog.steps_bind (unlocked_of_notifies (notifies_notifyAccountAcl env _ _ _ _)) fun _ => ?_
  refine Prog.steps_bind (unlocked_of_reads (reads_getResultSet _)) fun rows => ?_
  cases rows with
  | nil => exact unlocked_deleteTrustDeviceProfile _
  | cons row _ =>
    exact Prog.steps_bind
      (Prog.steps_getD (unlocked_of_reads (reads_getResultStatus _)) _) fun _ =>
      unlocked_updateTrustDeviceProfile _

end Operations

end DeviceProfile
