import DeviceProfile.Trust.Calls

/-!
# Reading back an acknowledged entry

A Put looks for a stored row and for stored parties that agree with the entry on
some columns, and keeps what it finds. A column that is not compared may then
differ from the one the caller was told is stored. The entry can be read back
exactly when what was found agrees in the other columns too.
-/

namespace DeviceProfile

open Library

variable {env : Env}

/-- Equal in every field but the database id. -/
def Party.Agrees (a b : Party) : Prop := { a with partyId := b.partyId } = b

/-- Parties that agree have the same index columns. -/
theorem Party.Agrees.indexColumns_eq {a b : Party} (h : a.Agrees b) :
    a.indexColumns = b.indexColumns := by
  rw [← h]
  rfl

/-- Equal in the fields of an entry that its owner reads back, less the parties. -/
structure AccessControlRow.Agrees (r q : AccessControlRow) : Prop where
  trustDeviceId : r.trustDeviceId = q.trustDeviceId
  bindType : r.bindType = q.bindType
  bindLevel : r.bindLevel = q.bindLevel
  authenticationType : r.authenticationType = q.authenticationType
  status : r.status = q.status
  deviceIdType : r.deviceIdType = q.deviceIdType
  validPeriod : r.validPeriod = q.validPeriod
  lastAuthTime : r.lastAuthTime = q.lastAuthTime
  sessionKey : r.sessionKey = q.sessionKey
  extraData : r.extraData = q.extraData

/-- Equal in the fields of an entry and of both of its parties. -/
def AccessControlProfile.Agrees (acl p : AccessControlProfile) : Prop :=
  acl.toAccessControlRow.Agrees p.toAccessControlRow ∧
    ∀ role, (acl.party role).Agrees (p.party role)

/-- The entry is among those that `GetAllAclIncludeLnnAcl` delivers. -/
def World.Readable (w : World) (p : AccessControlProfile) : Prop :=
  ∃ acls, (getAllAclIncludeLnnAcl.exec { w with faults := [] }).1 = .ok acls ∧
    ∃ acl ∈ acls, acl.Agrees p

/-- Reading without failures delivers the joined entries. -/
theorem World.readable_iff {w : World} {p : AccessControlProfile} :
    w.Readable p ↔ ∃ acl ∈ w.tables.profiles, acl.Agrees p := by
  have hexec : (getAllAclIncludeLnnAcl.exec { w with faults := [] }).1 =
      if w.tables.profiles.isEmpty then .error .notFindData else .ok w.tables.profiles := by
    rw [getAllAclIncludeLnnAcl, Prog.exec_atomic]
    exact congrArg Prod.fst (exec_getAllAccessControlProfiles w.tables w.notices)
  unfold World.Readable
  rw [hexec]
  constructor
  · rintro ⟨acls, hacls, acl, hmem, hagrees⟩
    split at hacls
    · cases hacls
    · obtain rfl := Except.ok.inj hacls
      exact ⟨acl, hmem, hagrees⟩
  · rintro ⟨acl, hmem, hagrees⟩
    have hne : ¬w.tables.profiles.isEmpty = true := by
      rw [List.isEmpty_iff]
      exact List.ne_nil_of_mem hmem
    exact ⟨_, if_neg hne, acl, hmem, hagrees⟩

namespace Tables

/-- What is stored with the compared columns of an entry agrees with it in the others. -/
structure StandsFor (t : Tables) (p : AccessControlProfile) : Prop where
  /-- A stored party with the index columns of the entry's party agrees with it. -/
  parties : ∀ role, ∀ b ∈ t.parties role,
    b.indexColumns = (p.party role).indexColumns → b.Agrees (p.party role)
  /-- Where the entry is found, a row with the same parties agrees with it. -/
  row : t.hasAcl (t.prepared p) = true → ∃ row ∈ t.accessControl,
    (∀ role, row.partyId role = (t.prepared p).partyId role) ∧ row.Agrees p.toAccessControlRow

/-- The stored party of the entry agrees with it unless an older one stands in for it. -/
theorem Ensured.agrees_iff {t t' : Tables} {p : AccessControlProfile} {role : Role}
    (h : t.Ensured t' role ((t.prepared p).party role)) {a : Party} (ha : a ∈ t'.parties role)
    (hcols : a.indexColumns = (p.party role).indexColumns) :
    a.Agrees (p.party role) ↔ ∀ b ∈ t.parties role,
      b.indexColumns = (p.party role).indexColumns → b.Agrees (p.party role) := by
  rcases (h a).mp ha with hold | ⟨rfl, hno⟩
  · constructor
    · intro hagrees b hb hbc
      obtain rfl := Table.eq_of_index hb hold (hbc.trans hcols.symm)
      exact hagrees
    · exact fun hall => hall a hold hcols
  · refine iff_of_true ?_ fun b hb hbc => absurd (hbc.trans hcols.symm) (hno b hb)
    rw [prepared_party]
    rfl

/-- After a Put an entry is listed with the caller's fields exactly when its parties agree
with the caller's, and a row that names them agrees too. -/
theorem exists_profile_iff {t t' : Tables} {p : AccessControlProfile}
    (hparties : ∀ role, t.Ensured t' role ((t.prepared p).party role)) :
    (∃ acl ∈ t'.profiles, acl.Agrees p) ↔
      (∀ role, ∀ b ∈ t.parties role,
        b.indexColumns = (p.party role).indexColumns → b.Agrees (p.party role)) ∧
      ∃ row ∈ t'.accessControl, (∀ role, row.partyId role = (t.prepared p).partyId role) ∧
        row.Agrees p.toAccessControlRow := by
  constructor
  · rintro ⟨acl, hacl, hrow, hagrees⟩
    obtain ⟨hmem, hstored⟩ := mem_profiles.mp hacl
    have hcols : ∀ role, (acl.party role).indexColumns = (p.party role).indexColumns :=
      fun role => (hagrees role).indexColumns_eq
    refine ⟨fun role => ((hparties role).agrees_iff (hstored role).1 (hcols role)).mp
      (hagrees role), acl.toAccessControlRow, hmem, fun role => ?_, hrow⟩
    obtain ⟨a, ha, hid, hac⟩ := (hparties role).exists_party
    obtain rfl := Table.eq_of_index ha (hstored role).1 (hac.trans (hcols role).symm)
    rw [← hid]
    exact (hstored role).2.symm
  · rintro ⟨hold, row, hrow, hids, hagrees⟩
    obtain ⟨accesser, haccesser, hid, hcols⟩ := (hparties .accesser).exists_party
    obtain ⟨accessee, haccessee, hid', hcols'⟩ := (hparties .accessee).exists_party
    refine ⟨convertToAccessControlProfiles row accesser accessee, mem_profiles.mpr
      ⟨hrow, fun role => ?_⟩, hagrees, fun role => ?_⟩
    · cases role
      · exact ⟨haccesser, hid.trans (hids .accesser).symm⟩
      · exact ⟨haccessee, hid'.trans (hids .accessee).symm⟩
    · cases role
      · exact ((hparties .accesser).agrees_iff haccesser hcols).mpr (hold .accesser)
      · exact ((hparties .accessee).agrees_iff haccessee hcols').mpr (hold .accessee)

end Tables

/-- An entry whose Put is acknowledged can be read back at once exactly when no stored
party and no stored row with other fields stands in for its own. -/
theorem put_readable_iff (env : Env) (p : AccessControlProfile) (w w' : World)
    (h : (putAccessControlProfile env p).exec w = (.ok (), w')) :
    w'.Readable p ↔ w.tables.StandsFor p := by
  obtain ⟨_, he, hok⟩ := putAccessControlProfile_effect h
  obtain ⟨_, rfl⟩ := hok rfl
  rw [World.readable_iff]
  cases he with
  | found hacl hparties hfound =>
    rw [Tables.exists_profile_iff hparties, hacl]
    exact ⟨fun h => ⟨h.1, fun _ => h.2⟩, fun h => ⟨h.parties, h.row hfound⟩⟩
  | stored u a hacl hparties _ =>
    have hnew : (w.tables.prepared p).toAccessControlRow ∈ w'.tables.accessControl :=
      (Table.mem_insert? hacl).mpr (Or.inl rfl)
    have hno : ¬w.tables.hasAcl (w.tables.prepared p) = true := by
      intro hfound
      obtain ⟨row, hrow, hcols⟩ := Tables.hasAcl_eq_true.mp hfound
      have hnone := Table.insert?_eq_none.mpr ⟨row, hrow, Or.inr hcols⟩
      rw [hacl] at hnone
      cases hnone
    rw [Tables.exists_profile_iff hparties]
    refine ⟨fun h => ⟨h.1, fun hfound => absurd hfound hno⟩, fun h => ⟨h.parties, _, hnew,
      fun _ => rfl, ⟨rfl, rfl, rfl, rfl, rfl, rfl, rfl, rfl, rfl, rfl⟩⟩⟩

/-- An entry of the same accesser, for another peer. -/
def otherPeerEntry : AccessControlProfile :=
  { boundEntry with
    trustDeviceId := "other"
    accessee := { boundEntry.accessee with deviceId := "other" } }

/-- The tables with the first entry stand for one that shares its accesser. -/
theorem standsFor_otherPeerEntry :
    (run .bare {} [.put boundEntry]).tables.StandsFor otherPeerEntry where
  parties := by
    intro role
    cases role <;> simp only [Party.Agrees] <;> decide +kernel
  row := fun hfound => absurd hfound (by decide +kernel)

/-- They do not stand for the entry with another status, whose row is found. -/
theorem not_standsFor_inactive :
    ¬(run .bare {} [.put boundEntry]).tables.StandsFor
      { boundEntry with status := STATUS_INACTIVE } := by
  intro h
  obtain ⟨row, hrow, -, hagrees⟩ := h.row (by decide +kernel)
  have hactive : ∀ row ∈ (run .bare {} [.put boundEntry]).tables.accessControl.rows,
      row.status = STATUS_ACTIVE := by
    decide +kernel
  have hstatus : STATUS_ACTIVE = STATUS_INACTIVE := (hactive row hrow).symm.trans hagrees.status
  cases hstatus

/-- Over the same stored parties an entry for another peer can be read back, and the first
entry with another status cannot. -/
theorem put_readable_iff_shared :
    (run .bare {} [.put boundEntry, .put otherPeerEntry]).Readable otherPeerEntry ∧
      ¬(run .bare {} [.put boundEntry, .put { boundEntry with status := STATUS_INACTIVE }]).Readable
        { boundEntry with status := STATUS_INACTIVE } :=
  ⟨(put_readable_iff .bare otherPeerEntry (run .bare {} [.put boundEntry]) _ rfl).mpr
      standsFor_otherPeerEntry,
    fun h => not_standsFor_inactive
      ((put_readable_iff .bare _ (run .bare {} [.put boundEntry]) _ rfl).mp h)⟩

/-- An acknowledged entry may differ from every entry read back: an inactive entry is
acknowledged, and the active one that was found stays. -/
theorem not_readable_of_found :
    ¬∀ (env : Env) (w w' : World) (p : AccessControlProfile), Reachable env w →
      (putAccessControlProfile env p).exec w = (.ok (), w') → w'.Readable p := by
  intro h
  have hread := h .bare (run .bare {} [.put boundEntry])
    (run .bare {} [.put boundEntry, .put { boundEntry with status := STATUS_INACTIVE }])
    { boundEntry with status := STATUS_INACTIVE } ⟨_, rfl⟩ rfl
  obtain ⟨acl, hacl, hrow, _⟩ := World.readable_iff.mp hread
  obtain ⟨hmem, _⟩ := Tables.mem_profiles.mp hacl
  have hactive : ∀ row ∈ (run .bare {} [.put boundEntry,
      .put { boundEntry with status := STATUS_INACTIVE }]).tables.accessControl.rows,
      row.status = STATUS_ACTIVE := by
    decide +kernel
  have hstatus : STATUS_ACTIVE = STATUS_INACTIVE :=
    (hactive _ hmem).symm.trans hrow.status
  cases hstatus

end DeviceProfile
