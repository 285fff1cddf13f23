import DeviceProfile.Trust.Integrity

/-!
# What an Update changes for other entries

Entries with equal parties share one stored row of each party table, and an Update
overwrites the party rows of its entry in place. Another entry keeps its own row in
any case, but its parties only when the Update rewrites none that they share.
-/

namespace DeviceProfile

open Library

variable {env : Env}

namespace Tables

/-- The stored party of the entry is the new one already, or another party has the new
index columns, so that the rewriting is refused. -/
def Untouched (t : Tables) (role : Role) (p : AccessControlProfile) : Prop :=
  ∀ b ∈ t.parties role, b.partyId = p.partyId role → b = p.party role ∨
    ∃ c ∈ t.parties role, c.partyId ≠ p.partyId role ∧
      c.indexColumns = (p.party role).indexColumns

instance (t : Tables) (role : Role) (p : AccessControlProfile) : Decidable (t.Untouched role p) :=
  inferInstanceAs (Decidable (∀ b ∈ (t.parties role).rows, b.partyId = p.partyId role →
    b = p.party role ∨ ∃ c ∈ (t.parties role).rows, c.partyId ≠ p.partyId role ∧
      c.indexColumns = (p.party role).indexColumns))

/-- A row that names the rewritten party resolves as before exactly when the rewriting
changed nothing. -/
theorem Rewritten.partyOf_iff {t t' : Tables} {role : Role} {p : AccessControlProfile}
    (h : t.Rewritten t' role p) (hid : (p.party role).partyId = p.partyId role)
    {row : AccessControlRow} (hrow : row.partyId role = p.partyId role) :
    t'.partyOf row role = t.partyOf row role ↔ t.Untouched role p := by
  have hnone := Table.update?_eq_none (t := t.parties role) (r := p.party role) hid
  cases hu : (t.parties role).update? (p.partyId role) (p.party role) with
  | none =>
    have hsame : t'.parties role = t.parties role := by
      rw [h, hu, Option.getD_none]
    have hrefused := (hnone.mp hu).2
    exact iff_of_true (by rw [partyOf, partyOf, hsame]) fun _ _ _ => Or.inr hrefused
  | some x =>
    have hnew : t'.parties role = x := by
      rw [h, hu, Option.getD_some]
    constructor
    · intro hsame b hb hbid
      have hbefore : t.partyOf row role = some b :=
        partyOf_eq_some.mpr ⟨hb, hbid.trans hrow.symm⟩
      have hafter : t'.partyOf row role = some (p.party role) := by
        refine partyOf_eq_some.mpr ⟨?_, hid.trans hrow.symm⟩
        rw [hnew, Table.mem_update? hu]
        exact Or.inl ⟨rfl, b, hb, hbid⟩
      rw [hbefore, hafter] at hsame
      exact Or.inl (Option.some.inj hsame).symm
    · intro huntouched
      have heq : ∀ b ∈ t.parties role, b.partyId = p.partyId role → b = p.party role := by
        intro b hb hbid
        rcases huntouched b hb hbid with he | hrefused
        · exact he
        · rw [hnone.mpr ⟨⟨b, hb, hbid⟩, hrefused⟩] at hu
          cases hu
      refine Option.ext fun a => ?_
      rw [partyOf_eq_some, partyOf_eq_some, hnew, Table.mem_update? hu, hrow]
      constructor
      · rintro ⟨⟨rfl, b, hb, hbid⟩ | ⟨_, hne⟩, ha⟩
        · exact ⟨heq b hb hbid ▸ hb, ha⟩
        · exact absurd ha hne
      · rintro ⟨hmem, ha⟩
        exact ⟨Or.inl ⟨heq a hmem ha, a, hmem, ha⟩, ha⟩

/-- The row and both of its parties are as before. -/
def Keeps (t t' : Tables) (row : AccessControlRow) : Prop :=
  row ∈ t'.accessControl ∧ ∀ role, t'.partyOf row role = t.partyOf row role

/-- No party that another row shares is rewritten. -/
def SharedUntouched (t : Tables) (p : AccessControlProfile) : Prop :=
  ∀ role, (∃ row ∈ t.accessControl, row.accessControlId ≠ p.accessControlId ∧
    row.partyId role = p.partyId role) → t.Untouched role p

end Tables

/-- An Update that succeeds keeps every other row with its parties exactly when it rewrites
no party that another row shares. -/
theorem update_keeps_others_iff (env : Env) (p : AccessControlProfile) (w w' : World)
    (hw : w.faults = []) (h : (updateAccessControlProfile env p).exec w = (.ok (), w')) :
    (∀ row ∈ w.tables.accessControl, row.accessControlId ≠ p.accessControlId →
      w.tables.Keeps w'.tables row) ↔ w.tables.SharedUntouched p := by
  obtain ⟨_, he, hok⟩ := updateAccessControlProfile_effect hw h
  obtain ⟨_, rfl⟩ := hok rfl
  cases he with
  | updated row hrow hid hnames hacl hparties =>
    have hkeys : ∀ role, (p.party role).partyId = p.partyId role :=
      fun role => hnames.partyId_party role
    constructor
    · rintro hkeep role ⟨other, hother, hne, hshared⟩
      exact ((hparties role).partyOf_iff (hkeys role) hshared).mp ((hkeep other hother hne).2 role)
    · intro hshared other hother hne
      refine ⟨(Table.mem_update? hacl).mpr (Or.inr ⟨hother, hne⟩), fun role => ?_⟩
      by_cases hsame : other.partyId role = p.partyId role
      · exact ((hparties role).partyOf_iff (hkeys role) hsame).mpr
          (hshared role ⟨other, hother, hne, hsame⟩)
      · exact (hparties role).partyOf_of_ne (hkeys role) hsame

/-- An entry of the same accesser that binds it to a second peer. -/
def secondPeerEntry : AccessControlProfile :=
  { boundEntry with
    trustDeviceId := "second"
    accessee := { boundEntry.accessee with deviceId := "second" } }

/-- An entry of another user and a third peer that shares no party. -/
def thirdPeerEntry : AccessControlProfile :=
  { boundEntry with
    trustDeviceId := "third"
    accesser := { boundEntry.accesser with userId := 101 }
    accessee := { boundEntry.accessee with deviceId := "third" } }

/-- Three entries, of which the first two share their accesser. -/
def threeEntries : World :=
  run .bare {} [.put boundEntry, .put secondPeerEntry, .put thirdPeerEntry]

/-- The first entry, inactive and with a new name for its accessee. -/
def renamedPeerEntry : AccessControlProfile :=
  { inactiveEntry with accessee := { storedEntry.accessee with deviceName := "renamed" } }

/-- Renaming the accessee, which no other entry has, keeps the entry that shares the accesser and
the one that shares nothing. -/
theorem update_keeps_others_iff_shared :
    threeEntries.tables.accessControl.rows.map
        (fun row => (row.accessControlId, row.accesserId, row.accesseeId)) =
      [(1, 1, 1), (2, 1, 2), (3, 2, 3)] ∧
    ∀ row ∈ threeEntries.tables.accessControl, row.accessControlId ≠ 1 →
      threeEntries.tables.Keeps (run .bare threeEntries [.update renamedPeerEntry]).tables row := by
  have huntouched : ∀ role ∈ [Role.accesser, Role.accessee],
      (∃ row ∈ threeEntries.tables.accessControl.rows, row.accessControlId ≠ 1 ∧
        row.partyId role = renamedPeerEntry.partyId role) →
      threeEntries.tables.Untouched role renamedPeerEntry := by
    decide +kernel
  refine ⟨by decide +kernel, (update_keeps_others_iff .bare renamedPeerEntry threeEntries
    (run .bare threeEntries [.update renamedPeerEntry]) rfl rfl).mpr fun role hshared => ?_⟩
  exact huntouched role (by cases role <;> decide) hshared

/-- The first entry, with a new name for its accesser. -/
def renamedEntry : AccessControlProfile :=
  { storedEntry with accesser := { storedEntry.accesser with deviceName := "renamed" } }

/-- Renaming the accesser of one entry renames that of another one. -/
theorem not_keeps_of_shared_accesser :
    ¬∀ (env : Env) (p : AccessControlProfile) (w w' : World), Reachable env w →
      (updateAccessControlProfile env p).exec w = (.ok (), w') →
      ∀ row ∈ w.tables.accessControl, row.accessControlId ≠ p.accessControlId →
        w.tables.Keeps w'.tables row := by
  intro h
  have hkeep := h .bare renamedEntry (run .bare {} [.put boundEntry, .put secondPeerEntry])
    (run .bare {} [.put boundEntry, .put secondPeerEntry, .update renamedEntry]) ⟨_, rfl⟩ rfl
  have hrenamed : ∃ row ∈ (run .bare {} [.put boundEntry,
      .put secondPeerEntry]).tables.accessControl.rows,
      row.accessControlId ≠ renamedEntry.accessControlId ∧
      (run .bare {} [.put boundEntry, .put secondPeerEntry,
        .update renamedEntry]).tables.partyOf row .accesser ≠
      (run .bare {} [.put boundEntry, .put secondPeerEntry]).tables.partyOf row .accesser := by
    decide +kernel
  obtain ⟨row, hrow, hne, hchanged⟩ := hrenamed
  exact hchanged ((hkeep row hrow hne).2 .accesser)

end DeviceProfile
