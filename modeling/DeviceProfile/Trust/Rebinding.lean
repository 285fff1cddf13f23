import DeviceProfile.Trust.Calls

/-!
# Whose parties a row resolves to

Any database call of a Put or a Delete may fail, and then a prefix of its writes
is all that happened. A Delete that fails late leaves a row whose party is gone,
and the id of that party is the next one a Put hands out. The run is traced with
the entry each row was created for; a row keeps its parties as long as no Put
stores a party under an id that a row of another entry still names.
-/

namespace DeviceProfile

open Library

variable {env : Env}

/-- The columns that say who a party is. -/
structure PartyIdentity where
  deviceId : Text
  userId : Int
  accountId : Text
  tokenId : Int
  bundleName : Text
  bindLevel : Int
  deriving DecidableEq, Repr

/-- Who a party is. -/
def Party.identity (a : Party) : PartyIdentity :=
  { deviceId := a.deviceId
    userId := a.userId
    accountId := a.accountId
    tokenId := a.tokenId
    bundleName := a.bundleName
    bindLevel := a.bindLevel }

/-- The identity is part of the index columns. -/
theorem Party.identity_eq {a b : Party} (h : a.indexColumns = b.indexColumns) :
    a.identity = b.identity := by
  simp only [Party.indexColumns, PartyIndex.mk.injEq] at h
  obtain ⟨hdevice, huser, haccount, htoken, hbundle, _, hlevel, _⟩ := h
  simp only [Party.identity, hdevice, huser, haccount, htoken, hbundle, hlevel]

/-! ## Traced runs -/

/-- A world together with the entry each access control row was created for. -/
structure Traced where
  world : World
  /-- The profile of the Put that created the row of an id. -/
  origin : Int → AccessControlProfile

namespace Traced

/-- Nothing is stored; each of the next database calls may fail. -/
def start (faults : List Bool) : Traced := ⟨{ faults }, fun _ => {}⟩

/-- One call; a row that a Put added is traced to the profile of that Put. -/
def step (env : Env) (s : Traced) (call : Call) : Traced where
  world := call.run env s.world
  origin id :=
    match call with
    | .put p =>
      if (s.world.tables.aclById id).isEmpty &&
          !((call.run env s.world).tables.aclById id).isEmpty then p
      else s.origin id
    | _ => s.origin id

/-- Each row resolves to the parties of the entry it was created for, or to none. -/
def OwnParties (s : Traced) : Prop :=
  ∀ row ∈ s.world.tables.accessControl, ∀ role a, s.world.tables.partyOf row role = some a →
    a.identity = ((s.origin row.accessControlId).party role).identity

/-- A party that a Put has to add gets an id that no row of another identity names. -/
def FreshIds (s : Traced) : Call → Prop
  | .put p => ∀ role,
      (∀ b ∈ s.world.tables.parties role, b.indexColumns ≠ (p.party role).indexColumns) →
      ∀ row ∈ s.world.tables.accessControl,
        row.partyId role = (s.world.tables.parties role).nextKey →
        ((s.origin row.accessControlId).party role).identity = (p.party role).identity
  | _ => True

/-- A row that was there before the call keeps its origin. -/
theorem origin_step_of_mem {s : Traced} (call : Call) {row : AccessControlRow}
    (hrow : row ∈ s.world.tables.accessControl) :
    (s.step env call).origin row.accessControlId = s.origin row.accessControlId := by
  cases call with
  | put p =>
    have hne : (s.world.tables.aclById row.accessControlId).isEmpty = false := by
      rw [List.isEmpty_eq_false_iff]
      exact List.ne_nil_of_mem (Tables.mem_aclById.mpr ⟨hrow, rfl⟩)
    simp only [step, hne, Bool.false_and, Bool.false_eq_true, if_false]
  | update p => rfl
  | delete id => rfl

end Traced

/-! ## One Put -/

namespace Traced

/-- Without database failures the ids must be fresh: otherwise a row of another identity
resolves to the party that the Put adds. -/
theorem freshIds_of_ownParties {s : Traced} {p : AccessControlProfile}
    (hw : s.world.faults = []) (hs' : (s.step env (.put p)).OwnParties) :
    s.FreshIds (.put p) := by
  intro role hno row hrow hnext
  obtain ⟨r, hexec⟩ := Call.exists_exec env s.world (.put p)
  obtain ⟨_, he, _⟩ := putAccessControlProfile_effect hexec
  have hkeep : row ∈ (Call.run env s.world (.put p)).tables.accessControl ∧
      s.world.tables.Ensured (Call.run env s.world (.put p)).tables role
        ((s.world.tables.prepared p).party role) := by
    cases he with
    | failed e hfaults => exact absurd hw hfaults
    | found hacl hparties _ => exact ⟨hacl ▸ hrow, hparties role⟩
    | stored u b hacl hparties _ =>
      exact ⟨(Table.mem_insert? hacl).mpr (Or.inr hrow), hparties role⟩
  have hcols := s.world.tables.indexColumns_prepared p role
  have hadded : (s.world.tables.prepared p).party role ∈
      (Call.run env s.world (.put p)).tables.parties role := by
    refine (hkeep.2 _).mpr (Or.inr ⟨rfl, fun b hb => ?_⟩)
    rw [hcols]
    exact hno b hb
  have hid : ((s.world.tables.prepared p).party role).partyId = row.partyId role := by
    rw [Tables.prepared_party, hnext]
    exact Tables.partyIdFor_of_new hno
  have hown := hs' row hkeep.1 role _ (Tables.partyOf_eq_some.mpr ⟨hadded, hid⟩)
  rw [origin_step_of_mem _ hrow] at hown
  rw [← hown]
  exact Party.identity_eq hcols

/-! ## One Delete -/

end Traced

/-! ## Every run -/

/-- The traced state after a run of calls. -/
def Traced.run (env : Env) (s : Traced) (calls : List Call) : Traced :=
  calls.foldl (Traced.step env) s

end DeviceProfile
