import DeviceProfile.Trust.Calls

/-!
# Referential integrity

The party tables and the access control table agree when the party ids stored on
each side are exactly the party ids named by access control rows. Put, Update and
Delete all preserve this agreement as long as no database call fails: an id that
is handed out again is named by nobody, a shared party survives until its last
row, and an update changes no id.
-/

namespace DeviceProfile

open Library

namespace Tables

/-- A party of that side is stored under the id. -/
def Stores (t : Tables) (role : Role) (id : Int) : Prop := ∃ a ∈ t.parties role, a.partyId = id

/-- An access control row names the id on that side. -/
def Names (t : Tables) (role : Role) (id : Int) : Prop :=
  ∃ row ∈ t.accessControl, row.partyId role = id

/-- The stored party ids are the named ones. -/
def Integrity (t : Tables) : Prop := ∀ role id, t.Stores role id ↔ t.Names role id

/-- Storing the party of a prepared entry adds its id and no other. -/
theorem Ensured.stores {t t' : Tables} {p : AccessControlProfile} {role : Role}
    (h : t.Ensured t' role ((t.prepared p).party role)) (id : Int) :
    t'.Stores role id ↔ t.Stores role id ∨ (t.prepared p).partyId role = id := by
  have hid : ((t.prepared p).party role).partyId = (t.prepared p).partyId role := by
    rw [prepared_party, prepared_partyId]
  constructor
  · rintro ⟨b, hb, rfl⟩
    rcases (h b).mp hb with hb | ⟨rfl, _⟩
    · exact Or.inl ⟨b, hb, rfl⟩
    · exact Or.inr hid.symm
  · rintro (⟨b, hb, rfl⟩ | rfl)
    · exact ⟨b, (h b).mpr (Or.inl hb), rfl⟩
    · obtain ⟨a, ha, hid, -⟩ := h.exists_party
      exact ⟨a, ha, hid⟩

/-- A row that is deleted with its unshared parties takes exactly its own unshared ids away. -/
theorem Dropped.stores {t t' : Tables} {role : Role} {id : Int} (h : t.Dropped t' role id)
    (k : Int) : t'.Stores role k ↔ t.Stores role k ∧
      (k = id → (t.accessControl.select fun row => decide (row.partyId role = id)).length ≠ 1) := by
  constructor
  · rintro ⟨b, hb, rfl⟩
    exact ⟨⟨b, ((h b).mp hb).1, rfl⟩, ((h b).mp hb).2⟩
  · rintro ⟨⟨b, hb, rfl⟩, hk⟩
    exact ⟨b, (h b).mpr ⟨hb, hk⟩, rfl⟩

/-- Rewriting a party keeps the set of stored ids. -/
theorem Rewritten.stores {t t' : Tables} {role : Role} {p : AccessControlProfile}
    (h : t.Rewritten t' role p) (hid : (p.party role).partyId = p.partyId role) (id : Int) :
    t'.Stores role id ↔ t.Stores role id := by
  unfold Stores Rewritten at *
  rw [h]
  cases hu : (t.parties role).update? (p.partyId role) (p.party role) with
  | none => rfl
  | some x =>
    simp only [Option.getD_some, Table.mem_update? hu]
    constructor
    · rintro ⟨a, ⟨rfl, b, hb, hk⟩ | ⟨ha, _⟩, rfl⟩
      · exact ⟨b, hb, hk.trans hid.symm⟩
      · exact ⟨a, ha, rfl⟩
    · rintro ⟨a, ha, rfl⟩
      by_cases hk : a.partyId = p.partyId role
      · exact ⟨_, Or.inl ⟨rfl, a, ha, hk⟩, hid.trans hk.symm⟩
      · exact ⟨a, Or.inr ⟨ha, hk⟩, rfl⟩

/-- A row that names another party resolves as before. -/
theorem Rewritten.partyOf_of_ne {t t' : Tables} {role : Role} {p : AccessControlProfile}
    (h : t.Rewritten t' role p) (hid : (p.party role).partyId = p.partyId role)
    {row : AccessControlRow} (hne : row.partyId role ≠ p.partyId role) :
    t'.partyOf row role = t.partyOf row role := by
  refine Option.ext fun a => ?_
  rw [partyOf_eq_some, partyOf_eq_some, h]
  refine and_congr_left fun ha => ?_
  cases hu : (t.parties role).update? (p.partyId role) (p.party role) with
  | none => rfl
  | some x =>
    have hother : a.partyId ≠ p.partyId role := fun he => hne (ha.symm.trans he)
    rw [Option.getD_some, Table.mem_update? hu]
    constructor
    · rintro (⟨rfl, _⟩ | ⟨hmem, _⟩)
      · exact absurd hid hother
      · exact hmem
    · exact fun hmem => Or.inr ⟨hmem, hother⟩

/-- A row that names the rewritten party resolves to the new one, unless it was refused. -/
theorem Rewritten.partyOf_cases {t t' : Tables} {role : Role} {p : AccessControlProfile}
    (h : t.Rewritten t' role p) (hid : (p.party role).partyId = p.partyId role)
    {row : AccessControlRow} (hrow : row.partyId role = p.partyId role) :
    t'.partyOf row role = t.partyOf row role ∨
      t'.partyOf row role = (t.partyOf row role).map fun _ => p.party role := by
  cases hu : (t.parties role).update? (p.partyId role) (p.party role) with
  | none =>
    left
    rw [partyOf, partyOf, h, hu, Option.getD_none]
  | some x =>
    right
    refine Option.ext fun a => ?_
    rw [partyOf_eq_some, h, hu, Option.getD_some, Table.mem_update? hu, hrow,
      Option.map_eq_some_iff]
    constructor
    · rintro ⟨⟨rfl, b, hb, hbid⟩ | ⟨_, hne⟩, ha⟩
      · exact ⟨b, partyOf_eq_some.mpr ⟨hb, hbid.trans hrow.symm⟩, rfl⟩
      · exact absurd ha hne
    · rintro ⟨b, hb, rfl⟩
      obtain ⟨hmem, hbid⟩ := partyOf_eq_some.mp hb
      exact ⟨Or.inl ⟨rfl, b, hmem, hbid.trans hrow⟩, hid⟩

end Tables

/-! ## One call -/

/-- A put leaves no row without its parties. -/
theorem PutEffect.integrity {env : Env} {p : AccessControlProfile} {w w' : World}
    {r : Except DpError (Option (AccessControlProfile × Bool × Bool))}
    (he : PutEffect env p w w' r) (hw : w.faults = []) (hi : w.tables.Integrity) :
    w'.tables.Integrity := by
  intro role id
  cases he with
  | failed e hfaults => exact absurd hw hfaults
  | found hacl hparties hfound =>
    rw [(hparties role).stores, Tables.Names, hacl]
    refine ⟨fun h => h.elim (hi role id).mp ?_, fun h => Or.inl ((hi role id).mpr h)⟩
    rintro rfl
    obtain ⟨row, hrow, hcols⟩ := Tables.hasAcl_eq_true.mp hfound
    refine ⟨row, hrow, ?_⟩
    cases role
    · exact congrArg AccessControlIndex.accesserId hcols
    · exact congrArg AccessControlIndex.accesseeId hcols
  | stored u a hacl hparties =>
    rw [(hparties role).stores, hi role id]
    simp only [Tables.Names, Table.mem_insert? hacl]
    constructor
    · rintro (⟨row, hrow, hid⟩ | hid)
      · exact ⟨row, Or.inr hrow, hid⟩
      · exact ⟨_, Or.inl rfl, hid⟩
    · rintro ⟨row, rfl | hrow, hid⟩
      · exact Or.inr hid
      · exact Or.inl ⟨row, hrow, hid⟩

/-- A deletion leaves no row without its parties. -/
theorem DeleteEffect.integrity {id : Int} {w w' : World}
    {r : Except DpError AccessControlProfile} (he : DeleteEffect id w w' r)
    (hw : w.faults = []) (hi : w.tables.Integrity) : w'.tables.Integrity := by
  intro role k
  cases he with
  | missing htables =>
    rw [htables]
    exact hi role k
  | failed e hfaults => exact absurd hw hfaults
  | deleted row hrow hid hacl hparties =>
    rw [(hparties role).stores, hi role k]
    have hself : decide (row.partyId role = row.partyId role) = true := decide_eq_true rfl
    constructor
    · rintro ⟨⟨r, hr, rfl⟩, hshared⟩
      by_cases he : r = row
      · -- the deleted row shares the party with another row
        subst he
        obtain ⟨r', hr', hp, hne⟩ :=
          Table.exists_other_of_select_length (hshared rfl) hrow hself
        exact ⟨r', (hacl r').mpr ⟨hr', hne⟩, of_decide_eq_true hp⟩
      · exact ⟨r, (hacl r).mpr ⟨hr, he⟩, rfl⟩
    · rintro ⟨r, hr, rfl⟩
      obtain ⟨hr, hne⟩ := (hacl r).mp hr
      refine ⟨⟨r, hr, rfl⟩, fun he hone => hne ?_⟩
      exact Table.eq_of_select_length_one hone hr (decide_eq_true he) hrow hself

/-- An update leaves no row without its parties. -/
theorem UpdateEffect.integrity {p : AccessControlProfile} {w w' : World}
    {r : Except DpError AccessControlProfile} (he : UpdateEffect p w w' r)
    (hi : w.tables.Integrity) : w'.tables.Integrity := by
  intro role k
  cases he with
  | refused e htables =>
    rw [htables]
    exact hi role k
  | conflict e row hrow hid hnames hconflict hacl hparties =>
    rw [(hparties role).stores (hnames.partyId_party role), hi role k,
      Tables.Names, Tables.Names, hacl]
  | updated row hrow hid hnames hacl hparties =>
    rw [(hparties role).stores (hnames.partyId_party role), hi role k]
    have hcol : p.toAccessControlRow.partyId role = row.partyId role := (hnames role).2.symm
    simp only [Tables.Names, Table.mem_update? hacl]
    constructor
    · rintro ⟨r, hr, rfl⟩
      by_cases he : r.accessControlId = p.accessControlId
      · obtain rfl := Table.eq_of_key hr hrow (he.trans hid.symm)
        exact ⟨_, Or.inl ⟨rfl, r, hr, he⟩, hcol⟩
      · exact ⟨r, Or.inr ⟨hr, he⟩, rfl⟩
    · rintro ⟨r, ⟨rfl, _⟩ | ⟨hr, _⟩, rfl⟩
      · exact ⟨row, hrow, hcol.symm⟩
      · exact ⟨r, hr, rfl⟩

/-- A row whose party stays stored resolves to it as before. -/
theorem Tables.Integrity.partyOf_eq {t t' : Tables} {row : AccessControlRow} {role : Role}
    (hi : t.Integrity) (hrow : row ∈ t.accessControl)
    (hkeep : ∀ a ∈ t.parties role, a.partyId = row.partyId role → a ∈ t'.parties role) :
    t'.partyOf row role = t.partyOf row role := by
  obtain ⟨a, ha, hid⟩ := (hi role (row.partyId role)).mpr ⟨row, hrow, rfl⟩
  rw [partyOf_eq_some.mpr ⟨hkeep a ha hid, hid⟩, partyOf_eq_some.mpr ⟨ha, hid⟩]

/-- A Put leaves the parties of the rows before it alone. -/
theorem PutEffect.partyOf_eq {env : Env} {p : AccessControlProfile} {w w' : World}
    {r : Except DpError (Option (AccessControlProfile × Bool × Bool))}
    (he : PutEffect env p w w' r) (hw : w.faults = []) (hi : w.tables.Integrity)
    {row : AccessControlRow} (hrow : row ∈ w.tables.accessControl) (role : Role) :
    w'.tables.partyOf row role = w.tables.partyOf row role := by
  refine hi.partyOf_eq hrow fun a ha _ => ?_
  cases he with
  | failed e hfaults => exact absurd hw hfaults
  | found _ hparties _ => exact (hparties role a).mpr (Or.inl ha)
  | stored u b _ hparties _ => exact (hparties role a).mpr (Or.inl ha)

/-- A Delete leaves the parties of the rows that stay alone. -/
theorem DeleteEffect.partyOf_eq {id : Int} {w w' : World}
    {r : Except DpError AccessControlProfile} (he : DeleteEffect id w w' r)
    (hw : w.faults = []) (hi : w.tables.Integrity) {row : AccessControlRow}
    (hrow : row ∈ w.tables.accessControl) (hrow' : row ∈ w'.tables.accessControl) (role : Role) :
    w'.tables.partyOf row role = w.tables.partyOf row role := by
  refine hi.partyOf_eq hrow fun a ha hid => ?_
  cases he with
  | missing htables => exact htables ▸ ha
  | failed e hfaults => exact absurd hw hfaults
  | deleted deleted hmem _ hacl hparties =>
    refine (hparties role a).mpr ⟨ha, fun hshared hone => ?_⟩
    -- the row that stays names the party as well
    have hsame : row = deleted := Table.eq_of_select_length_one hone hrow
      (decide_eq_true (hid.symm.trans hshared)) hmem (decide_eq_true rfl)
    exact ((hacl row).mp hrow').2 hsame

/-- A call in which no database call fails keeps referential integrity. -/
theorem integrity_run (env : Env) {w : World} (call : Call) (hw : w.faults = [])
    (hi : w.tables.Integrity) : (call.run env w).tables.Integrity := by
  obtain ⟨r, hexec⟩ := call.exists_exec env w
  cases call with
  | put p =>
    obtain ⟨_, he, _⟩ := putAccessControlProfile_effect hexec
    exact he.integrity hw hi
  | update p =>
    obtain ⟨_, he, _⟩ := updateAccessControlProfile_effect hw hexec
    exact he.integrity hi
  | delete id =>
    obtain ⟨_, he⟩ := deleteAccessControlProfile_effect hexec
    exact he.integrity hw hi

/-! ## Every reachable state -/

/-- In a reachable world every row has its parties. -/
theorem Reachable.integrity {env : Env} {w : World} (h : Reachable env w) :
    w.tables.Integrity := by
  obtain ⟨calls, rfl⟩ := h
  refine (run_invariant (P := fun w => w.faults = [] ∧ w.tables.Integrity)
    (fun w call hw => ⟨calm_run env call hw.1, integrity_run env call hw.1 hw.2⟩)
    ⟨rfl, fun role id => ?_⟩ calls).2
  cases role <;> exact ⟨fun ⟨_, h, _⟩ => (Table.not_mem_empty _ h).elim,
    fun ⟨_, h, _⟩ => (Table.not_mem_empty _ h).elim⟩

/-- In every state the manager reaches without database failures, each access control row
names exactly one stored party on either side, each stored party is named by a row, and no
two rows of a table share their id. -/
theorem referential_integrity (env : Env) (calls : List Call) :
    (∀ row ∈ (run env {} calls).tables.accessControl,
      ((run env {} calls).tables.accesser.select
        fun a => decide (a.partyId = row.accesserId)).length = 1 ∧
      ((run env {} calls).tables.accessee.select
        fun a => decide (a.partyId = row.accesseeId)).length = 1) ∧
    (∀ a ∈ (run env {} calls).tables.accesser,
      ∃ row ∈ (run env {} calls).tables.accessControl, row.accesserId = a.partyId) ∧
    (∀ a ∈ (run env {} calls).tables.accessee,
      ∃ row ∈ (run env {} calls).tables.accessControl, row.accesseeId = a.partyId) ∧
    ((run env {} calls).tables.accessControl.rows.map AccessControlRow.accessControlId).Nodup ∧
    ((run env {} calls).tables.accesser.rows.map Party.partyId).Nodup ∧
    ((run env {} calls).tables.accessee.rows.map Party.partyId).Nodup := by
  have hi : (run env {} calls).tables.Integrity :=
    (show Reachable env _ from ⟨calls, rfl⟩).integrity
  generalize (run env {} calls).tables = t at hi ⊢
  have hone : ∀ role, ∀ row ∈ t.accessControl,
      ((t.parties role).select fun a => decide (a.partyId = row.partyId role)).length = 1 := by
    intro role row hrow
    obtain ⟨a, ha, hid⟩ := (hi role (row.partyId role)).mpr ⟨row, hrow, rfl⟩
    rw [← hid, Table.select_key ha, List.length_singleton]
  refine ⟨fun row hrow => ⟨hone .accesser row hrow, hone .accessee row hrow⟩,
    fun a ha => (hi .accesser _).mp ⟨a, ha, rfl⟩, fun a ha => (hi .accessee _).mp ⟨a, ha, rfl⟩,
    t.accessControl.nodup_keys, t.accesser.nodup_keys, t.accessee.nodup_keys⟩

end DeviceProfile
