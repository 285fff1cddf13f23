import DeviceProfile.Trust.Reading

/-!
# What the locked sections do

Put, Update and Delete each run a fixed chain of writes under the lock. A
database failure keeps a prefix of the chain; without one the chain ends in a
state that the tables before determine. The effects are read off once, and
everything later is derived from them.
-/

namespace DeviceProfile

open Library

/-- A write is one call on the database, which fails or is refused or made. -/
theorem exec_execute (write : Tables → Option Tables) (err : DpError) (w : World) :
    (execute write err).exec w =
      (if (w.outcome write).isSome then .ok () else .error err, w.written write) := by
  simp only [execute, Prog.exec_step]
  split <;> rfl

/-- One run of a write. -/
theorem execute_cases {write : Tables → Option Tables} {err : DpError} {w w' : World}
    {r : Except DpError Unit} (h : (execute write err).exec w = (r, w')) :
    (r = .ok () ∧ write w.tables = some w'.tables) ∨
      (r = .error err ∧ w'.tables = w.tables ∧ (w.faults ≠ [] ∨ write w.tables = none)) := by
  rw [exec_execute] at h
  obtain ⟨rfl, rfl⟩ := Prod.mk.inj h
  unfold World.written
  cases ho : w.outcome write with
  | some t' =>
    refine Or.inl ⟨rfl, ?_⟩
    unfold World.outcome at ho
    split at ho
    · cases ho
    · exact ho
  | none =>
    refine Or.inr ⟨rfl, rfl, ?_⟩
    unfold World.outcome at ho
    split at ho
    case isTrue hf => exact Or.inl (World.faults_ne_nil hf)
    case isFalse => exact Or.inr ho

/-! ## Put -/

namespace Tables

/-- The id a Put gives a party: that of the stored party that agrees with it, or the next one. -/
def partyIdFor (t : Tables) (role : Role) (a : Party) : Int :=
  match t.partiesWhereAll role a with
  | b :: _ => b.partyId
  | [] => (t.parties role).nextKey

/-- The entry a Put stores: the caller's entry with the ids the tables give it. -/
def prepared (t : Tables) (p : AccessControlProfile) : AccessControlProfile :=
  { p with
    accessControlId := t.accessControl.nextKey
    accesserId := t.partyIdFor .accesser p.accesser
    accesseeId := t.partyIdFor .accessee p.accessee
    accesser := { p.accesser with partyId := t.partyIdFor .accesser p.accesser }
    accessee := { p.accessee with partyId := t.partyIdFor .accessee p.accessee } }

/-- A prepared profile names the number that its party has or is given. -/
theorem prepared_partyId (t : Tables) (p : AccessControlProfile) (role : Role) :
    (t.prepared p).partyId role = t.partyIdFor role (p.party role) := by
  cases role <;> rfl

/-- The party of a prepared profile carries its number. -/
theorem prepared_party (t : Tables) (p : AccessControlProfile) (role : Role) :
    (t.prepared p).party role =
      { p.party role with partyId := t.partyIdFor role (p.party role) } := by
  cases role <;> rfl

/-- Only the id of a party is prepared. -/
theorem indexColumns_prepared (t : Tables) (p : AccessControlProfile) (role : Role) :
    ((t.prepared p).party role).indexColumns = (p.party role).indexColumns := by
  rw [prepared_party]
  rfl

/-- The two sides of a prepared entry are those of the caller's. -/
theorem queryParams_prepared (t : Tables) (p : AccessControlProfile) :
    (t.prepared p).queryParams = p.queryParams := by
  unfold AccessControlProfile.queryParams prepared
  split <;> rfl

/-- Preparing a profile changes nothing about its trusted device. -/
theorem convertToTrustDeviceProfile_prepared (t : Tables) (p : AccessControlProfile) :
    convertToTrustDeviceProfile (t.prepared p) = convertToTrustDeviceProfile p := by
  unfold convertToTrustDeviceProfile
  rw [queryParams_prepared]
  rfl

/-- Store a party unless one that agrees with it is stored. -/
def ensureParty (t : Tables) (role : Role) (a : Party) : Option Tables :=
  match t.partiesWhereAll role a with
  | _ :: _ => some t
  | [] => ((t.parties role).insert? a).map (t.setParties · role)

@[simp] theorem mem_partiesWhereAll {t : Tables} {role : Role} {a b : Party} :
    b ∈ t.partiesWhereAll role a ↔ b ∈ t.parties role ∧ b.indexColumns = a.indexColumns := by
  rw [partiesWhereAll, Table.mem_select, decide_eq_true_iff]

/-- Either a stored party agrees and gives its id, or none does and the next id is given. -/
theorem partyIdFor_cases (t : Tables) (role : Role) (a : Party) :
    (∃ b ∈ t.parties role, b.indexColumns = a.indexColumns ∧ t.partyIdFor role a = b.partyId) ∨
      ((∀ b ∈ t.parties role, b.indexColumns ≠ a.indexColumns) ∧
        t.partyIdFor role a = (t.parties role).nextKey) := by
  unfold partyIdFor
  cases hm : t.partiesWhereAll role a with
  | cons b rest =>
    have hb : b ∈ t.partiesWhereAll role a := hm ▸ List.mem_cons_self
    exact Or.inl ⟨b, (mem_partiesWhereAll.mp hb).1, (mem_partiesWhereAll.mp hb).2, rfl⟩
  | nil =>
    refine Or.inr ⟨fun b hb he => ?_, rfl⟩
    have := mem_partiesWhereAll.mpr ⟨hb, he⟩
    rw [hm] at this
    cases this

/-- A party that no stored one agrees with gets the next id. -/
theorem partyIdFor_of_new {t : Tables} {role : Role} {a : Party}
    (h : ∀ b ∈ t.parties role, b.indexColumns ≠ a.indexColumns) :
    t.partyIdFor role a = (t.parties role).nextKey := by
  rcases t.partyIdFor_cases role a with ⟨b, hb, hbc, -⟩ | ⟨-, hnext⟩
  · exact absurd hbc (h b hb)
  · exact hnext

end Tables

/-- The number of a new row is read from the table. -/
theorem fetches_setAccessControlId (t : Tables) (p : AccessControlProfile) :
    Fetches (setAccessControlId p) t { p with accessControlId := t.accessControl.nextKey } := by
  refine (fetches_getResultSet _ t).bind ?_
  unfold Table.nextKey
  cases t.accessControl.rows.getLast? with
  | none => exact fetches_ret t _
  | some row => exact fetches_ret t _

/-- The number of a party is read from the table, a new one where there is none. -/
theorem fetches_setPartyId (t : Tables) (role : Role) (p : AccessControlProfile) :
    Fetches (setPartyId role p) t (p.setPartyId (t.partyIdFor role (p.party role)) role) := by
  refine (fetches_getResultSet _ t).bind ?_
  unfold Tables.partyIdFor
  cases t.partiesWhereAll role (p.party role) with
  | cons b rest => exact fetches_ret t _
  | nil =>
    refine (fetches_getResultSet _ t).bind ?_
    unfold Table.nextKey
    cases (t.parties role).rows.getLast? with
    | none => exact fetches_ret t _
    | some a => exact fetches_ret t _

/-- The three numbers of a profile are read from the tables. -/
theorem fetches_setAccessControlProfileId (t : Tables) (p : AccessControlProfile) :
    Fetches (setAccessControlProfileId p) t (t.prepared p) :=
  (fetches_setAccessControlId t p).bind <|
    (fetches_setPartyId t .accesser _).bind <| (fetches_setPartyId t .accessee _).bind <|
      fetches_ret t _

/-- Whether a row agrees with an entry on every compared column. -/
def Tables.hasAcl (t : Tables) (p : AccessControlProfile) : Bool :=
  t.accessControl.rows.any fun row => decide (row.indexColumns = p.indexColumns)

/-- A profile is there when a row has its columns of the index. -/
theorem Tables.hasAcl_eq_true {t : Tables} {p : AccessControlProfile} :
    t.hasAcl p = true ↔ ∃ row ∈ t.accessControl, row.indexColumns = p.indexColumns := by
  simp only [hasAcl, List.any_eq_true, decide_eq_true_eq]
  rfl

/-- The check for a profile reads the table. -/
theorem fetches_isAclExists (t : Tables) (p : AccessControlProfile) :
    Fetches (isAclExists p) t (t.hasAcl p) := by
  have h : t.hasAcl p = !(t.accessControl.select fun row =>
      decide (row.indexColumns = p.indexColumns)).isEmpty := by
    rw [Bool.eq_iff_iff, Tables.hasAcl_eq_true, Bool.not_eq_true', List.isEmpty_eq_false_iff,
      ne_eq, Table.select_eq_nil]
    simp only [decide_eq_false_iff_not, not_forall, not_not, exists_prop]
  rw [h]
  exact (fetches_getResultSet _ t).bind (fetches_ret t _)

/-- A party is stored, or the insertion failed and nothing changed. -/
theorem putPartyProfile_cases {role : Role} {err : DpError} {p : AccessControlProfile}
    {w w' : World} {r : Except DpError Unit} (h : (putPartyProfile role err p).exec w = (r, w')) :
    (r = .ok () ∧ w.tables.ensureParty role (p.party role) = some w'.tables) ∨
      ((∃ e, r = .error e) ∧ w'.tables = w.tables ∧
        (w.faults ≠ [] ∨ w.tables.ensureParty role (p.party role) = none)) := by
  obtain ⟨w₁, hr, h⟩ | ⟨hr, hf, he⟩ := (fetches_getResultSet _ w.tables).bind_cases h
  · rw [Tables.ensureParty]
    cases hm : w.tables.partiesWhereAll role (p.party role) with
    | cons b rest =>
      rw [hm] at h
      obtain ⟨rfl, rfl⟩ := Prod.mk.inj h
      exact Or.inl ⟨rfl, congrArg some hr.tables.symm⟩
    | nil =>
      rw [hm] at h
      have hc := execute_cases h
      rw [hr.tables] at hc
      rcases hc with ⟨rfl, hw⟩ | ⟨rfl, ht, hw⟩
      · exact Or.inl ⟨rfl, hw⟩
      · exact Or.inr ⟨⟨_, rfl⟩, ht, hw.imp_left fun hf he => hf (hr.calm he)⟩
  · exact Or.inr ⟨he, hr.tables, Or.inl hf⟩

namespace Tables

/-- The second tables hold the parties of the first, and the given one unless a stored
party agrees with it. -/
def Ensured (t t' : Tables) (role : Role) (a : Party) : Prop :=
  ∀ b, b ∈ t'.parties role ↔ b ∈ t.parties role ∨
    b = a ∧ ∀ c ∈ t.parties role, c.indexColumns ≠ a.indexColumns

/-- The party a Put stores is never refused: it agrees with a stored one or has a new id. -/
theorem ensureParty_prepared (t u : Tables) (p : AccessControlProfile) (role : Role)
    (h : u.parties role = t.parties role) :
    ∃ u', u.ensureParty role ((t.prepared p).party role) = some u' ∧
      t.Ensured u' role ((t.prepared p).party role) ∧ u'.accessControl = u.accessControl ∧
      ∀ other, other ≠ role → u'.parties other = u.parties other := by
  have hcols := t.indexColumns_prepared p role
  have hid : ((t.prepared p).party role).partyId = t.partyIdFor role (p.party role) := by
    rw [prepared_party]
  unfold ensureParty Ensured
  simp only [hcols]
  rcases t.partyIdFor_cases role (p.party role) with ⟨b, hb, hbc, _⟩ | ⟨hno, hnext⟩
  · have hmem : b ∈ u.partiesWhereAll role ((t.prepared p).party role) :=
      mem_partiesWhereAll.mpr ⟨h ▸ hb, hbc.trans hcols.symm⟩
    cases hm : u.partiesWhereAll role ((t.prepared p).party role) with
    | nil =>
      rw [hm] at hmem
      cases hmem
    | cons _ _ =>
      refine ⟨u, rfl, fun c => ?_, rfl, fun _ _ => rfl⟩
      rw [h]
      exact ⟨Or.inl, fun hc => hc.elim id fun hn => absurd hbc (hn.2 b hb)⟩
  · have hnil : u.partiesWhereAll role ((t.prepared p).party role) = [] := by
      rw [partiesWhereAll, Table.select_eq_nil]
      intro b hb
      rw [decide_eq_false_iff_not, hcols]
      exact hno b (h ▸ hb)
    obtain ⟨x, hx⟩ := Table.exists_insert? (t := u.parties role)
      (r := (t.prepared p).party role) (by rw [hid, hnext, h])
      fun b hb => by rw [hcols]; exact hno b (h ▸ hb)
    refine ⟨u.setParties x role, ?_, fun b => ?_, accessControl_setParties u x role,
      fun other hne => parties_setParties_of_ne u x hne⟩
    · rw [hnil]
      simp only [hx, Option.map_some]
    · rw [parties_setParties, Table.mem_insert? hx, h, or_comm]
      exact ⟨fun hb => hb.imp_right fun he => ⟨he, hno⟩, fun hb => hb.imp_right And.left⟩

/-- A party under an old id is an old one; the one a Put adds is the caller's, under the next id. -/
theorem Ensured.mem_cases {t t' : Tables} {p : AccessControlProfile} {role : Role}
    (h : t.Ensured t' role ((t.prepared p).party role)) {a : Party}
    (ha : a ∈ t'.parties role) :
    a ∈ t.parties role ∨
      (∀ b ∈ t.parties role, b.indexColumns ≠ (p.party role).indexColumns) ∧
        a.partyId = (t.parties role).nextKey ∧
        a.indexColumns = (p.party role).indexColumns := by
  rcases (h a).mp ha with ha | ⟨rfl, hno⟩
  · exact Or.inl ha
  · rw [indexColumns_prepared] at hno ⊢
    refine Or.inr ⟨hno, ?_, rfl⟩
    rw [prepared_party]
    exact partyIdFor_of_new hno

/-- The row a Put adds resolves to parties that agree with the caller's. -/
theorem Ensured.indexColumns_eq {t t' : Tables} {p : AccessControlProfile} {role : Role}
    (h : t.Ensured t' role ((t.prepared p).party role)) {a : Party} (ha : a ∈ t'.parties role)
    (hid : a.partyId = (t.prepared p).partyId role) :
    a.indexColumns = (p.party role).indexColumns := by
  rw [prepared_partyId] at hid
  rcases h.mem_cases ha with ha | ⟨_, _, hcols⟩
  · rcases t.partyIdFor_cases role (p.party role) with ⟨b, hb, hbc, hbid⟩ | ⟨_, hnext⟩
    · obtain rfl := Table.eq_of_key ha hb (hid.trans hbid)
      exact hbc
    · exact absurd (hid.trans hnext) (Table.key_ne_nextKey ha)
  · exact hcols

/-- After a Put the party of the entry is stored under the id the entry was given. -/
theorem Ensured.exists_party {t t' : Tables} {p : AccessControlProfile} {role : Role}
    (h : t.Ensured t' role ((t.prepared p).party role)) :
    ∃ a ∈ t'.parties role, a.partyId = (t.prepared p).partyId role ∧
      a.indexColumns = (p.party role).indexColumns := by
  rw [prepared_partyId]
  rcases t.partyIdFor_cases role (p.party role) with ⟨b, hb, hbc, hid⟩ | ⟨hno, _⟩
  · exact ⟨b, (h b).mpr (Or.inl hb), hid.symm, hbc⟩
  · refine ⟨_, (h _).mpr (Or.inr ⟨rfl, fun b hb => ?_⟩), ?_, t.indexColumns_prepared p role⟩
    · rw [indexColumns_prepared]
      exact hno b hb
    · rw [prepared_party]

end Tables

/-- What the locked part of a Put did. -/
inductive PutEffect (env : Env) (p : AccessControlProfile) (w w' : World) :
    Except DpError (Option (AccessControlProfile × Bool × Bool)) → Prop where
  /-- A database call failed; parties may have been stored before. -/
  | failed (e : DpError) (hfaults : w.faults ≠ [])
      (hacl : w'.tables.accessControl = w.tables.accessControl)
      (hparties : ∀ role, w'.tables.parties role = w.tables.parties role ∨
        w.tables.Ensured w'.tables role ((w.tables.prepared p).party role)) :
      PutEffect env p w w' (.error e)
  /-- The entry was found; its parties are stored. -/
  | found (hacl : w'.tables.accessControl = w.tables.accessControl)
      (hparties : ∀ role, w.tables.Ensured w'.tables role ((w.tables.prepared p).party role))
      (hfound : w.tables.hasAcl (w.tables.prepared p) = true) :
      PutEffect env p w w' (.ok none)
  /-- The row and its parties are stored. -/
  | stored (u a : Bool)
      (hacl : w.tables.accessControl.insert? (w.tables.prepared p).toAccessControlRow =
        some w'.tables.accessControl)
      (hparties : ∀ role, w.tables.Ensured w'.tables role ((w.tables.prepared p).party role))
      (hflags : w.faults = [] →
        u = w.tables.usersJoined env p ∧ a = w.tables.accountsJoined env p) :
      PutEffect env p w w' (.ok (some (w.tables.prepared p, u, a)))

/-- Storing a party of the prepared entry: it is stored, or a database call failed. -/
theorem putPartyProfile_prepared {t : Tables} {p : AccessControlProfile} {role : Role}
    {err : DpError} {w w' : World} {r : Except DpError Unit}
    (ht : w.tables.parties role = t.parties role)
    (h : (putPartyProfile role err (t.prepared p)).exec w = (r, w')) :
    w'.tables.accessControl = w.tables.accessControl ∧
      (∀ other, other ≠ role → w'.tables.parties other = w.tables.parties other) ∧
      ((r = .ok () ∧ t.Ensured w'.tables role ((t.prepared p).party role)) ∨
        ((∃ e, r = .error e) ∧ w.faults ≠ [] ∧
          w'.tables.parties role = w.tables.parties role)) := by
  obtain ⟨u, hu, hens, hacl, hother⟩ := Tables.ensureParty_prepared t w.tables p role ht
  rcases putPartyProfile_cases h with ⟨rfl, hs⟩ | ⟨he, htab, hf⟩
  · obtain rfl := Option.some.inj (hu.symm.trans hs)
    exact ⟨hacl, hother, Or.inl ⟨rfl, hens⟩⟩
  · rw [htab]
    refine ⟨rfl, fun _ _ => rfl, Or.inr ⟨he, ?_, rfl⟩⟩
    rcases hf with hf | hf
    · exact hf
    · rw [hu] at hf
      cases hf

/-- The insertion of an entry that was not found: the row is stored, or a call failed. -/
private theorem insertAcl_prepared {t : Tables} {p : AccessControlProfile} {w w' : World}
    {r : Except DpError Unit} (hacl : w.tables.accessControl = t.accessControl)
    (h : (execute (·.insertAcl (t.prepared p)) .putAclProfileFail).exec w = (r, w')) :
    (∀ role, w'.tables.parties role = w.tables.parties role) ∧
      ((r = .ok () ∧ t.accessControl.insert? (t.prepared p).toAccessControlRow =
          some w'.tables.accessControl) ∨
        ((∃ e, r = .error e) ∧ w'.tables.accessControl = t.accessControl ∧
          (w.faults ≠ [] ∨ t.hasAcl (t.prepared p) = true))) := by
  rcases execute_cases h with ⟨rfl, hs⟩ | ⟨rfl, htab, hf⟩
  · obtain ⟨x, hx, hw⟩ := Option.map_eq_some_iff.mp hs
    rw [← hw]
    refine ⟨fun role => by cases role <;> rfl, Or.inl ⟨rfl, ?_⟩⟩
    rw [← hacl]
    exact hx
  · rw [htab]
    refine ⟨fun _ => rfl, Or.inr ⟨⟨_, rfl⟩, hacl, hf.imp_right fun hn => ?_⟩⟩
    rw [Tables.insertAcl, Option.map_eq_none_iff, hacl, Table.insert?_eq_none] at hn
    obtain ⟨row, hrow, hk | hi⟩ := hn
    · exact absurd hk (Table.key_ne_nextKey hrow)
    · exact Tables.hasAcl_eq_true.mpr ⟨row, hrow, hi⟩

/-- The value of a check in a run without failures. -/
private theorem value_of_calm {α : Type} {m : DpProg α} {w w' : World} {x y : α}
    (hm : ∀ t n, t = w.tables → m.exec ⟨t, [], n⟩ = (.ok x, ⟨t, [], n⟩))
    (h : m.exec w = (.ok y, w')) (hw : w.faults = []) : y = x := by
  obtain ⟨t, f, n⟩ := w
  obtain rfl : f = [] := hw
  rw [hm t n rfl] at h
  exact (Except.ok.inj (Prod.mk.inj h).1).symm

/-- What a put does to the tables, in the cases that it can end in. -/
theorem putAccessControlProfileLocked_effect {env : Env} {p : AccessControlProfile} {w w' : World}
    {r : Except DpError (Option (AccessControlProfile × Bool × Bool))}
    (h : (putAccessControlProfileLocked env p).exec w = (r, w')) : PutEffect env p w w' r := by
  unfold putAccessControlProfileLocked at h
  -- the two checks before the ids are taken
  obtain ⟨u, w₁, hu, h⟩ | ⟨e, hu, rfl⟩ := Prog.exec_bind_cases h
  swap
  · obtain ⟨_, _, he⟩ := Prog.exec_getD_cases hu
    cases he
  have hread₁ := Reads.of_exec (Prog.steps_getD (reads_checkDeviceIdAndUserIdExists env p) _) hu
  obtain ⟨a, w₂, ha, h⟩ | ⟨e, ha, rfl⟩ := Prog.exec_bind_cases h
  swap
  · obtain ⟨_, _, he⟩ := Prog.exec_getD_cases ha
    cases he
  have hread₂ := Reads.trans _ _ _ hread₁
    (Reads.of_exec (Prog.steps_getD (reads_checkAccountAclExists env p) _) ha)
  have hflags : w.faults = [] →
      u = w.tables.usersJoined env p ∧ a = w.tables.accountsJoined env p := by
    intro hw
    refine ⟨value_of_calm (fun t n ht => ?_) hu hw,
      value_of_calm (fun t n ht => ?_) ha (hread₁.calm hw)⟩
    · rw [← ht]
      exact exec_checkDeviceIdAndUserIdExists env p t n
    · rw [← hread₁.tables, ← ht]
      exact exec_checkAccountAclExists env p t n
  obtain ⟨w₃, hread₃, h⟩ | ⟨hread₃, hf, e, rfl⟩ :=
    (fetches_setAccessControlProfileId w₂.tables p).bind_cases h
  swap
  · have htab := hread₃.tables.trans hread₂.tables
    exact .failed e (fun hw => hf (hread₂.calm hw)) (by rw [htab]) fun _ => Or.inl (by rw [htab])
  have hread := Reads.trans _ _ _ hread₂ hread₃
  rw [hread₂.tables] at h
  -- the two parties
  obtain ⟨_, w₄, h₄, h⟩ | ⟨e, h₄, rfl⟩ := Prog.exec_bind_cases h
  swap
  · obtain ⟨hacl, hother, ⟨hv, _⟩ | ⟨_, hf, hrole⟩⟩ :=
      putPartyProfile_prepared (by rw [hread.tables]) h₄
    · cases hv
    · refine .failed e (fun hw => hf (hread.calm hw)) (by rw [hacl, hread.tables]) fun role => ?_
      refine Or.inl ?_
      rw [← hread.tables]
      cases role
      · exact hrole
      · exact hother _ (by decide)
  obtain ⟨hacl₄, hother₄, ⟨_, hens₄⟩ | ⟨⟨_, hv⟩, _⟩⟩ :=
    putPartyProfile_prepared (by rw [hread.tables]) h₄
  swap
  · cases hv
  have hcalm₄ := (Locked.of_exec (locked_putPartyProfile _ _ _) h₄).calm
  have haccessee₄ : w₄.tables.parties .accessee = w.tables.parties .accessee := by
    rw [hother₄ _ (by decide), hread.tables]
  obtain ⟨_, w₅, h₅, h⟩ | ⟨e, h₅, rfl⟩ := Prog.exec_bind_cases h
  swap
  · obtain ⟨hacl, hother, ⟨hv, _⟩ | ⟨_, hf, hrole⟩⟩ := putPartyProfile_prepared haccessee₄ h₅
    · cases hv
    · refine .failed e (fun hw => hf (hcalm₄ (hread.calm hw)))
        (by rw [hacl, hacl₄, hread.tables]) fun role => ?_
      cases role
      · right
        intro b
        rw [hother _ (by decide)]
        exact hens₄ b
      · exact Or.inl (hrole.trans haccessee₄)
  obtain ⟨hacl₅, hother₅, ⟨_, hens₅⟩ | ⟨⟨_, hv⟩, _⟩⟩ := putPartyProfile_prepared haccessee₄ h₅
  swap
  · cases hv
  have hcalm₅ : w.faults = [] → w₅.faults = [] := fun hw =>
    (Locked.of_exec (locked_putPartyProfile _ _ _) h₅).calm (hcalm₄ (hread.calm hw))
  have hacl : w₅.tables.accessControl = w.tables.accessControl := by
    rw [hacl₅, hacl₄, hread.tables]
  have hens : ∀ role, w.tables.Ensured w₅.tables role ((w.tables.prepared p).party role) := by
    intro role b
    cases role
    · rw [hother₅ _ (by decide)]
      exact hens₄ b
    · exact hens₅ b
  -- the search for the entry, and its insertion
  obtain ⟨found, w₆, h₆, h⟩ | ⟨e, h₆, rfl⟩ := Prog.exec_bind_cases h
  swap
  · obtain ⟨_, _, hv⟩ := Prog.exec_getD_cases h₆
    cases hv
  obtain ⟨x, hx, hfound⟩ := Prog.exec_getD_cases h₆
  obtain ⟨hread₆, hx⟩ := (fetches_isAclExists w₅.tables _).cases hx
  have hhas : w₅.tables.hasAcl (w.tables.prepared p) = w.tables.hasAcl (w.tables.prepared p) := by
    rw [Tables.hasAcl, hacl]
    rfl
  rw [hhas] at hx
  cases found with
  | true =>
    obtain ⟨rfl, rfl⟩ := Prod.mk.inj h
    refine .found (by rw [hread₆.tables, hacl]) (fun role b => ?_) ?_
    · rw [hread₆.tables]
      exact hens role b
    · rcases hx with rfl | ⟨_, e, rfl⟩
      · exact (Except.ok.inj hfound).symm
      · cases hfound
  | false =>
    have hacl₆ : w₆.tables.accessControl = w.tables.accessControl := by
      rw [hread₆.tables, hacl]
    obtain ⟨_, w₇, h₇, h⟩ | ⟨e, h₇, rfl⟩ := Prog.exec_bind_cases h
    · obtain ⟨hparties, ⟨_, hins⟩ | ⟨⟨_, hv⟩, _⟩⟩ := insertAcl_prepared hacl₆ h₇
      · obtain ⟨rfl, rfl⟩ := Prod.mk.inj h
        refine .stored u a hins (fun role b => ?_) hflags
        rw [hparties, hread₆.tables]
        exact hens role b
      · cases hv
    · obtain ⟨hparties, ⟨hv, _⟩ | ⟨_, hsame, hf⟩⟩ := insertAcl_prepared hacl₆ h₇
      · cases hv
      · refine .failed e (fun hw => ?_) hsame fun role => Or.inr fun b => ?_
        · have hw₅ := hcalm₅ hw
          rcases hf with hf | hf
          · exact hf (hread₆.calm hw₅)
          · rcases hx with rfl | ⟨hne, _⟩
            · rw [Except.toOption, hf] at hfound
              cases hfound
            · exact hne hw₅
        · rw [hparties, hread₆.tables]
          exact hens role b

/-! ## Delete -/

/-- The second tables hold the parties of the first, less the one with the id when exactly
one access control row names it. -/
def Tables.Dropped (t t' : Tables) (role : Role) (id : Int) : Prop :=
  ∀ b, b ∈ t'.parties role ↔ b ∈ t.parties role ∧
    (b.partyId = id → (t.accessControl.select fun row => decide (row.partyId role = id)).length ≠ 1)

/-- The party of a row is read, and deleted when no other row names it. -/
theorem deletePartyCheck_cases (role : Role) {err : DpError} (row : AccessControlRow)
    {w w' : World} {r : Except DpError Party}
    (h : (deletePartyCheck role err (row.partyId role)).exec w = (r, w')) :
    w'.tables.accessControl = w.tables.accessControl ∧
      (∀ other, other ≠ role → w'.tables.parties other = w.tables.parties other) ∧
      ((r = .ok ((w.tables.partyOf row role).getD {}) ∧
          w.tables.Dropped w'.tables role (row.partyId role)) ∨
        ((∃ e, r = .error e) ∧ w.faults ≠ [] ∧
          w'.tables.parties role = w.tables.parties role)) := by
  obtain ⟨w₁, hread₁, h⟩ | ⟨hread, hf, he⟩ := (fetches_getResultSet _ w.tables).bind_cases h
  swap
  · rw [hread.tables]
    exact ⟨rfl, fun _ _ => rfl, Or.inr ⟨he, hf, rfl⟩⟩
  obtain ⟨w₂, hread₂, h⟩ | ⟨hread₂, hf, he⟩ := (fetches_getResultSet _ w₁.tables).bind_cases h
  swap
  · rw [hread₂.tables, hread₁.tables]
    exact ⟨rfl, fun _ _ => rfl, Or.inr ⟨he, fun hw => hf (hread₁.calm hw), rfl⟩⟩
  have htab : w₂.tables = w.tables := hread₂.tables.trans hread₁.tables
  have hvalue : ((w₁.tables.parties role).select fun a =>
      decide (a.partyId = row.partyId role)).headD {} = (w.tables.partyOf row role).getD {} := by
    rw [hread₁.tables, Tables.partyOf, List.headD_eq_head?_getD]
  rw [hvalue] at h
  by_cases hone : (w.tables.accessControl.select fun r =>
      decide (r.partyId role = row.partyId role)).length = 1
  · rw [decide_eq_true hone] at h
    obtain ⟨_, w₃, h₃, h⟩ | ⟨e, h₃, rfl⟩ := Prog.exec_bind_cases h
    · rcases execute_cases h₃ with ⟨_, hs⟩ | ⟨hv, _⟩
      · obtain ⟨rfl, rfl⟩ := Prod.mk.inj h
        rw [← Option.some.inj hs, htab]
        refine ⟨Tables.accessControl_setParties _ _ _,
          fun other hne => Tables.parties_setParties_of_ne _ _ hne, Or.inl ⟨rfl, fun b => ?_⟩⟩
        rw [Tables.parties_setParties, Table.mem_delete, decide_eq_false_iff_not]
        exact and_congr_right fun _ => ⟨fun hne he => absurd he hne, fun hn he => hn he hone⟩
      · cases hv
    · rcases execute_cases h₃ with ⟨hv, _⟩ | ⟨_, hsame, hf⟩
      · cases hv
      · rw [hsame, htab]
        refine ⟨rfl, fun _ _ => rfl, Or.inr ⟨⟨e, rfl⟩, fun hw => ?_, rfl⟩⟩
        rcases hf with hf | hf
        · exact hf (hread₂.calm (hread₁.calm hw))
        · cases hf
  · rw [decide_eq_false hone] at h
    obtain ⟨rfl, rfl⟩ := Prod.mk.inj h
    rw [htab]
    refine ⟨rfl, fun _ _ => rfl, Or.inl ⟨rfl, fun b => ?_⟩⟩
    exact ⟨fun hb => ⟨hb, fun _ => hone⟩, And.left⟩

/-- What the locked part of a Delete did. -/
inductive DeleteEffect (accessControlId : Int) (w w' : World) :
    Except DpError AccessControlProfile → Prop where
  /-- There is no such row. -/
  | missing (htables : w'.tables = w.tables)
      (hmissing : ∀ row ∈ w.tables.accessControl, row.accessControlId ≠ accessControlId) :
      DeleteEffect accessControlId w w' (.error .notFindData)
  /-- A database call failed; parties may have been deleted before. -/
  | failed (e : DpError) (hfaults : w.faults ≠ [])
      (hacl : w'.tables.accessControl = w.tables.accessControl)
      (hparties : ∀ role, w'.tables.parties role = w.tables.parties role ∨
        ∃ row ∈ w.tables.accessControl, row.accessControlId = accessControlId ∧
          w.tables.Dropped w'.tables role (row.partyId role)) :
      DeleteEffect accessControlId w w' (.error e)
  /-- The row is deleted, and so is each party no other row names. -/
  | deleted (row : AccessControlRow) (hrow : row ∈ w.tables.accessControl)
      (hid : row.accessControlId = accessControlId)
      (hacl : ∀ r, r ∈ w'.tables.accessControl ↔ r ∈ w.tables.accessControl ∧ r ≠ row)
      (hparties : ∀ role, w.tables.Dropped w'.tables role (row.partyId role)) :
      DeleteEffect accessControlId w w' (.ok { row with
        accesser := (w.tables.partyOf row .accesser).getD {}
        accessee := (w.tables.partyOf row .accessee).getD {} })

theorem Tables.mem_aclById {t : Tables} {accessControlId : Int} {row : AccessControlRow} :
    row ∈ t.aclById accessControlId ↔
      row ∈ t.accessControl ∧ row.accessControlId = accessControlId := by
  rw [aclById, Table.mem_select, decide_eq_true_iff]

/-- What a deletion does to the tables, in the cases that it can end in. -/
theorem deleteAccessControlProfileLocked_effect {accessControlId : Int} {w w' : World}
    {r : Except DpError AccessControlProfile}
    (h : (deleteAccessControlProfileLocked accessControlId).exec w = (r, w')) :
    DeleteEffect accessControlId w w' r := by
  obtain ⟨w₁, hread₁, h⟩ | ⟨hread₁, hf, e, rfl⟩ :=
    (fetches_getResultSet _ w.tables).bind_cases h
  swap
  · exact .failed e hf (by rw [hread₁.tables]) fun _ => Or.inl (by rw [hread₁.tables])
  have hmem : ∀ row, row ∈ w.tables.aclById accessControlId ↔
      row ∈ w.tables.accessControl ∧ row.accessControlId = accessControlId :=
    fun row => Tables.mem_aclById
  cases hrows : w.tables.aclById accessControlId with
  | nil =>
    rw [hrows] at h
    obtain ⟨rfl, rfl⟩ := Prod.mk.inj h
    refine .missing hread₁.tables fun row hrow hid => ?_
    have := (hmem row).mpr ⟨hrow, hid⟩
    rw [hrows] at this
    cases this
  | cons row rest =>
    obtain ⟨hrow, hid⟩ := (hmem row).mp (hrows ▸ List.mem_cons_self)
    rw [hrows] at h
    -- the accessee
    obtain ⟨accessee, w₂, h₂, h⟩ | ⟨e, h₂, rfl⟩ := Prog.exec_bind_cases h
    swap
    · obtain ⟨hacl, hother, ⟨hv, _⟩ | ⟨_, hf, hrole⟩⟩ :=
        deletePartyCheck_cases .accessee row h₂
      · cases hv
      · refine .failed e (fun hw => hf (hread₁.calm hw)) (by rw [hacl, hread₁.tables])
          fun role => Or.inl ?_
        rw [← hread₁.tables]
        cases role
        · exact hother _ (by decide)
        · exact hrole
    obtain ⟨hacl₂, hother₂, ⟨hv₂, hdrop₂⟩ | ⟨⟨_, hv⟩, _⟩⟩ :=
      deletePartyCheck_cases .accessee row h₂
    swap
    · cases hv
    rw [hread₁.tables] at hacl₂ hother₂ hv₂ hdrop₂
    have hcalm₂ : w.faults = [] → w₂.faults = [] := fun hw =>
      (Locked.of_exec (locked_deletePartyCheck _ _ _) h₂).calm (hread₁.calm hw)
    -- the accesser
    obtain ⟨accesser, w₃, h₃, h⟩ | ⟨e, h₃, rfl⟩ := Prog.exec_bind_cases h
    swap
    · obtain ⟨hacl, hother, ⟨hv, _⟩ | ⟨_, hf, hrole⟩⟩ :=
        deletePartyCheck_cases .accesser row h₃
      · cases hv
      · refine .failed e (fun hw => hf (hcalm₂ hw)) (by rw [hacl, hacl₂]) fun role => ?_
        cases role
        · exact Or.inl (hrole.trans (hother₂ _ (by decide)))
        · refine Or.inr ⟨row, hrow, hid, fun b => ?_⟩
          rw [hother _ (by decide)]
          exact hdrop₂ b
    obtain ⟨hacl₃, hother₃, ⟨hv₃, hdrop₃⟩ | ⟨⟨_, hv⟩, _⟩⟩ :=
      deletePartyCheck_cases .accesser row h₃
    swap
    · cases hv
    have hcalm₃ : w.faults = [] → w₃.faults = [] := fun hw =>
      (Locked.of_exec (locked_deletePartyCheck _ _ _) h₃).calm (hcalm₂ hw)
    have haccesser : w₂.tables.parties .accesser = w.tables.parties .accesser :=
      hother₂ _ (by decide)
    have hparties : ∀ role, w.tables.Dropped w₃.tables role (row.partyId role) := by
      intro role b
      cases role
      · have := hdrop₃ b
        rwa [haccesser, hacl₂] at this
      · rw [hother₃ _ (by decide)]
        exact hdrop₂ b
    -- the row itself
    obtain ⟨_, w₄, h₄, h⟩ | ⟨e, h₄, rfl⟩ := Prog.exec_bind_cases h
    · rcases execute_cases h₄ with ⟨_, hs⟩ | ⟨hv, _⟩
      · obtain ⟨rfl, rfl⟩ := Prod.mk.inj h
        have hw₄ := (Option.some.inj hs).symm
        obtain rfl := Except.ok.inj hv₂
        obtain rfl := Except.ok.inj hv₃
        have hpartyOf : w₂.tables.partyOf row .accesser = w.tables.partyOf row .accesser := by
          rw [Tables.partyOf, haccesser]
          rfl
        rw [hpartyOf]
        refine .deleted row hrow hid (fun r => ?_) fun role b => ?_
        · rw [hw₄, Tables.deleteAcl, Table.mem_delete, decide_eq_false_iff_not, hacl₃, hacl₂]
          refine and_congr_right fun hr => not_congr ⟨fun he => ?_, fun he => he ▸ rfl⟩
          exact Table.eq_of_key hr hrow he
        · have : w₄.tables.parties role = w₃.tables.parties role := by
            rw [hw₄]
            cases role <;> rfl
          rw [this]
          exact hparties role b
      · cases hv
    · rcases execute_cases h₄ with ⟨hv, _⟩ | ⟨_, hsame, hf⟩
      · cases hv
      · refine .failed e (fun hw => ?_) (by rw [hsame, hacl₃, hacl₂])
          fun role => Or.inr ⟨row, hrow, hid, fun b => ?_⟩
        · rcases hf with hf | hf
          · exact hf (hcalm₃ hw)
          · cases hf
        · rw [hsame]
          exact hparties role b

/-! ## Update -/

/-- Both ids of the row are those of the profile and of its parties. -/
def AccessControlProfile.NamesPartiesOf (p : AccessControlProfile) (row : AccessControlRow) :
    Prop :=
  ∀ role, row.partyId role = (p.party role).partyId ∧ row.partyId role = p.partyId role

/-- The profile names its own parties too. -/
theorem AccessControlProfile.NamesPartiesOf.partyId_party {p : AccessControlProfile}
    {row : AccessControlRow} (h : p.NamesPartiesOf row) (role : Role) :
    (p.party role).partyId = p.partyId role :=
  (h role).1.symm.trans (h role).2

/-- The party of the profile replaces the stored one of the same id, unless the index
refuses it. -/
def Tables.Rewritten (t t' : Tables) (role : Role) (p : AccessControlProfile) : Prop :=
  t'.parties role = ((t.parties role).update? (p.partyId role) (p.party role)).getD (t.parties role)

/-- An update of a profile that names the parties of its row passes the check. -/
theorem fetches_updateAclCheck_found {t : Tables} {p : AccessControlProfile}
    {row : AccessControlRow} (hrow : row ∈ t.accessControl)
    (hid : row.accessControlId = p.accessControlId) (hnames : p.NamesPartiesOf row) :
    Fetches (updateAclCheck p) t { row with } := by
  have hrows : t.aclById p.accessControlId = [row] := by
    rw [← hid]
    exact Table.select_key hrow
  refine (fetches_getResultSet _ t).bind ?_
  rw [hrows]
  have haccesser := hnames .accesser
  have haccessee := hnames .accessee
  have hno : ¬(row.accesseeId ≠ p.accessee.partyId ∨ row.accesserId ≠ p.accesser.partyId ∨
      row.accesserId ≠ p.accesserId ∨ row.accesseeId ≠ p.accesseeId) := by
    rintro (h | h | h | h)
    · exact h haccessee.1
    · exact h haccesser.1
    · exact h haccesser.2
    · exact h haccessee.2
  simp only [if_neg hno]
  exact fetches_ret t _

/-- The check refuses every profile but those of a stored row with both of its ids. -/
theorem updateAclCheck_refused {p : AccessControlProfile} {w w' : World}
    {r : Except DpError AccessControlProfile} (h : (updateAclCheck p).exec w = (r, w'))
    (hno : ∀ row ∈ w.tables.accessControl, row.accessControlId = p.accessControlId →
      ¬p.NamesPartiesOf row) : Reads w w' ∧ ∃ e, r = .error e := by
  refine ⟨Reads.of_exec (reads_updateAclCheck p) h, ?_⟩
  obtain ⟨w₁, _, h⟩ | ⟨_, _, he⟩ := (fetches_getResultSet _ w.tables).bind_cases h
  swap
  · exact he
  cases hrows : w.tables.aclById p.accessControlId with
  | nil =>
    rw [hrows] at h
    exact ⟨_, (Prod.mk.inj h).1.symm⟩
  | cons row rest =>
    rw [hrows] at h
    obtain ⟨hrow, hid⟩ := Tables.mem_aclById.mp
      (show row ∈ w.tables.aclById p.accessControlId from hrows ▸ List.mem_cons_self)
    by_cases hc : row.accesseeId ≠ p.accessee.partyId ∨ row.accesserId ≠ p.accesser.partyId ∨
        row.accesserId ≠ p.accesserId ∨ row.accesseeId ≠ p.accesseeId
    · simp only [if_pos hc] at h
      exact ⟨_, (Prod.mk.inj h).1.symm⟩
    · push Not at hc
      refine absurd (fun role => ?_) (hno row hrow hid)
      cases role
      · exact ⟨hc.2.1, hc.2.2.1⟩
      · exact ⟨hc.1, hc.2.2.2⟩

/-- Without failures a party is rewritten, or the index refuses it and nothing changes. -/
private theorem updatePartyProfile_calm {role : Role} {err : DpError} {p : AccessControlProfile}
    {w w' : World} {r : Except DpError Unit} (hw : w.faults = [])
    (h : ((updatePartyProfile role err p).getD ()).exec w = (r, w')) :
    r = .ok () ∧ w'.faults = [] ∧ w'.tables.accessControl = w.tables.accessControl ∧
      (∀ other, other ≠ role → w'.tables.parties other = w.tables.parties other) ∧
      w.tables.Rewritten w'.tables role p := by
  obtain ⟨x, hx, rfl⟩ := Prog.exec_getD_cases h
  have hcalm := (Locked.of_exec (locked_updatePartyProfile role err p) hx).calm hw
  unfold Tables.Rewritten
  rcases execute_cases hx with ⟨rfl, hs⟩ | ⟨rfl, hsame, hf⟩
  · obtain ⟨y, hy, hw'⟩ := Option.map_eq_some_iff.mp hs
    rw [← hw', hy]
    exact ⟨rfl, hcalm, Tables.accessControl_setParties _ _ _,
      fun other hne => Tables.parties_setParties_of_ne _ _ hne, Tables.parties_setParties _ _ _⟩
  · rcases hf with hf | hf
    · exact absurd hw hf
    · rw [Option.map_eq_none_iff.mp hf, hsame]
      exact ⟨rfl, hcalm, rfl, fun _ _ => rfl, rfl⟩

/-- What the locked part of an Update did, when no database call failed. -/
inductive UpdateEffect (p : AccessControlProfile) (w w' : World) :
    Except DpError AccessControlProfile → Prop where
  /-- There is no such row, or it names other parties. -/
  | refused (e : DpError) (htables : w'.tables = w.tables)
      (hrefused : ∀ row ∈ w.tables.accessControl, row.accessControlId = p.accessControlId →
        ¬p.NamesPartiesOf row) : UpdateEffect p w w' (.error e)
  /-- Another row has the index columns of the new one; the parties are rewritten. -/
  | conflict (e : DpError) (row : AccessControlRow) (hrow : row ∈ w.tables.accessControl)
      (hid : row.accessControlId = p.accessControlId) (hnames : p.NamesPartiesOf row)
      (hconflict : w.tables.accessControl.update? p.accessControlId p.toAccessControlRow = none)
      (hacl : w'.tables.accessControl = w.tables.accessControl)
      (hparties : ∀ role, w.tables.Rewritten w'.tables role p) : UpdateEffect p w w' (.error e)
  /-- The row and its parties are rewritten. -/
  | updated (row : AccessControlRow) (hrow : row ∈ w.tables.accessControl)
      (hid : row.accessControlId = p.accessControlId) (hnames : p.NamesPartiesOf row)
      (hacl : w.tables.accessControl.update? p.accessControlId p.toAccessControlRow =
        some w'.tables.accessControl)
      (hparties : ∀ role, w.tables.Rewritten w'.tables role p) :
      UpdateEffect p w w' (.ok { row with })

/-- What an update does to the tables where no database call fails. -/
theorem updateAccessControlProfileLocked_effect {p : AccessControlProfile} {w w' : World}
    {r : Except DpError AccessControlProfile} (hw : w.faults = [])
    (h : (updateAccessControlProfileLocked p).exec w = (r, w')) : UpdateEffect p w w' r := by
  by_cases hfound : ∃ row ∈ w.tables.accessControl, row.accessControlId = p.accessControlId ∧
      p.NamesPartiesOf row
  swap
  · push Not at hfound
    obtain ⟨x, w₁, h₁, h⟩ | ⟨e, h₁, rfl⟩ := Prog.exec_bind_cases h
    · obtain ⟨_, e, he⟩ := updateAclCheck_refused h₁ hfound
      cases he
    · exact .refused e (updateAclCheck_refused h₁ hfound).1.tables hfound
  obtain ⟨row, hrow, hid, hnames⟩ := hfound
  obtain ⟨w₁, hread, h⟩ | ⟨_, hf, _⟩ :=
    (fetches_updateAclCheck_found hrow hid hnames).bind_cases h
  swap
  · exact absurd hw hf
  obtain ⟨_, w₂, h₂, h⟩ | ⟨e, h₂, _⟩ := Prog.exec_bind_cases h
  swap
  · cases (updatePartyProfile_calm (hread.calm hw) h₂).1
  obtain ⟨_, hw₂, hacl₂, hother₂, hrew₂⟩ := updatePartyProfile_calm (hread.calm hw) h₂
  obtain ⟨_, w₃, h₃, h⟩ | ⟨e, h₃, _⟩ := Prog.exec_bind_cases h
  swap
  · cases (updatePartyProfile_calm hw₂ h₃).1
  obtain ⟨_, hw₃, hacl₃, hother₃, hrew₃⟩ := updatePartyProfile_calm hw₂ h₃
  have hacl : w₃.tables.accessControl = w.tables.accessControl := by
    rw [hacl₃, hacl₂, hread.tables]
  have hparties : ∀ role, w.tables.Rewritten w₃.tables role p := by
    intro role
    unfold Tables.Rewritten at hrew₂ hrew₃ ⊢
    cases role
    · rw [hother₃ _ (by decide), hrew₂, hread.tables]
    · rw [hrew₃, hother₂ _ (by decide), hread.tables]
  obtain ⟨_, w₄, h₄, h⟩ | ⟨e, h₄, rfl⟩ := Prog.exec_bind_cases h
  · rcases execute_cases h₄ with ⟨_, hs⟩ | ⟨hv, _⟩
    · obtain ⟨rfl, rfl⟩ := Prod.mk.inj h
      obtain ⟨x, hx, hw₄⟩ := Option.map_eq_some_iff.mp hs
      rw [hacl] at hx
      refine .updated row hrow hid hnames (by rw [← hw₄]; exact hx) fun role => ?_
      have hsame : w₄.tables.parties role = w₃.tables.parties role := by
        rw [← hw₄]
        cases role <;> rfl
      exact hsame.trans (hparties role)
    · cases hv
  · rcases execute_cases h₄ with ⟨hv, _⟩ | ⟨_, hsame, hf⟩
    · cases hv
    · rcases hf with hf | hf
      · exact absurd hw₃ hf
      · refine .conflict e row hrow hid hnames ?_ (by rw [hsame, hacl]) fun role => ?_
        · rw [← hacl]
          exact Option.map_eq_none_iff.mp hf
        · unfold Tables.Rewritten
          rw [hsame]
          exact hparties role

end DeviceProfile
