import DeviceProfile.Trust.Frame

/-!
# What the reading programs deliver

A program that only reads delivers a function of the tables, or fails because a
database call did. The join of all access control rows with their parties is the
list of profiles every check looks at; without database failures the checks
deliver their condition on that list.
-/

namespace DeviceProfile

open Library

/-! ## Programs that read -/

/-- The program changes nothing and delivers the value, unless a database call fails. -/
def Fetches {α : Type} (m : DpProg α) (t : Tables) (x : α) : Prop :=
  ∀ w, w.tables = t → Reads w (m.exec w).2 ∧
    ((m.exec w).1 = .ok x ∨ w.faults ≠ [] ∧ ∃ e, (m.exec w).1 = .error e)

theorem fetches_ret {α : Type} (t : Tables) (x : α) : Fetches (Prog.ret x : DpProg α) t x :=
  fun w _ => ⟨Reads.refl w, Or.inl rfl⟩

theorem World.faults_ne_nil {w : World} (h : w.fault = true) : w.faults ≠ [] := by
  intro he
  rw [World.fault, he] at h
  cases h

theorem fetches_getResultSet {ρ : Type} (query : Tables → List ρ) (t : Tables) :
    Fetches (getResultSet query) t (query t) := by
  rintro w rfl
  refine ⟨(reads_getResultSet query).exec Reads.refl Reads.trans w, ?_⟩
  by_cases hf : w.fault = true
  · refine Or.inr ⟨World.faults_ne_nil hf, .getResultSetFail, ?_⟩
    simp only [getResultSet, Prog.exec_step, hf, if_true, Prog.exec_fail]
  · refine Or.inl ?_
    simp only [getResultSet, Prog.exec_step, hf, if_false, Prog.exec_ret, Bool.false_eq_true]

/-- Reading programs compose over the same tables. -/
theorem Fetches.bind {α β : Type} {m : DpProg α} {f : α → DpProg β} {t : Tables} {x : α} {y : β}
    (hm : Fetches m t x) (hf : Fetches (f x) t y) : Fetches (m >>= f) t y := by
  rintro w rfl
  obtain ⟨hr, hv⟩ := hm w rfl
  rcases hv with hv | ⟨hw, e, he⟩
  · have hexec : (m >>= f).exec w = (f x).exec (m.exec w).2 :=
      Prog.exec_bind_ok (Prod.ext hv rfl) f
    rw [hexec]
    obtain ⟨hr', hv'⟩ := hf _ hr.tables
    refine ⟨Reads.trans _ _ _ hr hr', hv'.imp_right fun h => ⟨fun hw => h.1 (hr.calm hw), h.2⟩⟩
  · have hexec : (m >>= f).exec w = (.error e, (m.exec w).2) :=
      Prog.exec_bind_error (Prod.ext he rfl) f
    rw [hexec]
    exact ⟨hr, Or.inr ⟨hw, e, rfl⟩⟩

/-- A replaced error code does not change what a reading program delivers. -/
theorem Fetches.orFail {α : Type} {m : DpProg α} {t : Tables} {x : α} (hm : Fetches m t x)
    (err : DpError) : Fetches (m.orFail err) t x := by
  intro w ht
  rw [Prog.exec_orFail]
  obtain ⟨hread, hv | ⟨hf, e, he⟩⟩ := hm w ht
  · exact ⟨hread, Or.inl (by rw [hv]; rfl)⟩
  · exact ⟨hread, Or.inr ⟨hf, err, by rw [he]; rfl⟩⟩

/-- One run of a reading program. -/
theorem Fetches.cases {α : Type} {m : DpProg α} {x : α} {w w' : World} {r : Except DpError α}
    (hm : Fetches m w.tables x) (h : m.exec w = (r, w')) :
    Reads w w' ∧ (r = .ok x ∨ w.faults ≠ [] ∧ ∃ e, r = .error e) := by
  have := hm w rfl
  rwa [h] at this

/-- A sequence that starts with reading: the rest runs on the value, or a call failed. -/
theorem Fetches.bind_cases {α β : Type} {m : DpProg α} {f : α → DpProg β} {x : α} {w w' : World}
    {r : Except DpError β} (hm : Fetches m w.tables x) (h : (m >>= f).exec w = (r, w')) :
    (∃ w₁, Reads w w₁ ∧ (f x).exec w₁ = (r, w')) ∨
      (Reads w w' ∧ w.faults ≠ [] ∧ ∃ e, r = .error e) := by
  obtain ⟨y, w₁, h₁, h⟩ | ⟨e, h₁, rfl⟩ := Prog.exec_bind_cases h
  · obtain ⟨hread, hv | ⟨_, _, hv⟩⟩ := hm.cases h₁
    · obtain rfl := Except.ok.inj hv
      exact Or.inl ⟨w₁, hread, h⟩
    · cases hv
  · obtain ⟨hread, hv | ⟨hf, _⟩⟩ := hm.cases h₁
    · cases hv
    · exact Or.inr ⟨hread, hf, e, rfl⟩

/-- Without database failures a reading program delivers its value and changes nothing. -/
theorem Fetches.calm {α : Type} {m : DpProg α} {t : Tables} {x : α} (hm : Fetches m t x)
    (n : List Notice) : m.exec ⟨t, [], n⟩ = (.ok x, ⟨t, [], n⟩) := by
  obtain ⟨hr, hv⟩ := hm ⟨t, [], n⟩ rfl
  have hw : (m.exec ⟨t, [], n⟩).2 = ⟨t, [], n⟩ := by
    obtain ⟨ht, hn, hf⟩ := hr
    generalize (m.exec ⟨t, [], n⟩).2 = w at ht hn hf
    cases w
    cases ht
    cases hn
    cases hf rfl
    rfl
  rcases hv with hv | ⟨hne, _⟩
  · exact Prod.ext hv hw
  · exact absurd rfl hne


/-! ## The joined entries -/

namespace Tables

/-- The party an access control row names on the given side. -/
def partyOf (t : Tables) (row : AccessControlRow) (role : Role) : Option Party :=
  ((t.parties role).select fun a => decide (a.partyId = row.partyId role)).head?

/-- The party of a row is the one with its number. -/
theorem partyOf_eq_some {t : Tables} {row : AccessControlRow} {role : Role} {a : Party} :
    t.partyOf row role = some a ↔ a ∈ t.parties role ∧ a.partyId = row.partyId role := by
  constructor
  · intro h
    simpa only [Table.mem_select, decide_eq_true_eq] using List.mem_of_head? h
  · rintro ⟨ha, hid⟩
    rw [partyOf, ← hid, Table.select_key ha, List.head?_cons]

/-- A row without a party. -/
theorem partyOf_eq_none {t : Tables} {row : AccessControlRow} {role : Role} :
    t.partyOf row role = none ↔ ∀ a ∈ t.parties role, a.partyId ≠ row.partyId role := by
  rw [partyOf, List.head?_eq_none_iff, Table.select_eq_nil]
  simp only [decide_eq_false_iff_not, ne_eq]

/-- An access control row with its two parties, where both are stored. -/
def joined (t : Tables) (row : AccessControlRow) : Option AccessControlProfile :=
  match t.partyOf row .accesser, t.partyOf row .accessee with
  | some accesser, some accessee => some (convertToAccessControlProfiles row accesser accessee)
  | _, _ => none

/-- The entries whose parties are both stored, in the order of their ids. -/
def profiles (t : Tables) : List AccessControlProfile := t.accessControl.rows.filterMap t.joined

/-- An entry is listed exactly when its row and both of its parties are stored. -/
theorem mem_profiles {t : Tables} {p : AccessControlProfile} :
    p ∈ t.profiles ↔ p.toAccessControlRow ∈ t.accessControl ∧
      ∀ role, p.party role ∈ t.parties role ∧ (p.party role).partyId = p.partyId role := by
  have hjoin : ∀ row, t.joined row = some p ↔ row = p.toAccessControlRow ∧
      ∀ role, t.partyOf row role = some (p.party role) := by
    intro row
    have hroles : (∀ role, t.partyOf row role = some (p.party role)) ↔
        t.partyOf row .accesser = some p.accesser ∧ t.partyOf row .accessee = some p.accessee :=
      ⟨fun h => ⟨h .accesser, h .accessee⟩, fun h role => by
        cases role
        · exact h.1
        · exact h.2⟩
    rw [hroles]
    unfold joined
    cases t.partyOf row .accesser <;> cases t.partyOf row .accessee <;>
      simp only [reduceCtorEq, false_and, and_false, Option.some.injEq,
        convertToAccessControlProfiles]
    constructor
    · rintro rfl
      exact ⟨rfl, rfl, rfl⟩
    · rintro ⟨rfl, rfl, rfl⟩
      rfl
  simp only [profiles, List.mem_filterMap, hjoin, partyOf_eq_some]
  constructor
  · rintro ⟨row, hrow, rfl, h⟩
    exact ⟨hrow, h⟩
  · rintro ⟨hrow, h⟩
    exact ⟨_, hrow, rfl, h⟩

end Tables

/-! ## Checks without database failures -/

/-- A row is joined with its parties, or is not found. -/
theorem exec_getAccessControlProfile (row : AccessControlRow) (t : Tables) (n : List Notice) :
    (getAccessControlProfile row).exec ⟨t, [], n⟩ =
      (match t.joined row with
        | some p => .ok p
        | none => .error .notFindData, ⟨t, [], n⟩) := by
  have haccesser : t.partyOf row .accesser =
    (t.accesser.select fun a => decide (a.partyId = row.accesserId)).head? := rfl
  have haccessee : t.partyOf row .accessee =
    (t.accessee.select fun a => decide (a.partyId = row.accesseeId)).head? := rfl
  rw [getAccessControlProfile, Prog.exec_bind_ok ((fetches_getResultSet _ t).calm n),
    Tables.joined, haccesser, haccessee]
  cases t.accesser.select fun a => decide (a.partyId = row.accesserId) with
  | nil => rfl
  | cons accesser _ =>
    simp only [List.head?_cons]
    rw [Prog.exec_bind_ok ((fetches_getResultSet _ t).calm n)]
    cases t.accessee.select fun a => decide (a.partyId = row.accesseeId) <;> rfl

/-- The rows that can be joined are collected. -/
theorem exec_collectProfiles (rows : List AccessControlRow) (t : Tables) (n : List Notice) :
    (collectProfiles rows).exec ⟨t, [], n⟩ = (.ok (rows.filterMap t.joined), ⟨t, [], n⟩) := by
  induction rows with
  | nil => rfl
  | cons row rows ih =>
    have hhead : (getAccessControlProfile row).attempt.exec ⟨t, [], n⟩ =
        (.ok (match t.joined row with
          | some p => .ok p
          | none => .error .notFindData), ⟨t, [], n⟩) := by
      rw [Prog.exec_attempt, exec_getAccessControlProfile]
    rw [collectProfiles, Prog.exec_bind_ok hhead, Prog.exec_bind_ok ih, List.filterMap_cons]
    cases t.joined row <;> rfl

/-- Without failures all joined entries are delivered, and no entry at all is an error. -/
theorem exec_getAllAccessControlProfiles (t : Tables) (n : List Notice) :
    getAllAccessControlProfiles.exec ⟨t, [], n⟩ =
      (if t.profiles.isEmpty then .error .notFindData else .ok t.profiles, ⟨t, [], n⟩) := by
  rw [getAllAccessControlProfiles, Prog.exec_bind_ok ((fetches_getResultSet _ t).calm n)]
  cases hrows : t.accessControl.rows with
  | nil =>
    rw [Tables.profiles, hrows]
    rfl
  | cons row rows =>
    have hc := exec_collectProfiles t.accessControl.rows t n
    rw [hrows] at hc
    rw [Tables.profiles, hrows]
    simp only [List.isEmpty_cons, Bool.false_eq_true, if_false]
    rw [Prog.exec_bind_ok hc]
    split <;> rfl

section Checks

variable (env : Env)

/-- The entries the checks look at. -/
def Tables.checked (t : Tables) : List AccessControlProfile := env.removeLnnAcl t.profiles

/-- A check whose caller ignores its errors delivers its condition on the listed entries. -/
theorem exec_check_getD {α : Type} (f : List AccessControlProfile → α) (t : Tables)
    (n : List Notice) :
    ((do
      let aclProfiles ← getCheckedProfiles env
      return f aclProfiles : DpProg α).getD (f [])).exec ⟨t, [], n⟩ =
      (.ok (f (t.checked env)), ⟨t, [], n⟩) := by
  have hget := exec_getAllAccessControlProfiles t n
  rw [Prog.exec_getD]
  by_cases he : t.profiles.isEmpty
  · rw [if_pos he] at hget
    have hchecked : t.checked env = [] := by
      rw [Tables.checked, List.isEmpty_iff.mp he]
      rfl
    rw [getCheckedProfiles, Prog.exec_bind_error (Prog.exec_bind_error hget _) _, hchecked]
    rfl
  · rw [if_neg he] at hget
    rw [getCheckedProfiles, Prog.exec_bind_ok (Prog.exec_bind_ok hget _)]
    rfl

/-- Whether an entry joins the two users of a profile. -/
def Tables.usersJoined (t : Tables) (p : AccessControlProfile) : Bool :=
  (t.checked env).any fun aclProfile => p.queryParams.matchesUsers aclProfile

/-- Whether an entry joins the two accounts of a profile. -/
def Tables.accountsJoined (t : Tables) (p : AccessControlProfile) : Bool :=
  (t.checked env).any fun aclProfile => isMatchingAclProfile aclProfile p.queryParams

/-- Whether an active entry trusts the device of a profile. -/
def Tables.deviceActive (t : Tables) (p : AccessControlProfile) : Bool :=
  (t.checked env).any fun aclProfile =>
    decide (p.trustDeviceId = aclProfile.trustDeviceId) &&
      decide (aclProfile.status = STATUS_ACTIVE)

/-- Whether users are joined, read from the tables. -/
theorem exec_checkDeviceIdAndUserIdExists (p : AccessControlProfile) (t : Tables)
    (n : List Notice) :
    ((checkDeviceIdAndUserIdExists env p).getD false).exec ⟨t, [], n⟩ =
      (.ok (t.usersJoined env p), ⟨t, [], n⟩) :=
  exec_check_getD env (fun l => l.any fun aclProfile => p.queryParams.matchesUsers aclProfile) t n

/-- Whether accounts are joined, read from the tables. -/
theorem exec_checkAccountAclExists (p : AccessControlProfile) (t : Tables) (n : List Notice) :
    ((checkAccountAclExists env p).getD false).exec ⟨t, [], n⟩ =
      (.ok (t.accountsJoined env p), ⟨t, [], n⟩) :=
  exec_check_getD env
    (fun l => l.any fun aclProfile => isMatchingAclProfile aclProfile p.queryParams) t n

/-- Whether a device is active, read from the tables. -/
theorem exec_checkDeviceIdActiveAclExists (p : AccessControlProfile) (t : Tables)
    (n : List Notice) :
    ((checkDeviceIdActiveAclExists env p).getD false).exec ⟨t, [], n⟩ =
      (.ok (t.deviceActive env p), ⟨t, [], n⟩) :=
  exec_check_getD env (fun l => l.any fun aclProfile =>
    decide (p.trustDeviceId = aclProfile.trustDeviceId) &&
      decide (aclProfile.status = STATUS_ACTIVE)) t n

end Checks

end DeviceProfile
