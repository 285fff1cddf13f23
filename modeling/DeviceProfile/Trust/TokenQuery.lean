import DeviceProfile.Profile.Keys
import DeviceProfile.Trust.Reading

/-!
# The query by token

The entries of a status are asked for the one party on a device and the other party with a
token. The other party is not checked to be found: where it is missing, the answer has a party
without data in its place.
-/

namespace DeviceProfile

open Library

/-- The bind level of entries that hold for all applications of the users. -/
def BIND_LEVEL_USER : Int := 1

/-- Entries of this kind are found for every token. -/
def AccessControlRow.IsForAllTokens (row : AccessControlRow) : Prop :=
  row.bindType = SAME_ACCOUNT ∨ row.bindLevel = BIND_LEVEL_USER

instance (row : AccessControlRow) : Decidable row.IsForAllTokens :=
  inferInstanceAs (Decidable (_ ∨ _))

/-! ## The queries of one row -/

/-- The parties of a side that have the id the row names and pass a test. -/
def getParties (role : Role) (row : AccessControlRow) (test : Party → Bool) :
    DpProg (List Party) :=
  getResultSet fun t =>
    (t.parties role).select fun a => decide (a.partyId = row.partyId role) && test a

/-- One party is on the device, the other one passes the test. A party that is not found is
read as one without data. -/
def getAccessControlProfilesBy (row : AccessControlRow) (trustDeviceId : Text)
    (test : Party → Bool) : DpProg (List AccessControlProfile) := do
  let accessers ← getParties .accesser row fun a => decide (a.deviceId = trustDeviceId)
  if !accessers.isEmpty then
    let accessees ← getParties .accessee row test
    return [convertToAccessControlProfiles row (accessers.headD {}) (accessees.headD {})]
  let accessees ← getParties .accessee row fun a => decide (a.deviceId = trustDeviceId)
  if !accessees.isEmpty then
    let accessers ← getParties .accesser row test
    return [convertToAccessControlProfiles row (accessers.headD {}) (accessees.headD {})]
  return []

/-- `GetAccessControlProfilesByDeviceId`: the other party may be any. -/
def getAccessControlProfilesByDeviceId (row : AccessControlRow) (trustDeviceId : Text) :
    DpProg (List AccessControlProfile) :=
  getAccessControlProfilesBy row trustDeviceId fun _ => true

/-- `GetAccessControlProfilesByTokenId`: the other party has the token. -/
def getAccessControlProfilesByTokenId (row : AccessControlRow) (trustDeviceId : Text)
    (tokenId : Int) : DpProg (List AccessControlProfile) :=
  getAccessControlProfilesBy row trustDeviceId fun a => decide (a.tokenId = tokenId)

/-! ## The query -/

/-- `GetAclProfileByTokenId`: the rows of a result set, one after the other. -/
def getAclProfileByTokenId (trustDeviceId : Text) (tokenId : Int) :
    List AccessControlRow → DpProg (List AccessControlProfile)
  | [] => return []
  | row :: rows => do
    let profile ← (if row.IsForAllTokens then getAccessControlProfilesByDeviceId row trustDeviceId
      else getAccessControlProfilesByTokenId row trustDeviceId tokenId)
    let profiles ← getAclProfileByTokenId trustDeviceId tokenId rows
    return profile ++ profiles

/-- `GetAccessControlProfileByTokenId`; an empty result is reported as an error. -/
def getAccessControlProfileByTokenId (env : Env) (tokenId : Int) (trustDeviceId : Text)
    (status : Int) : DpProg (List AccessControlProfile) := do
  if MAX_STRING_LEN < trustDeviceId.length then
    throw .invalidParams
  let rows ← getResultSet fun t => t.accessControl.select fun r => decide (r.status = status)
  if rows.isEmpty then
    throw .notFindData
  let profile ← getAclProfileByTokenId trustDeviceId tokenId rows
  let profile := env.removeLnnAcl profile
  if profile.isEmpty then
    throw .notFindData
  return profile

/-! ## What the query delivers -/

section Delivered

variable {t : Tables} {row : AccessControlRow} {trustDeviceId : Text} {tokenId : Int}

namespace Tables

/-- A side has at most one party with an id, so a test keeps it or not. -/
theorem select_partyId (t : Tables) (row : AccessControlRow) (role : Role) (test : Party → Bool) :
    (t.parties role).select (fun a => decide (a.partyId = row.partyId role) && test a) =
      ((t.partyOf row role).filter test).toList := by
  cases hparty : t.partyOf row role with
  | none =>
    rw [Table.select_eq_nil.mpr fun a ha => ?_]
    · rfl
    · rw [decide_eq_false (partyOf_eq_none.mp hparty a ha), Bool.false_and]
  | some a =>
    obtain ⟨ha, hid⟩ := partyOf_eq_some.mp hparty
    have hselect : (t.parties role).select (fun b => decide (b.partyId = row.partyId role)) = [a] :=
      hid ▸ Table.select_key ha
    have hfilter : (t.parties role).select
        (fun b => decide (b.partyId = row.partyId role) && test b) = [a].filter test := by
      rw [← hselect]
      simp only [Table.select, List.filter_filter, Bool.and_comm]
    rw [hfilter]
    cases htest : test a <;> simp [htest, Option.filter_some]

/-- The entry that is delivered for a row. -/
def entryBy (t : Tables) (row : AccessControlRow) (trustDeviceId : Text) (test : Party → Bool) :
    Option AccessControlProfile :=
  match (t.partyOf row .accesser).filter fun a => decide (a.deviceId = trustDeviceId) with
  | some accesser =>
    some (convertToAccessControlProfiles row accesser
      (((t.partyOf row .accessee).filter test).getD {}))
  | none =>
    ((t.partyOf row .accessee).filter fun a => decide (a.deviceId = trustDeviceId)).map
      fun accessee => convertToAccessControlProfiles row
        (((t.partyOf row .accesser).filter test).getD {}) accessee

/-- The test of the other party of a row. -/
def hasToken (row : AccessControlRow) (tokenId : Int) (a : Party) : Bool :=
  decide row.IsForAllTokens || decide (a.tokenId = tokenId)

/-- The entry that is delivered for a row and a token. -/
def entryByToken (t : Tables) (row : AccessControlRow) (trustDeviceId : Text) (tokenId : Int) :
    Option AccessControlProfile :=
  t.entryBy row trustDeviceId (hasToken row tokenId)

end Tables

/-- The party of a row is fetched if it passes the test. -/
theorem fetches_getParties (role : Role) (row : AccessControlRow) (test : Party → Bool)
    (t : Tables) :
    Fetches (getParties role row test) t ((t.partyOf row role).filter test).toList := by
  rw [← Tables.select_partyId]
  exact fetches_getResultSet _ t

/-- The profile of a row is fetched if one of its sides passes the test. -/
theorem fetches_getAccessControlProfilesBy (row : AccessControlRow) (trustDeviceId : Text)
    (test : Party → Bool) (t : Tables) :
    Fetches (getAccessControlProfilesBy row trustDeviceId test) t
      (t.entryBy row trustDeviceId test).toList := by
  have headD_toList : ∀ x : Option Party, x.toList.headD {} = x.getD {} := by
    intro x
    cases x <;> rfl
  apply Fetches.bind (fetches_getParties _ _ _ t)
  rw [Tables.entryBy]
  cases (t.partyOf row .accesser).filter fun a => decide (a.deviceId = trustDeviceId) with
  | some accesser =>
    apply Fetches.bind (fetches_getParties _ _ _ t)
    rw [headD_toList, headD_toList]
    exact fetches_ret _ _
  | none =>
    apply Fetches.bind (fetches_getParties _ _ _ t)
    cases (t.partyOf row .accessee).filter fun a => decide (a.deviceId = trustDeviceId) with
    | none => exact fetches_ret _ _
    | some accessee =>
      apply Fetches.bind (fetches_getParties _ _ _ t)
      rw [headD_toList, headD_toList]
      exact fetches_ret _ _

/-- The rows are answered one by one. -/
theorem fetches_getAclProfileByTokenId (trustDeviceId : Text) (tokenId : Int) (t : Tables)
    (rows : List AccessControlRow) :
    Fetches (getAclProfileByTokenId trustDeviceId tokenId rows) t
      (rows.filterMap fun row => t.entryByToken row trustDeviceId tokenId) := by
  induction rows with
  | nil => exact fetches_ret t []
  | cons row rows ih =>
    have hhead : Fetches
        (if row.IsForAllTokens then getAccessControlProfilesByDeviceId row trustDeviceId
          else getAccessControlProfilesByTokenId row trustDeviceId tokenId) t
        (t.entryByToken row trustDeviceId tokenId).toList := by
      rw [Tables.entryByToken]
      by_cases hall : row.IsForAllTokens
      · have htest : Tables.hasToken row tokenId = fun _ => true := by
          ext a
          simp [Tables.hasToken, hall]
        rw [if_pos hall, htest]
        exact fetches_getAccessControlProfilesBy _ _ _ t
      · have htest : Tables.hasToken row tokenId = fun a => decide (a.tokenId = tokenId) := by
          ext a
          simp [Tables.hasToken, hall]
        rw [if_neg hall, htest]
        exact fetches_getAccessControlProfilesBy _ _ _ t
    have hlist : (row :: rows).filterMap (fun row => t.entryByToken row trustDeviceId tokenId) =
        (t.entryByToken row trustDeviceId tokenId).toList ++
          rows.filterMap fun row => t.entryByToken row trustDeviceId tokenId := by
      rw [List.filterMap_cons]
      cases t.entryByToken row trustDeviceId tokenId <;> rfl
    rw [hlist]
    apply Fetches.bind hhead
    apply Fetches.bind ih
    exact fetches_ret t _

/-- The entries that are delivered, where there are any. -/
def Tables.entriesByToken (t : Tables) (env : Env) (tokenId : Int) (trustDeviceId : Text)
    (status : Int) : List AccessControlProfile :=
  env.removeLnnAcl <| (t.accessControl.select fun r => decide (r.status = status)).filterMap
    fun row => t.entryByToken row trustDeviceId tokenId

/-- Without database failures the query delivers the entries of its rows. -/
theorem exec_getAccessControlProfileByTokenId (env : Env) (tokenId : Int) {trustDeviceId : Text}
    (hlength : trustDeviceId.length ≤ MAX_STRING_LEN) (status : Int) (t : Tables)
    (n : List Notice) :
    (getAccessControlProfileByTokenId env tokenId trustDeviceId status).exec ⟨t, [], n⟩ =
      (if (t.entriesByToken env tokenId trustDeviceId status).isEmpty then .error .notFindData
        else .ok (t.entriesByToken env tokenId trustDeviceId status), ⟨t, [], n⟩) := by
  have hread := fetches_getAclProfileByTokenId trustDeviceId tokenId t
    (t.accessControl.select fun r => decide (r.status = status))
  rw [getAccessControlProfileByTokenId, if_neg (Nat.not_lt.mpr hlength), Tables.entriesByToken]
  simp only [Prog.pure_eq]
  rw [Prog.exec_bind_ok ((fetches_getResultSet _ t).calm n)]
  cases hrows : t.accessControl.select fun r => decide (r.status = status) with
  | nil => rfl
  | cons row rows =>
    rw [hrows] at hread
    simp only [List.isEmpty_cons, Bool.false_eq_true, if_false]
    rw [Prog.exec_bind_ok (hread.calm n)]
    split <;> rfl

/-! ## Entries of the token -/

namespace Tables

/-- The entry is stored with its parties, and one of them is on the device while the other has
the token, unless the entry is for all tokens. -/
structure AnswersToken (t : Tables) (trustDeviceId : Text) (tokenId status : Int)
    (p : AccessControlProfile) : Prop where
  stored : p.toAccessControlRow ∈ t.accessControl
  status : p.status = status
  parties : ∀ role, t.partyOf p.toAccessControlRow role = some (p.party role)
  asked : p.IsForAllTokens ∨
    p.accesser.deviceId = trustDeviceId ∧ p.accessee.tokenId = tokenId ∨
    p.accessee.deviceId = trustDeviceId ∧ p.accesser.tokenId = tokenId

/-- The party of a side is stored and has the token, or it is without data itself, and has the
device while the party opposite has the token. -/
def HasOther (t : Tables) (row : AccessControlRow) (trustDeviceId : Text) (tokenId : Int)
    (role : Role) (opposite : Party) : Prop :=
  ∃ a, t.partyOf row role = some a ∧ (hasToken row tokenId a = true ∨
    a = {} ∧ a.deviceId = trustDeviceId ∧ opposite.tokenId = tokenId)

/-- The party opposite to the one on the device is stored and has the token. -/
def IsAnswerable (t : Tables) (row : AccessControlRow) (trustDeviceId : Text) (tokenId : Int) :
    Prop :=
  match (t.partyOf row .accesser).filter fun a => decide (a.deviceId = trustDeviceId) with
  | some accesser => t.HasOther row trustDeviceId tokenId .accessee accesser
  | none =>
    ∀ accessee, t.partyOf row .accessee = some accessee → accessee.deviceId = trustDeviceId →
      t.HasOther row trustDeviceId tokenId .accesser accessee

/-- A party has a token, or its row is for all of them. -/
theorem hasToken_iff {a : Party} :
    hasToken row tokenId a = true ↔ row.IsForAllTokens ∨ a.tokenId = tokenId := by
  simp [hasToken]

/-- What stands for a party is the stored one exactly when that passes the test or is without
data. -/
theorem eq_some_getD_iff {o : Option Party} {test : Party → Bool} {P : Party → Prop} :
    o = some ((o.filter test).getD {}) ∧
        (test ((o.filter test).getD {}) = true ∨ P ((o.filter test).getD {})) ↔
      ∃ a, o = some a ∧ (test a = true ∨ a = {} ∧ P a) := by
  cases o with
  | none => simp
  | some a =>
    by_cases htest : test a
    · simp [htest, Option.filter_some]
    · simp only [htest, Option.filter_some, Option.getD_none, Option.some.injEq,
        exists_eq_left', false_or, Bool.false_eq_true, if_false]
      constructor
      · rintro ⟨rfl, htest' | hP⟩
        · exact absurd htest' htest
        · exact ⟨rfl, hP⟩
      · rintro ⟨rfl, hP⟩
        exact ⟨rfl, .inr hP⟩

/-- Where the party of one side is stored and on the device, the entry answers the query exactly
when the party of the other side is stored and has the token, or has the device while the first
has the token. -/
theorem answersToken_iff_of_party {status : Int} {p : AccessControlProfile} (role other : Role)
    (hne : role ≠ other) (hrow : p.toAccessControlRow ∈ t.accessControl)
    (hstatus : p.status = status)
    (hparty : t.partyOf p.toAccessControlRow role = some (p.party role))
    (hdevice : (p.party role).deviceId = trustDeviceId) :
    t.AnswersToken trustDeviceId tokenId status p ↔
      t.partyOf p.toAccessControlRow other = some (p.party other) ∧
        (hasToken p.toAccessControlRow tokenId (p.party other) = true ∨
          (p.party other).deviceId = trustDeviceId ∧ (p.party role).tokenId = tokenId) := by
  rw [hasToken_iff]
  have hasked : (p.IsForAllTokens ∨
      p.accesser.deviceId = trustDeviceId ∧ p.accessee.tokenId = tokenId ∨
      p.accessee.deviceId = trustDeviceId ∧ p.accesser.tokenId = tokenId) ↔
      (p.IsForAllTokens ∨ (p.party other).tokenId = tokenId) ∨
        (p.party other).deviceId = trustDeviceId ∧ (p.party role).tokenId = tokenId := by
    cases role with
    | accesser =>
      cases other with
      | accesser => exact absurd rfl hne
      | accessee =>
        have haccesser : p.accesser.deviceId = trustDeviceId := hdevice
        rw [or_assoc, and_iff_right haccesser]
        exact Iff.rfl
    | accessee =>
      cases other with
      | accesser =>
        have haccessee : p.accessee.deviceId = trustDeviceId := hdevice
        rw [or_assoc, and_iff_right haccessee, or_comm (b := p.accesser.tokenId = tokenId)]
        exact Iff.rfl
      | accessee => exact absurd rfl hne
  constructor
  · rintro ⟨-, -, hparties, h⟩
    exact ⟨hparties other, hasked.mp h⟩
  · rintro ⟨hother, h⟩
    refine ⟨hrow, hstatus, fun side => ?_, hasked.mpr h⟩
    by_cases hside : side = role
    · exact hside ▸ hparty
    · have : side = other := by
        cases side <;> cases role <;> cases other <;> simp_all
      exact this ▸ hother

/-- The entry of a row answers the query exactly when the row is answerable. -/
theorem answersToken_iff {status : Int} {p : AccessControlProfile} (hrow : row ∈ t.accessControl)
    (hstatus : row.status = status) (hentry : t.entryByToken row trustDeviceId tokenId = some p) :
    t.AnswersToken trustDeviceId tokenId status p ↔ t.IsAnswerable row trustDeviceId tokenId := by
  rw [entryByToken, entryBy] at hentry
  rw [IsAnswerable]
  cases haccesser : (t.partyOf row .accesser).filter fun a =>
      decide (a.deviceId = trustDeviceId) with
  | some accesser =>
    rw [haccesser] at hentry
    obtain rfl := Option.some.inj hentry
    obtain ⟨hparty, hdevice⟩ := Option.filter_eq_some_iff.mp haccesser
    rw [decide_eq_true_eq] at hdevice
    refine (answersToken_iff_of_party (p := { row with
      accesser
      accessee := ((t.partyOf row .accessee).filter (hasToken row tokenId)).getD {} })
      .accesser .accessee nofun hrow hstatus hparty hdevice).trans ?_
    dsimp only
    unfold HasOther
    rw [← eq_some_getD_iff]
    exact Iff.rfl
  | none =>
    rw [haccesser] at hentry
    obtain ⟨accessee, haccessee, rfl⟩ := Option.map_eq_some_iff.mp hentry
    obtain ⟨hparty, hdevice⟩ := Option.filter_eq_some_iff.mp haccessee
    rw [decide_eq_true_eq] at hdevice
    have honly : (∀ accessee', t.partyOf row .accessee = some accessee' →
        accessee'.deviceId = trustDeviceId →
          t.HasOther row trustDeviceId tokenId .accesser accessee') ↔
        t.HasOther row trustDeviceId tokenId .accesser accessee := by
      constructor
      · exact fun h => h accessee hparty hdevice
      · rintro h accessee' hparty' -
        rw [hparty] at hparty'
        exact Option.some.inj hparty' ▸ h
    refine (answersToken_iff_of_party (p := { row with
      accesser := ((t.partyOf row .accesser).filter (hasToken row tokenId)).getD {}
      accessee })
      .accessee .accesser nofun hrow hstatus hparty hdevice).trans ?_
    dsimp only
    rw [honly]
    unfold HasOther
    rw [← eq_some_getD_iff]
    exact Iff.rfl

/-- A row that delivers nothing is answerable. -/
theorem isAnswerable_of_none (hentry : t.entryByToken row trustDeviceId tokenId = none) :
    t.IsAnswerable row trustDeviceId tokenId := by
  rw [entryByToken, entryBy] at hentry
  rw [IsAnswerable]
  cases haccesser : (t.partyOf row .accesser).filter fun a =>
      decide (a.deviceId = trustDeviceId) with
  | some accesser =>
    rw [haccesser] at hentry
    cases hentry
  | none =>
    rw [haccesser] at hentry
    intro accessee hparty hdevice
    have hfilter := Option.map_eq_none_iff.mp hentry
    rw [hparty, Option.filter_some, if_pos (decide_eq_true hdevice)] at hfilter
    cases hfilter

/-- The entry of a row has the columns of the row. -/
theorem toRow_of_entryByToken {p : AccessControlProfile}
    (hentry : t.entryByToken row trustDeviceId tokenId = some p) : p.toAccessControlRow = row := by
  rw [entryByToken, entryBy] at hentry
  cases haccesser : (t.partyOf row .accesser).filter fun a =>
      decide (a.deviceId = trustDeviceId) with
  | some accesser =>
    rw [haccesser] at hentry
    obtain rfl := Option.some.inj hentry
    rfl
  | none =>
    rw [haccesser] at hentry
    obtain ⟨accessee, -, rfl⟩ := Option.map_eq_some_iff.mp hentry
    rfl

/-- An entry between a party on the device and one of another device that has the token is
delivered as it is stored. -/
theorem entryByToken_of_parties {p : AccessControlProfile}
    (hparties : ∀ role, t.partyOf p.toAccessControlRow role = some (p.party role))
    (hasked : p.accesser.deviceId = trustDeviceId ∧ p.accessee.tokenId = tokenId ∨
      p.accesser.deviceId ≠ trustDeviceId ∧ p.accessee.deviceId = trustDeviceId ∧
        p.accesser.tokenId = tokenId) :
    t.entryByToken p.toAccessControlRow trustDeviceId tokenId = some p := by
  have haccesser : t.partyOf p.toAccessControlRow .accesser = some p.accesser :=
    hparties .accesser
  have haccessee : t.partyOf p.toAccessControlRow .accessee = some p.accessee :=
    hparties .accessee
  rw [entryByToken, entryBy, haccesser, haccessee]
  rcases hasked with ⟨hdevice, htoken⟩ | ⟨hother, hdevice, htoken⟩
  · have hhas : hasToken p.toAccessControlRow tokenId p.accessee = true :=
      hasToken_iff.mpr (.inr htoken)
    simp only [Option.filter_some, hdevice, hhas, decide_true, if_true, Option.getD_some]
    rfl
  · have hhas : hasToken p.toAccessControlRow tokenId p.accesser = true :=
      hasToken_iff.mpr (.inr htoken)
    simp only [Option.filter_some, hother, hdevice, hhas, decide_true, decide_false, if_true,
      Bool.false_eq_true, if_false, Option.getD_some, Option.map_some]
    rfl

/-- The mark of the network layer is in a column of the row. -/
def isLnnRow (env : Env) (row : AccessControlRow) : Bool :=
  env.isLnnAcl (convertToAccessControlProfiles row {} {})

/-- The entries for a token. -/
theorem mem_entriesByToken {env : Env} {status : Int} {p : AccessControlProfile} :
    p ∈ t.entriesByToken env tokenId trustDeviceId status ↔
      ∃ row ∈ t.accessControl, row.status = status ∧ isLnnRow env row = false ∧
        t.entryByToken row trustDeviceId tokenId = some p := by
  have hlnn : ∀ row, t.entryByToken row trustDeviceId tokenId = some p →
      env.isLnnAcl p = isLnnRow env row := by
    intro row hentry
    have hextra : p.extraData = row.extraData := by
      rw [← toRow_of_entryByToken hentry]
    rw [isLnnRow, Env.isLnnAcl, hextra]
    rfl
  simp only [entriesByToken, Env.removeLnnAcl, List.mem_filter, List.mem_filterMap,
    Table.mem_select, decide_eq_true_eq, Bool.not_eq_true']
  constructor
  · rintro ⟨⟨row, ⟨hrow, hstatus⟩, hentry⟩, hp⟩
    exact ⟨row, hrow, hstatus, hlnn row hentry ▸ hp, hentry⟩
  · rintro ⟨row, hrow, hstatus, hp, hentry⟩
    exact ⟨⟨row, ⟨hrow, hstatus⟩, hentry⟩, (hlnn row hentry).trans hp⟩

end Tables

/-- Whatever database calls fail, an answer consists of the entries of the rows. -/
theorem getAccessControlProfileByTokenId_ok {env : Env} {status : Int} {w : World}
    {profiles : List AccessControlProfile}
    (h : ((getAccessControlProfileByTokenId env tokenId trustDeviceId status).exec w).1 =
      .ok profiles) :
    trustDeviceId.length ≤ MAX_STRING_LEN ∧
      profiles = w.tables.entriesByToken env tokenId trustDeviceId status := by
  rw [getAccessControlProfileByTokenId] at h
  by_cases hlength : MAX_STRING_LEN < trustDeviceId.length
  · rw [if_pos hlength] at h
    cases h
  rw [if_neg hlength] at h
  refine ⟨Nat.le_of_not_lt hlength, ?_⟩
  simp only [Prog.pure_eq] at h
  obtain ⟨w₁, hread, h⟩ | ⟨-, -, e, he⟩ := (fetches_getResultSet
    (fun t => t.accessControl.select fun r => decide (r.status = status)) w.tables).bind_cases
    (Prod.ext h rfl)
  · split at h
    · cases congrArg Prod.fst h
    obtain ⟨w₂, -, h⟩ | ⟨-, -, e, he⟩ := Fetches.bind_cases
      (hread.tables ▸ fetches_getAclProfileByTokenId trustDeviceId tokenId w.tables _) h
    · split at h
      · cases congrArg Prod.fst h
      · have hprofiles := (Except.ok.inj (congrArg Prod.fst h)).symm
        rwa [hread.tables] at hprofiles
    · cases he
  · cases he

end Delivered

/-! ## When the answer is one for the token -/

/-- Whatever the tables hold and whatever database calls fail, the query answers with entries of
the token exactly when the rows of the status are answerable, or the device id is refused. -/
theorem tokenQuery_answersToken_iff (env : Env) (t : Tables) (trustDeviceId : Text)
    (tokenId status : Int) :
    (∀ w : World, w.tables = t → ∀ profiles,
      ((getAccessControlProfileByTokenId env tokenId trustDeviceId status).exec w).1 =
        .ok profiles → ∀ p ∈ profiles, t.AnswersToken trustDeviceId tokenId status p) ↔
    MAX_STRING_LEN < trustDeviceId.length ∨
      ∀ row ∈ t.accessControl, row.status = status → Tables.isLnnRow env row = false →
        t.IsAnswerable row trustDeviceId tokenId := by
  constructor
  · intro h
    by_cases hlength : MAX_STRING_LEN < trustDeviceId.length
    · exact .inl hlength
    refine .inr fun row hrow hstatus hlnn => ?_
    cases hentry : t.entryByToken row trustDeviceId tokenId with
    | none => exact Tables.isAnswerable_of_none hentry
    | some p =>
      have hp : p ∈ t.entriesByToken env tokenId trustDeviceId status :=
        Tables.mem_entriesByToken.mpr ⟨row, hrow, hstatus, hlnn, hentry⟩
      have hexec := exec_getAccessControlProfileByTokenId env tokenId
        (Nat.le_of_not_lt hlength) status t []
      rw [if_neg (by simp [List.ne_nil_of_mem hp])] at hexec
      exact (Tables.answersToken_iff hrow hstatus hentry).mp
        (h ⟨t, [], []⟩ rfl _ (congrArg Prod.fst hexec) p hp)
  · rintro h w rfl profiles hexec p hp
    obtain ⟨hlength, rfl⟩ := getAccessControlProfileByTokenId_ok hexec
    obtain ⟨row, hrow, hstatus, hlnn, hentry⟩ := Tables.mem_entriesByToken.mp hp
    obtain hlong | hrows := h
    · omega
    · exact (Tables.answersToken_iff hrow hstatus hentry).mpr (hrows row hrow hstatus hlnn)

/-- A peer that is the accesser of an entry for one application. -/
def peerAccesser : Party := { partyId := 1, deviceId := "peer", tokenId := 7 }

/-- The application of the local device the entry is for. -/
def localAccessee : Party := { partyId := 1, deviceId := "local", tokenId := 5 }

/-- The entry of the two, which is active. -/
def peerRow : AccessControlRow :=
  { accessControlId := 1, accesserId := 1, accesseeId := 1, status := STATUS_ACTIVE }

/-- The tables of this one entry. -/
def peerTables : Tables where
  accessControl := ⟨[peerRow], List.pairwise_singleton _ _, List.pairwise_singleton _ _⟩
  accesser := ⟨[peerAccesser], List.pairwise_singleton _ _, List.pairwise_singleton _ _⟩
  accessee := ⟨[localAccessee], List.pairwise_singleton _ _, List.pairwise_singleton _ _⟩

/-- An application with another token is answered with the entry, the accessee without data. -/
theorem not_tokenQuery_answersToken :
    ¬∀ (env : Env) (t : Tables) (trustDeviceId : Text) (tokenId status : Int) (w : World),
      w.tables = t → ∀ profiles,
        ((getAccessControlProfileByTokenId env tokenId trustDeviceId status).exec w).1 =
          .ok profiles → ∀ p ∈ profiles, t.AnswersToken trustDeviceId tokenId status p := by
  intro h
  have hexec : ((getAccessControlProfileByTokenId .bare 6 "peer" 1).exec
      ⟨peerTables, [], []⟩).1 =
      .ok [convertToAccessControlProfiles peerRow peerAccesser {}] := by
    rw [exec_getAccessControlProfileByTokenId .bare 6 (by decide)]
    rfl
  have hanswers := h .bare peerTables "peer" 6 1 _ rfl _ hexec _ List.mem_cons_self
  have hparty := hanswers.parties .accessee
  revert hparty
  decide

end DeviceProfile
