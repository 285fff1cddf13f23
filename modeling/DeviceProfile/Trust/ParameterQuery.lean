import DeviceProfile.Trust.Integrity
import DeviceProfile.Trust.QueryParams

/-!
# What the queries by parameters deliver

A query asks for the rows of a device, a bind type or any, and looks up the two parties of each
row. Where every row has its parties, the answer is the list of stored entries that match, in
their order, whichever query the parameters lead to; the query for a token alone stands apart.
-/

namespace DeviceProfile

open Library Std

/-! ## The queries of one row -/

/-- Parties of a user. -/
def isOfUser (userId : Int) (a : Party) : Bool := decide (a.userId = userId)

/-- Parties with a bundle. -/
def isOfBundle (bundleName : Text) (a : Party) : Bool := decide (a.bundleName = bundleName)

/-- Parties of a user with a bundle. -/
def isOfUserAndBundle (userId : Int) (bundleName : Text) (a : Party) : Bool :=
  decide (a.userId = userId ∧ a.bundleName = bundleName)

/-- Parties of a user with an account. -/
def isOfUserAndAccount (userId : Int) (accountId : Text) (a : Party) : Bool :=
  decide (a.userId = userId ∧ a.accountId = accountId)

/-- One party passes a test; the other one is asked for with another test. -/
def getAccessControlProfilesWith (row : AccessControlRow) (test other : Party → Bool) :
    DpProg (List AccessControlProfile) := do
  let accessers ← getParties .accesser row test
  if !accessers.isEmpty then
    let accessees ← getParties .accessee row other
    return [convertToAccessControlProfiles row (accessers.headD {}) (accessees.headD {})]
  let accessees ← getParties .accessee row test
  if !accessees.isEmpty then
    let accessers ← getParties .accesser row other
    return [convertToAccessControlProfiles row (accessers.headD {}) (accessees.headD {})]
  return []

/-- `GetAccessControlProfiles`: the other party may be any. -/
def getAccessControlProfiles (row : AccessControlRow) (test : Party → Bool) :
    DpProg (List AccessControlProfile) :=
  getAccessControlProfilesWith row test fun _ => true

/-- The queries for a token ask so for the party on the device. -/
theorem getAccessControlProfilesBy_eq (row : AccessControlRow) (trustDeviceId : Text)
    (test : Party → Bool) : getAccessControlProfilesBy row trustDeviceId test =
      getAccessControlProfilesWith row (fun a => decide (a.deviceId = trustDeviceId)) test :=
  rfl

/-- The loop over a result set. -/
def forEachRow (f : AccessControlRow → DpProg (List AccessControlProfile)) :
    List AccessControlRow → DpProg (List AccessControlProfile)
  | [] => return []
  | row :: rows => do
    let profile ← f row
    let profiles ← forEachRow f rows
    return profile ++ profiles

/-- `GetAclProfileByUserIdAndBundleName` -/
def getAclProfileByUserIdAndBundleName (userId : Int) (bundleName : Text) :
    List AccessControlRow → DpProg (List AccessControlProfile) :=
  forEachRow fun row =>
    if row.IsForAllTokens then getAccessControlProfiles row (isOfUser userId)
    else getAccessControlProfiles row (isOfUserAndBundle userId bundleName)

/-- `GetAclProfileByBundleName`: a row for all tokens needs both parties, but no bundle. -/
def getAclProfileByBundleName (bundleName : Text) :
    List AccessControlRow → DpProg (List AccessControlProfile) :=
  forEachRow fun row =>
    if row.IsForAllTokens then do
      let profile ← getAccessControlProfile row
      return [profile]
    else getAccessControlProfiles row (isOfBundle bundleName)

/-- `GetAclProfileByUserIdAndAccountId` -/
def getAclProfileByUserIdAndAccountId (row : AccessControlRow) (userId : Int) (accountId : Text) :
    DpProg (List AccessControlProfile) :=
  getAccessControlProfiles row (isOfUserAndAccount userId accountId)

/-! ## The queries -/

section Queries

variable (env : Env)

/-- The frame of the queries: the rows are asked for, the entries of the network layer are left
out, and no row or no entry is an error. -/
def getAccessControlProfileOf (select : AccessControlRow → Bool)
    (collect : List AccessControlRow → DpProg (List AccessControlProfile)) :
    DpProg (List AccessControlProfile) := do
  let rows ← getResultSet fun t => t.accessControl.select select
  if rows.isEmpty then
    throw .notFindData
  let profile ← collect rows
  let profile := env.removeLnnAcl profile
  if profile.isEmpty then
    throw .notFindData
  return profile

/-- Rows that trust a device, of one status. -/
def isOfDevice (trustDeviceId : Text) (status : Int) (row : AccessControlRow) : Bool :=
  decide (row.trustDeviceId = trustDeviceId ∧ row.status = status)

/-- Rows of one way of binding, of one status. -/
def isOfBindType (bindType status : Int) (row : AccessControlRow) : Bool :=
  decide (row.bindType = bindType ∧ row.status = status)

theorem isOfDevice_iff {trustDeviceId : Text} {status : Int} {row : AccessControlRow} :
    isOfDevice trustDeviceId status row = true ↔
      row.trustDeviceId = trustDeviceId ∧ row.status = status :=
  decide_eq_true_iff

theorem isOfBindType_iff {bindType status : Int} {row : AccessControlRow} :
    isOfBindType bindType status row = true ↔ row.bindType = bindType ∧ row.status = status :=
  decide_eq_true_iff

/-- `GetAccessControlProfile` of the queries by parameters, each with the checks of its texts.
Only the query by user, bundle and bind type reports every failure of its loop as no data. -/
def getAccessControlProfileByQueryOf : AclQuery → DpProg (List AccessControlProfile)
  | .byUserAndBundle userId bundleName trustDeviceId status => do
    if MAX_STRING_LEN < bundleName.length ∨ MAX_STRING_LEN < trustDeviceId.length then
      throw .invalidParams
    getAccessControlProfileOf env (isOfDevice trustDeviceId status)
      (getAclProfileByUserIdAndBundleName userId bundleName)
  | .byBundle bundleName trustDeviceId status => do
    if MAX_STRING_LEN < bundleName.length ∨ MAX_STRING_LEN < trustDeviceId.length then
      throw .invalidParams
    getAccessControlProfileOf env (isOfDevice trustDeviceId status)
      (getAclProfileByBundleName bundleName)
  | .byTokenId tokenId trustDeviceId status =>
    getAccessControlProfileByTokenId env tokenId trustDeviceId status
  | .byUserAndBundleOfBindType userId bundleName bindType status => do
    if MAX_STRING_LEN < bundleName.length then
      throw .invalidParams
    getAccessControlProfileOf env (isOfBindType bindType status) fun rows =>
      (getAclProfileByUserIdAndBundleName userId bundleName rows).orFail .notFindData
  | .byBundleOfBindType bundleName bindType status => do
    if MAX_STRING_LEN < bundleName.length then
      throw .invalidParams
    getAccessControlProfileOf env (isOfBindType bindType status)
      (getAclProfileByBundleName bundleName)
  | .byUserAndAccount userId accountId => do
    if MAX_STRING_LEN < accountId.length then
      throw .invalidParams
    getAccessControlProfileOf env (fun _ => true) <| forEachRow fun row =>
      getAclProfileByUserIdAndAccountId row userId accountId
  | .byUser userId =>
    getAccessControlProfileOf env (fun _ => true) <| forEachRow fun row =>
      getAccessControlProfiles row (isOfUser userId)
  | .byQueryProfile queryType queryProfile =>
    getAccessControlProfileByQuery env queryType queryProfile

/-- `GetAccessControlProfile` by parameters, under the lock of the tables. -/
def getAccessControlProfileByParams (libc : Libc) (params : Params) :
    DpProg (List AccessControlProfile) :=
  Prog.atomic <| match getAccessControlQuery libc params with
    | some query => getAccessControlProfileByQueryOf env query
    | none => throw .invalidParams

end Queries

/-! ## The answers -/

/-- One of the two parties of an entry is such. -/
def AccessControlProfile.HasParty (p : AccessControlProfile) (P : Party → Prop) : Prop :=
  P p.accesser ∨ P p.accessee

instance (p : AccessControlProfile) (P : Party → Prop) [DecidablePred P] :
    Decidable (p.HasParty P) :=
  inferInstanceAs (Decidable (_ ∨ _))

/-- An entry joins a queried accesser, which is its first party, with the device of the other. -/
def AccessControlProfile.JoinsDevice (p : AccessControlProfile) (first second : Party)
    (x : QueryParty) (peerDeviceId : Text) : Prop :=
  first.IsUserOf x ∧ second.deviceId = peerDeviceId ∧
    (p.bindType = SAME_ACCOUNT ∧ first.accountId = x.accountId ∨ p.bindLevel = BIND_LEVEL_USER ∨
      first.tokenId = x.tokenId)

namespace AclQuery

/-- The texts of a query are not too long. -/
def TextsFit : AclQuery → Prop
  | byUserAndBundle _ bundleName trustDeviceId _ | byBundle bundleName trustDeviceId _ =>
    bundleName.length ≤ MAX_STRING_LEN ∧ trustDeviceId.length ≤ MAX_STRING_LEN
  | byTokenId _ text _ | byUserAndBundleOfBindType _ text _ _ | byBundleOfBindType text _ _
  | byUserAndAccount _ text => text.length ≤ MAX_STRING_LEN
  | byUser _ | byQueryProfile _ _ => True

instance (query : AclQuery) : Decidable query.TextsFit := by
  cases query <;> unfold TextsFit <;> infer_instance

/-- The rows a query asks for. -/
def Selects : AclQuery → AccessControlRow → Prop
  | byUserAndBundle _ _ trustDeviceId status, row | byBundle _ trustDeviceId status, row =>
    row.trustDeviceId = trustDeviceId ∧ row.status = status
  | byTokenId _ _ status, row => row.status = status
  | byUserAndBundleOfBindType _ _ bindType status, row
  | byBundleOfBindType _ bindType status, row => row.bindType = bindType ∧ row.status = status
  | byUserAndAccount _ _, _ | byUser _, _ => True
  | byQueryProfile _ _, row => row.status = STATUS_ACTIVE

/-- The parties an entry must have to answer a query. -/
def Suits : AclQuery → AccessControlProfile → Prop
  | byUserAndBundle userId bundleName _ _, p
  | byUserAndBundleOfBindType userId bundleName _ _, p =>
    p.HasParty fun a => a.userId = userId ∧ (p.IsForAllTokens ∨ a.bundleName = bundleName)
  | byBundle bundleName _ _, p | byBundleOfBindType bundleName _ _, p =>
    p.IsForAllTokens ∨ p.HasParty fun a => a.bundleName = bundleName
  | byTokenId _ _ _, _ => False
  | byUserAndAccount userId accountId, p =>
    p.HasParty fun a => a.userId = userId ∧ a.accountId = accountId
  | byUser userId, p => p.HasParty fun a => a.userId = userId
  | byQueryProfile .acerAndAceeTokenId q, p =>
    p.TrustsOneOf q ∧ (p.Joins q.accesser q.accessee ∨ p.Joins q.accessee q.accesser)
  | byQueryProfile .acerTokenId q, p =>
    p.TrustsOneOf q ∧ (p.JoinsDevice p.accesser p.accessee q.accesser q.accesseeDeviceId ∨
      p.JoinsDevice p.accessee p.accesser q.accesser q.accesseeDeviceId)

end AclQuery

/-- The list is what a query delivers from the tables: for a token the entries of its own walk,
otherwise the stored entries that are selected, suit and are not of the network layer. -/
def Tables.Delivers (t : Tables) (env : Env) (query : AclQuery)
    (profiles : List AccessControlProfile) : Prop :=
  match query with
  | .byTokenId tokenId trustDeviceId status =>
    profiles = t.entriesByToken env tokenId trustDeviceId status
  | query => profiles.Sublist t.profiles ∧ ∀ p ∈ t.profiles,
      p ∈ profiles ↔ env.isLnnAcl p = false ∧ query.Selects p.toAccessControlRow ∧ query.Suits p

/-- What a query ends with. -/
inductive Tables.Answers (t : Tables) (env : Env) (query : AclQuery) :
    Except DpError (List AccessControlProfile) → Prop where
  | tooLong (h : ¬query.TextsFit) : t.Answers env query (.error .invalidParams)
  | empty (h : query.TextsFit) (hnone : t.Delivers env query []) :
    t.Answers env query (.error .notFindData)
  | found (h : query.TextsFit) {profiles : List AccessControlProfile} (hsome : profiles ≠ [])
    (hdelivers : t.Delivers env query profiles) : t.Answers env query (.ok profiles)

/-! ## Rows with both parties -/

section Rows

variable {t : Tables} {row : AccessControlRow} {p : AccessControlProfile}

/-- A row is joined with the parties it names. -/
theorem Tables.joined_eq_some : t.joined row = some p ↔
    p.toAccessControlRow = row ∧ t.partyOf row .accesser = some p.accesser ∧
      t.partyOf row .accessee = some p.accessee := by
  rw [Tables.joined]
  cases t.partyOf row .accesser with
  | none => simp
  | some accesser =>
    cases t.partyOf row .accessee with
    | none => simp
    | some accessee =>
      simp only [Option.some.injEq, convertToAccessControlProfiles]
      constructor
      · rintro rfl
        exact ⟨rfl, rfl, rfl⟩
      · rintro ⟨rfl, rfl, rfl⟩
        rfl

/-- Where the tables agree, a stored row has its two parties. -/
theorem Tables.Integrity.exists_joined (hi : t.Integrity) (hrow : row ∈ t.accessControl) :
    ∃ p, t.joined row = some p := by
  have hparty : ∀ role, ∃ a, t.partyOf row role = some a := by
    intro role
    obtain ⟨a, ha, hid⟩ := (hi role (row.partyId role)).mpr ⟨row, hrow, rfl⟩
    exact ⟨a, Tables.partyOf_eq_some.mpr ⟨ha, hid⟩⟩
  obtain ⟨accesser, haccesser⟩ := hparty .accesser
  obtain ⟨accessee, haccessee⟩ := hparty .accessee
  exact ⟨convertToAccessControlProfiles row accesser accessee,
    Tables.joined_eq_some.mpr ⟨rfl, haccesser, haccessee⟩⟩

/-- The entry of a row is delivered where one of its parties passes the test. -/
theorem fetches_getAccessControlProfiles (hp : t.joined row = some p) (test : Party → Bool) :
    Fetches (getAccessControlProfiles row test) t
      (if test p.accesser || test p.accessee then [p] else []) := by
  obtain ⟨rfl, haccesser, haccessee⟩ := Tables.joined_eq_some.mp hp
  have hfetch := fun role test => fetches_getParties role p.toAccessControlRow test t
  apply Fetches.bind (hfetch .accesser test)
  rw [haccesser]
  by_cases hpass : test p.accesser = true
  · rw [Option.filter_some, if_pos hpass, hpass]
    apply Fetches.bind (hfetch .accessee _)
    rw [haccessee]
    exact fetches_ret _ _
  · rw [Bool.not_eq_true] at hpass
    simp only [Option.filter_some, hpass, Bool.false_eq_true, if_false, Bool.false_or]
    apply Fetches.bind (hfetch .accessee test)
    rw [haccessee]
    by_cases hother : test p.accessee = true
    · rw [Option.filter_some, if_pos hother, if_pos hother]
      apply Fetches.bind (hfetch .accesser _)
      rw [haccesser]
      exact fetches_ret _ _
    · rw [Option.filter_some, if_neg hother, if_neg hother]
      exact fetches_ret _ _

/-- A row that can be joined is read as its profile. -/
theorem fetches_getAccessControlProfile (hp : t.joined row = some p) :
    Fetches (getAccessControlProfile row) t p := by
  obtain ⟨rfl, haccesser, haccessee⟩ := Tables.joined_eq_some.mp hp
  have hselect : ∀ role a, t.partyOf p.toAccessControlRow role = some a →
      (t.parties role).select (fun b => decide (b.partyId = p.toAccessControlRow.partyId role)) =
        [a] := by
    intro role a ha
    obtain ⟨hmem, hid⟩ := Tables.partyOf_eq_some.mp ha
    exact hid ▸ Table.select_key hmem
  apply Fetches.bind (fetches_getResultSet _ t)
  rw [show (t.accesser.select fun a => decide (a.partyId = p.accesserId)) = [p.accesser] from
    hselect .accesser _ haccesser]
  apply Fetches.bind (fetches_getResultSet _ t)
  rw [show (t.accessee.select fun a => decide (a.partyId = p.accesseeId)) = [p.accessee] from
    hselect .accessee _ haccessee]
  exact fetches_ret _ _

/-- The loop delivers the suiting entries of its rows, in their order. -/
theorem fetches_forEachRow {f : AccessControlRow → DpProg (List AccessControlProfile)}
    {suits : AccessControlProfile → Bool}
    (h : ∀ row p, t.joined row = some p → Fetches (f row) t (if suits p then [p] else []))
    (rows : List AccessControlRow) (hrows : ∀ row ∈ rows, ∃ p, t.joined row = some p) :
    Fetches (forEachRow f rows) t ((rows.filterMap t.joined).filter suits) := by
  induction rows with
  | nil => exact fetches_ret t []
  | cons row rows ih =>
    obtain ⟨p, hp⟩ := hrows row List.mem_cons_self
    apply Fetches.bind (h row p hp)
    apply Fetches.bind (ih fun r hr => hrows r (List.mem_cons_of_mem _ hr))
    rw [List.filterMap_cons, hp]
    cases hsuits : suits p
    · rw [List.filter_cons_of_neg (by simp [hsuits])]
      exact fetches_ret t _
    · rw [List.filter_cons_of_pos hsuits]
      exact fetches_ret t _

end Rows

/-! ## Every query -/

section Delivers

variable {t : Tables} {env : Env} {query : AclQuery}

/-- The stored entries of rows are those whose row is among them. -/
theorem Tables.mem_filterMap_joined {rows : List AccessControlRow} {p : AccessControlProfile}
    (hp : p ∈ t.profiles) : p ∈ rows.filterMap t.joined ↔ p.toAccessControlRow ∈ rows := by
  rw [List.mem_filterMap]
  constructor
  · rintro ⟨row, hrow, hjoined⟩
    exact (Tables.joined_eq_some.mp hjoined).1 ▸ hrow
  · intro hrow
    obtain ⟨row, -, hjoined⟩ := List.mem_filterMap.mp hp
    exact ⟨_, hrow, (Tables.joined_eq_some.mp hjoined).1 ▸ hjoined⟩

/-- The selected and suiting entries are what the query delivers. -/
theorem delivers_of_select {select : AccessControlRow → Bool} {suits : AccessControlProfile → Bool}
    (hselect : ∀ row, select row = true ↔ query.Selects row)
    (hsuits : ∀ p, suits p = true ↔ query.Suits p)
    (hquery : ∀ tokenId trustDeviceId status, query ≠ .byTokenId tokenId trustDeviceId status) :
    t.Delivers env query
      (env.removeLnnAcl (((t.accessControl.select select).filterMap t.joined).filter suits)) := by
  have hlist : ∀ profiles : List AccessControlProfile, t.Delivers env query profiles ↔
      profiles.Sublist t.profiles ∧ ∀ p ∈ t.profiles, p ∈ profiles ↔
        env.isLnnAcl p = false ∧ query.Selects p.toAccessControlRow ∧ query.Suits p := by
    intro profiles
    cases query with
    | byTokenId tokenId trustDeviceId status => exact absurd rfl (hquery _ _ _)
    | _ => exact Iff.rfl
  refine (hlist _).mpr ⟨?_, fun p hp => ?_⟩
  · refine List.filter_sublist.trans (List.filter_sublist.trans ?_)
    exact (List.filter_sublist (p := select)).filterMap t.joined
  · have hstored := (Tables.mem_profiles.mp hp).1
    rw [Env.removeLnnAcl, List.mem_filter, List.mem_filter, Tables.mem_filterMap_joined hp,
      Table.mem_select, and_iff_right hstored, Bool.not_eq_true', hselect, hsuits]
    constructor
    · rintro ⟨⟨hselected, hsuited⟩, hlnn⟩
      exact ⟨hlnn, hselected, hsuited⟩
    · rintro ⟨hlnn, hselected, hsuited⟩
      exact ⟨⟨hselected, hsuited⟩, hlnn⟩

/-- The frame delivers what its loop collects. -/
theorem exec_getAccessControlProfileOf {select : AccessControlRow → Bool}
    {collect : List AccessControlRow → DpProg (List AccessControlProfile)}
    {l : List AccessControlRow → List AccessControlProfile} (hnil : l [] = [])
    (hcollect : Fetches (collect (t.accessControl.select select)) t
      (l (t.accessControl.select select))) (n : List Notice) :
    (getAccessControlProfileOf env select collect).exec ⟨t, [], n⟩ =
      (if (env.removeLnnAcl (l (t.accessControl.select select))).isEmpty then .error .notFindData
        else .ok (env.removeLnnAcl (l (t.accessControl.select select))), ⟨t, [], n⟩) := by
  rw [getAccessControlProfileOf]
  simp only [Prog.pure_eq]
  rw [Prog.exec_bind_ok ((fetches_getResultSet _ t).calm n)]
  cases hrows : t.accessControl.select select with
  | nil =>
    rw [hnil]
    rfl
  | cons row rows =>
    rw [hrows] at hcollect
    simp only [List.isEmpty_cons, Bool.false_eq_true, if_false]
    rw [Prog.exec_bind_ok (hcollect.calm n)]
    split <;> rfl

/-- What the query delivers is its answer; nothing is the answer that nothing was found. -/
theorem answers_of_delivers {profiles : List AccessControlProfile} (hfit : query.TextsFit)
    (h : t.Delivers env query profiles) :
    t.Answers env query (if profiles.isEmpty then .error .notFindData else .ok profiles) := by
  by_cases hempty : profiles = []
  · obtain rfl := hempty
    exact .empty hfit h
  · rw [if_neg (mt List.isEmpty_iff.mp hempty)]
    exact .found hfit hempty h

/-- A query made of the frame and the loop answers, once its texts are checked. -/
theorem frame_answers (query : AclQuery) (hi : t.Integrity) (long : Prop) [Decidable long]
    {select : AccessControlRow → Bool} {suits : AccessControlProfile → Bool}
    {f : AccessControlRow → DpProg (List AccessControlProfile)}
    {collect : List AccessControlRow → DpProg (List AccessControlProfile)}
    (hf : ∀ row p, t.joined row = some p → Fetches (f row) t (if suits p then [p] else []))
    (hlong : long ↔ ¬query.TextsFit)
    (hselect : ∀ row, select row = true ↔ query.Selects row)
    (hsuits : ∀ p, suits p = true ↔ query.Suits p)
    (hquery : ∀ tokenId trustDeviceId status, query ≠ .byTokenId tokenId trustDeviceId status)
    (hcollect : ∀ rows l, Fetches (forEachRow f rows) t l → Fetches (collect rows) t l)
    (n : List Notice) :
    ∃ r, t.Answers env query r ∧
      (do
        if long then
          throw .invalidParams
        getAccessControlProfileOf env select collect : DpProg (List AccessControlProfile)).exec
        ⟨t, [], n⟩ = (r, ⟨t, [], n⟩) := by
  by_cases hfit : query.TextsFit
  · have hrows : ∀ row ∈ t.accessControl.select select, ∃ p, t.joined row = some p :=
      fun row hrow => hi.exists_joined (Table.mem_select.mp hrow).1
    refine ⟨_, answers_of_delivers hfit (delivers_of_select hselect hsuits hquery), ?_⟩
    rw [if_neg (mt hlong.mp (not_not_intro hfit))]
    exact exec_getAccessControlProfileOf (l := fun rows => (rows.filterMap t.joined).filter suits)
      rfl (hcollect _ _ (fetches_forEachRow hf _ hrows)) n
  · refine ⟨_, .tooLong hfit, ?_⟩
    rw [if_pos (hlong.mpr hfit)]
    rfl

/-- The row of an entry is for all tokens, or one of its parties has the user and the bundle. -/
private theorem fetches_userAndBundle (userId : Int) (bundleName : Text) (row : AccessControlRow)
    (p : AccessControlProfile) (hp : t.joined row = some p) :
    Fetches (if row.IsForAllTokens then getAccessControlProfiles row (isOfUser userId)
      else getAccessControlProfiles row (isOfUserAndBundle userId bundleName)) t
      (if decide (p.HasParty fun a => a.userId = userId ∧
        (p.IsForAllTokens ∨ a.bundleName = bundleName)) then [p] else []) := by
  obtain ⟨rfl, -⟩ := Tables.joined_eq_some.mp hp
  by_cases hall : p.IsForAllTokens
  · rw [if_pos hall]
    convert fetches_getAccessControlProfiles hp (isOfUser userId) using 2
    simp [isOfUser, AccessControlProfile.HasParty, hall]
  · rw [if_neg hall]
    convert fetches_getAccessControlProfiles hp (isOfUserAndBundle userId bundleName) using 2
    simp [isOfUserAndBundle, AccessControlProfile.HasParty, hall]

private theorem fetches_bundle (bundleName : Text) (row : AccessControlRow)
    (p : AccessControlProfile) (hp : t.joined row = some p) :
    Fetches (if row.IsForAllTokens then do
        let profile ← getAccessControlProfile row
        return [profile]
      else getAccessControlProfiles row (isOfBundle bundleName)) t
      (if decide (p.IsForAllTokens ∨ p.HasParty fun a => a.bundleName = bundleName)
        then [p] else []) := by
  obtain ⟨rfl, -⟩ := Tables.joined_eq_some.mp hp
  by_cases hall : p.IsForAllTokens
  · rw [if_pos hall]
    apply Fetches.bind (fetches_getAccessControlProfile hp)
    rw [if_pos (decide_eq_true (Or.inl hall))]
    exact fetches_ret t _
  · rw [if_neg hall]
    convert fetches_getAccessControlProfiles hp (isOfBundle bundleName) using 2
    simp [isOfBundle, AccessControlProfile.HasParty, hall]

/-- The forward test by the accesser. -/
theorem checkForWardByAcer_iff {q : QueryProfile} {p : AccessControlProfile} :
    checkForWardByAcer q p = true ↔ p.status = STATUS_ACTIVE ∧
      p.JoinsDevice p.accesser p.accessee q.accesser q.accesseeDeviceId := by
  simp only [checkForWardByAcer, AccessControlProfile.JoinsDevice, Party.IsUserOf,
    QueryProfile.accesser]
  grind

/-- The reverse test by the accesser. -/
theorem checkReverseByAcer_iff {q : QueryProfile} {p : AccessControlProfile} :
    checkReverseByAcer q p = true ↔ p.status = STATUS_ACTIVE ∧
      p.JoinsDevice p.accessee p.accesser q.accesser q.accesseeDeviceId := by
  simp only [checkReverseByAcer, AccessControlProfile.JoinsDevice, Party.IsUserOf,
    QueryProfile.accesser]
  grind

/-- The query by a profile delivers the entries that match it. -/
theorem delivers_queried (queryType : QueryType) (q : QueryProfile) :
    t.Delivers env (.byQueryProfile queryType q) (t.queried env queryType q) := by
  refine ⟨?_, fun p hp => ?_⟩
  · refine List.filter_sublist.trans ?_
    cases queryType <;> exact List.filter_sublist
  · cases queryType with
    | acerAndAceeTokenId =>
      rw [mem_queried_acerAndAcee]
      exact and_iff_right hp
    | acerTokenId =>
      rw [mem_queried, getAclByQueryType, getAclByAcerTokenId, mem_getAclByCheck,
        Bool.or_eq_true, checkForWardByAcer_iff, checkReverseByAcer_iff, ← and_or_left]
      constructor
      · rintro ⟨⟨-, htrust, hstatus, hjoins⟩, hlnn⟩
        exact ⟨hlnn, hstatus, htrust, hjoins⟩
      · rintro ⟨hlnn, hstatus, htrust, hjoins⟩
        exact ⟨⟨hp, htrust, hstatus, hjoins⟩, hlnn⟩

/-- Every query answers from the tables, where these agree and no database call fails. -/
theorem exec_getAccessControlProfileByQueryOf (env : Env) (hi : t.Integrity) (query : AclQuery)
    (n : List Notice) :
    ∃ r, t.Answers env query r ∧
      (getAccessControlProfileByQueryOf env query).exec ⟨t, [], n⟩ = (r, ⟨t, [], n⟩) := by
  cases query with
  | byUserAndBundle userId bundleName trustDeviceId status =>
    refine frame_answers (.byUserAndBundle userId bundleName trustDeviceId status) hi _
      (fetches_userAndBundle userId bundleName) ?_ (fun _ => isOfDevice_iff)
      (fun _ => decide_eq_true_iff) (by simp) (fun _ _ h => h) n
    simp only [AclQuery.TextsFit]
    omega
  | byBundle bundleName trustDeviceId status =>
    refine frame_answers (.byBundle bundleName trustDeviceId status) hi _
      (fetches_bundle bundleName) ?_ (fun _ => isOfDevice_iff)
      (fun _ => decide_eq_true_iff) (by simp) (fun _ _ h => h) n
    simp only [AclQuery.TextsFit]
    omega
  | byTokenId tokenId trustDeviceId status =>
    by_cases hlength : trustDeviceId.length ≤ MAX_STRING_LEN
    · exact ⟨_, answers_of_delivers hlength rfl,
        exec_getAccessControlProfileByTokenId env tokenId hlength status t n⟩
    · refine ⟨_, .tooLong hlength, ?_⟩
      rw [getAccessControlProfileByQueryOf, getAccessControlProfileByTokenId,
        if_pos (Nat.not_le.mp hlength)]
      rfl
  | byUserAndBundleOfBindType userId bundleName bindType status =>
    refine frame_answers (.byUserAndBundleOfBindType userId bundleName bindType status) hi _
      (fetches_userAndBundle userId bundleName) ?_ (fun _ => isOfBindType_iff)
      (fun _ => decide_eq_true_iff) (by simp) (fun _ _ h => h.orFail _) n
    simp only [AclQuery.TextsFit]
    omega
  | byBundleOfBindType bundleName bindType status =>
    refine frame_answers (.byBundleOfBindType bundleName bindType status) hi _
      (fetches_bundle bundleName) ?_ (fun _ => isOfBindType_iff)
      (fun _ => decide_eq_true_iff) (by simp) (fun _ _ h => h) n
    simp only [AclQuery.TextsFit]
    omega
  | byUserAndAccount userId accountId =>
    refine frame_answers (.byUserAndAccount userId accountId) hi _
      (fun _ _ hp => fetches_getAccessControlProfiles hp (isOfUserAndAccount userId accountId))
      ?_ (fun _ => iff_of_true rfl trivial) (fun p => ?_) (by simp) (fun _ _ h => h) n
    · simp only [AclQuery.TextsFit]
      omega
    · simp [isOfUserAndAccount, AclQuery.Suits, AccessControlProfile.HasParty]
  | byUser userId =>
    refine frame_answers (.byUser userId) hi False
      (fun _ _ hp => fetches_getAccessControlProfiles hp (isOfUser userId))
      (iff_of_false id (not_not_intro trivial)) (fun _ => iff_of_true rfl trivial) (fun p => ?_)
      (by simp) (fun _ _ h => h) n
    simp [isOfUser, AclQuery.Suits, AccessControlProfile.HasParty]
  | byQueryProfile queryType q =>
    exact ⟨_, answers_of_delivers trivial (delivers_queried queryType q),
      exec_getAccessControlProfileByQuery env queryType q t n⟩

end Delivers

end DeviceProfile
