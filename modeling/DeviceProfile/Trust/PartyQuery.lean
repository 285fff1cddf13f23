import DeviceProfile.Trust.TokenQuery

/-!
# The query by accesser and accessee

A query names two devices with a user, an account and a token each. The entries are checked
twice, with the queried accesser as the stored one and with both sides swapped; one kind of
query leaves the token of the accessee out, and with it the user and the account.
-/

namespace DeviceProfile

open Library

/-- Besides `DEFAULT_USER_ID`, the user of parties that hold for all users. -/
def DEFAULT_USER_ID_EXTRA : Int := 0

/-- `QueryProfile`: the two sides of a query. -/
structure QueryProfile where
  accesserDeviceId : Text := []
  accesserUserId : Int := -1
  accesserAccountId : Text := []
  accesserTokenId : Int := -1
  accesseeDeviceId : Text := []
  accesseeUserId : Int := -1
  accesseeAccountId : Text := []
  accesseeTokenId : Int := -1
  deriving DecidableEq, Repr

/-- `QueryType`: the data of the accessee that is compared. -/
inductive QueryType where
  | acerAndAceeTokenId
  | acerTokenId
  deriving DecidableEq, Repr

/-! ## The checks of one entry -/

section Checks

variable (queryProfile : QueryProfile) (aclProfile : AccessControlProfile)

/-- `CheckForWardByAcerAndAcee`: the sides of the query are the stored ones. -/
def checkForWardByAcerAndAcee : Bool :=
  if aclProfile.accesser.deviceId ≠ queryProfile.accesserDeviceId ∨
      aclProfile.accessee.deviceId ≠ queryProfile.accesseeDeviceId ∨
      aclProfile.status ≠ STATUS_ACTIVE then false
  else if (aclProfile.accesser.userId ≠ queryProfile.accesserUserId ∧
      aclProfile.accesser.userId ≠ DEFAULT_USER_ID.toInt ∧
      aclProfile.accesser.userId ≠ DEFAULT_USER_ID_EXTRA) ∨
      (aclProfile.accessee.userId ≠ queryProfile.accesseeUserId ∧
      aclProfile.accessee.userId ≠ DEFAULT_USER_ID.toInt ∧
      aclProfile.accessee.userId ≠ DEFAULT_USER_ID_EXTRA) then false
  else if (aclProfile.bindType = SAME_ACCOUNT ∧
      aclProfile.accesser.accountId = queryProfile.accesserAccountId ∧
      aclProfile.accessee.accountId = queryProfile.accesseeAccountId) ∨
      aclProfile.bindLevel = BIND_LEVEL_USER then true
  else if aclProfile.accesser.tokenId = queryProfile.accesserTokenId ∧
      aclProfile.accessee.tokenId = queryProfile.accesseeTokenId then true
  else false

/-- `CheckForWardByAcer`: of the accessee only the device is compared. -/
def checkForWardByAcer : Bool :=
  if aclProfile.accesser.deviceId ≠ queryProfile.accesserDeviceId ∨
      aclProfile.accessee.deviceId ≠ queryProfile.accesseeDeviceId ∨
      aclProfile.status ≠ STATUS_ACTIVE then false
  else if aclProfile.accesser.userId ≠ queryProfile.accesserUserId ∧
      aclProfile.accesser.userId ≠ DEFAULT_USER_ID.toInt ∧
      aclProfile.accesser.userId ≠ DEFAULT_USER_ID_EXTRA then false
  else if (aclProfile.bindType = SAME_ACCOUNT ∧
      aclProfile.accesser.accountId = queryProfile.accesserAccountId) ∨
      aclProfile.bindLevel = BIND_LEVEL_USER then true
  else if aclProfile.accesser.tokenId = queryProfile.accesserTokenId then true
  else false

/-- `CheckReverseByAcerAndAcee`: the sides of the query are swapped. -/
def checkReverseByAcerAndAcee : Bool :=
  if aclProfile.accesser.deviceId ≠ queryProfile.accesseeDeviceId ∨
      aclProfile.accessee.deviceId ≠ queryProfile.accesserDeviceId ∨
      aclProfile.status ≠ STATUS_ACTIVE then false
  else if (aclProfile.accesser.userId ≠ queryProfile.accesseeUserId ∧
      aclProfile.accesser.userId ≠ DEFAULT_USER_ID.toInt ∧
      aclProfile.accesser.userId ≠ DEFAULT_USER_ID_EXTRA) ∨
      (aclProfile.accessee.userId ≠ queryProfile.accesserUserId ∧
      aclProfile.accessee.userId ≠ DEFAULT_USER_ID.toInt ∧
      aclProfile.accessee.userId ≠ DEFAULT_USER_ID_EXTRA) then false
  else if (aclProfile.bindType = SAME_ACCOUNT ∧
      aclProfile.accesser.accountId = queryProfile.accesseeAccountId ∧
      aclProfile.accessee.accountId = queryProfile.accesserAccountId) ∨
      aclProfile.bindLevel = BIND_LEVEL_USER then true
  else if aclProfile.accesser.tokenId = queryProfile.accesseeTokenId ∧
      aclProfile.accessee.tokenId = queryProfile.accesserTokenId then true
  else false

/-- `CheckReverseByAcer`: the sides are swapped, of the stored accesser only the device is
compared. -/
def checkReverseByAcer : Bool :=
  if aclProfile.accesser.deviceId ≠ queryProfile.accesseeDeviceId ∨
      aclProfile.accessee.deviceId ≠ queryProfile.accesserDeviceId ∨
      aclProfile.status ≠ STATUS_ACTIVE then false
  else if aclProfile.accessee.userId ≠ queryProfile.accesserUserId ∧
      aclProfile.accessee.userId ≠ DEFAULT_USER_ID.toInt ∧
      aclProfile.accessee.userId ≠ DEFAULT_USER_ID_EXTRA then false
  else if (aclProfile.bindType = SAME_ACCOUNT ∧
      aclProfile.accessee.accountId = queryProfile.accesserAccountId) ∨
      aclProfile.bindLevel = BIND_LEVEL_USER then true
  else if aclProfile.accessee.tokenId = queryProfile.accesserTokenId then true
  else false

end Checks

/-! ## The query -/

/-- The loop of both queries: entries of other devices are skipped, a check in either
direction keeps the entry. -/
def getAclByCheck (check : AccessControlProfile → Bool) (queryProfile : QueryProfile)
    (aclProfiles : List AccessControlProfile) : List AccessControlProfile :=
  aclProfiles.filter fun aclProfile =>
    if aclProfile.trustDeviceId ≠ queryProfile.accesseeDeviceId ∧
        aclProfile.trustDeviceId ≠ queryProfile.accesserDeviceId then false
    else check aclProfile

/-- `GetAclByAcerTokenId` -/
def getAclByAcerTokenId (queryProfile : QueryProfile) (aclProfiles : List AccessControlProfile) :
    List AccessControlProfile :=
  getAclByCheck (fun aclProfile => checkForWardByAcer queryProfile aclProfile ||
    checkReverseByAcer queryProfile aclProfile) queryProfile aclProfiles

/-- `GetAclByAcerAndAceeTokenId` -/
def getAclByAcerAndAceeTokenId (queryProfile : QueryProfile)
    (aclProfiles : List AccessControlProfile) : List AccessControlProfile :=
  getAclByCheck (fun aclProfile => checkForWardByAcerAndAcee queryProfile aclProfile ||
    checkReverseByAcerAndAcee queryProfile aclProfile) queryProfile aclProfiles

/-- The entries of a query. -/
def getAclByQueryType (queryType : QueryType) (queryProfile : QueryProfile)
    (aclProfiles : List AccessControlProfile) : List AccessControlProfile :=
  match queryType with
  | .acerAndAceeTokenId => getAclByAcerAndAceeTokenId queryProfile aclProfiles
  | .acerTokenId => getAclByAcerTokenId queryProfile aclProfiles

/-- `GetAccessControlProfile` by a query; an empty result is reported as an error. -/
def getAccessControlProfileByQuery (env : Env) (queryType : QueryType)
    (queryProfile : QueryProfile) : DpProg (List AccessControlProfile) := do
  let aclProfiles ← getAllAccessControlProfiles
  let profile := env.removeLnnAcl (getAclByQueryType queryType queryProfile aclProfiles)
  if profile.isEmpty then
    throw .notFindData
  return profile

/-! ## Orientations -/

/-- One side of a query. -/
structure QueryParty where
  deviceId : Text
  userId : Int
  accountId : Text
  tokenId : Int
  deriving DecidableEq, Repr

namespace QueryProfile

/-- The queried accesser. -/
def accesser (q : QueryProfile) : QueryParty :=
  ⟨q.accesserDeviceId, q.accesserUserId, q.accesserAccountId, q.accesserTokenId⟩

/-- The queried accessee. -/
def accessee (q : QueryProfile) : QueryParty :=
  ⟨q.accesseeDeviceId, q.accesseeUserId, q.accesseeAccountId, q.accesseeTokenId⟩

/-- The query with its sides swapped. -/
def swap (q : QueryProfile) : QueryProfile where
  accesserDeviceId := q.accesseeDeviceId
  accesserUserId := q.accesseeUserId
  accesserAccountId := q.accesseeAccountId
  accesserTokenId := q.accesseeTokenId
  accesseeDeviceId := q.accesserDeviceId
  accesseeUserId := q.accesserUserId
  accesseeAccountId := q.accesserAccountId
  accesseeTokenId := q.accesserTokenId

/-- The query with another token of the accessee. -/
def withAccesseeTokenId (q : QueryProfile) (tokenId : Int) : QueryProfile :=
  { q with accesseeTokenId := tokenId }

end QueryProfile

/-- The stored party is on the queried device, for the queried user or for all users. -/
def Party.IsUserOf (a : Party) (x : QueryParty) : Prop :=
  a.deviceId = x.deviceId ∧
    (a.userId = x.userId ∨ a.userId = DEFAULT_USER_ID.toInt ∨ a.userId = DEFAULT_USER_ID_EXTRA)

/-- The entry binds two queried parties: by their accounts, for all applications of the users,
or by their tokens. -/
def AccessControlProfile.Binds (p : AccessControlProfile) (x y : QueryParty) : Prop :=
  p.bindType = SAME_ACCOUNT ∧ p.accesser.accountId = x.accountId ∧
      p.accessee.accountId = y.accountId ∨
    p.bindLevel = BIND_LEVEL_USER ∨
    p.accesser.tokenId = x.tokenId ∧ p.accessee.tokenId = y.tokenId

/-- The entry matches two queried parties in this order. -/
structure AccessControlProfile.Joins (p : AccessControlProfile) (x y : QueryParty) : Prop where
  accesser : p.accesser.IsUserOf x
  accessee : p.accessee.IsUserOf y
  binds : p.Binds x y

/-- The entry trusts one of the queried devices. -/
def AccessControlProfile.TrustsOneOf (p : AccessControlProfile) (q : QueryProfile) : Prop :=
  p.trustDeviceId = q.accesseeDeviceId ∨ p.trustDeviceId = q.accesserDeviceId

section Orientations

variable {q : QueryProfile} {p : AccessControlProfile}

/-- A profile joins two parties when its sides are of their users and it binds them. -/
theorem joins_iff {x y : QueryParty} :
    p.Joins x y ↔ p.accesser.IsUserOf x ∧ p.accessee.IsUserOf y ∧ p.Binds x y :=
  ⟨fun h => ⟨h.accesser, h.accessee, h.binds⟩, fun h => ⟨h.1, h.2.1, h.2.2⟩⟩

/-- The forward test by both parties. -/
theorem checkForWardByAcerAndAcee_iff :
    checkForWardByAcerAndAcee q p = true ↔
      p.status = STATUS_ACTIVE ∧ p.Joins q.accesser q.accessee := by
  rw [joins_iff]
  simp only [checkForWardByAcerAndAcee, Party.IsUserOf, AccessControlProfile.Binds,
    QueryProfile.accesser, QueryProfile.accessee]
  grind

/-- The reverse test by both parties. -/
theorem checkReverseByAcerAndAcee_iff :
    checkReverseByAcerAndAcee q p = true ↔
      p.status = STATUS_ACTIVE ∧ p.Joins q.accessee q.accesser := by
  rw [joins_iff]
  simp only [checkReverseByAcerAndAcee, Party.IsUserOf, AccessControlProfile.Binds,
    QueryProfile.accesser, QueryProfile.accessee]
  grind

/-- The check without the accessee asks for less. -/
theorem checkForWardByAcer_of_acerAndAcee (h : checkForWardByAcerAndAcee q p = true)
    (tokenId : Int) : checkForWardByAcer (q.withAccesseeTokenId tokenId) p = true := by
  obtain ⟨hstatus, ⟨hdevice, huser⟩, ⟨hpeer, -⟩, hbinds⟩ := checkForWardByAcerAndAcee_iff.mp h
  have hbound : (p.bindType = SAME_ACCOUNT ∧ p.accesser.accountId = q.accesserAccountId ∨
      p.bindLevel = BIND_LEVEL_USER) ∨ p.accesser.tokenId = q.accesserTokenId := by
    rcases hbinds with ⟨htype, haccount, -⟩ | hlevel | ⟨htoken, -⟩
    · exact .inl (.inl ⟨htype, haccount⟩)
    · exact .inl (.inr hlevel)
    · exact .inr htoken
  simp only [QueryProfile.accesser, QueryProfile.accessee] at hdevice huser hpeer
  simp only [checkForWardByAcer, QueryProfile.withAccesseeTokenId]
  grind

/-- What passes the reverse test by both passes the one by the accesser. -/
theorem checkReverseByAcer_of_acerAndAcee (h : checkReverseByAcerAndAcee q p = true)
    (tokenId : Int) : checkReverseByAcer (q.withAccesseeTokenId tokenId) p = true := by
  obtain ⟨hstatus, ⟨hpeer, -⟩, ⟨hdevice, huser⟩, hbinds⟩ := checkReverseByAcerAndAcee_iff.mp h
  have hbound : (p.bindType = SAME_ACCOUNT ∧ p.accessee.accountId = q.accesserAccountId ∨
      p.bindLevel = BIND_LEVEL_USER) ∨ p.accessee.tokenId = q.accesserTokenId := by
    rcases hbinds with ⟨htype, -, haccount⟩ | hlevel | ⟨-, htoken⟩
    · exact .inl (.inl ⟨htype, haccount⟩)
    · exact .inl (.inr hlevel)
    · exact .inr htoken
  simp only [QueryProfile.accesser, QueryProfile.accessee] at hdevice huser hpeer
  simp only [checkReverseByAcer, QueryProfile.withAccesseeTokenId]
  grind

end Orientations

/-! ## What the query delivers -/

section Delivered

variable {t : Tables} {env : Env} {q : QueryProfile} {p : AccessControlProfile}

/-- The entries that are delivered, where there are any. -/
def Tables.queried (t : Tables) (env : Env) (queryType : QueryType) (q : QueryProfile) :
    List AccessControlProfile :=
  env.removeLnnAcl (getAclByQueryType queryType q t.profiles)

/-- Without database failures the query delivers its entries. -/
theorem exec_getAccessControlProfileByQuery (env : Env) (queryType : QueryType)
    (q : QueryProfile) (t : Tables) (n : List Notice) :
    (getAccessControlProfileByQuery env queryType q).exec ⟨t, [], n⟩ =
      (if (t.queried env queryType q).isEmpty then .error .notFindData
        else .ok (t.queried env queryType q), ⟨t, [], n⟩) := by
  have hget := exec_getAllAccessControlProfiles t n
  rw [Tables.queried, getAccessControlProfileByQuery]
  by_cases hempty : t.profiles.isEmpty
  · rw [if_pos hempty] at hget
    rw [Prog.exec_bind_error hget, List.isEmpty_iff.mp hempty]
    cases queryType <;> rfl
  · rw [if_neg hempty] at hget
    rw [Prog.exec_bind_ok hget]
    dsimp only
    split <;> rfl

/-- The profiles that a check picks. -/
theorem mem_getAclByCheck {check : AccessControlProfile → Bool} {l : List AccessControlProfile} :
    p ∈ getAclByCheck check q l ↔ p ∈ l ∧ p.TrustsOneOf q ∧ check p = true := by
  simp only [getAclByCheck, List.mem_filter, AccessControlProfile.TrustsOneOf]
  grind

/-- The queried profiles are those picked by the type that are not of the local network. -/
theorem mem_queried {queryType : QueryType} :
    p ∈ t.queried env queryType q ↔
      p ∈ getAclByQueryType queryType q t.profiles ∧ env.isLnnAcl p = false := by
  simp only [Tables.queried, Env.removeLnnAcl, List.mem_filter, Bool.not_eq_true']

/-- The entries of the query with both tokens match it in one orientation. -/
theorem mem_queried_acerAndAcee :
    p ∈ t.queried env .acerAndAceeTokenId q ↔
      p ∈ t.profiles ∧ env.isLnnAcl p = false ∧ p.status = STATUS_ACTIVE ∧ p.TrustsOneOf q ∧
        (p.Joins q.accesser q.accessee ∨ p.Joins q.accessee q.accesser) := by
  rw [mem_queried, getAclByQueryType, getAclByAcerAndAceeTokenId, mem_getAclByCheck,
    Bool.or_eq_true, checkForWardByAcerAndAcee_iff, checkReverseByAcerAndAcee_iff, ← and_or_left]
  constructor
  · rintro ⟨⟨hp, htrust, hstatus, hjoins⟩, hlnn⟩
    exact ⟨hp, hlnn, hstatus, htrust, hjoins⟩
  · rintro ⟨hp, hlnn, hstatus, htrust, hjoins⟩
    exact ⟨⟨hp, htrust, hstatus, hjoins⟩, hlnn⟩

/-- Swapping the sides of the query changes nothing. -/
theorem queried_swap : t.queried env .acerAndAceeTokenId q.swap =
    t.queried env .acerAndAceeTokenId q := by
  have htrust : ∀ x : AccessControlProfile,
      (x.trustDeviceId ≠ q.swap.accesseeDeviceId ∧ x.trustDeviceId ≠ q.swap.accesserDeviceId) ↔
        (x.trustDeviceId ≠ q.accesseeDeviceId ∧ x.trustDeviceId ≠ q.accesserDeviceId) :=
    fun x => And.comm
  -- The reverse check is the forward check of the swapped query.
  have hcheck : ∀ x, (checkForWardByAcerAndAcee q.swap x || checkReverseByAcerAndAcee q.swap x) =
      (checkForWardByAcerAndAcee q x || checkReverseByAcerAndAcee q x) :=
    fun x => Bool.or_comm _ _
  simp only [Tables.queried, getAclByQueryType, getAclByAcerAndAceeTokenId, getAclByCheck, hcheck,
    htrust]

/-- The query without the token of the accessee delivers at least the same entries. -/
theorem queried_subset (tokenId : Int) : t.queried env .acerAndAceeTokenId q ⊆
    t.queried env .acerTokenId (q.withAccesseeTokenId tokenId) := by
  intro p hp
  rw [mem_queried, getAclByQueryType, getAclByAcerAndAceeTokenId, mem_getAclByCheck,
    Bool.or_eq_true] at hp
  rw [mem_queried, getAclByQueryType, getAclByAcerTokenId, mem_getAclByCheck, Bool.or_eq_true]
  obtain ⟨⟨hp, htrust, hcheck⟩, hlnn⟩ := hp
  refine ⟨⟨hp, htrust, ?_⟩, hlnn⟩
  exact hcheck.imp (checkForWardByAcer_of_acerAndAcee · tokenId)
    (checkReverseByAcer_of_acerAndAcee · tokenId)

end Delivered

/-- For every content of the tables and every query, the entries that match in one orientation
are delivered, no entry being an error; the order of the sides does not matter, and the query
without the token of the accessee delivers these entries as well. -/
theorem acerAndAceeQuery_delivers (env : Env) (t : Tables) (n : List Notice) (q : QueryProfile) :
    (∀ queryType r, (getAccessControlProfileByQuery env queryType r).exec ⟨t, [], n⟩ =
      (if (t.queried env queryType r).isEmpty then .error .notFindData
        else .ok (t.queried env queryType r), ⟨t, [], n⟩)) ∧
    (∀ p, p ∈ t.queried env .acerAndAceeTokenId q ↔
      (p.toAccessControlRow ∈ t.accessControl ∧
        ∀ role, p.party role ∈ t.parties role ∧ (p.party role).partyId = p.partyId role) ∧
      env.isLnnAcl p = false ∧ p.status = STATUS_ACTIVE ∧ p.TrustsOneOf q ∧
        (p.Joins q.accesser q.accessee ∨ p.Joins q.accessee q.accesser)) ∧
    t.queried env .acerAndAceeTokenId q.swap = t.queried env .acerAndAceeTokenId q ∧
    ∀ tokenId, t.queried env .acerAndAceeTokenId q ⊆
      t.queried env .acerTokenId (q.withAccesseeTokenId tokenId) := by
  refine ⟨fun queryType r => exec_getAccessControlProfileByQuery env queryType r t n,
    fun p => ?_, queried_swap, queried_subset⟩
  rw [mem_queried_acerAndAcee, Tables.mem_profiles]

end DeviceProfile
