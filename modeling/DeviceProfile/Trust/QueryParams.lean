import DeviceProfile.Library.Decimal
import DeviceProfile.Trust.PartyQuery
import Std.Data.ExtTreeMap.Lemmas

/-!
# Queries by parameters

A query can be given as a map of texts. Which query is run depends on the parameters that are
there; the tests of a token read it as a 64-bit integer, the query is run with what `atoi`
reads, a 32-bit integer.
-/

namespace DeviceProfile

open Library Std

/-- The parameter for the trusted device. -/
def TRUST_DEVICE_ID : Text := "trustDeviceId"

/-- The parameter for the status of a row. -/
def STATUS : Text := "status"

/-- The parameter for a user. -/
def USERID : Text := "userId"

/-- The parameter for a bundle. -/
def BUNDLENAME : Text := "bundleName"

/-- The parameter for a token. -/
def TOKENID : Text := "tokenId"

/-- The parameter for the way of binding. -/
def BIND_TYPE : Text := "bindType"

/-- The parameter for an account. -/
def ACCOUNTID : Text := "accountId"

/-- The parameter for the device of the accesser. -/
def ACCESSER_DEVICE_ID : Text := "accesserDeviceId"

/-- The parameter for the user of the accesser. -/
def ACCESSER_USER_ID : Text := "accesserUserId"

/-- The parameter for the account of the accesser. -/
def ACCESSER_ACCOUNT_ID : Text := "accesserAccountId"

/-- The parameter for the token of the accesser. -/
def ACCESSER_TOKEN_ID : Text := "accesserTokenId"

/-- The parameter for the device of the accessee. -/
def ACCESSEE_DEVICE_ID : Text := "accesseeDeviceId"

/-- The parameter for the user of the accessee. -/
def ACCESSEE_USER_ID : Text := "accesseeUserId"

/-- The parameter for the account of the accessee. -/
def ACCESSEE_ACCOUNT_ID : Text := "accesseeAccountId"

/-- The parameter for the token of the accessee. -/
def ACCESSEE_TOKEN_ID : Text := "accesseeTokenId"

/-! ## Integers read from a text -/

/-- The smallest number of 32 bits. -/
def INT32_MIN : Int := -2 ^ 31

/-- The largest number of 32 bits. -/
def INT32_MAX : Int := 2 ^ 31 - 1

/-- The smallest number of 64 bits. -/
def INT64_MIN : Int := -2 ^ 63

/-- The largest number of 64 bits. -/
def INT64_MAX : Int := 2 ^ 63 - 1

/-- The integers of an `int32_t`. -/
def IsInt32 (n : Int) : Prop := INT32_MIN ≤ n ∧ n ≤ INT32_MAX

/-- The integers of an `int64_t`. -/
def IsInt64 (n : Int) : Prop := INT64_MIN ≤ n ∧ n ≤ INT64_MAX

instance (n : Int) : Decidable (IsInt32 n) := inferInstanceAs (Decidable (_ ∧ _))

instance (n : Int) : Decidable (IsInt64 n) := inferInstanceAs (Decidable (_ ∧ _))

/-- The C library. What `atoi` and `atoll` read from a number outside their type is up to it,
but is of their type. -/
structure Libc where
  atoiOverflow : Text → Int
  atollOverflow : Text → Int
  isInt32_atoiOverflow : ∀ s, IsInt32 (atoiOverflow s)
  isInt64_atollOverflow : ∀ s, IsInt64 (atollOverflow s)

namespace Libc

/-- The integer at the start of a text, where it is an `int`. -/
def atoi (libc : Libc) (s : Text) : Int :=
  if IsInt32 (readInt s) then readInt s else libc.atoiOverflow s

/-- The integer at the start of a text, where it is a `long long`. -/
def atoll (libc : Libc) (s : Text) : Int :=
  if IsInt64 (readInt s) then readInt s else libc.atollOverflow s

/-- The library reads numbers of 32 bits. -/
theorem isInt32_atoi (libc : Libc) (s : Text) : IsInt32 (libc.atoi s) := by
  rw [atoi]
  split
  · assumption
  · exact libc.isInt32_atoiOverflow s

/-- A number is read as it is written exactly when it is an `int`. -/
theorem atoi_eq_iff (libc : Libc) (s : Text) : libc.atoi s = readInt s ↔ IsInt32 (readInt s) := by
  constructor
  · exact fun h => h ▸ libc.isInt32_atoi s
  · exact fun h => if_pos h

/-- The C library of the keys and of the service infos: the integers wrap around. -/
def wrapping : Libc where
  atoiOverflow s := (Library.atoi s).toInt
  atollOverflow s := (Library.atoll s).toInt
  isInt32_atoiOverflow s :=
    ⟨(Library.atoi s).le_toInt, Int.le_sub_one_of_lt (Library.atoi s).toInt_lt⟩
  isInt64_atollOverflow s :=
    ⟨(Library.atoll s).le_toInt, Int.le_sub_one_of_lt (Library.atoll s).toInt_lt⟩

end Libc

/-! ## Parameters -/

/-- The parameters of a query, by name. -/
abbrev Params := ExtTreeMap Text Text

/-- The value of a parameter that is there. -/
def Params.valueOf (params : Params) (property : Text) : Text := params[property]?.getD []

section Dispatch

variable (libc : Libc) (params : Params)

/-- `IsPropertyValid`: a number between the bounds, which are no values themselves. -/
def isPropertyValid (property : Text) (minValue maxValue : Int) : Bool :=
  if property.isEmpty || !params.contains property then false
  else if ¬IsNumeral (params.valueOf property) then false
  else decide (minValue < libc.atoi (params.valueOf property) ∧
    libc.atoi (params.valueOf property) < maxValue)

/-- `IsPropertyValidInt64` -/
def isPropertyValidInt64 (property : Text) : Bool :=
  if property.isEmpty || !params.contains property then false
  else if ¬IsNumeral (params.valueOf property) then false
  else decide (INT64_MIN < libc.atoll (params.valueOf property) ∧
    libc.atoll (params.valueOf property) < INT64_MAX)

/-- The queries that can be run. -/
inductive AclQuery where
  | byUserAndBundle (userId : Int) (bundleName trustDeviceId : Text) (status : Int)
  | byBundle (bundleName trustDeviceId : Text) (status : Int)
  | byTokenId (tokenId : Int) (trustDeviceId : Text) (status : Int)
  | byUserAndBundleOfBindType (userId : Int) (bundleName : Text) (bindType status : Int)
  | byBundleOfBindType (bundleName : Text) (bindType status : Int)
  | byUserAndAccount (userId : Int) (accountId : Text)
  | byUser (userId : Int)
  | byQueryProfile (queryType : QueryType) (queryProfile : QueryProfile)
  deriving DecidableEq, Repr

/-- The parameters name an accesser with its token, and the device of an accessee. -/
def hasAccesser : Bool :=
  params.contains ACCESSER_DEVICE_ID && params.contains ACCESSEE_DEVICE_ID &&
    params.contains ACCESSER_ACCOUNT_ID &&
    isPropertyValid libc params ACCESSER_USER_ID INT32_MIN INT32_MAX &&
    isPropertyValidInt64 libc params ACCESSER_TOKEN_ID

/-- The parameters name the rest of an accessee. -/
def hasAccessee : Bool :=
  params.contains ACCESSEE_ACCOUNT_ID &&
    isPropertyValid libc params ACCESSEE_USER_ID INT32_MIN INT32_MAX &&
    isPropertyValidInt64 libc params ACCESSEE_TOKEN_ID

/-- `GenerateQueryProfile` -/
def generateQueryProfile : Option (QueryType × QueryProfile) :=
  if hasAccesser libc params then
    if hasAccessee libc params then
      some (.acerAndAceeTokenId,
        { accesserDeviceId := params.valueOf ACCESSER_DEVICE_ID
          accesserUserId := libc.atoi (params.valueOf ACCESSER_USER_ID)
          accesserAccountId := params.valueOf ACCESSER_ACCOUNT_ID
          accesserTokenId := libc.atoi (params.valueOf ACCESSER_TOKEN_ID)
          accesseeDeviceId := params.valueOf ACCESSEE_DEVICE_ID
          accesseeUserId := libc.atoi (params.valueOf ACCESSEE_USER_ID)
          accesseeAccountId := params.valueOf ACCESSEE_ACCOUNT_ID
          accesseeTokenId := libc.atoi (params.valueOf ACCESSEE_TOKEN_ID) })
    else
      some (.acerTokenId,
        { accesserDeviceId := params.valueOf ACCESSER_DEVICE_ID
          accesserTokenId := libc.atoi (params.valueOf ACCESSER_TOKEN_ID)
          accesserUserId := libc.atoi (params.valueOf ACCESSER_USER_ID)
          accesserAccountId := params.valueOf ACCESSER_ACCOUNT_ID
          accesseeDeviceId := params.valueOf ACCESSEE_DEVICE_ID })
  else none

/-- The parameters name a device and a status. -/
def hasTrustDevice : Bool :=
  params.contains TRUST_DEVICE_ID && isPropertyValid libc params STATUS INT32_MIN INT32_MAX

/-- The parameters name a bind type and a status. -/
def hasBindType : Bool :=
  isPropertyValid libc params BIND_TYPE INT32_MIN INT32_MAX &&
    isPropertyValid libc params STATUS INT32_MIN INT32_MAX

/-- The parameters name a user. -/
def hasUser : Bool := isPropertyValid libc params USERID INT32_MIN INT32_MAX

/-- The queries of a device and a status. -/
def queryOfTrustDevice : Option AclQuery :=
  if hasTrustDevice libc params then
    if hasUser libc params && params.contains BUNDLENAME then
      some (.byUserAndBundle (libc.atoi (params.valueOf USERID)) (params.valueOf BUNDLENAME)
        (params.valueOf TRUST_DEVICE_ID) (libc.atoi (params.valueOf STATUS)))
    else if params.contains BUNDLENAME then
      some (.byBundle (params.valueOf BUNDLENAME) (params.valueOf TRUST_DEVICE_ID)
        (libc.atoi (params.valueOf STATUS)))
    else if isPropertyValidInt64 libc params TOKENID then
      some (.byTokenId (libc.atoi (params.valueOf TOKENID)) (params.valueOf TRUST_DEVICE_ID)
        (libc.atoi (params.valueOf STATUS)))
    else none
  else none

/-- The queries of a bind type and a status. -/
def queryOfBindType : Option AclQuery :=
  if hasBindType libc params then
    if hasUser libc params && params.contains BUNDLENAME then
      some (.byUserAndBundleOfBindType (libc.atoi (params.valueOf USERID))
        (params.valueOf BUNDLENAME) (libc.atoi (params.valueOf BIND_TYPE))
        (libc.atoi (params.valueOf STATUS)))
    else if params.contains BUNDLENAME then
      some (.byBundleOfBindType (params.valueOf BUNDLENAME)
        (libc.atoi (params.valueOf BIND_TYPE)) (libc.atoi (params.valueOf STATUS)))
    else none
  else none

/-- The queries of a user. -/
def queryOfUser : Option AclQuery :=
  if hasUser libc params then
    if params.contains ACCOUNTID then
      some (.byUserAndAccount (libc.atoi (params.valueOf USERID)) (params.valueOf ACCOUNTID))
    else some (.byUser (libc.atoi (params.valueOf USERID)))
  else none

/-- `GetAccessControlProfile` by parameters: the query that is run, if there is one. -/
def getAccessControlQuery : Option AclQuery :=
  (queryOfTrustDevice libc params).or <| (queryOfBindType libc params).or <|
    (queryOfUser libc params).or <|
      (generateQueryProfile libc params).map fun query => .byQueryProfile query.1 query.2

/-! ## Tokens -/

/-- The tokens a query is run with. -/
def AclQuery.tokens : AclQuery → List Int
  | .byTokenId tokenId _ _ => [tokenId]
  | .byQueryProfile .acerAndAceeTokenId q => [q.accesserTokenId, q.accesseeTokenId]
  | .byQueryProfile .acerTokenId q => [q.accesserTokenId]
  | _ => []

/-- The parameters whose tokens are asked for. -/
def tokenNames : List Text :=
  if hasTrustDevice libc params && !params.contains BUNDLENAME &&
    isPropertyValidInt64 libc params TOKENID then [TOKENID]
  else if (hasTrustDevice libc params || hasBindType libc params) && params.contains BUNDLENAME
    then []
  else if hasUser libc params then []
  else if hasAccesser libc params then
    if hasAccessee libc params then [ACCESSER_TOKEN_ID, ACCESSEE_TOKEN_ID]
    else [ACCESSER_TOKEN_ID]
  else []

/-- The integers the parameters denote. -/
def denotedTokens : List Int :=
  (tokenNames libc params).map fun name => readInt (params.valueOf name)

/-- Every token that is asked for is an `int32_t`. -/
def TokensFit : Prop := ∀ tokenId ∈ denotedTokens libc params, IsInt32 tokenId

instance : Decidable (TokensFit libc params) :=
  inferInstanceAs (Decidable (∀ tokenId ∈ denotedTokens libc params, IsInt32 tokenId))

end Dispatch

section Tokens

variable {libc : Libc} {params : Params} {query : AclQuery}

/-- The query is run with what `atoi` reads from these parameters. -/
theorem tokens_of_getAccessControlQuery (h : getAccessControlQuery libc params = some query) :
    query.tokens = (tokenNames libc params).map fun name => libc.atoi (params.valueOf name) := by
  simp only [getAccessControlQuery, Option.or_eq_some_iff] at h
  rw [tokenNames]
  rcases h with h | ⟨htrust, h | ⟨hbind, h | ⟨huser, h⟩⟩⟩
  · simp only [queryOfTrustDevice, Option.ite_none_right_eq_some] at h
    obtain ⟨htrust, h⟩ := h
    split at h
    · grind [AclQuery.tokens]
    · grind [AclQuery.tokens]
  · grind [queryOfTrustDevice, queryOfBindType, AclQuery.tokens]
  · grind [queryOfTrustDevice, queryOfBindType, queryOfUser, AclQuery.tokens]
  · obtain ⟨generated, hgenerated, rfl⟩ := Option.map_eq_some_iff.mp h
    grind [queryOfTrustDevice, queryOfBindType, queryOfUser, generateQueryProfile,
      AclQuery.tokens]

/-- A query is run with the tokens its parameters denote exactly when all of them fit. -/
theorem tokens_eq_iff (h : getAccessControlQuery libc params = some query) :
    query.tokens = denotedTokens libc params ↔ TokensFit libc params := by
  rw [tokens_of_getAccessControlQuery h, denotedTokens, TokensFit, denotedTokens,
    List.map_inj_left, List.forall_mem_map]
  exact forall₂_congr fun name _ => libc.atoi_eq_iff (params.valueOf name)

/-- A query for one token asks for the parameter of this name. -/
theorem tokenNames_of_byTokenId {tokenId : Int} {trustDeviceId : Text} {status : Int}
    (h : getAccessControlQuery libc params = some (.byTokenId tokenId trustDeviceId status)) :
    tokenNames libc params = [TOKENID] := by
  simp only [getAccessControlQuery, Option.or_eq_some_iff, Option.map_eq_some_iff,
    reduceCtorEq, and_false, exists_false, or_false] at h
  rcases h with h | ⟨-, h | ⟨-, h⟩⟩
  · grind [queryOfTrustDevice, tokenNames]
  · grind [queryOfBindType]
  · grind [queryOfUser]

/-- A query for the tokens of both sides asks for the parameters of these names. -/
theorem tokenNames_of_acerAndAcee {q : QueryProfile}
    (h : getAccessControlQuery libc params = some (.byQueryProfile .acerAndAceeTokenId q)) :
    tokenNames libc params = [ACCESSER_TOKEN_ID, ACCESSEE_TOKEN_ID] := by
  simp only [getAccessControlQuery, Option.or_eq_some_iff, Option.map_eq_some_iff] at h
  rcases h with h | ⟨htrust, h | ⟨hbind, h | ⟨huser, h⟩⟩⟩
  · grind [queryOfTrustDevice]
  · grind [queryOfBindType]
  · grind [queryOfUser]
  · grind [queryOfTrustDevice, queryOfBindType, queryOfUser, generateQueryProfile, tokenNames]

end Tokens

/-! ## Entries found by the text of a token -/

/-- The entry is stored with its parties, and joins one on the device with one of another device
that has the token. -/
structure Tables.HoldsToken (t : Tables) (trustDeviceId : Text) (tokenId status : Int)
    (p : AccessControlProfile) : Prop where
  stored : p.toAccessControlRow ∈ t.accessControl
  status : p.status = status
  parties : ∀ role, t.partyOf p.toAccessControlRow role = some (p.party role)
  joins : p.accesser.deviceId = trustDeviceId ∧ p.accessee.tokenId = tokenId ∨
    p.accesser.deviceId ≠ trustDeviceId ∧ p.accessee.deviceId = trustDeviceId ∧
      p.accesser.tokenId = tokenId

/-- The query for a token finds the entries that hold it. -/
theorem Tables.HoldsToken.found {t : Tables} {trustDeviceId : Text} {tokenId status : Int}
    {p : AccessControlProfile} (hp : t.HoldsToken trustDeviceId tokenId status p) {env : Env}
    (hlnn : env.isLnnAcl p = false) (hlength : trustDeviceId.length ≤ MAX_STRING_LEN)
    (n : List Notice) :
    ∃ profiles, (getAccessControlProfileByTokenId env tokenId trustDeviceId status).exec
      ⟨t, [], n⟩ = (.ok profiles, ⟨t, [], n⟩) ∧ p ∈ profiles := by
  have hmem : p ∈ t.entriesByToken env tokenId trustDeviceId status :=
    mem_entriesByToken.mpr ⟨p.toAccessControlRow, hp.stored, hp.status, hlnn,
      entryByToken_of_parties hp.parties hp.joins⟩
  refine ⟨_, ?_, hmem⟩
  rw [exec_getAccessControlProfileByTokenId env tokenId hlength, if_neg]
  simp [List.ne_nil_of_mem hmem]

/-- An entry of a query is found by it. -/
theorem Tables.exec_query_of_mem {t : Tables} {queryType : QueryType} {q : QueryProfile}
    {env : Env} {p : AccessControlProfile} (hp : p ∈ t.queried env queryType q)
    (n : List Notice) :
    ∃ profiles, (getAccessControlProfileByQuery env queryType q).exec ⟨t, [], n⟩ =
      (.ok profiles, ⟨t, [], n⟩) ∧ p ∈ profiles := by
  refine ⟨_, ?_, hp⟩
  rw [exec_getAccessControlProfileByQuery, if_neg]
  simp [List.ne_nil_of_mem hp]

/-- The tokens of the parameters survive: the query is run with the tokens the parameters
denote, parameters with other tokens give another query, and the entries of a token are found
by its text. -/
structure TokensSurvive (libc : Libc) (params : Params) (query : AclQuery) : Prop where
  tokens : query.tokens = denotedTokens libc params
  other : ∀ params', getAccessControlQuery libc params' = some query →
    TokensFit libc params' → denotedTokens libc params' = denotedTokens libc params
  found : ∀ tokenId trustDeviceId status, query = .byTokenId tokenId trustDeviceId status →
    trustDeviceId.length ≤ MAX_STRING_LEN → ∀ (env : Env) (t : Tables) (n : List Notice) p,
      t.HoldsToken trustDeviceId (readInt (params.valueOf TOKENID)) status p →
      env.isLnnAcl p = false → ∃ profiles,
        (getAccessControlProfileByTokenId env tokenId trustDeviceId status).exec ⟨t, [], n⟩ =
          (.ok profiles, ⟨t, [], n⟩) ∧ p ∈ profiles
  foundBetween : ∀ q, query = .byQueryProfile .acerAndAceeTokenId q →
    ∀ (env : Env) (t : Tables) (n : List Notice), ∀ p ∈ t.profiles, env.isLnnAcl p = false →
      p.status = STATUS_ACTIVE → p.TrustsOneOf q → p.accesser.IsUserOf q.accesser →
      p.accessee.IsUserOf q.accessee →
      p.accesser.tokenId = readInt (params.valueOf ACCESSER_TOKEN_ID) →
      p.accessee.tokenId = readInt (params.valueOf ACCESSEE_TOKEN_ID) → ∃ profiles,
        (getAccessControlProfileByQuery env .acerAndAceeTokenId q).exec ⟨t, [], n⟩ =
          (.ok profiles, ⟨t, [], n⟩) ∧ p ∈ profiles

/-- The tokens of accepted parameters survive exactly when each of them is an `int32_t`. -/
theorem tokensSurvive_iff (libc : Libc) (params : Params) (query : AclQuery)
    (h : getAccessControlQuery libc params = some query) :
    TokensSurvive libc params query ↔ TokensFit libc params := by
  refine ⟨fun hsurvive => (tokens_eq_iff h).mp hsurvive.tokens, fun hfit => ?_⟩
  have htokens := (tokens_eq_iff h).mpr hfit
  refine ⟨htokens, fun params' h' hfit' => ?_, ?_, ?_⟩
  · rw [← htokens, (tokens_eq_iff h').mpr hfit']
  · rintro tokenId trustDeviceId status rfl hlength env t n p hp hlnn
    rw [denotedTokens, tokenNames_of_byTokenId h] at htokens
    obtain rfl : tokenId = readInt (params.valueOf TOKENID) := (List.cons.inj htokens).1
    exact hp.found hlnn hlength n
  · rintro q rfl env t n p hp hlnn hstatus htrust haccesser haccessee htoken htoken'
    rw [denotedTokens, tokenNames_of_acerAndAcee h] at htokens
    obtain ⟨hacer, hacee⟩ := List.cons.inj htokens
    have hbinds : p.Binds q.accesser q.accessee :=
      .inr (.inr ⟨htoken.trans hacer.symm, htoken'.trans (List.cons.inj hacee).1.symm⟩)
    exact Tables.exec_query_of_mem (mem_queried_acerAndAcee.mpr
      ⟨hp, hlnn, hstatus, htrust, .inl ⟨haccesser, haccessee, hbinds⟩⟩) n

/-- The parameters of the query for a token of the peer. -/
def tokenParams (token : Text) : Params :=
  ExtTreeMap.ofList [(TRUST_DEVICE_ID, ("peer" : Text)), (STATUS, ("1" : Text)), (TOKENID, token)]

/-- A small token survives. -/
theorem tokensSurvive_small : TokensFit .wrapping (tokenParams "5") ∧
    TokensSurvive .wrapping (tokenParams "5") (.byTokenId 5 "peer" 1) := by
  have hfit : TokensFit .wrapping (tokenParams "5") := by
    decide +kernel
  exact ⟨hfit, (tokensSurvive_iff .wrapping _ _ (by decide +kernel)).mpr hfit⟩

/-- The query for the token 2 ^ 32 + 1 is run with the token 1. -/
theorem not_tokensSurvive_large :
    ¬∀ (libc : Libc) (params : Params) (query : AclQuery),
      getAccessControlQuery libc params = some query → TokensSurvive libc params query := by
  intro h
  have hsurvive := h .wrapping (tokenParams "4294967297") (.byTokenId 1 "peer" 1)
    (by decide +kernel)
  have htokens := hsurvive.tokens
  revert htokens
  decide +kernel

end DeviceProfile
