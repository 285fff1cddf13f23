import DeviceProfile.Library.Binary64
import DeviceProfile.Trust.Data

/-!
# Reading the trust store

Database calls as atomic steps, the join of an access control row with its two
parties, and the checks that look at the whole list of joined entries. A query
that fails delivers no result set, which every caller turns into the same error
code; checks whose caller ignores that code are run for their default value.
-/

namespace DeviceProfile

open Library

/-! ## Database calls -/

namespace World

/-- Whether the next database call fails. -/
def fault (w : World) : Bool := w.faults.headD false

/-- The world after the outcome of one database call is used up. -/
def pop (w : World) : World := { w with faults := w.faults.tail }

/-- The tables after a write: none when the call fails or an index refuses it. -/
def outcome (w : World) (write : Tables → Option Tables) : Option Tables :=
  if w.fault then none else write w.tables

/-- The world after a write; a write that failed leaves the tables alone. -/
def written (w : World) (write : Tables → Option Tables) : World :=
  { w.pop with tables := (w.outcome write).getD w.tables }

end World

/-- `GetResultSet`: the rows a query delivers. -/
def getResultSet {ρ : Type} (query : Tables → List ρ) : DpProg (List ρ) :=
  .step World.pop fun w => if w.fault then .fail .getResultSetFail else .ret (query w.tables)

/-- `Put`, `Update` and `Delete` of the adapter, with the code the caller returns on failure. -/
def execute (write : Tables → Option Tables) (err : DpError) : DpProg Unit :=
  .step (World.written · write) fun w => if (w.outcome write).isSome then .ret () else .fail err

/-- Send a notification; every sender returns success. -/
def notify (n : Notice) : DpProg Unit :=
  .step (fun w => { w with notices := w.notices ++ [n] }) fun _ => .ret ()

/-! ## Joined entries -/

/-- `ConvertToAccessControlProfiles`: one entry with the parties its ids name. -/
def convertToAccessControlProfiles (row : AccessControlRow) (accesser : Accesser)
    (accessee : Accessee) : AccessControlProfile :=
  { row with accesser, accessee }

/-- `GetAccessControlProfile` for one row: both parties are looked up by id. -/
def getAccessControlProfile (row : AccessControlRow) : DpProg AccessControlProfile := do
  match ← getResultSet fun t => t.accesser.select fun a => decide (a.partyId = row.accesserId) with
  | [] => throw .notFindData
  | accesser :: _ =>
    match ← getResultSet fun t =>
        t.accessee.select fun a => decide (a.partyId = row.accesseeId) with
    | [] => throw .notFindData
    | accessee :: _ => return convertToAccessControlProfiles row accesser accessee

/-- The loop of `GetAllAccessControlProfiles`: a row whose parties are missing is skipped. -/
def collectProfiles : List AccessControlRow → DpProg (List AccessControlProfile)
  | [] => return []
  | row :: rows => do
    let profile ← (getAccessControlProfile row).attempt
    let profiles ← collectProfiles rows
    return profile.toOption.toList ++ profiles

/-- `GetAllAccessControlProfiles`; an empty result is reported as an error. -/
def getAllAccessControlProfiles : DpProg (List AccessControlProfile) := do
  let rows ← getResultSet fun t => t.accessControl.rows
  if rows.isEmpty then
    throw .notFindData
  let profiles ← collectProfiles rows
  if profiles.isEmpty then
    throw .notFindData
  return profiles

/-- `GetAllAclIncludeLnnAcl` holds the lock of the access control tables. -/
def getAllAclIncludeLnnAcl : DpProg (List AccessControlProfile) :=
  getAllAccessControlProfiles.atomic

/-! ## Extra data -/

/-- The values of a JSON member the manager distinguishes. -/
inductive JsonItem where
  | string (value : Text)
  | number (value : Rat)
  | other
  deriving DecidableEq, Repr

/-- A service known to the service info manager, as far as the manager reads it. -/
structure ServiceInfo where
  udid : Text
  userId : Int
  serviceId : Int
  extraData : Text
  deriving DecidableEq, Repr

/-- What the manager calls outside the trust store. -/
structure Env where
  /-- The members of the object `cJSON_Parse` reads, none when it reads no object. -/
  cjsonObject : Text → Option (List (Text × JsonItem))
  /-- The result of `GetAllServiceInfoList`. -/
  serviceInfoList : List ServiceInfo
  /-- What a number outside the range of a 64-bit integer is converted to. -/
  outOfRange : Rat → Int64 := fun _ => Int64.minValue

namespace Env

/-- An environment without JSON objects and without services. -/
def bare : Env where
  cjsonObject _ := none
  serviceInfoList := []

variable (env : Env)

/-- The first member of that name in the object a text denotes. -/
def objectItem (json : Text) (name : Text) : Option JsonItem :=
  if json.isEmpty then none else (env.cjsonObject json).bind (List.lookup name)

/-- `IsLnnAcl`: the extra data marks the entry as one of the network layer. -/
def isLnnAcl (aclProfile : AccessControlProfile) : Bool :=
  decide (env.objectItem aclProfile.extraData "IsLnnAcl" = some (.string "true"))

/-- `RemoveLnnAcl` keeps the entries that are not marked. -/
def removeLnnAcl (profiles : List AccessControlProfile) : List AccessControlProfile :=
  profiles.filter fun aclProfile => !env.isLnnAcl aclProfile

/-- A number without its fraction, as a 64-bit integer. -/
def toInt64 (numberValue : Rat) : Int :=
  let whole := numberValue.num.tdiv numberValue.den
  if -2 ^ 63 ≤ whole ∧ whole < 2 ^ 63 then whole else (env.outOfRange numberValue).toInt

/-- `ParseServiceIdFromJson`: a number that is a 64-bit integer. The largest one is rounded up
for the comparison. -/
def parseServiceIdFromJson (json : Text) : Option Int :=
  match env.objectItem json "serviceId" with
  | some (.number numberValue) =>
    let serviceId := env.toInt64 numberValue
    if numberValue ≠ toDouble serviceId ∨ numberValue < toDouble (-2 ^ 63 : Int) ∨
        toDouble (2 ^ 63 - 1 : Int) < numberValue then none
    else some serviceId
  | _ => none

/-- `ParseAccountIdFromJson`: a member that is a string. -/
def parseAccountIdFromJson (json : Text) : Option Text :=
  match env.objectItem json "accountId" with
  | some (.string v) => some v
  | _ => none

end Env

/-! ## Local and peer side -/

/-- The two sides of an entry as the local device sees them. -/
structure ProfileQueryParams where
  localDeviceId : Text
  localUserId : Int
  localAccountId : Text
  peerDeviceId : Text
  peerUserId : Int
  peerAccountId : Text
  deriving DecidableEq, Repr

/-- The accessee is the peer when its device is the trusted one, otherwise the
accesser is; the peer device is the trusted one in either case. -/
def AccessControlProfile.queryParams (profile : AccessControlProfile) : ProfileQueryParams :=
  let peer := if profile.accessee.deviceId = profile.trustDeviceId then
    profile.accessee else profile.accesser
  let here := if profile.accessee.deviceId = profile.trustDeviceId then
    profile.accesser else profile.accessee
  { localDeviceId := here.deviceId
    localUserId := here.userId
    localAccountId := here.accountId
    peerDeviceId := profile.trustDeviceId
    peerUserId := peer.userId
    peerAccountId := peer.accountId }

namespace ProfileQueryParams

/-- The device and user of the local side. -/
def isLocalUser (params : ProfileQueryParams) (a : Party) : Bool :=
  decide (params.localDeviceId = a.deviceId ∧ params.localUserId = a.userId)

/-- The device and user of the peer side. -/
def isPeerUser (params : ProfileQueryParams) (a : Party) : Bool :=
  decide (params.peerDeviceId = a.deviceId ∧ params.peerUserId = a.userId)

/-- The entry trusts the peer device and joins the two users, in either direction. -/
def matchesUsers (params : ProfileQueryParams) (aclProfile : AccessControlProfile) : Bool :=
  decide (params.peerDeviceId = aclProfile.trustDeviceId) &&
    (params.isLocalUser aclProfile.accesser && params.isPeerUser aclProfile.accessee ||
      params.isPeerUser aclProfile.accesser && params.isLocalUser aclProfile.accessee)

/-- The device, user and account of the local side. -/
def isLocalAccount (params : ProfileQueryParams) (a : Party) : Bool :=
  params.isLocalUser a && decide (params.localAccountId = a.accountId)

/-- The device, user and account of the peer side. -/
def isPeerAccount (params : ProfileQueryParams) (a : Party) : Bool :=
  params.isPeerUser a && decide (params.peerAccountId = a.accountId)

end ProfileQueryParams

/-- `IsMatchingAclProfile`: the entry trusts the peer device and joins the two
accounts, in either direction. -/
def isMatchingAclProfile (aclProfile : AccessControlProfile) (params : ProfileQueryParams) : Bool :=
  decide (params.peerDeviceId = aclProfile.trustDeviceId) &&
    (params.isLocalAccount aclProfile.accesser && params.isPeerAccount aclProfile.accessee ||
      params.isPeerAccount aclProfile.accesser && params.isLocalAccount aclProfile.accessee)

/-- `ConvertToTrustDeviceProfile` of an entry. -/
def convertToTrustDeviceProfile (profile : AccessControlProfile) : TrustDeviceProfile :=
  { deviceId := profile.trustDeviceId
    deviceIdType := profile.deviceIdType
    deviceIdHash := profile.deviceIdHash
    status := profile.status
    bindType := profile.bindType
    peerUserId := profile.queryParams.peerUserId
    localUserId := profile.queryParams.localUserId
    peerAccountId := profile.queryParams.peerAccountId
    localAccountId := profile.queryParams.localAccountId }

/-! ## Checks over all entries -/

section Checks

variable (env : Env)

/-- The entries the checks look at: all that are not marked as LNN entries. -/
def getCheckedProfiles : DpProg (List AccessControlProfile) := do
  let aclProfiles ← getAllAccessControlProfiles
  return env.removeLnnAcl aclProfiles

/-- `CheckDeviceIdAndUserIdActive`: how many active entries join the two users. -/
def checkDeviceIdAndUserIdActive (profile : AccessControlProfile) : DpProg Nat := do
  let aclProfiles ← getCheckedProfiles env
  return aclProfiles.countP fun aclProfile =>
    decide (aclProfile.status = STATUS_ACTIVE) && profile.queryParams.matchesUsers aclProfile

/-- `CheckDeviceIdAndUserIdExists`: whether an entry joins the two users. -/
def checkDeviceIdAndUserIdExists (profile : AccessControlProfile) : DpProg Bool := do
  let aclProfiles ← getCheckedProfiles env
  return aclProfiles.any fun aclProfile => profile.queryParams.matchesUsers aclProfile

/-- `CheckDeviceIdActiveAclExists`: whether an active entry trusts the device. -/
def checkDeviceIdActiveAclExists (profile : AccessControlProfile) : DpProg Bool := do
  let aclProfiles ← getCheckedProfiles env
  return aclProfiles.any fun aclProfile =>
    decide (profile.trustDeviceId = aclProfile.trustDeviceId) &&
      decide (aclProfile.status = STATUS_ACTIVE)

/-- `CheckAccountAclExists`: whether an entry joins the two accounts. -/
def checkAccountAclExists (profile : AccessControlProfile) : DpProg Bool := do
  let aclProfiles ← getCheckedProfiles env
  return aclProfiles.any fun aclProfile => isMatchingAclProfile aclProfile profile.queryParams

/-- `CheckAccountAclActiveCount`: how many active entries join the two accounts. -/
def checkAccountAclActiveCount (profile : AccessControlProfile) : DpProg Nat := do
  let aclProfiles ← getCheckedProfiles env
  return aclProfiles.countP fun aclProfile =>
    decide (aclProfile.status = STATUS_ACTIVE) &&
      isMatchingAclProfile aclProfile profile.queryParams

/-- `CollectSameAccountServiceIds`: the services of the peer user and account. -/
def collectSameAccountServiceIds (params : ProfileQueryParams) : List Int :=
  (env.serviceInfoList.filter fun serviceInfo =>
    decide (serviceInfo.udid = params.peerDeviceId) &&
      decide (serviceInfo.userId = params.peerUserId) &&
      decide (env.parseAccountIdFromJson serviceInfo.extraData = some params.peerAccountId)).map
    ServiceInfo.serviceId

/-- `QueryServiceIdList`: the services of every entry that joins the two accounts. -/
def queryServiceIdList (profile : AccessControlProfile) : DpProg (List Int) := do
  let aclProfiles ← getCheckedProfiles env
  let matching := aclProfiles.filter fun aclProfile =>
    isMatchingAclProfile aclProfile profile.queryParams
  return matching.flatMap fun aclProfile =>
    if aclProfile.bindType = SAME_ACCOUNT then
      collectSameAccountServiceIds env profile.queryParams
    else (env.parseServiceIdFromJson aclProfile.accessee.extraData).toList

end Checks

end DeviceProfile
