import DeviceProfile.Trust.Query

/-!
# Writing the trust store

`PutAccessControlProfile`, `UpdateAccessControlProfile` and
`DeleteAccessControlProfile` with everything they call. Each of them first works
on the access control and party tables under one lock, and then, outside the
lock, notifies the listeners and brings the derived trust device row up to date.
-/

namespace DeviceProfile

open Library

/-! ## Trust device rows -/

/-- `TrustDeviceProfileToEntries`: the columns of a profile under a row id. -/
def trustDeviceProfileToEntries (rowId : Int) (profile : TrustDeviceProfile) : TrustDeviceRow :=
  { rowId
    deviceId := profile.deviceId
    deviceIdType := profile.deviceIdType
    deviceIdHash := profile.deviceIdHash
    status := profile.status }

/-- `ConvertToTrustDeviceProfile` of a row; the fields without a column keep their defaults. -/
def TrustDeviceRow.toProfile (row : TrustDeviceRow) : TrustDeviceProfile :=
  { deviceId := row.deviceId
    deviceIdType := row.deviceIdType
    deviceIdHash := row.deviceIdHash
    status := row.status }

namespace Tables

/-- The rows of a device; its primary key leaves at most one. -/
def trustDeviceRows (t : Tables) (deviceId : Text) : List TrustDeviceRow :=
  t.trustDevice.select fun row => decide (row.deviceId = deviceId)

/-- Insert the row of a profile into `trust_device_table`. -/
def insertTrustDevice (t : Tables) (profile : TrustDeviceProfile) : Option Tables :=
  (t.trustDevice.insert? (trustDeviceProfileToEntries t.trustDevice.nextKey profile)).map
    fun x => { t with trustDevice := x }

/-- Overwrite the row of the profile's device, where there is one. -/
def updateTrustDevice (t : Tables) (profile : TrustDeviceProfile) : Option Tables :=
  match t.trustDeviceRows profile.deviceId with
  | [] => some t
  | row :: _ =>
    (t.trustDevice.update? row.rowId (trustDeviceProfileToEntries row.rowId profile)).map
      fun x => { t with trustDevice := x }

/-- Delete the row of a device. -/
def deleteTrustDevice (t : Tables) (deviceId : Text) : Tables :=
  { t with trustDevice := t.trustDevice.delete fun row => decide (row.deviceId = deviceId) }

/-- The access control rows of a device. -/
def aclRows (t : Tables) (trustDeviceId : Text) : List AccessControlRow :=
  t.accessControl.select fun row => decide (row.trustDeviceId = trustDeviceId)

end Tables

/-- `PutTrustDeviceProfile`. -/
def putTrustDeviceProfile (profile : TrustDeviceProfile) : DpProg Unit :=
  execute (·.insertTrustDevice profile) .putTrustDeviceProfileFail

/-- `UpdateTrustDeviceProfile`: a device without a row is an error; listeners learn
about a changed status. -/
def updateTrustDeviceProfile (profile : TrustDeviceProfile) : DpProg Unit := do
  match ← getResultSet (·.trustDeviceRows profile.deviceId) with
  | [] => throw .notFindData
  | row :: _ =>
    execute (·.updateTrustDevice profile) .updateTrustDeviceProfileFail
    if row.status ≠ profile.status then
      notify (.trustDeviceProfileUpdate row.toProfile profile)
    else return ()

/-- `DeleteTrustDeviceProfile`: a device without a row is an error. -/
def deleteTrustDeviceProfile (deviceId : Text) : DpProg Unit := do
  match ← getResultSet (·.trustDeviceRows deviceId) with
  | [] => throw .notFindData
  | _ :: _ => execute (fun t => some (t.deleteTrustDevice deviceId)) .deleteTrustDeviceProfileFail

/-- `GetResultStatus`: active when one of the device's access control rows is. -/
def getResultStatus (trustDeviceId : Text) : DpProg Int := do
  match ← getResultSet (·.aclRows trustDeviceId) with
  | [] => throw .notFindData
  | row :: rows =>
    return if (row :: rows).any (fun r => decide (r.status = STATUS_ACTIVE)) then
      STATUS_ACTIVE else STATUS_INACTIVE

/-- A notification that is sent only under a condition. -/
def notifyIf (c : Bool) (n : Notice) : DpProg Unit := if c then notify n else pure ()

section Operations

variable (env : Env)

/-- Complete a trust profile with the service ids of the two accounts and send it,
under a condition; otherwise the trust profile stays as it is. -/
def notifyAccountAcl (c : Bool) (profile : AccessControlProfile)
    (trustProfile : TrustDeviceProfile) (notice : TrustDeviceProfile → Notice) :
    DpProg TrustDeviceProfile :=
  if c then do
    let serviceIdList ← (queryServiceIdList env profile).getD []
    notify (notice { trustProfile with serviceIdList })
    return { trustProfile with serviceIdList }
  else pure trustProfile

/-! ## Put -/

/-- `SetAccessControlId`: one more than the id of the last row. -/
def setAccessControlId (profile : AccessControlProfile) : DpProg AccessControlProfile := do
  match (← getResultSet (·.accessControl.rows)).getLast? with
  | none => return { profile with accessControlId := 1 }
  | some row => return { profile with accessControlId := row.accessControlId + 1 }

/-- Set the id column that names the party of the given side. -/
def AccessControlProfile.setPartyId (profile : AccessControlProfile) (id : Int) :
    Role → AccessControlProfile
  | .accesser => { profile with accesserId := id }
  | .accessee => { profile with accesseeId := id }

/-- The stored parties that agree with a profile's party on every compared column. -/
def Tables.partiesWhereAll (t : Tables) (role : Role) (a : Party) : List Party :=
  (t.parties role).select fun b => decide (b.indexColumns = a.indexColumns)

/-- The common body of `SetAccesserId` and `SetAccesseeId`: the id of the stored party,
or one more than the id of the last one. -/
def setPartyId (role : Role) (profile : AccessControlProfile) : DpProg AccessControlProfile := do
  match ← getResultSet (·.partiesWhereAll role (profile.party role)) with
  | a :: _ => return profile.setPartyId a.partyId role
  | [] =>
    match (← getResultSet fun t => (t.parties role).rows).getLast? with
    | none => return profile.setPartyId 1 role
    | some a => return profile.setPartyId (a.partyId + 1) role

/-- `SetAccesserId`. -/
def setAccesserId (profile : AccessControlProfile) : DpProg AccessControlProfile :=
  setPartyId .accesser profile

/-- `SetAccesseeId`. -/
def setAccesseeId (profile : AccessControlProfile) : DpProg AccessControlProfile :=
  setPartyId .accessee profile

/-- `SetAccessControlProfileId`: the ids of the entry, copied into its parties. -/
def setAccessControlProfileId (profile : AccessControlProfile) :
    DpProg AccessControlProfile := do
  let profile ← setAccessControlId profile
  let profile ← setAccesserId profile
  let profile ← setAccesseeId profile
  return { profile with
    accesser := { profile.accesser with partyId := profile.accesserId }
    accessee := { profile.accessee with partyId := profile.accesseeId } }

/-- The common body of `PutAccesserProfile` and `PutAccesseeProfile`: a party that is
stored already is not inserted again. -/
def putPartyProfile (role : Role) (err : DpError) (profile : AccessControlProfile) :
    DpProg Unit := do
  match ← getResultSet (·.partiesWhereAll role (profile.party role)) with
  | _ :: _ => return ()
  | [] =>
    execute (fun t => ((t.parties role).insert? (profile.party role)).map (t.setParties · role)) err

/-- `PutAccesserProfile`. -/
def putAccesserProfile (profile : AccessControlProfile) : DpProg Unit :=
  putPartyProfile .accesser .putAccesserProfileFail profile

/-- `PutAccesseeProfile`. -/
def putAccesseeProfile (profile : AccessControlProfile) : DpProg Unit :=
  putPartyProfile .accessee .putAccesseeProfileFail profile

/-- `IsAclExists`: a row agrees with the entry on every column but id, status and extra data. -/
def isAclExists (profile : AccessControlProfile) : DpProg Bool := do
  let rows ← getResultSet fun t =>
    t.accessControl.select fun row => decide (row.indexColumns = profile.indexColumns)
  return !rows.isEmpty

/-- Insert the row of an entry into `access_control_table`. -/
def Tables.insertAcl (t : Tables) (profile : AccessControlProfile) : Option Tables :=
  (t.accessControl.insert? profile.toAccessControlRow).map fun x => { t with accessControl := x }

/-- The part of `PutAccessControlProfile` under the lock: the entry with its ids and
whether its users and accounts were joined before, or none when the entry exists. -/
def putAccessControlProfileLocked (profile : AccessControlProfile) :
    DpProg (Option (AccessControlProfile × Bool × Bool)) := do
  let isUserAclExists ← (checkDeviceIdAndUserIdExists env profile).getD false
  let isAccountAclExists ← (checkAccountAclExists env profile).getD false
  let accessControlProfile ← setAccessControlProfileId profile
  putAccesserProfile accessControlProfile
  putAccesseeProfile accessControlProfile
  match ← (isAclExists accessControlProfile).getD false with
  | true => return none
  | false =>
    execute (·.insertAcl accessControlProfile) .putAclProfileFail
    return some (accessControlProfile, isUserAclExists, isAccountAclExists)

/-- `PutAclCheck`: notify about new users and accounts, then insert or update the trust
device row; the result of the insertion is not looked at. -/
def putAclCheck (profile : AccessControlProfile) (isUserAclExists isAccountAclExists : Bool) :
    DpProg Unit := do
  let trustProfile := convertToTrustDeviceProfile profile
  notifyIf (!isUserAclExists && !env.isLnnAcl profile) (.trustDeviceProfileAdd trustProfile)
  let trustProfile ← notifyAccountAcl env (!isAccountAclExists && !env.isLnnAcl profile) profile
    trustProfile .accountAclAdd
  match ← getResultSet (·.trustDeviceRows profile.trustDeviceId) with
  | [] => (putTrustDeviceProfile trustProfile).getD ()
  | _ :: _ =>
    let status ← (getResultStatus profile.trustDeviceId).orFail .getResultSetFail
    (updateTrustDeviceProfile { trustProfile with status }).orFail .updateTrustDeviceProfileFail

/-- `PutAccessControlProfile`; an entry that exists already is reported as success. -/
def putAccessControlProfile (profile : AccessControlProfile) : DpProg Unit := do
  match ← (putAccessControlProfileLocked env profile).atomic with
  | none => return ()
  | some (accessControlProfile, isUserAclExists, isAccountAclExists) =>
    putAclCheck env accessControlProfile isUserAclExists isAccountAclExists
    notify (.dpAclAdd accessControlProfile.accessControlId accessControlProfile.trustDeviceId
      accessControlProfile.bindType)

/-! ## Update -/

/-- The access control row with an id. -/
def Tables.aclById (t : Tables) (accessControlId : Int) : List AccessControlRow :=
  t.accessControl.select fun row => decide (row.accessControlId = accessControlId)

/-- `UpdateAclCheck`: the row must exist and keep both of its party ids. -/
def updateAclCheck (profile : AccessControlProfile) : DpProg AccessControlProfile := do
  match ← getResultSet (·.aclById profile.accessControlId) with
  | [] => throw .notFindData
  | row :: _ =>
    if row.accesseeId ≠ profile.accessee.partyId ∨ row.accesserId ≠ profile.accesser.partyId ∨
        row.accesserId ≠ profile.accesserId ∨ row.accesseeId ≠ profile.accesseeId then
      throw .updateAclNotAllow
    else return { row with }

/-- The common body of `UpdateAccesserProfile` and `UpdateAccesseeProfile`. -/
def updatePartyProfile (role : Role) (err : DpError) (profile : AccessControlProfile) :
    DpProg Unit :=
  execute (fun t => ((t.parties role).update? (profile.partyId role) (profile.party role)).map
    (t.setParties · role)) err

/-- `UpdateAccesserProfile`. -/
def updateAccesserProfile (profile : AccessControlProfile) : DpProg Unit :=
  updatePartyProfile .accesser .updateAccesserProfileFail profile

/-- `UpdateAccesseeProfile`. -/
def updateAccesseeProfile (profile : AccessControlProfile) : DpProg Unit :=
  updatePartyProfile .accessee .updateAccesseeProfileFail profile

/-- Overwrite the row of an entry in `access_control_table`. -/
def Tables.updateAcl (t : Tables) (profile : AccessControlProfile) : Option Tables :=
  (t.accessControl.update? profile.accessControlId profile.toAccessControlRow).map
    fun x => { t with accessControl := x }

/-- The part of `UpdateAccessControlProfile` under the lock: the entry before the update.
The results of the two party updates are not looked at. -/
def updateAccessControlProfileLocked (profile : AccessControlProfile) :
    DpProg AccessControlProfile := do
  let oldProfile ← updateAclCheck profile
  (updateAccesserProfile profile).getD ()
  (updateAccesseeProfile profile).getD ()
  execute (·.updateAcl profile) .updateAclProfileFail
  return oldProfile

/-- `NotifyAccountAclCheck`: the accounts became active, or inactive, with this update. -/
def notifyAccountAclCheck (profile oldProfile : AccessControlProfile) : DpProg Unit := do
  let accountAclActiveCount ← (checkAccountAclActiveCount env profile).orFail .notifyTrustDeviceFail
  let serviceIdList ← (queryServiceIdList env profile).getD []
  let trustProfile := { convertToTrustDeviceProfile profile with serviceIdList }
  notifyIf (decide (accountAclActiveCount = 0 ∧ profile.status = STATUS_INACTIVE ∧
    oldProfile.status = STATUS_ACTIVE) && !env.isLnnAcl profile) (.accountAclInactive trustProfile)
  notifyIf (decide (accountAclActiveCount = 1 ∧ profile.status = STATUS_ACTIVE ∧
    oldProfile.status = STATUS_INACTIVE) && !env.isLnnAcl profile) (.accountAclActive trustProfile)

/-- `NotifyCheck`: the users became active, or inactive, with this update, and no entry
of the device is active any more. -/
def notifyCheck (profile oldProfile : AccessControlProfile) : DpProg Unit := do
  (notifyAccountAclCheck env profile oldProfile).getD ()
  let resultCount ← (checkDeviceIdAndUserIdActive env profile).orFail .notifyTrustDeviceFail
  let trustProfile := convertToTrustDeviceProfile profile
  notifyIf (decide (resultCount = 1 ∧ profile.status = STATUS_ACTIVE ∧
    oldProfile.status = STATUS_INACTIVE) && !env.isLnnAcl profile)
    (.trustDeviceProfileActive trustProfile)
  notifyIf (decide (resultCount = 0 ∧ profile.status = STATUS_INACTIVE ∧
    oldProfile.status = STATUS_ACTIVE) && !env.isLnnAcl profile)
    (.trustDeviceProfileInactive trustProfile)
  let isExists ← (checkDeviceIdActiveAclExists env profile).getD false
  notifyIf (!isExists && !env.isLnnAcl profile) (.deviceAclInactiveByUpdate trustProfile)

/-- `UpdateAccessControlProfile`; only the trust device row of the new device is updated. -/
def updateAccessControlProfile (profile : AccessControlProfile) : DpProg Unit := do
  let oldProfile ← (updateAccessControlProfileLocked profile).atomic
  (notifyCheck env profile oldProfile).getD ()
  let status ← (getResultStatus profile.trustDeviceId).getD STATUS_INACTIVE
  (updateTrustDeviceProfile { convertToTrustDeviceProfile profile with status }).orFail
    .updateTrustDeviceProfileFail

/-! ## Delete -/

/-- The common body of `DeleteAccesserCheck` and `DeleteAccesseeCheck`: the party is read,
and deleted when exactly one access control row names it. -/
def deletePartyCheck (role : Role) (err : DpError) (id : Int) : DpProg Party := do
  let rows ← getResultSet fun t => t.accessControl.select fun row => decide (row.partyId role = id)
  let parties ← getResultSet fun t => (t.parties role).select fun a => decide (a.partyId = id)
  match decide (rows.length = 1) with
  | true =>
    execute (fun t => some (t.setParties
      ((t.parties role).delete fun a => decide (a.partyId = id)) role)) err
    return parties.headD {}
  | false => return parties.headD {}

/-- `DeleteAccesserCheck`. -/
def deleteAccesserCheck (accesserId : Int) : DpProg Accesser :=
  deletePartyCheck .accesser .deleteAccesserProfileFail accesserId

/-- `DeleteAccesseeCheck`. -/
def deleteAccesseeCheck (accesseeId : Int) : DpProg Accessee :=
  deletePartyCheck .accessee .deleteAccesseeProfileFail accesseeId

/-- Delete the row of an entry from `access_control_table`. -/
def Tables.deleteAcl (t : Tables) (accessControlId : Int) : Tables :=
  { t with
    accessControl := t.accessControl.delete fun row =>
      decide (row.accessControlId = accessControlId) }

/-- `DeleteAccessControlProfileCheck`: the accessee, the accesser and then the row itself. -/
def deleteAccessControlProfileCheck (profile : AccessControlProfile) :
    DpProg AccessControlProfile := do
  let accessee ← deleteAccesseeCheck profile.accesseeId
  let accesser ← deleteAccesserCheck profile.accesserId
  execute (fun t => some (t.deleteAcl profile.accessControlId)) .deleteAccessControlProfileFail
  return { profile with accesser, accessee }

/-- The part of `DeleteAccessControlProfile` under the lock: the deleted entry. -/
def deleteAccessControlProfileLocked (accessControlId : Int) : DpProg AccessControlProfile := do
  match ← getResultSet (·.aclById accessControlId) with
  | [] => throw .notFindData
  | row :: _ => deleteAccessControlProfileCheck { row with }

/-- `DeleteTrustDeviceCheck`: notify about users, devices and accounts that lost their last
entry, then delete or update the trust device row. -/
def deleteTrustDeviceCheck (profile : AccessControlProfile) : DpProg Unit := do
  let trustProfile := convertToTrustDeviceProfile profile
  let isExists ← (checkDeviceIdAndUserIdExists env profile).getD false
  notifyIf (!isExists && !env.isLnnAcl profile) (.trustDeviceProfileDelete trustProfile)
  let isExists ← (checkDeviceIdActiveAclExists env profile).getD false
  notifyIf (!isExists && !env.isLnnAcl profile) (.deviceAclInactiveByDelete trustProfile)
  let isExists ← (checkAccountAclExists env profile).getD false
  let trustProfile ← notifyAccountAcl env (!isExists && !env.isLnnAcl profile) profile
    trustProfile .accountAclDelete
  match ← getResultSet (·.aclRows profile.trustDeviceId) with
  | [] => deleteTrustDeviceProfile profile.trustDeviceId
  | _ :: _ =>
    let status ← (getResultStatus profile.trustDeviceId).getD STATUS_INACTIVE
    updateTrustDeviceProfile { trustProfile with status }

/-- `DeleteAccessControlProfile`. -/
def deleteAccessControlProfile (accessControlId : Int) : DpProg Unit := do
  let profile ← (deleteAccessControlProfileLocked accessControlId).atomic
  deleteTrustDeviceCheck env profile

end Operations

/-! ## Calls and runs -/

/-- The calls of the clients. -/
inductive Call where
  | put (profile : AccessControlProfile)
  | update (profile : AccessControlProfile)
  | delete (accessControlId : Int)
  deriving DecidableEq, Repr

/-- The profile a call brings, if any, is inactive or active. -/
def Call.StatusKnown : Call → Prop
  | put profile => profile.status = STATUS_INACTIVE ∨ profile.status = STATUS_ACTIVE
  | update profile => profile.status = STATUS_INACTIVE ∨ profile.status = STATUS_ACTIVE
  | delete _ => True

instance : DecidablePred Call.StatusKnown
  | .put _ => inferInstanceAs (Decidable (_ ∨ _))
  | .update _ => inferInstanceAs (Decidable (_ ∨ _))
  | .delete _ => inferInstanceAs (Decidable True)

/-- The call is a Put or a Delete. -/
def Call.Binds : Call → Prop
  | .update _ => False
  | _ => True

instance : DecidablePred Call.Binds
  | .put _ => inferInstanceAs (Decidable True)
  | .update _ => inferInstanceAs (Decidable False)
  | .delete _ => inferInstanceAs (Decidable True)

/-- The program a call runs. -/
def Call.prog (env : Env) : Call → DpProg Unit
  | put profile => putAccessControlProfile env profile
  | update profile => updateAccessControlProfile env profile
  | delete accessControlId => deleteAccessControlProfile env accessControlId

/-- The world after one call, whatever it returned. -/
def Call.run (env : Env) (w : World) (call : Call) : World := ((call.prog env).exec w).2

/-- A call returns something in the world it leads to. -/
theorem Call.exists_exec (env : Env) (w : World) (call : Call) :
    ∃ r, (call.prog env).exec w = (r, call.run env w) :=
  ⟨_, rfl⟩

/-- The world after a sequence of calls. -/
def run (env : Env) (w : World) (calls : List Call) : World := calls.foldl (Call.run env) w

/-- An entry that binds the local device to a peer. -/
def boundEntry : AccessControlProfile where
  trustDeviceId := "peer"
  status := STATUS_ACTIVE
  accesser := { deviceId := "local", userId := 100 }
  accessee := { deviceId := "peer", userId := 100 }

/-- The same entry under the ids that a Put into empty tables gives it. -/
def storedEntry : AccessControlProfile :=
  { boundEntry with
    accessControlId := 1
    accesserId := 1
    accesseeId := 1
    accesser := { boundEntry.accesser with partyId := 1 }
    accessee := { boundEntry.accessee with partyId := 1 } }

/-- The stored entry, made inactive. -/
def inactiveEntry : AccessControlProfile := { storedEntry with status := STATUS_INACTIVE }

end DeviceProfile
