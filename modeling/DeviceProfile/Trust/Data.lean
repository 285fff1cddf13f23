import DeviceProfile.Library.Program
import DeviceProfile.Library.Table

/-!
# Data of the trust profile store

The four tables of the trust database with the rows, keys and unique indexes
of the version-3 schema, and the profiles the manager exchanges with its
callers. The store's world adds the outcome of the pending database calls and
the notifications sent so far.
-/

namespace DeviceProfile

open Library

/-- Strings are their characters. -/
abbrev Text := List Char

instance : Coe String Text := ⟨String.toList⟩

instance : LawfulBEq Text := inferInstance

/-- The status of an active entry. -/
def STATUS_ACTIVE : Int := 1

/-- The status of an inactive entry; also the initial value of status variables. -/
def STATUS_INACTIVE : Int := 0

/-- The bind type of devices that share one account. -/
def SAME_ACCOUNT : Int := 1

/-- The two sides of an access control entry. -/
inductive Role where
  | accesser
  | accessee
  deriving DecidableEq, Repr

/-- One side of an access control entry. `Accesser` and `Accessee` have the same
fields, and so have the rows of their tables. -/
structure Party where
  partyId : Int := 0
  deviceId : Text := []
  userId : Int := -1
  accountId : Text := []
  tokenId : Int := -1
  bundleName : Text := []
  hapSignature : Text := []
  bindLevel : Int := 0
  deviceName : Text := []
  serviceName : Text := []
  credentialId : Int := -1
  credentialIdStr : Text := []
  status : Int := -1
  sessionKeyId : Int := -1
  skTimeStamp : Int := -1
  extraData : Text := []
  deriving DecidableEq, Repr

/-- The party that asks for access. -/
abbrev Accesser := Party

/-- The party that is accessed. -/
abbrev Accessee := Party

/-- The columns of `unique_accesser_table` and of `unique_accessee_table`, which
are also the columns the `WHERE_ALL` selections compare. -/
structure PartyIndex where
  deviceId : Text
  userId : Int
  accountId : Text
  tokenId : Int
  bundleName : Text
  hapSignature : Text
  bindLevel : Int
  deviceName : Text
  serviceName : Text
  credentialIdStr : Text
  status : Int
  sessionKeyId : Int
  deriving DecidableEq, Repr

/-- The index columns of a party. -/
def Party.indexColumns (a : Party) : PartyIndex :=
  { deviceId := a.deviceId
    userId := a.userId
    accountId := a.accountId
    tokenId := a.tokenId
    bundleName := a.bundleName
    hapSignature := a.hapSignature
    bindLevel := a.bindLevel
    deviceName := a.deviceName
    serviceName := a.serviceName
    credentialIdStr := a.credentialIdStr
    status := a.status
    sessionKeyId := a.sessionKeyId }

/-- A row of `access_control_table`. -/
structure AccessControlRow where
  accessControlId : Int := 0
  accesserId : Int := 0
  accesseeId : Int := 0
  trustDeviceId : Text := []
  sessionKey : Text := []
  bindType : Int := 0
  authenticationType : Int := 0
  deviceIdType : Int := 0
  deviceIdHash : Text := []
  status : Int := -1
  validPeriod : Int := -1
  lastAuthTime : Int := -1
  bindLevel : Int := 0
  extraData : Text := []
  deriving DecidableEq, Repr

/-- The columns of `unique_access_control_table`, which are also the columns the
`WHERE_ALL_EXCEPT_STATUS` selection compares. -/
structure AccessControlIndex where
  accesserId : Int
  accesseeId : Int
  trustDeviceId : Text
  sessionKey : Text
  bindType : Int
  authenticationType : Int
  deviceIdType : Int
  deviceIdHash : Text
  validPeriod : Int
  lastAuthTime : Int
  bindLevel : Int
  deriving DecidableEq, Repr

/-- The index columns of a row. -/
def AccessControlRow.indexColumns (r : AccessControlRow) : AccessControlIndex :=
  { accesserId := r.accesserId
    accesseeId := r.accesseeId
    trustDeviceId := r.trustDeviceId
    sessionKey := r.sessionKey
    bindType := r.bindType
    authenticationType := r.authenticationType
    deviceIdType := r.deviceIdType
    deviceIdHash := r.deviceIdHash
    validPeriod := r.validPeriod
    lastAuthTime := r.lastAuthTime
    bindLevel := r.bindLevel }

/-- The id column that names the party of the given side. -/
def AccessControlRow.partyId (r : AccessControlRow) : Role → Int
  | .accesser => r.accesserId
  | .accessee => r.accesseeId

/-- An access control entry with both of its parties. -/
structure AccessControlProfile extends AccessControlRow where
  accesser : Accesser := {}
  accessee : Accessee := {}
  deriving DecidableEq, Repr

/-- The party of the given side. -/
def AccessControlProfile.party (p : AccessControlProfile) : Role → Party
  | .accesser => p.accesser
  | .accessee => p.accessee

/-- A profile is its row and its parties. -/
theorem AccessControlProfile.eq_of_parties {p q : AccessControlProfile}
    (hrow : p.toAccessControlRow = q.toAccessControlRow)
    (hparty : ∀ role, p.party role = q.party role) : p = q := by
  have haccesser : p.accesser = q.accesser := hparty .accesser
  have haccessee : p.accessee = q.accessee := hparty .accessee
  cases p
  cases q
  simp only at hrow haccesser haccessee
  rw [hrow, haccesser, haccessee]

/-- A row of `trust_device_table`; `rowId` is the implicit key of the table. -/
structure TrustDeviceRow where
  rowId : Int
  deviceId : Text
  deviceIdType : Int
  deviceIdHash : Text
  status : Int
  deriving DecidableEq, Repr

/-- What the manager and the listeners learn about a trusted device. -/
structure TrustDeviceProfile where
  deviceId : Text := []
  deviceIdType : Int := 0
  deviceIdHash : Text := []
  status : Int := -1
  bindType : Int := 0
  peerUserId : Int := -1
  localUserId : Int := -1
  peerAccountId : Text := []
  localAccountId : Text := []
  serviceIdList : List Int := []
  deriving DecidableEq, Repr

/-- The error codes the trust profile manager returns. -/
inductive DpError where
  | getResultSetFail
  | notFindData
  | invalidParams
  | putTrustDeviceProfileFail
  | putAclProfileFail
  | putAccesserProfileFail
  | putAccesseeProfileFail
  | updateTrustDeviceProfileFail
  | updateAclProfileFail
  | updateAccesserProfileFail
  | updateAccesseeProfileFail
  | updateAclNotAllow
  | deleteTrustDeviceProfileFail
  | deleteAccessControlProfileFail
  | deleteAccesserProfileFail
  | deleteAccesseeProfileFail
  | notifyTrustDeviceFail
  deriving DecidableEq, Repr

/-- The notifications sent to the profile listeners, and to the device manager. -/
inductive Notice where
  | trustDeviceProfileAdd (profile : TrustDeviceProfile)
  | trustDeviceProfileUpdate (oldProfile newProfile : TrustDeviceProfile)
  | trustDeviceProfileDelete (profile : TrustDeviceProfile)
  | trustDeviceProfileActive (profile : TrustDeviceProfile)
  | trustDeviceProfileInactive (profile : TrustDeviceProfile)
  | deviceAclInactiveByDelete (profile : TrustDeviceProfile)
  | deviceAclInactiveByUpdate (profile : TrustDeviceProfile)
  | accountAclAdd (profile : TrustDeviceProfile)
  | accountAclDelete (profile : TrustDeviceProfile)
  | accountAclActive (profile : TrustDeviceProfile)
  | accountAclInactive (profile : TrustDeviceProfile)
  | dpAclAdd (accessControlId : Int) (trustDeviceId : Text) (bindType : Int)
  deriving DecidableEq, Repr

/-- The table of the parties of one side. -/
abbrev PartyTable := Table Party _ Party.partyId Party.indexColumns

/-- The table of the access control rows. -/
abbrev AccessControlTable :=
  Table AccessControlRow _ AccessControlRow.accessControlId AccessControlRow.indexColumns

/-- The primary key of `trust_device_table` is the device id. Its other unique index
contains that column and adds nothing. -/
abbrev TrustDeviceTable := Table TrustDeviceRow _ TrustDeviceRow.rowId TrustDeviceRow.deviceId

/-- The four tables of the trust database. -/
structure Tables where
  trustDevice : TrustDeviceTable := .empty
  accessControl : AccessControlTable := .empty
  accesser : PartyTable := .empty
  accessee : PartyTable := .empty

namespace Tables

/-- The table that holds the parties of one side. -/
def parties (t : Tables) : Role → PartyTable
  | .accesser => t.accesser
  | .accessee => t.accessee

/-- Replace the table that holds the parties of one side. -/
def setParties (t : Tables) (x : PartyTable) : Role → Tables
  | .accesser => { t with accesser := x }
  | .accessee => { t with accessee := x }

@[simp] theorem parties_setParties (t : Tables) (x : PartyTable) (role : Role) :
    (t.setParties x role).parties role = x := by
  cases role <;> rfl

/-- The other side keeps its table. -/
theorem parties_setParties_of_ne (t : Tables) (x : PartyTable) {role other : Role}
    (h : other ≠ role) : (t.setParties x role).parties other = t.parties other := by
  cases role <;> cases other <;> first | rfl | exact absurd rfl h

@[simp] theorem accessControl_setParties (t : Tables) (x : PartyTable) (role : Role) :
    (t.setParties x role).accessControl = t.accessControl := by
  cases role <;> rfl

@[simp] theorem trustDevice_setParties (t : Tables) (x : PartyTable) (role : Role) :
    (t.setParties x role).trustDevice = t.trustDevice := by
  cases role <;> rfl

end Tables

/-- The database, the outcome of its pending calls and the notifications sent so far. -/
structure World where
  tables : Tables := {}
  /-- Whether each of the next database calls fails; no entry means no failure. -/
  faults : List Bool := []
  /-- Notifications, oldest first. -/
  notices : List Notice := []

/-- Programs of the trust profile manager. -/
abbrev DpProg := Prog DpError World

end DeviceProfile
