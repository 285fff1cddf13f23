import DeviceProfile.Trust.QueryParams

/-!
# Rows of the trust tables

A profile is written into a row by naming each column and its type, and read again by the same
names and types. Two columns do not come back by the readers of entries: the device id type,
which they look for under the name of the device type, and the signature of a party, which they
do not look for. The readers of result sets give all columns back.
-/

namespace DeviceProfile

open Library

/-- The column of the number of an access control row. -/
def ACCESS_CONTROL_ID : Text := ("accessControlId" : Text)

/-- The column of the number of the accesser. -/
def ACCESSER_ID : Text := ("accesserId" : Text)

/-- The column of the number of the accessee. -/
def ACCESSEE_ID : Text := ("accesseeId" : Text)

/-- The column of the session key. -/
def SESSION_KEY : Text := ("sessionKey" : Text)

/-- The column of the way of authentication. -/
def AUTHENTICATION_TYPE : Text := ("authenticationType" : Text)

/-- The column of the level of the binding. -/
def BIND_LEVEL : Text := ("bindLevel" : Text)

/-- The column of the time a row is valid. -/
def VALID_PERIOD : Text := ("validPeriod" : Text)

/-- The column of the last authentication. -/
def LAST_AUTH_TIME : Text := ("lastAuthTime" : Text)

/-- The column of the extra data. -/
def EXTRA_DATA : Text := ("extraData" : Text)

/-- The column of a device. -/
def DEVICE_ID : Text := ("deviceId" : Text)

/-- The column of the kind of a device id. -/
def DEVICE_ID_TYPE : Text := ("deviceIdType" : Text)

/-- The column of the kind of a device. -/
def DEVICE_TYPE_ID : Text := ("deviceTypeId" : Text)

/-- The column of the hash of a device id. -/
def DEVICE_ID_HASH : Text := ("deviceIdHash" : Text)

/-! ## Integers of fixed width -/

/-- The integers of a `uint32_t`. -/
def IsUInt32 (n : Int) : Prop := 0 ≤ n ∧ n < 2 ^ 32

instance (n : Int) : Decidable (IsUInt32 n) := inferInstanceAs (Decidable (_ ∧ _))

/-- Conversion to `int32_t`. -/
def toInt32 (n : Int) : Int := n.bmod (2 ^ 32)

/-- Conversion to `uint32_t`. -/
def toUInt32 (n : Int) : Int := n % 2 ^ 32

theorem isInt32_toInt32 (n : Int) : IsInt32 (toInt32 n) := by
  have hlow := Int.le_bmod (x := n) (m := 2 ^ 32) (by omega)
  have hhigh := Int.bmod_lt (x := n) (m := 2 ^ 32) (by omega)
  rw [IsInt32, INT32_MIN, INT32_MAX, toInt32]
  omega

/-- A number without a sign is restored from its 32 bits. -/
theorem toUInt32_toInt32 {n : Int} (h : IsUInt32 n) : toUInt32 (toInt32 n) = n := by
  rw [toUInt32, toInt32, show (2 ^ 32 : Int) = ((2 ^ 32 : Nat) : Int) from rfl, Int.bmod_emod]
  exact Int.emod_eq_of_lt h.1 h.2

/-! ## Cells and rows -/

/-- The library of the database: cells of each type, what a cell is after it was written to a
table and read from it, and the readers of each type. -/
structure NativeRdb (Cell : Type) where
  putInt : Int → Cell
  putLong : Int → Cell
  putString : Text → Cell
  stored : Cell → Cell
  getInt : Cell → Option Int
  getLong : Cell → Option Int
  getString : Cell → Option Text

/-- A cell that was written and read gives its value to a reader of its own type. -/
structure NativeRdb.IsFaithful {Cell : Type} (rdb : NativeRdb Cell) : Prop where
  getInt_stored : ∀ n, IsInt32 n → rdb.getInt (rdb.stored (rdb.putInt n)) = some n
  getLong_stored : ∀ n, IsInt64 n → rdb.getLong (rdb.stored (rdb.putLong n)) = some n
  getString_stored : ∀ s, rdb.getString (rdb.stored (rdb.putString s)) = some s

/-- The columns of a row with their cells. -/
abbrev ValuesBucket (Cell : Type) := List (Text × Cell)

/-- No column is named twice. -/
def ValuesBucket.IsRow {Cell : Type} (values : ValuesBucket Cell) : Prop :=
  (values.map Prod.fst).Nodup

/-- A cell of a row is found under its column. -/
theorem ValuesBucket.lookup_of_mem {Cell : Type} {values : ValuesBucket Cell}
    (hrow : values.IsRow) {column : Text} {cell : Cell} (hmem : (column, cell) ∈ values) :
    values.lookup column = some cell := by
  induction values with
  | nil => cases hmem
  | cons first rest ih =>
    obtain ⟨hfirst, hrest⟩ := List.nodup_cons.mp hrow
    rcases List.mem_cons.mp hmem with rfl | hmem
    · exact List.lookup_cons_self
    · have hne : column ≠ first.1 := by
        rintro rfl
        exact hfirst (List.mem_map.mpr ⟨_, hmem, rfl⟩)
      rw [List.lookup_cons, beq_false_of_ne hne]
      exact ih hrest hmem

namespace NativeRdb

variable {Cell : Type} (rdb : NativeRdb Cell)

/-- `GetIntValue`: the column is there and an integer. -/
def getIntValue (values : ValuesBucket Cell) (property : Text) : Option Int :=
  (values.lookup property).bind rdb.getInt

/-- `GetLongValue` -/
def getLongValue (values : ValuesBucket Cell) (property : Text) : Option Int :=
  (values.lookup property).bind rdb.getLong

/-- `GetStringValue` -/
def getStringValue (values : ValuesBucket Cell) (property : Text) : Option Text :=
  (values.lookup property).bind rdb.getString

/-- The row of a table with these columns, after it was written and read. -/
def readBack (values : ValuesBucket Cell) : ValuesBucket Cell :=
  values.map fun x => (x.1, rdb.stored x.2)

section ReadBack

variable {rdb} (hrdb : rdb.IsFaithful) {values : ValuesBucket Cell} (hrow : values.IsRow)
  {column : Text}

include hrow

/-- A cell is read back as the database stores it. -/
theorem lookup_readBack {cell : Cell} (hmem : (column, cell) ∈ values) :
    (rdb.readBack values).lookup column = some (rdb.stored cell) := by
  refine ValuesBucket.lookup_of_mem ?_ (List.mem_map_of_mem hmem)
  have hcolumns : (rdb.readBack values).map Prod.fst = values.map Prod.fst := by
    rw [readBack, List.map_map]
    rfl
  rw [ValuesBucket.IsRow, hcolumns]
  exact hrow

include hrdb

/-- A number of 32 bits is read back. -/
theorem getIntValue_readBack {n : Int} (hmem : (column, rdb.putInt n) ∈ values)
    (hn : IsInt32 n) : rdb.getIntValue (rdb.readBack values) column = some n := by
  rw [getIntValue, lookup_readBack hrow hmem]
  exact hrdb.getInt_stored n hn

/-- A number of 64 bits is read back. -/
theorem getLongValue_readBack {n : Int} (hmem : (column, rdb.putLong n) ∈ values)
    (hn : IsInt64 n) : rdb.getLongValue (rdb.readBack values) column = some n := by
  rw [getLongValue, lookup_readBack hrow hmem]
  exact hrdb.getLong_stored n hn

/-- A text is read back. -/
theorem getStringValue_readBack {s : Text} (hmem : (column, rdb.putString s) ∈ values) :
    rdb.getStringValue (rdb.readBack values) column = some s := by
  rw [getStringValue, lookup_readBack hrow hmem]
  exact hrdb.getString_stored s

end ReadBack

/-- A column that was not written is not read. -/
theorem getIntValue_readBack_of_not_mem {values : ValuesBucket Cell} {column : Text}
    (hcolumn : column ∉ values.map Prod.fst) :
    rdb.getIntValue (rdb.readBack values) column = none := by
  have hnone : (rdb.readBack values).lookup column = none := by
    rw [List.lookup_eq_none_iff]
    intro x hx
    obtain ⟨y, hy, rfl⟩ := List.mem_map.mp hx
    exact bne_iff_ne.mpr fun h => hcolumn (List.mem_map.mpr ⟨y, hy, h.symm⟩)
  rw [getIntValue, hnone, Option.bind_none]

end NativeRdb

/-! ## Parties -/

/-- The names of the columns of a party. -/
structure PartyColumns where
  partyId : Text
  deviceId : Text
  userId : Text
  accountId : Text
  tokenId : Text
  bundleName : Text
  hapSignature : Text
  bindLevel : Text
  deviceName : Text
  serviceName : Text
  credentialId : Text
  credentialIdStr : Text
  status : Text
  sessionKeyId : Text
  skTimeStamp : Text
  extraData : Text

/-- The columns of `accesser_table`. -/
def ACCESSER_COLUMNS : PartyColumns where
  partyId := ACCESSER_ID
  deviceId := ACCESSER_DEVICE_ID
  userId := ACCESSER_USER_ID
  accountId := ACCESSER_ACCOUNT_ID
  tokenId := ACCESSER_TOKEN_ID
  bundleName := ("accesserBundleName" : Text)
  hapSignature := ("accesserHapSignature" : Text)
  bindLevel := ("accesserBindLevel" : Text)
  deviceName := ("accesserDeviceName" : Text)
  serviceName := ("accesserServiceName" : Text)
  credentialId := ("accesserCredentialId" : Text)
  credentialIdStr := ("accesserCredentialIdStr" : Text)
  status := ("accesserStatus" : Text)
  sessionKeyId := ("accesserSessionKeyId" : Text)
  skTimeStamp := ("accesserSKTimeStamp" : Text)
  extraData := ("accesserExtraData" : Text)

/-- The columns of `accessee_table`. -/
def ACCESSEE_COLUMNS : PartyColumns where
  partyId := ACCESSEE_ID
  deviceId := ACCESSEE_DEVICE_ID
  userId := ACCESSEE_USER_ID
  accountId := ACCESSEE_ACCOUNT_ID
  tokenId := ACCESSEE_TOKEN_ID
  bundleName := ("accesseeBundleName" : Text)
  hapSignature := ("accesseeHapSignature" : Text)
  bindLevel := ("accesseeBindLevel" : Text)
  deviceName := ("accesseeDeviceName" : Text)
  serviceName := ("accesseeServiceName" : Text)
  credentialId := ("accesseeCredentialId" : Text)
  credentialIdStr := ("accesseeCredentialIdStr" : Text)
  status := ("accesseeStatus" : Text)
  sessionKeyId := ("accesseeSessionKeyId" : Text)
  skTimeStamp := ("accesseeSKTimeStamp" : Text)
  extraData := ("accesseeExtraData" : Text)

/-- All columns, in the order in which they are written. -/
def PartyColumns.names (columns : PartyColumns) : List Text :=
  [columns.partyId, columns.deviceId, columns.userId, columns.accountId, columns.tokenId,
    columns.bundleName, columns.hapSignature, columns.bindLevel, columns.deviceName,
    columns.serviceName, columns.credentialId, columns.credentialIdStr, columns.status,
    columns.sessionKeyId, columns.skTimeStamp, columns.extraData]

/-- The fields are in the range of their types. -/
structure Party.InRange (a : Party) : Prop where
  partyId : IsInt64 a.partyId
  userId : IsInt32 a.userId
  tokenId : IsInt64 a.tokenId
  bindLevel : IsUInt32 a.bindLevel
  credentialId : IsInt32 a.credentialId
  status : IsInt32 a.status
  sessionKeyId : IsInt32 a.sessionKeyId
  skTimeStamp : IsInt64 a.skTimeStamp

namespace NativeRdb

variable {Cell : Type} (rdb : NativeRdb Cell)

/-- The body of `AccesserToEntries` and of `AccesseeToEntries`. -/
def partyToEntries (columns : PartyColumns) (a : Party) : ValuesBucket Cell :=
  [(columns.partyId, rdb.putLong a.partyId),
    (columns.deviceId, rdb.putString a.deviceId),
    (columns.userId, rdb.putInt a.userId),
    (columns.accountId, rdb.putString a.accountId),
    (columns.tokenId, rdb.putLong a.tokenId),
    (columns.bundleName, rdb.putString a.bundleName),
    (columns.hapSignature, rdb.putString a.hapSignature),
    (columns.bindLevel, rdb.putInt (toInt32 a.bindLevel)),
    (columns.deviceName, rdb.putString a.deviceName),
    (columns.serviceName, rdb.putString a.serviceName),
    (columns.credentialId, rdb.putInt a.credentialId),
    (columns.credentialIdStr, rdb.putString a.credentialIdStr),
    (columns.status, rdb.putInt a.status),
    (columns.sessionKeyId, rdb.putInt a.sessionKeyId),
    (columns.skTimeStamp, rdb.putLong a.skTimeStamp),
    (columns.extraData, rdb.putString a.extraData)]

/-- The body of `EntriesToAccesser` and of `EntriesToAccessee`: a column that is not there leaves
the field as it is. Nobody asks for the signature. -/
def entriesToParty (columns : PartyColumns) (values : ValuesBucket Cell) (a : Party) : Party where
  partyId := (rdb.getLongValue values columns.partyId).getD a.partyId
  deviceId := (rdb.getStringValue values columns.deviceId).getD a.deviceId
  userId := (rdb.getIntValue values columns.userId).getD a.userId
  accountId := (rdb.getStringValue values columns.accountId).getD a.accountId
  tokenId := (rdb.getLongValue values columns.tokenId).getD a.tokenId
  bundleName := (rdb.getStringValue values columns.bundleName).getD a.bundleName
  hapSignature := a.hapSignature
  bindLevel := ((rdb.getIntValue values columns.bindLevel).map toUInt32).getD a.bindLevel
  deviceName := (rdb.getStringValue values columns.deviceName).getD a.deviceName
  serviceName := (rdb.getStringValue values columns.serviceName).getD a.serviceName
  credentialId := (rdb.getIntValue values columns.credentialId).getD a.credentialId
  credentialIdStr := (rdb.getStringValue values columns.credentialIdStr).getD a.credentialIdStr
  status := (rdb.getIntValue values columns.status).getD a.status
  sessionKeyId := (rdb.getIntValue values columns.sessionKeyId).getD a.sessionKeyId
  skTimeStamp := (rdb.getLongValue values columns.skTimeStamp).getD a.skTimeStamp
  extraData := (rdb.getStringValue values columns.extraData).getD a.extraData

/-- The body of `ConvertToAccesser` and of `ConvertToAccessee`, for a row with all columns. -/
def convertToParty (columns : PartyColumns) (values : ValuesBucket Cell) : Party where
  partyId := (rdb.getLongValue values columns.partyId).getD 0
  deviceId := (rdb.getStringValue values columns.deviceId).getD []
  userId := (rdb.getIntValue values columns.userId).getD 0
  accountId := (rdb.getStringValue values columns.accountId).getD []
  tokenId := (rdb.getLongValue values columns.tokenId).getD 0
  bundleName := (rdb.getStringValue values columns.bundleName).getD []
  hapSignature := (rdb.getStringValue values columns.hapSignature).getD []
  bindLevel := toUInt32 ((rdb.getIntValue values columns.bindLevel).getD 0)
  deviceName := (rdb.getStringValue values columns.deviceName).getD []
  serviceName := (rdb.getStringValue values columns.serviceName).getD []
  credentialId := (rdb.getIntValue values columns.credentialId).getD 0
  credentialIdStr := (rdb.getStringValue values columns.credentialIdStr).getD []
  status := (rdb.getIntValue values columns.status).getD 0
  sessionKeyId := (rdb.getIntValue values columns.sessionKeyId).getD 0
  skTimeStamp := (rdb.getLongValue values columns.skTimeStamp).getD 0
  extraData := (rdb.getStringValue values columns.extraData).getD []

/-- The columns of the accesser, written from a profile. -/
def accesserToEntries (aclProfile : AccessControlProfile) : ValuesBucket Cell :=
  rdb.partyToEntries ACCESSER_COLUMNS aclProfile.accesser

/-- The columns of the accessee, written from a profile. -/
def accesseeToEntries (aclProfile : AccessControlProfile) : ValuesBucket Cell :=
  rdb.partyToEntries ACCESSEE_COLUMNS aclProfile.accessee

/-- Reads the columns of the accesser into a given object. -/
def entriesToAccesser (values : ValuesBucket Cell) (accesser : Accesser) : Accesser :=
  rdb.entriesToParty ACCESSER_COLUMNS values accesser

/-- Reads the columns of the accessee into a given object. -/
def entriesToAccessee (values : ValuesBucket Cell) (accessee : Accessee) : Accessee :=
  rdb.entriesToParty ACCESSEE_COLUMNS values accessee

/-- Reads the columns of the accesser into a fresh object. -/
def convertToAccesser (values : ValuesBucket Cell) : Accesser :=
  rdb.convertToParty ACCESSER_COLUMNS values

/-- Reads the columns of the accessee into a fresh object. -/
def convertToAccessee (values : ValuesBucket Cell) : Accessee :=
  rdb.convertToParty ACCESSEE_COLUMNS values

/-- Every column of the row reads as the field of the party. -/
structure HoldsParty (columns : PartyColumns) (values : ValuesBucket Cell) (a : Party) : Prop where
  partyId : rdb.getLongValue values columns.partyId = some a.partyId
  deviceId : rdb.getStringValue values columns.deviceId = some a.deviceId
  userId : rdb.getIntValue values columns.userId = some a.userId
  accountId : rdb.getStringValue values columns.accountId = some a.accountId
  tokenId : rdb.getLongValue values columns.tokenId = some a.tokenId
  bundleName : rdb.getStringValue values columns.bundleName = some a.bundleName
  hapSignature : rdb.getStringValue values columns.hapSignature = some a.hapSignature
  bindLevel : rdb.getIntValue values columns.bindLevel = some (toInt32 a.bindLevel)
  deviceName : rdb.getStringValue values columns.deviceName = some a.deviceName
  serviceName : rdb.getStringValue values columns.serviceName = some a.serviceName
  credentialId : rdb.getIntValue values columns.credentialId = some a.credentialId
  credentialIdStr : rdb.getStringValue values columns.credentialIdStr = some a.credentialIdStr
  status : rdb.getIntValue values columns.status = some a.status
  sessionKeyId : rdb.getIntValue values columns.sessionKeyId = some a.sessionKeyId
  skTimeStamp : rdb.getLongValue values columns.skTimeStamp = some a.skTimeStamp
  extraData : rdb.getStringValue values columns.extraData = some a.extraData

variable {rdb} {columns : PartyColumns} {values : ValuesBucket Cell} {a : Party}

/-- A row that was written and read holds the party. -/
theorem holdsParty_readBack (hrdb : rdb.IsFaithful) (hcolumns : columns.names.Nodup)
    (ha : a.InRange) :
    rdb.HoldsParty columns (rdb.readBack (rdb.partyToEntries columns a)) a := by
  have hrow : (rdb.partyToEntries columns a).IsRow := hcolumns
  have hlevel := isInt32_toInt32 a.bindLevel
  constructor
  · exact getLongValue_readBack hrdb hrow (by simp [partyToEntries]) ha.partyId
  · exact getStringValue_readBack hrdb hrow (by simp [partyToEntries])
  · exact getIntValue_readBack hrdb hrow (by simp [partyToEntries]) ha.userId
  · exact getStringValue_readBack hrdb hrow (by simp [partyToEntries])
  · exact getLongValue_readBack hrdb hrow (by simp [partyToEntries]) ha.tokenId
  · exact getStringValue_readBack hrdb hrow (by simp [partyToEntries])
  · exact getStringValue_readBack hrdb hrow (by simp [partyToEntries])
  · exact getIntValue_readBack hrdb hrow (by simp [partyToEntries]) hlevel
  · exact getStringValue_readBack hrdb hrow (by simp [partyToEntries])
  · exact getStringValue_readBack hrdb hrow (by simp [partyToEntries])
  · exact getIntValue_readBack hrdb hrow (by simp [partyToEntries]) ha.credentialId
  · exact getStringValue_readBack hrdb hrow (by simp [partyToEntries])
  · exact getIntValue_readBack hrdb hrow (by simp [partyToEntries]) ha.status
  · exact getIntValue_readBack hrdb hrow (by simp [partyToEntries]) ha.sessionKeyId
  · exact getLongValue_readBack hrdb hrow (by simp [partyToEntries]) ha.skTimeStamp
  · exact getStringValue_readBack hrdb hrow (by simp [partyToEntries])

/-- The reader of entries gives back all fields but the signature. -/
theorem HoldsParty.entriesToParty (h : rdb.HoldsParty columns values a) (ha : a.InRange)
    (target : Party) :
    rdb.entriesToParty columns values target =
      { a with hapSignature := target.hapSignature } := by
  simp only [NativeRdb.entriesToParty, h.partyId, h.deviceId, h.userId, h.accountId, h.tokenId,
    h.bundleName, h.bindLevel, h.deviceName, h.serviceName, h.credentialId, h.credentialIdStr,
    h.status, h.sessionKeyId, h.skTimeStamp, h.extraData, Option.map_some, Option.getD_some,
    toUInt32_toInt32 ha.bindLevel]

/-- The reader of result sets gives back all fields. -/
theorem HoldsParty.convertToParty (h : rdb.HoldsParty columns values a) (ha : a.InRange) :
    rdb.convertToParty columns values = a := by
  simp only [NativeRdb.convertToParty, h.partyId, h.deviceId, h.userId, h.accountId, h.tokenId,
    h.bundleName, h.hapSignature, h.bindLevel, h.deviceName, h.serviceName, h.credentialId,
    h.credentialIdStr, h.status, h.sessionKeyId, h.skTimeStamp, h.extraData, Option.getD_some,
    toUInt32_toInt32 ha.bindLevel]

end NativeRdb

theorem nodup_ACCESSER_COLUMNS : ACCESSER_COLUMNS.names.Nodup := by decide

theorem nodup_ACCESSEE_COLUMNS : ACCESSEE_COLUMNS.names.Nodup := by decide

/-! ## Access control entries -/

/-- The fields are in the range of their types. -/
structure AccessControlRow.InRange (r : AccessControlRow) : Prop where
  accessControlId : IsInt64 r.accessControlId
  accesserId : IsInt64 r.accesserId
  accesseeId : IsInt64 r.accesseeId
  bindType : IsUInt32 r.bindType
  authenticationType : IsUInt32 r.authenticationType
  deviceIdType : IsUInt32 r.deviceIdType
  status : IsInt32 r.status
  validPeriod : IsInt64 r.validPeriod
  lastAuthTime : IsInt64 r.lastAuthTime
  bindLevel : IsUInt32 r.bindLevel

namespace NativeRdb

variable {Cell : Type} (rdb : NativeRdb Cell)

/-- The columns of an access control row. A column of 32 bits takes the number into its range. -/
def accessControlProfileToEntries (profile : AccessControlProfile) : ValuesBucket Cell :=
  [(ACCESS_CONTROL_ID, rdb.putLong profile.accessControlId),
    (ACCESSER_ID, rdb.putLong profile.accesserId),
    (ACCESSEE_ID, rdb.putLong profile.accesseeId),
    (TRUST_DEVICE_ID, rdb.putString profile.trustDeviceId),
    (AUTHENTICATION_TYPE, rdb.putInt (toInt32 profile.authenticationType)),
    (DEVICE_ID_TYPE, rdb.putInt (toInt32 profile.deviceIdType)),
    (DEVICE_ID_HASH, rdb.putString profile.deviceIdHash),
    (BIND_TYPE, rdb.putInt (toInt32 profile.bindType)),
    (SESSION_KEY, rdb.putString profile.sessionKey),
    (LAST_AUTH_TIME, rdb.putLong profile.lastAuthTime),
    (VALID_PERIOD, rdb.putLong profile.validPeriod),
    (STATUS, rdb.putInt profile.status),
    (BIND_LEVEL, rdb.putInt (toInt32 profile.bindLevel)),
    (EXTRA_DATA, rdb.putString profile.extraData)]

/-- The device id type is looked for under the name of the device type. -/
def entriesToAccessControlProfile (values : ValuesBucket Cell) (profile : AccessControlProfile) :
    AccessControlProfile where
  accessControlId := (rdb.getLongValue values ACCESS_CONTROL_ID).getD profile.accessControlId
  accesserId := (rdb.getLongValue values ACCESSER_ID).getD profile.accesserId
  accesseeId := (rdb.getLongValue values ACCESSEE_ID).getD profile.accesseeId
  sessionKey := (rdb.getStringValue values SESSION_KEY).getD profile.sessionKey
  bindType := ((rdb.getIntValue values BIND_TYPE).map toUInt32).getD profile.bindType
  authenticationType :=
    ((rdb.getIntValue values AUTHENTICATION_TYPE).map toUInt32).getD profile.authenticationType
  bindLevel := ((rdb.getIntValue values BIND_LEVEL).map toUInt32).getD profile.bindLevel
  status := (rdb.getIntValue values STATUS).getD profile.status
  validPeriod := (rdb.getLongValue values VALID_PERIOD).getD profile.validPeriod
  lastAuthTime := (rdb.getLongValue values LAST_AUTH_TIME).getD profile.lastAuthTime
  trustDeviceId := (rdb.getStringValue values TRUST_DEVICE_ID).getD profile.trustDeviceId
  deviceIdType :=
    ((rdb.getIntValue values DEVICE_TYPE_ID).map toUInt32).getD profile.deviceIdType
  deviceIdHash := (rdb.getStringValue values DEVICE_ID_HASH).getD profile.deviceIdHash
  extraData := (rdb.getStringValue values EXTRA_DATA).getD profile.extraData
  accesser := profile.accesser
  accessee := profile.accessee

/-- `ConvertToAccessControlProfile`, for a row with all columns. -/
def convertToAccessControlRow (values : ValuesBucket Cell) : AccessControlRow where
  accessControlId := (rdb.getLongValue values ACCESS_CONTROL_ID).getD 0
  accesserId := (rdb.getLongValue values ACCESSER_ID).getD 0
  accesseeId := (rdb.getLongValue values ACCESSEE_ID).getD 0
  trustDeviceId := (rdb.getStringValue values TRUST_DEVICE_ID).getD []
  sessionKey := (rdb.getStringValue values SESSION_KEY).getD []
  bindType := toUInt32 ((rdb.getIntValue values BIND_TYPE).getD 0)
  authenticationType := toUInt32 ((rdb.getIntValue values AUTHENTICATION_TYPE).getD 0)
  deviceIdType := toUInt32 ((rdb.getIntValue values DEVICE_ID_TYPE).getD 0)
  deviceIdHash := (rdb.getStringValue values DEVICE_ID_HASH).getD []
  status := (rdb.getIntValue values STATUS).getD 0
  validPeriod := (rdb.getLongValue values VALID_PERIOD).getD 0
  lastAuthTime := (rdb.getLongValue values LAST_AUTH_TIME).getD 0
  bindLevel := toUInt32 ((rdb.getIntValue values BIND_LEVEL).getD 0)
  extraData := (rdb.getStringValue values EXTRA_DATA).getD []

/-- Every column of the row reads as the field of the entry. -/
structure HoldsAccessControl (values : ValuesBucket Cell) (r : AccessControlRow) : Prop where
  accessControlId : rdb.getLongValue values ACCESS_CONTROL_ID = some r.accessControlId
  accesserId : rdb.getLongValue values ACCESSER_ID = some r.accesserId
  accesseeId : rdb.getLongValue values ACCESSEE_ID = some r.accesseeId
  trustDeviceId : rdb.getStringValue values TRUST_DEVICE_ID = some r.trustDeviceId
  sessionKey : rdb.getStringValue values SESSION_KEY = some r.sessionKey
  bindType : rdb.getIntValue values BIND_TYPE = some (toInt32 r.bindType)
  authenticationType :
    rdb.getIntValue values AUTHENTICATION_TYPE = some (toInt32 r.authenticationType)
  deviceIdType : rdb.getIntValue values DEVICE_ID_TYPE = some (toInt32 r.deviceIdType)
  deviceIdHash : rdb.getStringValue values DEVICE_ID_HASH = some r.deviceIdHash
  status : rdb.getIntValue values STATUS = some r.status
  validPeriod : rdb.getLongValue values VALID_PERIOD = some r.validPeriod
  lastAuthTime : rdb.getLongValue values LAST_AUTH_TIME = some r.lastAuthTime
  bindLevel : rdb.getIntValue values BIND_LEVEL = some (toInt32 r.bindLevel)
  extraData : rdb.getStringValue values EXTRA_DATA = some r.extraData

variable {rdb}

/-- A row is read back with all its columns. -/
theorem holdsAccessControl_readBack (hrdb : rdb.IsFaithful) {p : AccessControlProfile}
    (hp : p.toAccessControlRow.InRange) :
    rdb.HoldsAccessControl (rdb.readBack (rdb.accessControlProfileToEntries p))
      p.toAccessControlRow := by
  have hnames : (rdb.accessControlProfileToEntries p).map Prod.fst =
      [ACCESS_CONTROL_ID, ACCESSER_ID, ACCESSEE_ID, TRUST_DEVICE_ID, AUTHENTICATION_TYPE,
        DEVICE_ID_TYPE, DEVICE_ID_HASH, BIND_TYPE, SESSION_KEY, LAST_AUTH_TIME, VALID_PERIOD,
        STATUS, BIND_LEVEL, EXTRA_DATA] := rfl
  have hrow : (rdb.accessControlProfileToEntries p).IsRow := by
    rw [ValuesBucket.IsRow, hnames]
    decide
  constructor
  · exact getLongValue_readBack hrdb hrow (by simp [accessControlProfileToEntries])
      hp.accessControlId
  · exact getLongValue_readBack hrdb hrow (by simp [accessControlProfileToEntries]) hp.accesserId
  · exact getLongValue_readBack hrdb hrow (by simp [accessControlProfileToEntries]) hp.accesseeId
  · exact getStringValue_readBack hrdb hrow (by simp [accessControlProfileToEntries])
  · exact getStringValue_readBack hrdb hrow (by simp [accessControlProfileToEntries])
  · exact getIntValue_readBack hrdb hrow (by simp [accessControlProfileToEntries])
      (isInt32_toInt32 _)
  · exact getIntValue_readBack hrdb hrow (by simp [accessControlProfileToEntries])
      (isInt32_toInt32 _)
  · exact getIntValue_readBack hrdb hrow (by simp [accessControlProfileToEntries])
      (isInt32_toInt32 _)
  · exact getStringValue_readBack hrdb hrow (by simp [accessControlProfileToEntries])
  · exact getIntValue_readBack hrdb hrow (by simp [accessControlProfileToEntries]) hp.status
  · exact getLongValue_readBack hrdb hrow (by simp [accessControlProfileToEntries]) hp.validPeriod
  · exact getLongValue_readBack hrdb hrow (by simp [accessControlProfileToEntries]) hp.lastAuthTime
  · exact getIntValue_readBack hrdb hrow (by simp [accessControlProfileToEntries])
      (isInt32_toInt32 _)
  · exact getStringValue_readBack hrdb hrow (by simp [accessControlProfileToEntries])

/-- The reader of entries gives back the row but for the device id type. -/
theorem entriesToAccessControlProfile_readBack (hrdb : rdb.IsFaithful) {p : AccessControlProfile}
    (hp : p.toAccessControlRow.InRange) (target : AccessControlProfile) :
    (rdb.entriesToAccessControlProfile (rdb.readBack (rdb.accessControlProfileToEntries p))
      target).toAccessControlRow =
        { p.toAccessControlRow with deviceIdType := target.deviceIdType } := by
  have h := holdsAccessControl_readBack hrdb hp
  have hnone : rdb.getIntValue (rdb.readBack (rdb.accessControlProfileToEntries p))
      DEVICE_TYPE_ID = none := by
    refine getIntValue_readBack_of_not_mem rdb ?_
    simp only [accessControlProfileToEntries, List.map_cons, List.map_nil]
    decide
  simp only [entriesToAccessControlProfile, h.accessControlId, h.accesserId, h.accesseeId,
    h.trustDeviceId, h.sessionKey, h.bindType, h.authenticationType, hnone, h.deviceIdHash,
    h.status, h.validPeriod, h.lastAuthTime, h.bindLevel, h.extraData, Option.map_some,
    Option.map_none, Option.getD_some, Option.getD_none, toUInt32_toInt32 hp.bindType,
    toUInt32_toInt32 hp.authenticationType, toUInt32_toInt32 hp.bindLevel]

/-- The reader of result sets gives back the row. -/
theorem convertToAccessControlRow_readBack (hrdb : rdb.IsFaithful) {p : AccessControlProfile}
    (hp : p.toAccessControlRow.InRange) :
    rdb.convertToAccessControlRow (rdb.readBack (rdb.accessControlProfileToEntries p)) =
      p.toAccessControlRow := by
  have h := holdsAccessControl_readBack hrdb hp
  simp only [convertToAccessControlRow, h.accessControlId, h.accesserId, h.accesseeId,
    h.trustDeviceId, h.sessionKey, h.bindType, h.authenticationType, h.deviceIdType,
    h.deviceIdHash, h.status, h.validPeriod, h.lastAuthTime, h.bindLevel, h.extraData,
    Option.getD_some, toUInt32_toInt32 hp.bindType, toUInt32_toInt32 hp.authenticationType,
    toUInt32_toInt32 hp.deviceIdType, toUInt32_toInt32 hp.bindLevel]

end NativeRdb

/-! ## Trusted devices -/

/-- The written fields are in the range of their types. -/
structure TrustDeviceProfile.InRange (p : TrustDeviceProfile) : Prop where
  deviceIdType : IsUInt32 p.deviceIdType
  status : IsInt32 p.status

/-- Two profiles agree in the written fields. -/
structure TrustDeviceProfile.SameRow (p q : TrustDeviceProfile) : Prop where
  deviceId : p.deviceId = q.deviceId
  deviceIdType : p.deviceIdType = q.deviceIdType
  deviceIdHash : p.deviceIdHash = q.deviceIdHash
  status : p.status = q.status

namespace NativeRdb

variable {Cell : Type} (rdb : NativeRdb Cell)

/-- The columns of a trusted device. -/
def trustDeviceProfileToEntries (profile : TrustDeviceProfile) : ValuesBucket Cell :=
  [(DEVICE_ID, rdb.putString profile.deviceId),
    (DEVICE_ID_TYPE, rdb.putInt (toInt32 profile.deviceIdType)),
    (DEVICE_ID_HASH, rdb.putString profile.deviceIdHash),
    (STATUS, rdb.putInt profile.status)]

/-- The device id type is looked for under the name of the device type here as well. -/
def entriesToTrustDeviceProfile (values : ValuesBucket Cell) (profile : TrustDeviceProfile) :
    TrustDeviceProfile :=
  { profile with
    deviceId := (rdb.getStringValue values DEVICE_ID).getD profile.deviceId
    deviceIdHash := (rdb.getStringValue values DEVICE_ID_HASH).getD profile.deviceIdHash
    deviceIdType :=
      ((rdb.getIntValue values DEVICE_TYPE_ID).map toUInt32).getD profile.deviceIdType
    status := (rdb.getIntValue values STATUS).getD profile.status }

/-- `ConvertToTrustDeviceProfile` of a row, for a row with all columns. -/
def convertToTrustDeviceRow (values : ValuesBucket Cell) (profile : TrustDeviceProfile) :
    TrustDeviceProfile :=
  { profile with
    deviceId := (rdb.getStringValue values DEVICE_ID).getD []
    deviceIdType := toUInt32 ((rdb.getIntValue values DEVICE_ID_TYPE).getD 0)
    deviceIdHash := (rdb.getStringValue values DEVICE_ID_HASH).getD []
    status := (rdb.getIntValue values STATUS).getD 0 }

/-- Every column of the row reads as the field of the profile. -/
structure HoldsTrustDevice (values : ValuesBucket Cell) (p : TrustDeviceProfile) : Prop where
  deviceId : rdb.getStringValue values DEVICE_ID = some p.deviceId
  deviceIdType : rdb.getIntValue values DEVICE_ID_TYPE = some (toInt32 p.deviceIdType)
  deviceIdHash : rdb.getStringValue values DEVICE_ID_HASH = some p.deviceIdHash
  status : rdb.getIntValue values STATUS = some p.status

variable {rdb}

/-- A trusted device is read back with all its columns. -/
theorem holdsTrustDevice_readBack (hrdb : rdb.IsFaithful) {p : TrustDeviceProfile}
    (hp : p.InRange) :
    rdb.HoldsTrustDevice (rdb.readBack (rdb.trustDeviceProfileToEntries p)) p := by
  have hnames : (rdb.trustDeviceProfileToEntries p).map Prod.fst =
      [DEVICE_ID, DEVICE_ID_TYPE, DEVICE_ID_HASH, STATUS] := rfl
  have hrow : (rdb.trustDeviceProfileToEntries p).IsRow := by
    rw [ValuesBucket.IsRow, hnames]
    decide
  constructor
  · exact getStringValue_readBack hrdb hrow (by simp [trustDeviceProfileToEntries])
  · exact getIntValue_readBack hrdb hrow (by simp [trustDeviceProfileToEntries])
      (isInt32_toInt32 _)
  · exact getStringValue_readBack hrdb hrow (by simp [trustDeviceProfileToEntries])
  · exact getIntValue_readBack hrdb hrow (by simp [trustDeviceProfileToEntries]) hp.status

/-- The reader of entries gives back the written fields but for the device id type. -/
theorem entriesToTrustDeviceProfile_readBack (hrdb : rdb.IsFaithful) {p : TrustDeviceProfile}
    (hp : p.InRange) (target : TrustDeviceProfile) :
    rdb.entriesToTrustDeviceProfile (rdb.readBack (rdb.trustDeviceProfileToEntries p)) target =
      { target with
        deviceId := p.deviceId, deviceIdHash := p.deviceIdHash, status := p.status } := by
  have h := holdsTrustDevice_readBack hrdb hp
  have hnone : rdb.getIntValue (rdb.readBack (rdb.trustDeviceProfileToEntries p))
      DEVICE_TYPE_ID = none := by
    refine getIntValue_readBack_of_not_mem rdb ?_
    simp only [trustDeviceProfileToEntries, List.map_cons, List.map_nil]
    decide
  simp only [entriesToTrustDeviceProfile, h.deviceId, hnone, h.deviceIdHash, h.status,
    Option.map_none, Option.getD_some, Option.getD_none]

/-- The reader of result sets gives back the written fields. -/
theorem convertToTrustDeviceRow_readBack (hrdb : rdb.IsFaithful) {p : TrustDeviceProfile}
    (hp : p.InRange) (target : TrustDeviceProfile) :
    (rdb.convertToTrustDeviceRow (rdb.readBack (rdb.trustDeviceProfileToEntries p))
      target).SameRow p := by
  have h := holdsTrustDevice_readBack hrdb hp
  constructor
  · rw [convertToTrustDeviceRow, h.deviceId, Option.getD_some]
  · rw [convertToTrustDeviceRow, h.deviceIdType, Option.getD_some,
      toUInt32_toInt32 hp.deviceIdType]
  · rw [convertToTrustDeviceRow, h.deviceIdHash, Option.getD_some]
  · rw [convertToTrustDeviceRow, h.status, Option.getD_some]

end NativeRdb

/-! ## Round trips -/

/-- The readers of entries give back a row of each kind if and only if the column they miss has
the value of the profile they fill. -/
theorem rows_roundTrip_iff {Cell : Type} (rdb : NativeRdb Cell) (hrdb : rdb.IsFaithful) :
    (∀ p target : AccessControlProfile, p.toAccessControlRow.InRange →
      ((rdb.entriesToAccessControlProfile (rdb.readBack (rdb.accessControlProfileToEntries p))
        target).toAccessControlRow = p.toAccessControlRow ↔
          p.deviceIdType = target.deviceIdType)) ∧
    (∀ (p : AccessControlProfile) (target : Accesser), p.accesser.InRange →
      (rdb.entriesToAccesser (rdb.readBack (rdb.accesserToEntries p)) target = p.accesser ↔
        p.accesser.hapSignature = target.hapSignature)) ∧
    (∀ (p : AccessControlProfile) (target : Accessee), p.accessee.InRange →
      (rdb.entriesToAccessee (rdb.readBack (rdb.accesseeToEntries p)) target = p.accessee ↔
        p.accessee.hapSignature = target.hapSignature)) ∧
    (∀ p target : TrustDeviceProfile, p.InRange →
      ((rdb.entriesToTrustDeviceProfile (rdb.readBack (rdb.trustDeviceProfileToEntries p))
        target).SameRow p ↔ p.deviceIdType = target.deviceIdType)) := by
  have hparty : ∀ a target : Party,
      { a with hapSignature := target.hapSignature } = a ↔
        a.hapSignature = target.hapSignature := by
    intro a target
    constructor
    · exact fun h => (congrArg Party.hapSignature h).symm
    · intro h
      rw [← h]
  refine ⟨fun p target hp => ?_, fun p target hp => ?_, fun p target hp => ?_,
    fun p target hp => ?_⟩
  · rw [NativeRdb.entriesToAccessControlProfile_readBack hrdb hp]
    constructor
    · exact fun h => (congrArg AccessControlRow.deviceIdType h).symm
    · intro h
      rw [← h]
  · rw [NativeRdb.entriesToAccesser, NativeRdb.accesserToEntries,
      (NativeRdb.holdsParty_readBack hrdb nodup_ACCESSER_COLUMNS hp).entriesToParty hp]
    exact hparty p.accesser target
  · rw [NativeRdb.entriesToAccessee, NativeRdb.accesseeToEntries,
      (NativeRdb.holdsParty_readBack hrdb nodup_ACCESSEE_COLUMNS hp).entriesToParty hp]
    exact hparty p.accessee target
  · rw [NativeRdb.entriesToTrustDeviceProfile_readBack hrdb hp]
    exact ⟨fun h => h.deviceIdType.symm, fun h => ⟨rfl, h.symm, rfl, rfl⟩⟩

/-- The readers of result sets give back every row. -/
theorem rows_converted {Cell : Type} {rdb : NativeRdb Cell} (hrdb : rdb.IsFaithful)
    {p : AccessControlProfile} (haccesser : p.accesser.InRange) (haccessee : p.accessee.InRange)
    (hrow : p.toAccessControlRow.InRange) :
    ({ rdb.convertToAccessControlRow (rdb.readBack (rdb.accessControlProfileToEntries p)) with
        accesser := rdb.convertToAccesser (rdb.readBack (rdb.accesserToEntries p))
        accessee := rdb.convertToAccessee (rdb.readBack (rdb.accesseeToEntries p)) } :
      AccessControlProfile) = p := by
  rw [NativeRdb.convertToAccessControlRow_readBack hrdb hrow, NativeRdb.convertToAccesser,
    NativeRdb.accesserToEntries,
    (NativeRdb.holdsParty_readBack hrdb nodup_ACCESSER_COLUMNS haccesser).convertToParty haccesser,
    NativeRdb.convertToAccessee, NativeRdb.accesseeToEntries,
    (NativeRdb.holdsParty_readBack hrdb nodup_ACCESSEE_COLUMNS haccessee).convertToParty haccessee]

/-- Cells that are integers or texts. -/
def plainRdb : NativeRdb (Int ⊕ Text) where
  putInt := .inl
  putLong := .inl
  putString := .inr
  stored := id
  getInt cell := cell.getLeft?.map toInt32
  getLong := Sum.getLeft?
  getString := Sum.getRight?

/-- A database that stores its cells as they are is faithful. -/
theorem isFaithful_plainRdb : plainRdb.IsFaithful where
  getInt_stored n hn := by
    have hcast : toInt32 n = n := by
      rw [IsInt32, INT32_MIN, INT32_MAX] at hn
      exact Int.bmod_eq_of_le (by omega) (by omega)
    exact congrArg some hcast
  getLong_stored _ _ := rfl
  getString_stored _ := rfl

/-- A party with no field at its default. -/
def fullParty : Party where
  partyId := 9223372036854775807
  deviceId := ("local" : Text)
  userId := 100
  accountId := ("account" : Text)
  tokenId := -9223372036854775808
  bundleName := ("bundle" : Text)
  hapSignature := ("signature" : Text)
  bindLevel := 4294967295
  deviceName := ("phone" : Text)
  serviceName := ("service" : Text)
  credentialId := 2147483647
  credentialIdStr := ("credential" : Text)
  status := 1
  sessionKeyId := -2147483648
  skTimeStamp := 1700000000000
  extraData := ("extra" : Text)

/-- An entry with no field at its default. -/
def fullEntry : AccessControlProfile where
  accessControlId := 7
  accesserId := 9223372036854775807
  accesseeId := 9223372036854775806
  trustDeviceId := ("peer" : Text)
  sessionKey := ("key" : Text)
  bindType := 1282
  authenticationType := 2
  deviceIdType := 4294967295
  deviceIdHash := ("hash" : Text)
  status := 1
  validPeriod := -2
  lastAuthTime := 1700000000000
  bindLevel := 2147483648
  extraData := ("extra" : Text)
  accesser := fullParty
  accessee := { fullParty with partyId := 9223372036854775806, deviceId := ("peer" : Text) }

/-- A trusted device with no column at its default. -/
def fullTrustDevice : TrustDeviceProfile :=
  { deviceId := ("peer" : Text), deviceIdType := 3000000000, deviceIdHash := ("hash" : Text)
    status := 1 }

/-- Rows of all kinds with all fields set come back into profiles that are fresh but for the
column that is missed, and into fresh ones they do not. -/
theorem rows_roundTrip_full :
    ((plainRdb.entriesToAccessControlProfile
        (plainRdb.readBack (plainRdb.accessControlProfileToEntries fullEntry))
          { deviceIdType := 4294967295 }).toAccessControlRow = fullEntry.toAccessControlRow ∧
      plainRdb.entriesToAccesser (plainRdb.readBack (plainRdb.accesserToEntries fullEntry))
        { hapSignature := ("signature" : Text) } = fullEntry.accesser ∧
      plainRdb.entriesToAccessee (plainRdb.readBack (plainRdb.accesseeToEntries fullEntry))
        { hapSignature := ("signature" : Text) } = fullEntry.accessee ∧
      (plainRdb.entriesToTrustDeviceProfile
        (plainRdb.readBack (plainRdb.trustDeviceProfileToEntries fullTrustDevice))
          { deviceIdType := 3000000000 }).SameRow fullTrustDevice) ∧
    (plainRdb.entriesToAccessControlProfile
        (plainRdb.readBack (plainRdb.accessControlProfileToEntries fullEntry))
          { }).toAccessControlRow ≠ fullEntry.toAccessControlRow ∧
      plainRdb.entriesToAccesser (plainRdb.readBack (plainRdb.accesserToEntries fullEntry)) { } ≠
        fullEntry.accesser := by
  obtain ⟨hentry, haccesser, haccessee, hdevice⟩ :=
    rows_roundTrip_iff plainRdb isFaithful_plainRdb
  have hrange : fullEntry.toAccessControlRow.InRange := by constructor <;> decide
  have hranger : fullEntry.accesser.InRange := by constructor <;> decide
  have hrangee : fullEntry.accessee.InRange := by constructor <;> decide
  have hranged : fullTrustDevice.InRange := by constructor <;> decide
  exact ⟨⟨(hentry _ _ hrange).mpr rfl, (haccesser _ _ hranger).mpr rfl,
    (haccessee _ _ hrangee).mpr rfl, (hdevice _ _ hranged).mpr rfl⟩,
    mt (hentry _ _ hrange).mp (by decide), mt (haccesser _ _ hranger).mp (by decide)⟩

/-- An entry with a device id type does not come back into a fresh profile. -/
theorem not_rows_roundTrip :
    ¬∀ p : AccessControlProfile, p.toAccessControlRow.InRange →
      (plainRdb.entriesToAccessControlProfile
        (plainRdb.readBack (plainRdb.accessControlProfileToEntries p))
          { }).toAccessControlRow = p.toAccessControlRow := by
  intro h
  have hback := h { deviceIdType := 1 } (by constructor <;> decide)
  exact absurd (congrArg AccessControlRow.deviceIdType hback) (by decide)

end DeviceProfile
