import DeviceProfile.Library.Schema
import DeviceProfile.Trust.Data

/-!
# Creating and upgrading the trust database

The SQL that creates the four tables and their unique indexes, the `ALTER TABLE`
statements of the two upgrade steps, and the callbacks that run them when the
database is opened. `accesser_table` and `accessee_table` have the same columns up
to the prefix of their names.
-/

namespace DeviceProfile

open Library

/-- The version of the first schema. -/
def RDB_VERSION : Int := 1

/-- The version that knows device names, service names and session keys. -/
def RDB_VERSION_5_1 : Int := 2

/-- The version that knows the extra data and the textual credential ids. -/
def RDB_VERSION_5_1_2 : Int := 3

/-- The tables; the unique index of a table is named after it. -/
inductive RdbName where
  | trustDevice
  | accessControl
  | party (role : Role)
  deriving DecidableEq, Repr

/-- The columns of `accesser_table` and of `accessee_table`. -/
inductive PartyColumn where
  | id
  | deviceId
  | userId
  | accountId
  | tokenId
  | bundleName
  | hapSignature
  | bindLevel
  | deviceName
  | serviceName
  | credentialId
  | credentialIdStr
  | status
  | sessionKeyId
  | skTimeStamp
  | extraData
  deriving DecidableEq, Repr

/-- The columns of the trust database. -/
inductive RdbColumn where
  | deviceId
  | deviceIdType
  | deviceIdHash
  | status
  | accessControlId
  | accesserId
  | accesseeId
  | trustDeviceId
  | sessionKey
  | bindType
  | authenticationType
  | validPeriod
  | lastAuthTime
  | bindLevel
  | extraData
  | party (column : PartyColumn)
  deriving DecidableEq, Repr

/-- The error codes of the database callbacks. -/
inductive RdbError where
  | createTableFail
  | createUniqueIndexFail
  deriving DecidableEq, Repr

/-- The trust database: its tables, their columns and their indexes. -/
abbrev RdbStore := Database RdbName RdbColumn RdbName

/-- A step of an upgrade, which fails with the code of its function. -/
abbrev RdbProg := Prog RdbError RdbStore

/-- A statement on the trust database. -/
abbrev RdbStatement := Statement RdbName RdbColumn RdbName

/-! ## Tables and indexes -/

/-- A column of type `TEXT`. -/
def textColumn (name : RdbColumn) : Column RdbColumn :=
  { name, declared := ("TEXT" : Text) }

/-- A column of type `INTEGER`. -/
def integerColumn (name : RdbColumn) : Column RdbColumn :=
  { name, declared := ("INTEGER" : Text) }

/-- The columns of `CREATE_ACCESSER_TABLE_SQL` and of `CREATE_ACCESSEE_TABLE_SQL`. -/
def partyColumns : List (Column RdbColumn) :=
  [{ integerColumn (.party .id) with primaryKey := true },
    textColumn (.party .deviceId),
    integerColumn (.party .userId),
    textColumn (.party .accountId),
    integerColumn (.party .tokenId),
    textColumn (.party .bundleName),
    textColumn (.party .hapSignature),
    integerColumn (.party .bindLevel),
    textColumn (.party .deviceName),
    textColumn (.party .serviceName),
    integerColumn (.party .credentialId),
    textColumn (.party .credentialIdStr),
    integerColumn (.party .status),
    integerColumn (.party .sessionKeyId),
    integerColumn (.party .skTimeStamp),
    textColumn (.party .extraData)]

/-- The columns of the create-table statements. -/
def tableColumns : RdbName → List (Column RdbColumn)
  | .trustDevice =>
    [{ textColumn .deviceId with primaryKey := true },
      integerColumn .deviceIdType,
      textColumn .deviceIdHash,
      integerColumn .status]
  | .accessControl =>
    [{ integerColumn .accessControlId with primaryKey := true },
      integerColumn .accesserId,
      integerColumn .accesseeId,
      textColumn .trustDeviceId,
      textColumn .sessionKey,
      integerColumn .bindType,
      integerColumn .authenticationType,
      integerColumn .deviceIdType,
      textColumn .deviceIdHash,
      integerColumn .status,
      integerColumn .validPeriod,
      integerColumn .lastAuthTime,
      integerColumn .bindLevel,
      textColumn .extraData]
  | .party _ => partyColumns

/-- The columns of `CREATE_ACCESSER_TABLE_UNIQUE_INDEX_SQL` and of its sibling. -/
def partyIndexColumns : List RdbColumn :=
  [.party .deviceId, .party .userId, .party .accountId, .party .tokenId, .party .bundleName,
    .party .hapSignature, .party .bindLevel, .party .deviceName, .party .serviceName,
    .party .credentialIdStr, .party .status, .party .sessionKeyId]

/-- The columns of the create-index statements. -/
def indexColumns : RdbName → List RdbColumn
  | .trustDevice => [.deviceId, .deviceIdType, .deviceIdHash, .status]
  | .accessControl =>
    [.accesserId, .accesseeId, .trustDeviceId, .sessionKey, .bindType, .authenticationType,
      .deviceIdType, .deviceIdHash, .validPeriod, .lastAuthTime, .bindLevel]
  | .party _ => partyIndexColumns

/-- The unique index of a table. -/
def uniqueIndex (name : RdbName) : UniqueIndex RdbName RdbColumn :=
  { table := name, columns := indexColumns name }

/-- The create-table statement of a table. -/
def createTableSql (name : RdbName) : RdbStatement := .createTable name (tableColumns name)

/-- The create-index statement of a table. -/
def createUniqueIndexSql (name : RdbName) : RdbStatement :=
  .createUniqueIndex name (uniqueIndex name)

/-! ## Creating -/

/-- Creates the four tables. -/
def createTable : RdbProg Unit :=
  executeAll .createTableFail
    [createTableSql .trustDevice, createTableSql .accessControl,
      createTableSql (.party .accesser), createTableSql (.party .accessee)]

/-- Creates the unique indexes of the four tables. -/
def createUniqueIndex : RdbProg Unit :=
  executeAll .createUniqueIndexFail
    [createUniqueIndexSql .trustDevice, createUniqueIndexSql .accessControl,
      createUniqueIndexSql (.party .accesser), createUniqueIndexSql (.party .accessee)]

/-- Called for a database that does not exist yet. -/
def onCreate : RdbProg Unit := do
  createTable.orFail .createTableFail
  createUniqueIndex.orFail .createUniqueIndexFail

/-! ## Upgrading -/

/-- The columns that version 2 adds to both party tables. The declared type
`INTERGER` is the source's spelling. -/
def partyColumnsOneToTwo : List (Column RdbColumn) :=
  [{ textColumn (.party .deviceName) with default := .text [] },
    { textColumn (.party .serviceName) with default := .text [] },
    { name := .party .credentialId, declared := ("INTERGER" : Text), default := .integer (-1) },
    { name := .party .status, declared := ("INTERGER" : Text), default := .integer (-1) },
    { name := .party .sessionKeyId, declared := ("INTERGER" : Text), default := .integer (-1) },
    { name := .party .skTimeStamp, declared := ("INTERGER" : Text), default := .integer (-1) }]

/-- The column that version 3 adds to `access_control_table`. -/
def aclColumnsTwoToThree : List (Column RdbColumn) :=
  [{ textColumn .extraData with default := .text [] }]

/-- The columns that version 3 adds to both party tables. -/
def partyColumnsTwoToThree : List (Column RdbColumn) :=
  [{ textColumn (.party .credentialIdStr) with default := .text [] },
    { textColumn (.party .extraData) with default := .text [] }]

/-- Add columns to a table, one statement for each. -/
def addColumns (table : RdbName) (columns : List (Column RdbColumn)) : RdbProg Unit :=
  executeAll .createTableFail (columns.map (.addColumn table))

/-- The columns that the accesser table gets in version two. -/
def addAcerColumnOneToTwo : RdbProg Unit := addColumns (.party .accesser) partyColumnsOneToTwo

/-- The columns that the accessee table gets in version two. -/
def addAceeColumnOneToTwo : RdbProg Unit := addColumns (.party .accessee) partyColumnsOneToTwo

/-- The columns that the access control table gets in version three. -/
def addAclColumnTwoToThree : RdbProg Unit := addColumns .accessControl aclColumnsTwoToThree

/-- The columns that the accesser table gets in version three. -/
def addAcerColumnTwoToThree : RdbProg Unit :=
  addColumns (.party .accesser) partyColumnsTwoToThree

/-- The columns that the accessee table gets in version three. -/
def addAceeColumnTwoToThree : RdbProg Unit :=
  addColumns (.party .accessee) partyColumnsTwoToThree

/-- Both upgrade steps rebuild the party indexes, with the columns of version 3. -/
def dropAndRebuildIndex : RdbProg Unit :=
  executeAll .createTableFail
    [.dropIndex (.party .accesser), .dropIndex (.party .accessee),
      createUniqueIndexSql (.party .accesser), createUniqueIndexSql (.party .accessee)]

/-- The step to version two: new columns for both parties, then the indexes anew. -/
def upgradeVersionOneToTwo : RdbProg Unit := do
  addAcerColumnOneToTwo
  addAceeColumnOneToTwo
  dropAndRebuildIndex

/-- The step to version three: new columns for three tables, then the indexes anew. -/
def upgradeVersionTwoToThree : RdbProg Unit := do
  addAclColumnTwoToThree
  addAcerColumnTwoToThree
  addAceeColumnTwoToThree
  dropAndRebuildIndex

/-- Called for a database of an older version. The results of the upgrade steps are ignored. -/
def onUpgrade (oldVersion newVersion : Int) : RdbProg Unit := do
  if oldVersion = RDB_VERSION ∧ newVersion = RDB_VERSION_5_1 then
    upgradeVersionOneToTwo.getD ()
  if oldVersion = RDB_VERSION_5_1 ∧ newVersion = RDB_VERSION_5_1_2 then
    upgradeVersionTwoToThree.getD ()
  if oldVersion = RDB_VERSION ∧ newVersion = RDB_VERSION_5_1_2 then
    upgradeVersionOneToTwo.getD ()
    upgradeVersionTwoToThree.getD ()

/-! ## Databases of a version -/

/-- The columns that the upgrade steps after a version add to a table. -/
def addedAfter (version : Int) (name : RdbName) : List RdbColumn :=
  let added := match name with
    | .trustDevice => ([], [])
    | .accessControl => ([], aclColumnsTwoToThree)
    | .party _ => (partyColumnsOneToTwo, partyColumnsTwoToThree)
  let columns :=
    if version = RDB_VERSION then added.1 ++ added.2
    else if version = RDB_VERSION_5_1 then added.2
    else []
  columns.map Column.name

/-- The columns of a table created at a version. -/
def columnsAt (version : Int) (name : RdbName) : List (Column RdbColumn) :=
  (tableColumns name).filter fun column => column.name ∉ addedAfter version name

/-- A database that was created at a version, with any rows. The columns of the old party
indexes are not recorded in the source: any columns of the table will do. -/
structure CreatedAt (version : Int) (db : RdbStore) : Prop where
  columns : ∀ name, (db.tables name).map SqlTable.columns = some (columnsAt version name)
  trustDevice : db.indexes .trustDevice = some (uniqueIndex .trustDevice)
  accessControl : db.indexes .accessControl = some (uniqueIndex .accessControl)
  party : ∀ role, ∃ columns ⊆ (columnsAt version (.party role)).map Column.name,
    db.indexes (.party role) = some { table := .party role, columns }
  unique : ∀ name index table, db.indexes name = some index →
    db.tables index.table = some table → UniqueOn index.columns table.rows

/-- The database `onCreate` makes. -/
def freshStore : RdbStore := (onCreate.exec {}).2

end DeviceProfile
