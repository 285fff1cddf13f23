import DeviceProfile.Library.Crash
import DeviceProfile.Rdb.Upgrade

/-!
# Moving the trust database

The trust database once lay below `RDB_PATH`. A service that finds it there backs it up below
`ACL_RDB_PATH`, opens the backup and deletes the old file; where one of this fails, it goes on
with the old file and tries again at its next start. The process may die after each of these
steps.
-/

namespace DeviceProfile

open Library Prog

/-- The number of times a store is opened. -/
def RDB_INIT_MAX_TIMES : Nat := 5

/-- The directories `DATABASE_NAME` may lie in: `RDB_PATH` and `ACL_RDB_PATH`. -/
inductive RdbPath where
  | old
  | acl
  deriving DecidableEq, Repr

/-- A database file. -/
structure RdbFile where
  version : Int
  store : RdbStore

/-- The handles of an adapter. -/
inductive RdbHandle where
  | store
  | preMigStore
  | postMigStore
  deriving DecidableEq, Repr

/-- The file that each handle of an adapter was opened on. -/
abbrev RdbAdapter := RdbHandle → Option RdbPath

/-- The files, and what the manager of the trust profiles keeps in memory. The writes that were
accepted are recorded in their order. -/
structure TrustDatabase where
  file : RdbPath → Option RdbFile
  rdbStore : Option RdbAdapter := none
  isInited : Bool := false
  accepted : List (RdbStore → RdbStore) := []

/-- The error codes of the adapter and of the manager's start. -/
inductive RdbAdapterError where
  | rdbDbPtrNull
  | getRdbStoreFail
  | rdbDatabaseRestoreFail
  | rdbAdapterInitFail
  | preMigrationDbAvailable
  | preMigrationDbUnavailable
  | notNeedMigration
  | deleteRdbStoreFail
  | initDbFailed
  | createTableFail
  | tableNotExist
  | putFail
  | deleteFail
  | updateFail
  deriving DecidableEq, Repr

/-- A call on the trust database, one step for each access to its files and handles. -/
abbrev TrustDatabaseProg := Prog RdbAdapterError TrustDatabase

namespace TrustDatabase

/-- The file that a handle was opened on. -/
def handle (h : RdbHandle) (s : TrustDatabase) : Option RdbPath := s.rdbStore.bind fun a => a h

/-- Sets a handle to a file. Nothing is set when the adapter is gone. -/
def setHandle (h : RdbHandle) (path : Option RdbPath) (s : TrustDatabase) : TrustDatabase :=
  { s with rdbStore := s.rdbStore.map fun a => Function.update a h path }

/-- Replaces the file at a path. -/
def setFile (path : RdbPath) (file : Option RdbFile) (s : TrustDatabase) : TrustDatabase :=
  { s with file := Function.update s.file path file }

/-- The file that counts: the old one as long as it is there. -/
def served (s : TrustDatabase) : Option RdbFile := (s.file .old).or (s.file .acl)

/-- What the database holds. -/
def content (s : TrustDatabase) : RdbStore := s.served.elim {} RdbFile.store

end TrustDatabase

/-! ## Opening -/

/-- What opening a file comes to. A file that is found corrupt is rebuilt, and then restored from
its replica or not. -/
inductive OpenAnswer where
  | opened
  | refused
  | rebuiltUnknown
  | rebuilt (restored : Bool)
  deriving DecidableEq, Repr

/-- A file of the current version that `onCreate` has made. -/
def createdFile : RdbFile := ⟨RDB_VERSION_5_1_2, freshStore⟩

/-- The callbacks run when a file is opened: it is created, or upgraded. -/
def openFile : Option RdbFile → RdbFile
  | none => createdFile
  | some f =>
    if f.version < RDB_VERSION_5_1_2 then
      ⟨RDB_VERSION_5_1_2, ((onUpgrade f.version RDB_VERSION_5_1_2).exec f.store).2⟩
    else f

/-- The file after it was opened. -/
def OpenAnswer.file (f : Option RdbFile) : OpenAnswer → Option RdbFile
  | refused => f
  | rebuilt false => some createdFile
  | _ => some (openFile f)

/-- The handle after the file was opened. -/
def OpenAnswer.handle (path : RdbPath) : OpenAnswer → Option RdbPath
  | refused => none
  | _ => some path

/-- The result of `GetRDBPtr`. -/
def OpenAnswer.result : OpenAnswer → Except RdbAdapterError Unit
  | opened => .ok ()
  | refused => .error .rdbDbPtrNull
  | rebuiltUnknown => .error .getRdbStoreFail
  | rebuilt restored => if restored then .ok () else .error .rdbDatabaseRestoreFail

/-- A corrupt file was not left without what it held. -/
def OpenAnswer.Restores (answer : OpenAnswer) : Prop := answer ≠ .rebuilt false

instance (answer : OpenAnswer) : Decidable answer.Restores := inferInstanceAs (Decidable (_ ≠ _))

/-- The files and handles after a file was opened. -/
def TrustDatabase.openAt (h : RdbHandle) (path : RdbPath) (answer : OpenAnswer)
    (s : TrustDatabase) : TrustDatabase :=
  (s.setFile path (answer.file (s.file path))).setHandle h (answer.handle path)

/-- Opens a file through a handle once. -/
def getRDBPtr (h : RdbHandle) (path : RdbPath) (answer : OpenAnswer) : TrustDatabaseProg Unit :=
  .step (TrustDatabase.openAt h path answer) fun _ => Prog.ofExcept answer.result

/-- The answers are told by the tries that are left. -/
def connectDB (h : RdbHandle) (path : RdbPath) (answers : Nat → OpenAnswer) :
    Nat → TrustDatabaseProg Unit
  | 0 => .fail .rdbAdapterInitFail
  | retryTimes + 1 => do
    match ← (getRDBPtr h path (answers (retryTimes + 1))).attempt with
    | .ok () => return ()
    | .error _ => connectDB h path answers retryTimes

/-! ## The start of the adapter -/

/-- A backup first leaves something, and then all of the old file if it succeeds. -/
structure BackupAnswer where
  left : Option RdbFile := none
  ok : Bool := true

/-- A deletion that fails may have removed the file. -/
inductive DeleteAnswer where
  | deleted
  | failed (gone : Bool)
  deriving DecidableEq, Repr

/-- The answers of the storage while the manager starts. -/
structure StorageAnswers where
  connectOld : Nat → OpenAnswer := fun _ => .opened
  backup : BackupAnswer := {}
  connectAcl : Nat → OpenAnswer := fun _ => .opened
  deleteOld : DeleteAnswer := .deleted
  reconnectOld : Nat → OpenAnswer := fun _ => .opened
  queried : Bool := true

/-- Reads the files and the handles without a change. -/
def readState : TrustDatabaseProg TrustDatabase := .step id .ret

/-- Sets a handle and goes on. -/
def assign (h : RdbHandle) (path : Option RdbPath) : TrustDatabaseProg Unit :=
  .step (TrustDatabase.setHandle h path) fun _ => .ret ()

/-- Copies the old file to the new path, in two steps: what a stop in between leaves there, then the
whole copy. -/
def backup (answer : BackupAnswer) : TrustDatabaseProg Unit :=
  .step (TrustDatabase.setFile .acl answer.left) fun _ =>
    .step (fun s => if answer.ok then s.setFile .acl (s.file .old) else s) fun _ =>
      if answer.ok then .ret () else .fail .preMigrationDbAvailable

/-- Deletes the old file. A failed deletion may have left it or not. -/
def deleteRdbStore (answer : DeleteAnswer) : TrustDatabaseProg Unit :=
  .step (fun s => if answer = .failed false then s else s.setFile .old none) fun _ =>
    if answer = .deleted then .ret () else .fail .deleteRdbStoreFail

/-- The last part of `MigrateDatabase`: the old file is deleted, or opened again. -/
def retireOldFile (a : StorageAnswers) : TrustDatabaseProg Unit := do
  match ← (deleteRdbStore a.deleteOld).attempt with
  | .ok () => return ()
  | .error _ =>
    let s ← readState
    if (s.file .old).isNone then throw .preMigrationDbUnavailable
    else
      assign .preMigStore none
      connectDB .preMigStore .old a.reconnectOld RDB_INIT_MAX_TIMES
      throw .preMigrationDbAvailable

/-- The move: the old file is opened and copied, the copy is opened, and the old file is retired. A
failure after the copy leaves the old file to be served. -/
def migrateDatabase (a : StorageAnswers) : TrustDatabaseProg Unit := do
  connectDB .preMigStore .old a.connectOld RDB_INIT_MAX_TIMES
  let s ← readState
  if (s.handle .preMigStore).isNone then throw .rdbDbPtrNull
  else
    backup a.backup
    (connectDB .postMigStore .acl a.connectAcl RDB_INIT_MAX_TIMES).orFail
      .preMigrationDbAvailable
    retireOldFile a

/-- Go on with the file of a handle, unless the handle is null, and drop another handle. -/
def serveHandle (h dropped : RdbHandle) : TrustDatabaseProg Unit := do
  let s ← readState
  if (s.handle h).isNone then throw .rdbDbPtrNull
  else
    assign .store (s.handle h)
    assign dropped none

/-- Moves the database if the old file is there, and serves the copy, or the old file where the copy
cannot be opened. -/
def checkMigrateDB (a : StorageAnswers) : TrustDatabaseProg Unit := do
  let s ← readState
  if (s.file .old).isNone then throw .notNeedMigration
  else
    match ← (migrateDatabase a).attempt with
    | .ok () => serveHandle .postMigStore .preMigStore
    | .error e =>
      if e = .preMigrationDbAvailable then serveHandle .preMigStore .postMigStore
      else throw e

/-- `RdbAdapter::Init`. -/
def adapterInit (a : StorageAnswers) : TrustDatabaseProg Unit := do
  match ← (checkMigrateDB a).attempt with
  | .ok () => return ()
  | .error e =>
    if e = .notNeedMigration then connectDB .store .acl a.connectAcl RDB_INIT_MAX_TIMES
    else throw e

/-! ## The start of the manager -/

/-- The file of the store handle is changed. -/
def TrustDatabase.onStore (f : RdbStore → RdbStore) (s : TrustDatabase) : TrustDatabase :=
  match s.handle .store with
  | none => s
  | some path => s.setFile path ((s.file path).map fun file => { file with store := f file.store })

/-- Run statements on the file of the store handle, each as one step. -/
def onStoreProg : RdbProg Unit → TrustDatabaseProg Unit
  | .ret () => .ret ()
  | .fail _ => .fail .createTableFail
  | .step upd next =>
    .step (TrustDatabase.onStore upd) fun s => onStoreProg (next s.content)

/-- The columns of `accessee_table` are listed, unless the query fails. -/
def isAceeCreIdExistToAceeTable (queried : Bool) (db : RdbStore) : Bool :=
  queried && (db.tables (.party .accessee)).any fun t => t.names.contains (.party .credentialId)

/-- Adds the column of the credential, whose type the source spells this way. -/
def addAceeCreIdColumnToAceeTable : RdbProg Unit :=
  executeSql (.addColumn (.party .accessee)
    { name := .party .credentialId, declared := ("INTERGER" : Text), default := .integer (-1) })
    .createTableFail

/-- `TrustProfileManager::Init`. -/
def trustInit (a : StorageAnswers) : TrustDatabaseProg Unit := do
  let s ← readState
  if s.isInited then return ()
  else
    .step (fun s => { s with rdbStore := some fun _ => none }) fun _ => .ret ()
    (adapterInit a).orFail .initDbFailed
    (onStoreProg createTable).getD ()
    (onStoreProg createUniqueIndex).getD ()
    let s ← readState
    if isAceeCreIdExistToAceeTable a.queried s.content then
      .step (fun s => { s with isInited := true }) fun _ => .ret ()
    else
      onStoreProg addAceeCreIdColumnToAceeTable
      .step (fun s => { s with isInited := true }) fun _ => .ret ()

/-- `TrustProfileManager::UnInit`. -/
def trustUnInit (s : TrustDatabase) : Except RdbAdapterError Unit × TrustDatabase :=
  match s.rdbStore with
  | none => (.error .getRdbStoreFail, s)
  | some _ => (.ok (), { s with rdbStore := none, isInited := false })

/-- The memory of a process that has died is gone. -/
def TrustDatabase.afterDeath (s : TrustDatabase) : TrustDatabase :=
  { s with rdbStore := none, isInited := false }

/-! ## Writes -/

/-- The tables that a call may name. -/
def TABLES : List Text :=
  [("trust_device_table" : Text), ("accesser_table" : Text), ("accessee_table" : Text),
    ("access_control_table" : Text), ("subscribe_trust_info_table" : Text)]

/-- The answer of the store to a statement. -/
inductive StatementAnswer where
  | done
  | corrupt
  | failed
  deriving DecidableEq, Repr

/-- A corrupt store is restored, and the statement is tried once more. -/
structure WriteAnswer where
  first : StatementAnswer := .done
  restored : Bool := true
  second : StatementAnswer := .done
  deriving DecidableEq, Repr

/-- The store has executed the statement, at once or after it was restored. -/
def WriteAnswer.Done (answer : WriteAnswer) : Prop :=
  answer.first = .done ∨ answer.first = .corrupt ∧ answer.restored ∧ answer.second = .done

instance (answer : WriteAnswer) : Decidable answer.Done := inferInstanceAs (Decidable (_ ∨ _))

/-- A call of the adapter that changes rows, with the error code for a statement that fails. -/
def changeRows (code : RdbAdapterError) (table : Text) (answer : WriteAnswer)
    (f : RdbStore → RdbStore) (s : TrustDatabase) : Except RdbAdapterError Unit × TrustDatabase :=
  if table ∉ TABLES then (.error .tableNotExist, s)
  else if (s.handle .store).isNone then (.error .rdbDbPtrNull, s)
  else if answer.first = .corrupt ∧ answer.restored = false then
    (.error .rdbDatabaseRestoreFail, s)
  else if answer.Done then (.ok (), { s.onStore f with accepted := s.accepted ++ [f] })
  else (.error code, s)

/-- `RdbAdapter::Put` -/
def rdbPut := changeRows .putFail

/-- `RdbAdapter::Delete` -/
def rdbDelete := changeRows .deleteFail

/-- `RdbAdapter::Update` -/
def rdbUpdate := changeRows .updateFail

/-- The manager makes its adapter change rows, if it has one. -/
def callAdapter (change : TrustDatabase → Except RdbAdapterError Unit × TrustDatabase)
    (s : TrustDatabase) : Except RdbAdapterError Unit × TrustDatabase :=
  if s.rdbStore.isNone then (.error .getRdbStoreFail, s) else change s

/-! ## Runs -/

/-- What happens to the database. -/
inductive TrustDatabaseEvent where
  /-- The manager starts. -/
  | init (a : StorageAnswers)
  /-- The process dies while the manager starts, in the state with this number. -/
  | dieIn (a : StorageAnswers) (n : Nat)
  /-- The process dies between two calls. -/
  | die
  | unInit
  | put (table : Text) (answer : WriteAnswer) (f : RdbStore → RdbStore)
  | delete (table : Text) (answer : WriteAnswer) (f : RdbStore → RdbStore)
  | update (table : Text) (answer : WriteAnswer) (f : RdbStore → RdbStore)

/-- One event in the life of the database: a start, a death inside one, a death, a stop or a call.
-/
def TrustDatabase.step (s : TrustDatabase) : TrustDatabaseEvent → TrustDatabase
  | .init a => ((trustInit a).exec s).2
  | .dieIn a n => (((trustInit a).passes s)[n]?.getD s).afterDeath
  | .die => s.afterDeath
  | .unInit => (trustUnInit s).2
  | .put table answer f => (callAdapter (rdbPut table answer f) s).2
  | .delete table answer f => (callAdapter (rdbDelete table answer f) s).2
  | .update table answer f => (callAdapter (rdbUpdate table answer f) s).2

/-- Every corrupt file that is opened is restored. -/
def StorageAnswers.Restores (a : StorageAnswers) : Prop :=
  ∀ n, (a.connectOld n).Restores ∧ (a.connectAcl n).Restores ∧ (a.reconnectOld n).Restores

/-- No corrupt file is rebuilt empty by what happens. -/
def TrustDatabaseEvent.Restores : TrustDatabaseEvent → Prop
  | init a => a.Restores
  | dieIn a _ => a.Restores
  | _ => True

end DeviceProfile
