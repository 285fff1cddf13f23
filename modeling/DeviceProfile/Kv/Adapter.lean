import DeviceProfile.Library.Batches
import DeviceProfile.Library.Simulation
import DeviceProfile.Profile.Store

/-!
# The adapter of the profile store

The adapter looks at its arguments, holds its lock, and calls the database, which may fail at each
call. Other devices change the database between two calls of the adapter and between two calls
that one of its methods makes.
-/

namespace DeviceProfile

open Library Std

/-- The number of times the store is opened at a start. -/
def MAX_INIT_RETRY_TIMES : Nat := 30

/-- The most entries of one batch of the store. -/
def MAX_BATCH_SIZE : Nat := 128

/-- What the database answers. -/
inductive KvStatus where
  | success
  | storeMetaChanged
  | securityLevelError
  | error
  deriving DecidableEq, Repr

/-- The codes of the adapter. -/
inductive KvCode where
  | success
  | invalidParams
  | kvDbPtrNull
  | kvDbInitFail
  | putKvDbFail
  | delKvDbFail
  | getKvDbFail
  | kvSyncFail
  deriving DecidableEq, Repr

/-- A try to open the store: the answer, whether there is a pointer then, and whether the store
is deleted where the adapter asks for it. -/
structure KvOpening where
  status : KvStatus := .success
  kvStorePtr : Bool := true
  deleted : Bool := true

/-- The status that `KVAdapter::GetKvStorePtr` returns. -/
def KvOpening.result (o : KvOpening) : KvStatus :=
  if o.status = .success ∧ o.kvStorePtr = false then .error else o.status

/-- The statuses for which the adapter deletes the store. -/
def KvStatus.isBroken : KvStatus → Bool
  | .storeMetaChanged => true
  | .securityLevelError => true
  | _ => false

/-- What the database answers during a call of the adapter, one status for each call it makes. -/
structure KvTurn where
  openings : Nat → KvOpening := fun _ => {}
  statuses : Nat → KvStatus := fun _ => .success

/-- The database, and whether the adapter has a pointer to its store. -/
structure KvService where
  store : KvStore := ∅
  kvStorePtr : Bool := false

/-- A call on the adapter, one step for each call on the store. It answers a code and does not fail.
-/
abbrev KvProg := Prog Empty KvService

/-- The modes of a synchronization lie between these. -/
def syncModeMin : Int := -1

/-- The first number that is no mode of a synchronisation. -/
def syncModeMax : Int := 3

namespace KvService

/-! ## The database -/

/-- `SingleKvStore::Get`. -/
def getValue (status : KvStatus) (key : Text) : KvProg (Option Text) :=
  .act fun s => (if status = .success then s.store.valueAt key else none, s)

/-- `SingleKvStore::PutBatch`, and `Put` for one entry. -/
def putEntries (device : Text) (status : KvStatus) (entries : List (Text × Text)) :
    KvProg KvStatus :=
  .act fun s => (status,
    if status = .success then
      { s with store := s.store.insertMany (entries.map fun e => (e.1, ⟨e.2, device⟩)) }
    else s)

/-- `SingleKvStore::DeleteBatch`, and `Delete` for one key. -/
def deleteKeys (status : KvStatus) (keys : List Text) : KvProg KvStatus :=
  .act fun s => (status,
    if status = .success then { s with store := keys.foldl ExtTreeMap.erase s.store } else s)

/-- `SingleKvStore::GetEntries`. -/
def getEntries (status : KvStatus) (keyPrefix : Text) : KvProg (Option Entries) :=
  .act fun s => (if status = .success then some (s.store.getEntries keyPrefix) else none, s)

/-- `SingleKvStore::GetDeviceEntries`. -/
def getDeviceEntries (status : KvStatus) (uuid : Text) : KvProg (Option Entries) :=
  .act fun s => (if status = .success then
    some (s.store.filterMap fun _ cell => if cell.writer = uuid then some cell.value else none)
    else none, s)

/-- `SingleKvStore::RemoveDeviceData`. -/
def removeDeviceData (status : KvStatus) (uuid : Text) : KvProg KvStatus :=
  .act fun s => (status,
    if status = .success then { s with store := s.store.filter fun _ cell => cell.writer ≠ uuid }
    else s)

/-- Whether there is a pointer to the store. -/
def hasStore : KvProg Bool := .act fun s => (s.kvStorePtr, s)

end KvService

namespace KvAdapter

open KvService

/-! ## The adapter -/

/-- `KVAdapter::GetKvStorePtr`. -/
def getKvStorePtr (opening : KvOpening) : KvProg KvStatus :=
  .act fun s => (opening.result, { s with kvStorePtr := opening.kvStorePtr })

/-- `KVAdapter::DeleteKvStore`. -/
def deleteKvStore (opening : KvOpening) : KvProg Unit :=
  .act fun s => ((), if opening.deleted then { s with store := ∅ } else s)

/-- The tries of `KVAdapter::Init`. -/
def initTries (openings : Nat → KvOpening) : Nat → KvProg KvCode
  | 0 => return .kvDbInitFail
  | tryTimes + 1 => do
    let status ← getKvStorePtr (openings tryTimes)
    if status = .success then
      return .success
    if status.isBroken then
      deleteKvStore (openings tryTimes)
    initTries openings tryTimes

/-- Opens the store, with as many tries as the constant allows. -/
def init (turn : KvTurn) : KvProg KvCode := initTries turn.openings MAX_INIT_RETRY_TIMES

/-- `KVAdapter::UnInit`, which ends with `DeleteKvStorePtr`. -/
def unInit : KvProg KvCode := .act fun s => (.success, { s with kvStorePtr := false })

/-- `KVAdapter::Put` writes no value that it finds. -/
def put (device : Text) (turn : KvTurn) (key value : Text) : KvProg KvCode := do
  if ¬HasKeyLength key ∨ ¬HasKeyLength value then
    return .invalidParams
  if !(← hasStore) then
    return .kvDbPtrNull
  let old ← getValue (turn.statuses 0) key
  if old = some value then
    return .success
  let status ← putEntries device (turn.statuses 1) [(key, value)]
  return if status = .success then .success else .putKvDbFail

/-- The entries of a batch that are not found; the first status is for the first of them. -/
def changedEntries (statuses : Nat → KvStatus) : List (Text × Text) → KvProg (List (Text × Text))
  | [] => return []
  | (key, value) :: rest => do
    let old ← getValue (statuses 0) key
    let entries ← changedEntries (fun i => statuses (i + 1)) rest
    return if old = some value then entries else (key, value) :: entries

/-- `KVAdapter::PutBatch`. -/
def putBatch (device : Text) (turn : KvTurn) (values : Entries) : KvProg KvCode := do
  if values.isEmpty ∨ MAX_PROFILE_SIZE < values.size then
    return .invalidParams
  if !(← hasStore) then
    return .kvDbPtrNull
  let entries ← changedEntries turn.statuses values.toList
  if entries = [] then
    return .success
  let status ← putEntries device (turn.statuses values.size) entries
  return if status = .success then .success else .putKvDbFail

/-- `KVAdapter::Delete`. -/
def delete (turn : KvTurn) (key : Text) : KvProg KvCode := do
  if !(← hasStore) then
    return .kvDbPtrNull
  let status ← deleteKeys (turn.statuses 0) [key]
  return if status = .success then .success else .delKvDbFail

/-- `KVAdapter::Get`; the value is the one of the caller where none is found. -/
def get (turn : KvTurn) (key value : Text) : KvProg (KvCode × Text) := do
  if !(← hasStore) then
    return (.kvDbPtrNull, value)
  match ← getValue (turn.statuses 0) key with
  | none => return (.getKvDbFail, value)
  | some found => return (.success, found)

/-- `KVAdapter::GetByPrefix` adds to the values of the caller. -/
def getByPrefix (turn : KvTurn) (keyPrefix : Text) (values : Entries) :
    KvProg (KvCode × Entries) := do
  if !(← hasStore) then
    return (.kvDbPtrNull, values)
  match ← KvService.getEntries (turn.statuses 0) keyPrefix with
  | none => return (.getKvDbFail, values)
  | some allEntries =>
    if allEntries.size = 0 ∨ MAX_DB_SIZE < allEntries.size then
      return (.invalidParams, values)
    return (.success, values ∪ allEntries)

/-- `KVAdapter::DeleteByPrefix`. -/
def deleteByPrefix (turn : KvTurn) (keyPrefix : Text) : KvProg KvCode := do
  if !(← hasStore) then
    return .kvDbPtrNull
  match ← KvService.getEntries (turn.statuses 0) keyPrefix with
  | none => return .delKvDbFail
  | some allEntries =>
    let status ← deleteKeys (turn.statuses 1) allEntries.keys
    return if status = .success then .success else .delKvDbFail

/-- `KVAdapter::Sync`; what other devices send comes later. -/
def sync (turn : KvTurn) (deviceList : List Text) (syncMode : Int) : KvProg KvCode := do
  if !(← hasStore) then
    return .kvDbPtrNull
  if deviceList = [] ∨ MAX_DEVICE_SIZE < deviceList.length then
    return .invalidParams
  if syncMode ≤ syncModeMin ∨ syncModeMax ≤ syncMode then
    return .invalidParams
  return if turn.statuses 0 = .success then .success else .kvSyncFail

/-- `KVAdapter::GetDeviceEntries` leaves out an empty key. -/
def getDeviceEntries (turn : KvTurn) (udid : Text) (values : Entries) :
    KvProg (KvCode × Entries) := do
  if udid = [] then
    return (.invalidParams, values)
  if !(← hasStore) then
    return (.kvDbPtrNull, values)
  match ← KvService.getDeviceEntries (turn.statuses 0) udid with
  | none => return (.getKvDbFail, values)
  | some entries => return (.success, values ∪ entries.filter fun key _ => key ≠ [])

/-- The loop of `KVAdapter::DeleteBatch`. -/
def deleteBatches (statuses : Nat → KvStatus) : List (List Text) → KvProg KvCode
  | [] => return .success
  | delKeys :: rest => do
    let status ← deleteKeys (statuses 0) delKeys
    if status ≠ .success then
      return .delKvDbFail
    deleteBatches (fun i => statuses (i + 1)) rest

/-- `KVAdapter::DeleteBatch`. -/
def deleteBatch (turn : KvTurn) (keys : List Text) : KvProg KvCode := do
  if keys = [] ∨ MAX_PROFILE_SIZE < keys.length then
    return .invalidParams
  if !(← hasStore) then
    return .kvDbPtrNull
  deleteBatches turn.statuses (batches MAX_BATCH_SIZE keys)

/-- `KVAdapter::RemoveDeviceData`. -/
def removeDeviceData (turn : KvTurn) (uuid : Text) : KvProg KvCode := do
  if uuid = [] then
    return .invalidParams
  if !(← hasStore) then
    return .kvDbPtrNull
  let status ← KvService.removeDeviceData (turn.statuses 0) uuid
  return if status = .success then .success else .getKvDbFail

end KvAdapter

end DeviceProfile
