import DeviceProfile.Rdb.DeviceProfiles

/-!
# What a batch of puts reports

A put writes its row when the database answers the query before and accepts the statement, and it
succeeds when the query after an insertion is answered as well. The answer of a batch is success
as soon as one put succeeds. Without a user in the foreground a put for the default user asks for
the rows of all users of its device and replaces that of the least user id.
-/

namespace DeviceProfile.ProfileDataManager

open Library

/-! ## One put -/

/-- The device id of the profile is accepted. -/
def IsAccepted (x : DeviceProfileRow) : Prop :=
  ¬(x.deviceId = [] ∨ FilterInvaildSymbol x.deviceId)

instance (x : DeviceProfileRow) : Decidable (IsAccepted x) := inferInstanceAs (Decidable (¬_))

section Put

-- The user in the foreground, or the default user id where the system does not know it.
variable (foregroundUserId : Int32)

/-- The device and the user a profile is put for. -/
def keyOf (x : DeviceProfileRow) : DeviceProfileIndex := (forUser foregroundUserId x).indexColumns

/-- The rows the query of a put asks for. -/
def Asks (x r : DeviceProfileRow) : Prop :=
  r.deviceId = x.deviceId ∧
    (userOf foregroundUserId x.userId = DEFAULT_USER_ID ∨
      r.userId = userOf foregroundUserId x.userId)

instance (x r : DeviceProfileRow) : Decidable (Asks foregroundUserId x r) :=
  inferInstanceAs (Decidable (_ ∧ (_ ∨ _)))

/-- The row a put replaces: of the rows it asks for that of the least user, if that has an id. -/
structure Finds (w : ProfileData) (x r : DeviceProfileRow) : Prop where
  mem : r ∈ w.deviceProfiles
  asked : Asks foregroundUserId x r
  least : ∀ a ∈ w.deviceProfiles, Asks foregroundUserId x a → r.userId ≤ a.userId
  hasId : 0 < r.id

/-- The row a put replaces, as the put finds it: the first one its query delivers. -/
def oldRow (w : ProfileData) (x : DeviceProfileRow) : Option DeviceProfileRow :=
  ((w.deviceProfiles.selectBy DeviceProfileIndex.le fun r =>
    decide (Asks foregroundUserId x r)).head?).filter fun r => decide (0 < r.id)

/-- The row a put writes. -/
def newRow (w : ProfileData) (x : DeviceProfileRow) : DeviceProfileRow :=
  DeviceProfileDao.deviceProfileToEntries (forUser foregroundUserId x)
    (match oldRow foregroundUserId w x with
      | some old => old.id
      | none => w.nextId)

/-- The row is written: the device id is accepted, the query and the statement do not fail, and
no row but the one that is replaced is that of the device and user. -/
structure Writes (w : ProfileData) (x : DeviceProfileRow) : Prop where
  accepted : IsAccepted x
  query : w.fault = false
  statement : w.pop.fault = false
  index : ∀ r ∈ w.deviceProfiles, r.indexColumns = keyOf foregroundUserId x →
    Finds foregroundUserId w x r

/-- No row is replaced, and the query after the insertion fails. -/
def IsUnread (w : ProfileData) (x : DeviceProfileRow) : Prop :=
  (∀ r, ¬Finds foregroundUserId w x r) ∧ w.pop.pop.fault = true

/-- The put succeeds: the row is written, and after an insertion the second query does not fail. -/
def Succeeds (w : ProfileData) (x : DeviceProfileRow) : Prop :=
  Writes foregroundUserId w x ∧ ¬IsUnread foregroundUserId w x

/-- The row of another user is replaced. -/
def Replaces (key : DeviceProfileIndex) (w : ProfileData) (x : DeviceProfileRow) : Prop :=
  Writes foregroundUserId w x ∧ keyOf foregroundUserId x ≠ key ∧
    ∃ old, Finds foregroundUserId w x old ∧ old.indexColumns = key

/-- The state after a put, whatever it returns. -/
def putStep (w : ProfileData) (x : DeviceProfileRow) : ProfileData :=
  ((putDeviceProfile foregroundUserId x).exec w).2

end Put

variable {foregroundUserId : Int32}

/-- What a put that writes its row does to the table. -/
structure IsWritten (foregroundUserId : Int32) (w : ProfileData) (x : DeviceProfileRow)
    (w' : ProfileData) : Prop where
  accepted : w'.accepted = w.accepted ++ [newRow foregroundUserId w x]
  rows : ∀ r, r ∈ w'.deviceProfiles ↔ r = newRow foregroundUserId w x ∨
    r ∈ w.deviceProfiles ∧ r.id ≠ (newRow foregroundUserId w x).id

/-- The put of the element has written a row. -/
def Stores (foregroundUserId : Int32) (w : ProfileData) (x : DeviceProfileRow) : Prop :=
  (putStep foregroundUserId w x).accepted ≠ w.accepted

instance (w : ProfileData) (x : DeviceProfileRow) : Decidable (Stores foregroundUserId w x) :=
  inferInstanceAs (Decidable (_ ≠ _))

end DeviceProfile.ProfileDataManager
