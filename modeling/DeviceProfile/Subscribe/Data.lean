import DeviceProfile.Trust.Data
import Mathlib.Data.Finset.Insert

/-!
# Subscriptions

A subscription names the kinds of changes a subscriber wants to hear of, the key of what
changes, and the remote object to call back.
-/

namespace DeviceProfile

/-- The kinds of changes. -/
inductive ProfileChangeType where
  | TRUST_DEVICE_PROFILE_ADD
  | TRUST_DEVICE_PROFILE_UPDATE
  | TRUST_DEVICE_PROFILE_DELETE
  | DEVICE_PROFILE_ADD
  | DEVICE_PROFILE_UPDATE
  | DEVICE_PROFILE_DELETE
  | SERVICE_PROFILE_ADD
  | SERVICE_PROFILE_UPDATE
  | SERVICE_PROFILE_DELETE
  | CHAR_PROFILE_ADD
  | CHAR_PROFILE_UPDATE
  | CHAR_PROFILE_DELETE
  | TRUST_DEVICE_PROFILE_ACTIVE
  | TRUST_DEVICE_PROFILE_INACTIVE
  | DEVICE_ACL_INACTIVE_BY_DELETE
  | DEVICE_ACL_INACTIVE_BY_UPDATE
  | ACCOUNT_ACL_DELETE
  | ACCOUNT_ACL_INACTIVE
  | ACCOUNT_ACL_ADD
  | ACCOUNT_ACL_ACTIVE
  deriving DecidableEq, Repr

namespace ProfileChangeType

/-- The kinds in the order of their numbers, which start at one. -/
def all : List ProfileChangeType :=
  [TRUST_DEVICE_PROFILE_ADD, TRUST_DEVICE_PROFILE_UPDATE, TRUST_DEVICE_PROFILE_DELETE,
    DEVICE_PROFILE_ADD, DEVICE_PROFILE_UPDATE, DEVICE_PROFILE_DELETE, SERVICE_PROFILE_ADD,
    SERVICE_PROFILE_UPDATE, SERVICE_PROFILE_DELETE, CHAR_PROFILE_ADD, CHAR_PROFILE_UPDATE,
    CHAR_PROFILE_DELETE, TRUST_DEVICE_PROFILE_ACTIVE, TRUST_DEVICE_PROFILE_INACTIVE,
    DEVICE_ACL_INACTIVE_BY_DELETE, DEVICE_ACL_INACTIVE_BY_UPDATE, ACCOUNT_ACL_DELETE,
    ACCOUNT_ACL_INACTIVE, ACCOUNT_ACL_ADD, ACCOUNT_ACL_ACTIVE]

/-- The kind with a number between the two bounds of the enumeration. -/
def ofValue (num : Int) : Option ProfileChangeType :=
  if num ≤ 0 then none else all[(num - 1).toNat]?

end ProfileChangeType

/-- A subscription: who, to which key, for which changes, and whom to call. -/
structure SubscribeInfo where
  saId : Int := -1
  subscribeKey : Text := []
  subscribeChangeTypes : Finset ProfileChangeType := ∅
  /-- The remote object of the subscriber. -/
  listener : Option Nat := none
  deriving DecidableEq

end DeviceProfile
