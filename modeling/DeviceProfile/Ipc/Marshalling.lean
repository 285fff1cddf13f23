import DeviceProfile.Library.OrderedMap
import DeviceProfile.Library.Parcel
import DeviceProfile.Profile.Store
import Mathlib.Algebra.Group.Nat.Defs

/-!
# Profiles in messages

Trust device profiles, access control profiles and maps of strings are written into a
parcel and read back. The readers add to their target, refuse what is empty or too long, and
take a key to end at the first separator; the writers do not ask for any of this. The results
of the nested profiles of an access control profile are dropped on both sides.
-/

namespace DeviceProfile

open Library Std

/-- The most pairs that a map of parameters holds. -/
def MAX_PARAM_SIZE : Nat := 20

/-- The number of elements that is written fits into 32 bits. -/
def uint32Size (length : Nat) : Nat := length % 2 ^ 32

section Marshalling

variable {σ : Type} (p : Parcel σ)

/-- A size is written in front of the elements. -/
def writeSize (length : Nat) (s : σ) : Option σ := p.write .uint32 (uint32Size length) s

/-- The size that is read, zero where there is none. -/
def readSize (s : σ) : Nat × σ := (((p.read .uint32 s).1.getD 0).toNat, (p.read .uint32 s).2)

/-! ## Trust device profiles -/

/-- The fields in front of the services. -/
def trustFields : List (WireField TrustDeviceProfile) :=
  [⟨.string, fun t => t.deviceId, fun v t => { t with deviceId := v }⟩,
    ⟨.uint32, fun t => t.deviceIdType, fun v t => { t with deviceIdType := v }⟩,
    ⟨.string, fun t => t.deviceIdHash, fun v t => { t with deviceIdHash := v }⟩,
    ⟨.int32, fun t => t.status, fun v t => { t with status := v }⟩,
    ⟨.uint32, fun t => t.bindType, fun v t => { t with bindType := v }⟩,
    ⟨.int32, fun t => t.peerUserId, fun v t => { t with peerUserId := v }⟩,
    ⟨.int32, fun t => t.localUserId, fun v t => { t with localUserId := v }⟩,
    ⟨.string, fun t => t.peerAccountId, fun v t => { t with peerAccountId := v }⟩,
    ⟨.string, fun t => t.localAccountId, fun v t => { t with localAccountId := v }⟩]

/-- A trust device writes its fields and then its service ids, and stops at the first value that
fails. -/
def TrustDeviceProfile.marshalling (t : TrustDeviceProfile) (s : σ) : Bool × σ :=
  match writeFields p trustFields t s with
  | (false, s) => (false, s)
  | (true, s) =>
    match writeSize p t.serviceIdList.length s with
    | none => (false, s)
    | some s => writeValues p .int64 t.serviceIdList s

/-- The services are added to those of the target. -/
def TrustDeviceProfile.unMarshalling (target : TrustDeviceProfile) (s : σ) :
    Bool × TrustDeviceProfile × σ :=
  match readFields p trustFields target s with
  | (false, t, s) => (false, t, s)
  | (true, t, s) =>
    match p.read .uint32 s with
    | (none, s) => (false, t, s)
    | (some size, s) =>
      if MAX_SERVICE_SIZE < size.toNat then (false, t, s)
      else
        let (result, ids, s) := readValues p .int64 size.toNat s
        (result, { t with serviceIdList := t.serviceIdList ++ ids }, s)

/-! ## Access control profiles -/

/-- The fields of `Accesser` and of `Accessee`. -/
def partyFields : List (WireField Party) :=
  [⟨.int64, fun a => a.partyId, fun v a => { a with partyId := v }⟩,
    ⟨.string, fun a => a.deviceId, fun v a => { a with deviceId := v }⟩,
    ⟨.int32, fun a => a.userId, fun v a => { a with userId := v }⟩,
    ⟨.string, fun a => a.accountId, fun v a => { a with accountId := v }⟩,
    ⟨.int64, fun a => a.tokenId, fun v a => { a with tokenId := v }⟩,
    ⟨.string, fun a => a.bundleName, fun v a => { a with bundleName := v }⟩,
    ⟨.string, fun a => a.hapSignature, fun v a => { a with hapSignature := v }⟩,
    ⟨.uint32, fun a => a.bindLevel, fun v a => { a with bindLevel := v }⟩,
    ⟨.string, fun a => a.deviceName, fun v a => { a with deviceName := v }⟩,
    ⟨.string, fun a => a.serviceName, fun v a => { a with serviceName := v }⟩,
    ⟨.int32, fun a => a.credentialId, fun v a => { a with credentialId := v }⟩,
    ⟨.string, fun a => a.credentialIdStr, fun v a => { a with credentialIdStr := v }⟩,
    ⟨.int32, fun a => a.status, fun v a => { a with status := v }⟩,
    ⟨.int32, fun a => a.sessionKeyId, fun v a => { a with sessionKeyId := v }⟩,
    ⟨.int64, fun a => a.skTimeStamp, fun v a => { a with skTimeStamp := v }⟩,
    ⟨.string, fun a => a.extraData, fun v a => { a with extraData := v }⟩]

/-- The fields in front of the parties. -/
def aclFields : List (WireField AccessControlProfile) :=
  [⟨.int64, fun a => a.accessControlId, fun v a => { a with accessControlId := v }⟩,
    ⟨.int64, fun a => a.accesserId, fun v a => { a with accesserId := v }⟩,
    ⟨.int64, fun a => a.accesseeId, fun v a => { a with accesseeId := v }⟩,
    ⟨.string, fun a => a.sessionKey, fun v a => { a with sessionKey := v }⟩,
    ⟨.uint32, fun a => a.bindType, fun v a => { a with bindType := v }⟩,
    ⟨.uint32, fun a => a.authenticationType, fun v a => { a with authenticationType := v }⟩,
    ⟨.uint32, fun a => a.bindLevel, fun v a => { a with bindLevel := v }⟩,
    ⟨.int32, fun a => a.status, fun v a => { a with status := v }⟩,
    ⟨.int64, fun a => a.validPeriod, fun v a => { a with validPeriod := v }⟩,
    ⟨.int64, fun a => a.lastAuthTime, fun v a => { a with lastAuthTime := v }⟩,
    ⟨.string, fun a => a.trustDeviceId, fun v a => { a with trustDeviceId := v }⟩,
    ⟨.uint32, fun a => a.deviceIdType, fun v a => { a with deviceIdType := v }⟩,
    ⟨.string, fun a => a.deviceIdHash, fun v a => { a with deviceIdHash := v }⟩,
    ⟨.string, fun a => a.extraData, fun v a => { a with extraData := v }⟩]

/-- What the constructor makes. -/
def freshProfile : AccessControlProfile := { validPeriod := -1, lastAuthTime := -1 }

/-- The results of the parties are dropped. -/
def AccessControlProfile.marshalling (a : AccessControlProfile) (s : σ) : Bool × σ :=
  match writeFields p aclFields a s with
  | (false, s) => (false, s)
  | (true, s) =>
    let (_, s) := writeFields p partyFields a.accesser s
    let (_, s) := writeFields p partyFields a.accessee s
    (true, s)

/-- The results of the parties are dropped here too. -/
def AccessControlProfile.unMarshalling (target : AccessControlProfile) (s : σ) :
    Bool × AccessControlProfile × σ :=
  match readFields p aclFields target s with
  | (false, a, s) => (false, a, s)
  | (true, a, s) =>
    let (_, accesser, s) := readFields p partyFields a.accesser s
    let (_, accessee, s) := readFields p partyFields a.accessee s
    (true, { a with accesser, accessee }, s)

/-- An empty vector is written, and one that is too long is refused only after its size. -/
def marshallingProfiles (aclProfiles : List AccessControlProfile) (s : σ) : Bool × σ :=
  match writeSize p aclProfiles.length s with
  | none => (false, s)
  | some s =>
    if aclProfiles = [] then (true, s)
    else if MAX_PROFILE_SIZE < aclProfiles.length then (false, s)
    else writeEach (fun a => a.marshalling p) aclProfiles s

/-- An empty vector is refused. -/
def unMarshallingProfiles (target : List AccessControlProfile) (s : σ) :
    Bool × List AccessControlProfile × σ :=
  let (size, s) := readSize p s
  if size = 0 ∨ MAX_PROFILE_SIZE < size then (false, target, s)
  else readEach (freshProfile.unMarshalling p) size target s

/-! ## Maps of strings -/

/-- A pair of a map is one text, the name and the value with a separator between. -/
def mapItem (x : Text × Text) : Text := x.1 ++ SEPARATOR ++ x.2

/-- A map of parameters is written as its size and its pairs, in the order of the names. -/
def marshallingMap (params : Entries) (s : σ) : Bool × σ :=
  match writeSize p params.size s with
  | none => (false, s)
  | some s =>
    if params.size = 0 ∨ MAX_PARAM_SIZE < params.size then (false, s)
    else writeValues p .string (params.toList.map mapItem) s

/-- The text before the first separator and the text behind it, if there is one. -/
def splitItem (item : Text) : Option (Text × Text) :=
  if separator ∈ item then
    some (item.takeWhile fun c => c ≠ separator, (item.dropWhile fun c => c ≠ separator).drop 1)
  else none

/-- A map is read pair by pair. A pair that does not fall into two parts is left out. -/
def unMarshallingMap (target : Entries) (s : σ) : Bool × Entries × σ :=
  let (size, s) := readSize p s
  if size = 0 ∨ MAX_PARAM_SIZE < size then (false, target, s)
  else
    let (result, items, s) := readValues p .string size s
    (result, insertAll Prod.fst Prod.snd (items.filterMap splitItem) target, s)

end Marshalling

end DeviceProfile
