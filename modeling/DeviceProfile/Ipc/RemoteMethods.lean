import DeviceProfile.Cache.Online
import DeviceProfile.Info.LocalService
import DeviceProfile.Ipc.Restoring
import DeviceProfile.Library.RemoteCall

/-!
# The remote methods

How the proxy and the stub bring the methods for access control profiles, trust devices, trusted
devices, session keys and local service infos over to the service: those of these methods that the
client tries again for.
-/

namespace DeviceProfile

open Library Std LocalServiceInfoManager

/-! ## Codes -/

/-- No proxy of the service is at hand. -/
def DP_GET_SERVICE_FAILED : Int := 98566147

/-- The service could not be loaded. -/
def DP_LOAD_SERVICE_ERR : Int := 98566160

/-- An argument or a result could not be written. -/
def DP_WRITE_PARCEL_FAIL : Failure := ⟨98566235, by decide⟩

/-- An argument or a result could not be read. -/
def DP_READ_PARCEL_FAIL : Failure := ⟨98566236, by decide⟩

/-- The service has stopped and takes no more calls. -/
def DP_SERVICE_STOPPED : Int := 98566331

/-- The arguments are refused before anything is sent. -/
def DP_INVALID_PARAMS : Failure := ⟨98566144, by decide⟩

/-- The system's code for a call on a dead object. -/
def DP_ERR_DEAD_OBJECT : Int := 32

/-- The system's code for a reply that died with its sender. -/
def DP_BR_DEAD_REPLY : Int := 29189

/-- The codes that are tried again for. -/
def retryErrCodes : List Int :=
  [DP_SERVICE_STOPPED, DP_LOAD_SERVICE_ERR, DP_ERR_DEAD_OBJECT, DP_BR_DEAD_REPLY]

/-- The number of times a client sends a call again. -/
def MAX_RETRY_TIMES : Nat := 7

/-- The most bytes that a vector of bytes carries. -/
def MAX_ICON_SIZE : Nat := 4 * 1024 * 1024

/-! ## Parcels -/

section Coders

variable {σ τ : Type} (p : Parcel σ)

/-- The end of a write, or its failure. -/
def writeResult (fail : Failure) : Bool × σ → Except Failure σ
  | (true, s) => .ok s
  | (false, _) => .error fail

/-- The value of a read, or its failure. -/
def readResult (fail : Failure) : Bool × τ × σ → Except Failure τ
  | (true, t, _) => .ok t
  | (false, _, _) => .error fail

/-- The result of a read into a value of the caller. -/
def readInto (fail : Failure) : Bool × τ × σ → Except Failure Unit × τ
  | (true, t, _) => (.ok (), t)
  | (false, t, _) => (.error fail, t)

/-- A device id alone. -/
def deviceIdFields : List (WireField Text) := [⟨.string, id, fun v _ => v⟩]

/-- The id of an access control profile or of a session key alone. -/
def idFields : List (WireField Int) := [⟨.int32, id, fun v _ => v⟩]

/-- A bundle name and a pin exchange type. -/
def serviceKeyFields : List (WireField ServiceKey) :=
  [⟨.string, Prod.fst, fun v k => (v, k.2)⟩, ⟨.int32, Prod.snd, fun v k => (k.1, v)⟩]

/-- A user and a session key id. -/
def sessionKeyFields : List (WireField (Int × Int)) :=
  [⟨.uint32, Prod.fst, fun v k => (v, k.2)⟩, ⟨.int32, Prod.snd, fun v k => (k.1, v)⟩]

/-- The fields of `LocalServiceInfo` in the order of its `Marshalling`. -/
def localServiceInfoFields : List (WireField LocalServiceInfo) :=
  [⟨.string, fun x => x.bundleName, fun v x => { x with bundleName := v }⟩,
    ⟨.int32, fun x => x.authBoxType, fun v x => { x with authBoxType := v }⟩,
    ⟨.int32, fun x => x.authType, fun v x => { x with authType := v }⟩,
    ⟨.int32, fun x => x.pinExchangeType, fun v x => { x with pinExchangeType := v }⟩,
    ⟨.string, fun x => x.pinCode, fun v x => { x with pinCode := v }⟩,
    ⟨.string, fun x => x.description, fun v x => { x with description := v }⟩,
    ⟨.string, fun x => x.extraInfo, fun v x => { x with extraInfo := v }⟩]

/-- What the constructor of `LocalServiceInfo` makes. -/
def freshLocalServiceInfo : LocalServiceInfo := ⟨[], -1, -1, -1, [], [], []⟩

/-- An empty vector is refused here. -/
def marshallingTrusts (trusts : List TrustDeviceProfile) (s : σ) : Bool × σ :=
  match writeSize p trusts.length s with
  | none => (false, s)
  | some s =>
    if trusts = [] ∨ MAX_PROFILE_SIZE < trusts.length then (false, s)
    else writeEach (fun t => t.marshalling p) trusts s

/-- The profiles are read behind those of the target. -/
def unMarshallingTrusts (target : List TrustDeviceProfile) (s : σ) :
    Bool × List TrustDeviceProfile × σ :=
  let (size, s) := readSize p s
  if size = 0 ∨ MAX_PROFILE_SIZE < size then (false, target, s)
  else readEach (({} : TrustDeviceProfile).unMarshalling p) size target s

/-- The fields of `TrustedDeviceInfo` in the order of its `Marshalling`. -/
def trustedDeviceFields : List (WireField TrustedDeviceInfo) :=
  [⟨.string, fun d => d.networkId, fun v d => { d with networkId := v }⟩,
    ⟨.int32, fun d => d.authForm, fun v d => { d with authForm := v }⟩,
    ⟨.uint16, fun d => d.deviceTypeId, fun v d => { d with deviceTypeId := v }⟩,
    ⟨.string, fun d => d.osVersion, fun v d => { d with osVersion := v }⟩,
    ⟨.int32, fun d => d.osType, fun v d => { d with osType := v }⟩,
    ⟨.string, fun d => d.udid, fun v d => { d with udid := v }⟩,
    ⟨.string, fun d => d.uuid, fun v d => { d with uuid := v }⟩]

/-- The results of the devices are dropped. -/
def marshallingDevices (deviceInfos : List TrustedDeviceInfo) (s : σ) : Bool × σ :=
  match writeSize p deviceInfos.length s with
  | none => (false, s)
  | some s =>
    if deviceInfos = [] ∨ MAX_PROFILE_SIZE < deviceInfos.length then (false, s)
    else writeEach (fun d s => (true, (writeFields p trustedDeviceFields d s).2)) deviceInfos s

/-- The devices are read behind those of the target. -/
def unMarshallingDevices (target : List TrustedDeviceInfo) (s : σ) :
    Bool × List TrustedDeviceInfo × σ :=
  let (size, s) := readSize p s
  if size = 0 ∨ MAX_PROFILE_SIZE < size then (false, target, s)
  else readEach (readFields p trustedDeviceFields {}) size target s

/-- Bytes are written as raw data behind their number, which is all that is written of none. -/
def marshallingBytes (params : List UInt8) (s : σ) : Bool × σ :=
  if MAX_ICON_SIZE < params.length then (false, s)
  else
    match writeSize p params.length s with
    | none => (false, s)
    | some s =>
      if params = [] then (true, s)
      else
        match p.write .rawData params s with
        | none => (false, s)
        | some s => (true, s)

/-- Raw data can be read only with its size. -/
def unMarshallingBytes (target : List UInt8) (s : σ) : Bool × List UInt8 × σ :=
  let (size, s) := readSize p s
  if size = 0 then (true, target, s)
  else if MAX_ICON_SIZE < size then (false, target, s)
  else
    match p.read .rawData s with
    | (none, s) => (false, target, s)
    | (some params, s) => if params.length = size then (true, params, s) else (false, target, s)

end Coders

/-! ## Proxy and stub -/

/-- The methods that are tried again. -/
inductive RetriedMethod where
  | putAccessControlProfile
  | updateAccessControlProfile
  | getTrustDeviceProfile
  | getAllTrustDeviceProfile
  | getAccessControlProfile
  | getAllAccessControlProfile
  | getAllAclIncludeLnnAcl
  | deleteAccessControlProfile
  | putAllTrustedDevices
  | putSessionKey
  | deleteSessionKey
  | putLocalServiceInfo
  | updateLocalServiceInfo
  | getLocalServiceInfoByBundleAndPinType
  | deleteLocalServiceInfo
  deriving DecidableEq, Repr

/-- What a caller passes. -/
@[reducible] def RetriedMethod.Args : RetriedMethod → Type
  | .putAccessControlProfile => AccessControlProfile
  | .updateAccessControlProfile => AccessControlProfile
  | .getTrustDeviceProfile => Text
  | .getAllTrustDeviceProfile => Unit
  | .getAccessControlProfile => Entries
  | .getAllAccessControlProfile => Unit
  | .getAllAclIncludeLnnAcl => Unit
  | .deleteAccessControlProfile => Int
  | .putAllTrustedDevices => List TrustedDeviceInfo
  | .putSessionKey => Int × List UInt8
  | .deleteSessionKey => Int × Int
  | .putLocalServiceInfo => LocalServiceInfo
  | .updateLocalServiceInfo => LocalServiceInfo
  | .getLocalServiceInfoByBundleAndPinType => ServiceKey
  | .deleteLocalServiceInfo => ServiceKey

/-- What a caller gets besides the code. -/
@[reducible] def RetriedMethod.Outs : RetriedMethod → Type
  | .getTrustDeviceProfile => TrustDeviceProfile
  | .getAllTrustDeviceProfile => List TrustDeviceProfile
  | .getAccessControlProfile => List AccessControlProfile
  | .getAllAccessControlProfile => List AccessControlProfile
  | .getAllAclIncludeLnnAcl => List AccessControlProfile
  | .putSessionKey => Int
  | .getLocalServiceInfoByBundleAndPinType => LocalServiceInfo
  | _ => Unit

namespace Remote

variable {σ : Type} (p : Parcel σ)

/-- A method that answers its code only. -/
def command {A : Type} (writeArgs : A → σ → Except Failure σ) (readArgs : σ → Except Failure A)
    (replyFail : Failure) : ParcelMethod σ A Unit where
  writeArgs := writeArgs
  readArgs := readArgs
  freshOuts := ()
  replyFail := replyFail
  writeOuts _ s := .ok s
  readOuts _ _ := (.ok (), ())

/-- Arguments that are the fields of a record. -/
def writeArgFields {A : Type} (fields : List (WireField A)) (fail : Failure) (args : A) (s : σ) :
    Except Failure σ :=
  writeResult fail (writeFields p fields args s)

/-- The fields of a record, read into a fresh one. -/
def readArgFields {A : Type} (fields : List (WireField A)) (fresh : A) (fail : Failure) (s : σ) :
    Except Failure A :=
  readResult fail (readFields p fields fresh s)

/-- The call that puts a profile. A profile that cannot be written is reported as such by both
sides. -/
def putAccessControlProfile : ParcelMethod σ AccessControlProfile Unit :=
  command (fun a s => writeResult DP_WRITE_PARCEL_FAIL (a.marshalling p s))
    (fun s => readResult DP_READ_PARCEL_FAIL (freshProfile.unMarshalling p s))
    DP_WRITE_PARCEL_FAIL

variable (ERR_FLATTEN_OBJECT : Failure)

/-- The call that overwrites a profile. -/
def updateAccessControlProfile : ParcelMethod σ AccessControlProfile Unit :=
  command (fun a s => writeResult DP_WRITE_PARCEL_FAIL (a.marshalling p s))
    (fun s => readResult DP_READ_PARCEL_FAIL (freshProfile.unMarshalling p s))
    ERR_FLATTEN_OBJECT

/-- The proxy reports a result that it cannot read as one that was not written. -/
def getTrustDeviceProfile : ParcelMethod σ Text TrustDeviceProfile where
  writeArgs := writeArgFields p deviceIdFields ERR_FLATTEN_OBJECT
  readArgs := readArgFields p deviceIdFields [] ERR_FLATTEN_OBJECT
  freshOuts := {}
  replyFail := ERR_FLATTEN_OBJECT
  writeOuts t s := writeResult DP_WRITE_PARCEL_FAIL (t.marshalling p s)
  readOuts t s := readInto DP_WRITE_PARCEL_FAIL (t.unMarshalling p s)

/-- The stub reports a result that it cannot write as one that was not read. -/
def getAllTrustDeviceProfile : ParcelMethod σ Unit (List TrustDeviceProfile) where
  writeArgs _ s := .ok s
  readArgs _ := .ok ()
  freshOuts := []
  replyFail := ERR_FLATTEN_OBJECT
  writeOuts trusts s := writeResult DP_READ_PARCEL_FAIL (marshallingTrusts p trusts s)
  readOuts trusts s := readInto DP_READ_PARCEL_FAIL (unMarshallingTrusts p trusts s)

/-- A method that answers access control profiles. -/
def profileQuery {A : Type} (writeArgs : A → σ → Except Failure σ)
    (readArgs : σ → Except Failure A) : ParcelMethod σ A (List AccessControlProfile) where
  writeArgs := writeArgs
  readArgs := readArgs
  freshOuts := []
  replyFail := ERR_FLATTEN_OBJECT
  writeOuts profiles s := writeResult DP_WRITE_PARCEL_FAIL (marshallingProfiles p profiles s)
  readOuts profiles s := readInto DP_READ_PARCEL_FAIL (unMarshallingProfiles p profiles s)

/-- The query for profiles by parameters. -/
def getAccessControlProfile : ParcelMethod σ Entries (List AccessControlProfile) :=
  profileQuery p ERR_FLATTEN_OBJECT
    (fun params s => writeResult DP_WRITE_PARCEL_FAIL (marshallingMap p params s))
    (fun s => readResult DP_READ_PARCEL_FAIL (unMarshallingMap p ∅ s))

/-- The query for all profiles, which has no arguments. -/
def getAllAccessControlProfile : ParcelMethod σ Unit (List AccessControlProfile) :=
  profileQuery p ERR_FLATTEN_OBJECT (fun _ s => .ok s) fun _ => .ok ()

/-- The query for all profiles with those of the local network. -/
def getAllAclIncludeLnnAcl : ParcelMethod σ Unit (List AccessControlProfile) :=
  profileQuery p ERR_FLATTEN_OBJECT (fun _ s => .ok s) fun _ => .ok ()

/-- The call that deletes a profile by its id. -/
def deleteAccessControlProfile : ParcelMethod σ Int Unit :=
  command (writeArgFields p idFields ERR_FLATTEN_OBJECT)
    (readArgFields p idFields 0 ERR_FLATTEN_OBJECT) ERR_FLATTEN_OBJECT

/-- The call that reports all trusted devices. -/
def putAllTrustedDevices : ParcelMethod σ (List TrustedDeviceInfo) Unit :=
  command
    (fun deviceInfos s => writeResult DP_WRITE_PARCEL_FAIL (marshallingDevices p deviceInfos s))
    (fun s => readResult DP_READ_PARCEL_FAIL (unMarshallingDevices p [] s)) ERR_FLATTEN_OBJECT

/-- The stub reports a key that it cannot read as one that was not written. -/
def putSessionKey : ParcelMethod σ (Int × List UInt8) Int where
  writeArgs args s :=
    match p.write .uint32 args.1 s with
    | none => .error ERR_FLATTEN_OBJECT
    | some s => writeResult DP_WRITE_PARCEL_FAIL (marshallingBytes p args.2 s)
  readArgs s :=
    match p.read .uint32 s with
    | (none, _) => .error ERR_FLATTEN_OBJECT
    | (some userId, s) =>
      match readResult DP_WRITE_PARCEL_FAIL (unMarshallingBytes p [] s) with
      | .error e => .error e
      | .ok sessionKey => .ok (userId, sessionKey)
  freshOuts := 0
  replyFail := DP_WRITE_PARCEL_FAIL
  writeOuts := writeArgFields p idFields ERR_FLATTEN_OBJECT
  readOuts sessionKeyId s := readInto ERR_FLATTEN_OBJECT (readFields p idFields sessionKeyId s)

/-- The call that deletes a session key by its user and its id. -/
def deleteSessionKey : ParcelMethod σ (Int × Int) Unit :=
  command (writeArgFields p sessionKeyFields ERR_FLATTEN_OBJECT)
    (readArgFields p sessionKeyFields (0, 0) ERR_FLATTEN_OBJECT) DP_WRITE_PARCEL_FAIL

/-- The call that puts a local service info. -/
def putLocalServiceInfo : ParcelMethod σ LocalServiceInfo Unit :=
  command (writeArgFields p localServiceInfoFields DP_WRITE_PARCEL_FAIL)
    (readArgFields p localServiceInfoFields freshLocalServiceInfo DP_READ_PARCEL_FAIL)
    DP_WRITE_PARCEL_FAIL

/-- The call that overwrites a local service info. -/
def updateLocalServiceInfo : ParcelMethod σ LocalServiceInfo Unit :=
  command (writeArgFields p localServiceInfoFields DP_WRITE_PARCEL_FAIL)
    (readArgFields p localServiceInfoFields freshLocalServiceInfo DP_READ_PARCEL_FAIL)
    DP_WRITE_PARCEL_FAIL

/-- The query for a local service info, the only one that reads into an object the caller passes in.
-/
def getLocalServiceInfoByBundleAndPinType : ParcelMethod σ ServiceKey LocalServiceInfo where
  writeArgs := writeArgFields p serviceKeyFields ERR_FLATTEN_OBJECT
  readArgs := readArgFields p serviceKeyFields ([], 0) ERR_FLATTEN_OBJECT
  freshOuts := freshLocalServiceInfo
  replyFail := ERR_FLATTEN_OBJECT
  writeOuts x s := writeResult DP_WRITE_PARCEL_FAIL (writeFields p localServiceInfoFields x s)
  readOuts x s := readInto DP_READ_PARCEL_FAIL (readFields p localServiceInfoFields x s)

/-- The call that deletes a local service info. -/
def deleteLocalServiceInfo : ParcelMethod σ ServiceKey Unit :=
  command (writeArgFields p serviceKeyFields ERR_FLATTEN_OBJECT)
    (readArgFields p serviceKeyFields ([], 0) ERR_FLATTEN_OBJECT) DP_WRITE_PARCEL_FAIL

end Remote

/-- How a method is brought over. -/
def RetriedMethod.remote {σ : Type} (p : Parcel σ) (ERR_FLATTEN_OBJECT : Failure) :
    (m : RetriedMethod) → ParcelMethod σ m.Args m.Outs
  | .putAccessControlProfile => Remote.putAccessControlProfile p
  | .updateAccessControlProfile => Remote.updateAccessControlProfile p ERR_FLATTEN_OBJECT
  | .getTrustDeviceProfile => Remote.getTrustDeviceProfile p ERR_FLATTEN_OBJECT
  | .getAllTrustDeviceProfile => Remote.getAllTrustDeviceProfile p ERR_FLATTEN_OBJECT
  | .getAccessControlProfile => Remote.getAccessControlProfile p ERR_FLATTEN_OBJECT
  | .getAllAccessControlProfile => Remote.getAllAccessControlProfile p ERR_FLATTEN_OBJECT
  | .getAllAclIncludeLnnAcl => Remote.getAllAclIncludeLnnAcl p ERR_FLATTEN_OBJECT
  | .deleteAccessControlProfile => Remote.deleteAccessControlProfile p ERR_FLATTEN_OBJECT
  | .putAllTrustedDevices => Remote.putAllTrustedDevices p ERR_FLATTEN_OBJECT
  | .putSessionKey => Remote.putSessionKey p ERR_FLATTEN_OBJECT
  | .deleteSessionKey => Remote.deleteSessionKey p ERR_FLATTEN_OBJECT
  | .putLocalServiceInfo => Remote.putLocalServiceInfo p
  | .updateLocalServiceInfo => Remote.updateLocalServiceInfo p
  | .getLocalServiceInfoByBundleAndPinType =>
    Remote.getLocalServiceInfoByBundleAndPinType p ERR_FLATTEN_OBJECT
  | .deleteLocalServiceInfo => Remote.deleteLocalServiceInfo p ERR_FLATTEN_OBJECT

/-- The client looks at the number of the query parameters and of the trusted devices only. -/
def RetriedMethod.check : (m : RetriedMethod) → m.Args → Option Failure
  | .getAccessControlProfile, params =>
    if params.size = 0 ∨ MAX_PARAM_SIZE < params.size then some DP_INVALID_PARAMS else none
  | .putAllTrustedDevices, deviceInfos =>
    if deviceInfos = [] ∨ MAX_TRUSTED_DEVICE_SIZE < deviceInfos.length then some DP_INVALID_PARAMS
    else none
  | _, _ => none

end DeviceProfile
