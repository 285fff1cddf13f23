import DeviceProfile.Cache.ProfileCache
import DeviceProfile.Library.Run
import Mathlib.Algebra.Group.Nat.Defs

/-!
# Switches

The state of the local switches is one word with a bit for each switch service. The cache
holds the same state as characteristic profiles with the values `0` and `1`.
-/

namespace DeviceProfile

open Library Std

/-- The key of the only characteristic that a switch has. -/
def SWITCH_STATUS : Text := ("SwitchStatus" : Text)

/-- The value of a switch that is on. -/
def SWITCH_ON : Text := ("1" : Text)

/-- The value of a switch that is off. -/
def SWITCH_OFF : Text := ("0" : Text)

/-- The switches, one for each bit in use. -/
inductive SwitchFlag where
  | keyMouseEdgeCrossing
  | keyDistributedPasteboard
  | dcShareSwitch
  | wifiDisplayService
  | distributedSuperManager
  deriving DecidableEq, Repr

/-- The bit of a switch. -/
def SwitchFlag.pos : SwitchFlag → Nat
  | keyMouseEdgeCrossing => 0
  | keyDistributedPasteboard => 1
  | dcShareSwitch => 2
  | wifiDisplayService => 3
  | distributedSuperManager => 4

/-- The number of bits of the word that stand for a service. -/
def SWITCH_FLAG_MAX : Nat := 5

/-- The services that have a switch. -/
def SWITCH_SERVICE_MAP : List (Text × SwitchFlag) :=
  [(("SwitchStatus_Key_Mouse_Edge_Crossing" : Text), .keyMouseEdgeCrossing),
    (("SwitchStatus_Key_Distributed_Pasteboard" : Text), .keyDistributedPasteboard),
    (("SwitchStatus_DcShareSwitch" : Text), .dcShareSwitch),
    (("SwitchStatus_Wifi_Display_Service" : Text), .wifiDisplayService),
    (("SwitchStatus_Distributed_Super_Manager" : Text), .distributedSuperManager)]

/-- The error codes of the switch calls. -/
inductive SwitchError where
  | invalidParams
  | cacheExist
  | getProxyFail
  | getServiceNameByPosFail
  | getKvDbFail
  | putSwitchFail
  deriving DecidableEq, Repr

/-- What a switch profile is checked for. -/
inductive SwitchOperate where
  | put
  | get
  deriving DecidableEq, Repr

/-! ## The word -/

/-- The number at the start of a text, if there is one that fits into a word. -/
def fromChars (value : Text) : Option Nat :=
  let digits := value.takeWhile Char.isDigit
  if digits = [] then none
  else if Nat.ofDigitChars 10 digits 0 < 2 ^ 32 then some (Nat.ofDigitChars 10 digits 0)
  else none

/-- The switch service of a profile. -/
def switchFlag (charProfile : CharacteristicProfile) : Option SwitchFlag :=
  SWITCH_SERVICE_MAP.lookup charProfile.serviceName

/-- A switch is the status of a service of the table; a put of one needs a value that is on or off.
-/
def IsSwitchValid (charProfile : CharacteristicProfile) (operate : SwitchOperate) : Prop :=
  charProfile.characteristicKey = SWITCH_STATUS ∧ SWITCH_SERVICE_MAP ≠ [] ∧
    (operate = .put → charProfile.characteristicValue ≠ [] ∧
      (charProfile.characteristicValue = SWITCH_OFF ∨
        charProfile.characteristicValue = SWITCH_ON)) ∧
    switchFlag charProfile ≠ none

instance (charProfile : CharacteristicProfile) (operate : SwitchOperate) :
    Decidable (IsSwitchValid charProfile operate) :=
  inferInstanceAs (Decidable (_ ∧ _))

/-- Sets or clears the bit of the service in the word. -/
def setSwitchByProfile (charProfile : CharacteristicProfile) (outSwitch : BitVec 32) :
    Except SwitchError (BitVec 32) :=
  if ¬IsSwitchValid charProfile .put then .error .invalidParams
  else
    match switchFlag charProfile with
    | none => .error .invalidParams
    | some service =>
      let mask := 1#32 <<< service.pos
      match fromChars charProfile.characteristicValue with
      | none => .error .getProxyFail
      | some value => .ok (if value ≠ 0 then outSwitch ||| mask else outSwitch &&& ~~~mask)

/-- The service whose bit stands at a position. -/
def getServiceNameByPos (pos : Nat) : Except SwitchError Text :=
  if SWITCH_FLAG_MAX ≤ pos ∨ SWITCH_SERVICE_MAP = [] then .error .invalidParams
  else if MAX_SERVICE_SIZE < SWITCH_SERVICE_MAP.length then .error .invalidParams
  else
    match SWITCH_SERVICE_MAP.find? fun item => item.2.pos = pos with
    | some item => .ok item.1
    | none => .error .getServiceNameByPosFail

/-! ## The calls -/

section Calls

variable (localUdid : Text)

/-- The answer of the switch store to a word. -/
def putSwitch (stored : Bool) : Except SwitchError Unit :=
  if stored then .ok () else .error .putSwitchFail

/-- A put of one switch: the word goes to the switch store first, the cache follows only when that
put succeeded. -/
def putSwitchCharacteristicProfile (stored : Bool) (charProfile : Flagged CharacteristicProfile)
    (c : ProfileCache) : Except SwitchError ProfileCache := do
  if ¬IsCharProfileValid localUdid charProfile.profile then throw .invalidParams
  if c.IsCharProfileExist charProfile then throw .cacheExist
  let newSwitch ← setSwitchByProfile charProfile.profile c.curLocalSwitch
  putSwitch stored
  return { c with curLocalSwitch := newSwitch }.cacheCharProfile charProfile

/-- The word after one profile of a batch: a cached profile is passed over, and so is one that
cannot be set. -/
def setSwitchOfItem (c : ProfileCache) (newSwitch : BitVec 32)
    (item : Flagged CharacteristicProfile) : Except SwitchError (BitVec 32) :=
  if ¬IsCharProfileValid localUdid item.profile then .error .invalidParams
  else if c.IsCharProfileExist item then .ok newSwitch
  else
    match setSwitchByProfile item.profile newSwitch with
    | .ok outSwitch => .ok outSwitch
    | .error _ => .ok newSwitch

/-- In the end every profile of the batch is cached. -/
def putSwitchCharacteristicProfileBatch (stored : Bool)
    (charProfiles : List (Flagged CharacteristicProfile)) (c : ProfileCache) :
    Except SwitchError ProfileCache := do
  if charProfiles = [] then throw .invalidParams
  if MAX_CHAR_SIZE < charProfiles.length then throw .invalidParams
  let newSwitch ← charProfiles.foldlM (setSwitchOfItem localUdid c) c.curLocalSwitch
  putSwitch stored
  return charProfiles.foldl ProfileCache.cacheCharProfile { c with curLocalSwitch := newSwitch }

/-- The profile that is cached for a bit of the word, if a service has the bit. -/
def refreshedProfile (newSwitch : BitVec 32) (i : Nat) : Option (Flagged CharacteristicProfile) :=
  match getServiceNameByPos i with
  | .error _ => none
  | .ok serviceName =>
    if serviceName = [] then none
    else some { profile := {
      deviceId := localUdid
      serviceName
      characteristicKey := SWITCH_STATUS
      characteristicValue := numeral ((newSwitch >>> i) &&& 1#32).toNat } }

/-- The word of the switch store is taken over; `none` is a store that does not answer. -/
def refreshLocalSwitchProfile (localNetwork : Text) (getSwitch : Option (BitVec 32))
    (c : ProfileCache) : Except SwitchError ProfileCache :=
  if localNetwork = [] ∨ localUdid = [] then .error .invalidParams
  else
    match getSwitch with
    | none => .error .getKvDbFail
    | some newSwitch =>
      let refreshed := ((List.range SWITCH_FLAG_MAX).filterMap
        (refreshedProfile localUdid newSwitch)).foldl ProfileCache.cacheCharProfile c
      .ok { refreshed with curLocalSwitch := newSwitch }

end Calls

end DeviceProfile
