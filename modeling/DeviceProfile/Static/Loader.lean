import DeviceProfile.Cache.ProfileCache
import DeviceProfile.Profile.Manager

/-!
# Expanding static capabilities

What a device is able to do is stored as one record, a version and a flag for each service. The
profiles of the services are read from a file that is the same on every device: the abilities of
the version whose flags are set.
-/

namespace DeviceProfile

open Library Std

/-- The service that holds the static capability. -/
def STATIC_CAPABILITY_SVR_ID : Text := ("static_cap_svr_id" : Text)

/-- The characteristic that holds the static capability. -/
def STATIC_CAPABILITY_CHAR_ID : Text := ("static_capability" : Text)

/-- The name under which the version of a static capability is written. -/
def STATIC_CAPABILITY_VERSION : Text := ("staticCapabilityVersion" : Text)

/-- The name under which the value of a static capability is written. -/
def STATIC_CAPABILITY_VALUE : Text := ("staticCapabilityValue" : Text)

/-- The name of the list of static infos in the file. -/
def STATIC_INFO : Text := ("static_info" : Text)

/-- The name of the version of a static info. -/
def DP_VERSION : Text := ("DPVersion" : Text)

/-- The name of the list of abilities of a static info. -/
def ABILITIES : Text := ("abilities" : Text)

/-- The name of the key of an ability. -/
def ABILITY_KEY : Text := ("abilityKey" : Text)

/-- The name of the value of an ability. -/
def ABILITY_VALUE : Text := ("abilityValue" : Text)

/-- The most static infos that the file lists. -/
def MAX_STATIC_CAPABILITY_SIZE : Nat := 100

/-- The character that stands for a supported capability. -/
def SUPPORT_STATIC_VAL : Char := '1'

/-! ## JSON -/

/-- A parsed text; a string goes up to its first NUL. -/
inductive StaticJson where
  | string (valuestring : Text)
  | array (items : List StaticJson)
  | object (members : List (Text × StaticJson))
  | other

namespace StaticJson

/-- Whether a value is an object. -/
def isObject : StaticJson → Bool
  | object _ => true
  | _ => false

/-- The text of a value that is one. -/
def valuestring : StaticJson → Option Text
  | string valuestring => some valuestring
  | _ => none

/-- The items of a value that is an array. -/
def items : StaticJson → Option (List StaticJson)
  | array items => some items
  | _ => none

/-- The members of a value; only an object has some. -/
def members : StaticJson → List (Text × StaticJson)
  | object members => members
  | _ => []

/-- The first member of this name, in upper or lower case. -/
def getObjectItem (json : StaticJson) (name : Text) : Option StaticJson :=
  (json.members.find? fun m => decide (m.1.map Char.toLower = name.map Char.toLower)).map Prod.snd

/-- The first member of a name, letter for letter. -/
def getObjectItemCaseSensitive (json : StaticJson) (name : Text) : Option StaticJson :=
  (json.members.find? fun m => decide (m.1 = name)).map Prod.snd

end StaticJson

/-! ## Flags and versions -/

/-- The place of a service among the flags. -/
inductive StaticCapabilityFlag where
  | dms
  | pasteBoard
  | distributedFileDaemon
  | distributedIntent
  deriving DecidableEq, Repr

/-- The place of a capability in the text of the characteristic. -/
def StaticCapabilityFlag.index : StaticCapabilityFlag → Nat
  | dms => 0
  | pasteBoard => 1
  | distributedFileDaemon => 2
  | distributedIntent => 3

/-- The services that have a static capability. -/
def CAPABILITY_FLAG_MAP : List (Text × StaticCapabilityFlag) :=
  [(("dmsfwk_svr_id" : Text), .dms), (("pasteboardService" : Text), .pasteBoard),
    (("distributedfiledaemon" : Text), .distributedFileDaemon),
    (("distributedIntent" : Text), .distributedIntent)]

/-- The flag of the service is there and set. -/
def HasStaticCapability (serviceId staticCapability : Text) : Prop :=
  ∃ flag ∈ CAPABILITY_FLAG_MAP.lookup serviceId,
    staticCapability[flag.index]? = some SUPPORT_STATIC_VAL

instance (serviceId staticCapability : Text) :
    Decidable (HasStaticCapability serviceId staticCapability) :=
  match h : CAPABILITY_FLAG_MAP.lookup serviceId with
  | none => isFalse fun ⟨_, hflag, _⟩ => by rw [h] at hflag; cases hflag
  | some flag => decidable_of_iff (staticCapability[flag.index]? = some SUPPORT_STATIC_VAL)
      (by simp [HasStaticCapability, h])

/-- Four numbers with dots between them. -/
def IsValidVersion (version : Text) : Prop :=
  (version.splitOn '.').length = 4 ∧
    ∀ part ∈ version.splitOn '.', part ≠ [] ∧ ∀ c ∈ part, c.isDigit

instance (version : Text) : Decidable (IsValidVersion version) :=
  inferInstanceAs (Decidable (_ ∧ _))

/-- Any two valid versions pass. -/
def StaticVersionCheck (peerVersion localVersion : Text) : Prop :=
  peerVersion = localVersion ∨ (IsValidVersion peerVersion ∧ IsValidVersion localVersion)

instance (peerVersion localVersion : Text) :
    Decidable (StaticVersionCheck peerVersion localVersion) :=
  inferInstanceAs (Decidable (_ ∨ _))

/-! ## The loader -/

/-- The error codes of the loader. -/
inductive StaticLoadError where
  | invalidParam
  | loadJsonFileFail
  | parseStaticInfoFail
  | getStaticInfoFail
  deriving DecidableEq, Repr

/-- The error codes of the manager of static profiles. -/
inductive StaticError where
  | control (e : ManagerError)
  | parseStaticCapFail
  | notFoundFail
  deriving DecidableEq, Repr

/-- Profiles under their keys. -/
abbrev StaticProfiles := ExtTreeMap Text (Flagged CharacteristicProfile)

/-- The JSON library, and the content of the file of static info where it can be read. -/
structure StaticCapabilityLoader where
  parse : Text → Option StaticJson
  print : StaticJson → Option Text
  staticInfoFile : Option Text

namespace StaticCapabilityLoader

variable (loader : StaticCapabilityLoader)

/-- Empty, or too long for the loader. -/
def IsTextInvalid (text : Text) : Prop := text = [] ∨ MAX_STRING_LEN < text.length

instance (text : Text) : Decidable (IsTextInvalid text) := inferInstanceAs (Decidable (_ ∨ _))

/-- The first info with a version that passes. -/
def getStaticInfoJsonByVersion (staticInfoJson : StaticJson) (staticVersion : Text) :
    Option StaticJson := do
  guard staticInfoJson.isObject
  guard ¬IsTextInvalid staticVersion
  let staticInfos ← (← staticInfoJson.getObjectItem STATIC_INFO).items
  guard (staticInfos.length ≠ 0 ∧ staticInfos.length ≤ MAX_STATIC_CAPABILITY_SIZE)
  staticInfos.find? fun item =>
    item.isObject && ((item.getObjectItemCaseSensitive DP_VERSION).bind (·.valuestring)).any
      fun version => decide (StaticVersionCheck staticVersion version)

/-- The profile of an ability, if the device has it. -/
def abilityProfile (deviceId staticCapability : Text) (abilityItem : StaticJson) :
    Option (Flagged CharacteristicProfile) := do
  guard abilityItem.isObject
  let serviceId ← (← abilityItem.getObjectItemCaseSensitive ABILITY_KEY).valuestring
  let abilityValueItem ← abilityItem.getObjectItemCaseSensitive ABILITY_VALUE
  guard abilityValueItem.isObject
  guard (HasStaticCapability serviceId staticCapability)
  let charValue ← loader.print abilityValueItem
  return { profile := {
    deviceId
    serviceName := serviceId
    characteristicKey := STATIC_CHARACTERISTIC_KEY
    characteristicValue := charValue } }

/-- An ability that is listed twice has the last value. -/
def generateStaticProfiles (deviceId staticCapability : Text) (staticInfoJson : StaticJson) :
    Except StaticLoadError StaticProfiles :=
  if IsTextInvalid deviceId then .error .invalidParam
  else if ¬staticInfoJson.isObject then .error .getStaticInfoFail
  else
    match (staticInfoJson.getObjectItemCaseSensitive ABILITIES).bind (·.items) with
    | none => .error .getStaticInfoFail
    | some abilities => .ok (insertAll (fun p => p.profile.cacheKey) id
        (abilities.filterMap (loader.abilityProfile deviceId staticCapability)) ∅)

/-- The profiles of one version of the static infos. -/
def getStaticInfoByVersion (deviceId staticCapability : Text) (staticInfoJson : StaticJson)
    (staticVersion : Text) : Except StaticLoadError StaticProfiles :=
  if IsTextInvalid deviceId ∨ ¬staticInfoJson.isObject ∨ IsTextInvalid staticVersion then
    .error .invalidParam
  else
    match getStaticInfoJsonByVersion staticInfoJson staticVersion with
    | none => .error .getStaticInfoFail
    | some json => loader.generateStaticProfiles deviceId staticCapability json

/-- Reads the file and makes the profiles of the requested version. -/
def loadStaticProfiles (deviceId staticCapability staticVersion : Text) :
    Except StaticLoadError StaticProfiles :=
  if IsTextInvalid deviceId ∨ IsTextInvalid staticCapability ∨ IsTextInvalid staticVersion then
    .error .invalidParam
  else
    match loader.staticInfoFile with
    | none => .error .loadJsonFileFail
    | some fileContent =>
      match (loader.parse fileContent).filter (·.isObject) with
      | none => .error .parseStaticInfoFail
      | some staticInfoJson =>
        loader.getStaticInfoByVersion deviceId staticCapability staticInfoJson staticVersion

/-- Expand a record. Nobody looks at the error code of the loader. -/
def generateStaticInfoProfile (staticCapabilityProfile : CharacteristicProfile) :
    Except StaticError StaticProfiles :=
  match (loader.parse staticCapabilityProfile.characteristicValue).filter (·.isObject) with
  | none => .error .parseStaticCapFail
  | some charValueJson =>
    match (charValueJson.getObjectItemCaseSensitive STATIC_CAPABILITY_VERSION).bind
        (·.valuestring),
      (charValueJson.getObjectItemCaseSensitive STATIC_CAPABILITY_VALUE).bind
        (·.valuestring) with
    | some staticCapabilityVersion, some staticCapabilityValue =>
      .ok ((loader.loadStaticProfiles staticCapabilityProfile.deviceId staticCapabilityValue
        staticCapabilityVersion).toOption.getD ∅)
    | _, _ => .error .parseStaticCapFail

end StaticCapabilityLoader

/-! ## What is expanded -/

namespace StaticCapabilityLoader

variable {loader : StaticCapabilityLoader}

/-- An ability is made a profile of the device it is for. -/
theorem deviceId_of_abilityProfile {deviceId staticCapability : Text} {item : StaticJson}
    {p : Flagged CharacteristicProfile}
    (h : loader.abilityProfile deviceId staticCapability item = some p) :
    p.profile.deviceId = deviceId := by
  simp only [abilityProfile, Option.bind_eq_bind, Option.bind_eq_some_iff, Option.pure_def,
    Option.some.injEq] at h
  obtain ⟨_, -, _, -, _, -, _, -, _, -, _, -, _, -, rfl⟩ := h
  rfl

/-- A profile that is expanded is found under its own key, and belongs to the device. -/
theorem key_of_generateStaticProfiles {deviceId staticCapability : Text} {json : StaticJson}
    {profiles : StaticProfiles} {key : Text} {p : Flagged CharacteristicProfile}
    (h : loader.generateStaticProfiles deviceId staticCapability json = .ok profiles)
    (hp : profiles[key]? = some p) : key = p.profile.cacheKey ∧ p.profile.deviceId = deviceId := by
  rw [generateStaticProfiles] at h
  split at h
  · cases h
  split at h
  · cases h
  split at h
  · cases h
  · rw [← Except.ok.inj h] at hp
    rcases exists_of_getElem?_insertAll hp with ⟨q, hq, hkey, rfl⟩ | hempty
    · obtain ⟨item, -, hitem⟩ := List.mem_filterMap.mp hq
      exact ⟨hkey.symm, deviceId_of_abilityProfile hitem⟩
    · rw [ExtTreeMap.getElem?_empty] at hempty
      cases hempty

/-- What is loaded stands under its own key and is of the device. -/
theorem key_of_loadStaticProfiles {deviceId staticCapability staticVersion : Text}
    {profiles : StaticProfiles} {key : Text} {p : Flagged CharacteristicProfile}
    (h : loader.loadStaticProfiles deviceId staticCapability staticVersion = .ok profiles)
    (hp : profiles[key]? = some p) :
    key = p.profile.cacheKey ∧ p.profile.deviceId = deviceId ∧ deviceId ≠ [] := by
  rw [loadStaticProfiles] at h
  split at h
  · cases h
  rename_i hvalid
  have hne : deviceId ≠ [] := fun hnil => hvalid (.inl (.inl hnil))
  split at h
  · cases h
  split at h
  · cases h
  rw [getStaticInfoByVersion] at h
  split at h
  · cases h
  split at h
  · cases h
  · obtain ⟨hkey, hdevice⟩ := key_of_generateStaticProfiles h hp
    exact ⟨hkey, hdevice, hne⟩

/-- The profiles of a record are under their own keys, and belong to the device of the record. -/
theorem key_of_generateStaticInfoProfile {record : CharacteristicProfile}
    {profiles : StaticProfiles} {key : Text} {p : Flagged CharacteristicProfile}
    (h : loader.generateStaticInfoProfile record = .ok profiles) (hp : profiles[key]? = some p) :
    key = p.profile.cacheKey ∧ p.profile.deviceId = record.deviceId ∧ record.deviceId ≠ [] := by
  rw [generateStaticInfoProfile] at h
  split at h
  · cases h
  split at h
  · rename_i version value hversion hvalue
    rw [← Except.ok.inj h] at hp
    cases hload : loader.loadStaticProfiles record.deviceId value version with
    | error e =>
      rw [hload] at hp
      simp [Except.toOption] at hp
    | ok loaded =>
      rw [hload] at hp
      exact key_of_loadStaticProfiles hload hp
  · cases h

end StaticCapabilityLoader

end DeviceProfile
