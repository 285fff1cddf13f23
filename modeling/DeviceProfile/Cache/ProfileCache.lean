import DeviceProfile.Profile.Codec

/-!
# The profile cache

Service and characteristic profiles are also held in memory, together with the word of the
local switches. The keys of the cache use the names as they are given, without the suffix.
-/

namespace DeviceProfile

open Library Std

/-- The limit on characteristics, in the cache and in one batch. -/
def MAX_CHAR_SIZE : Nat := 1000

/-- A profile with its mark for multiple users. -/
structure Flagged (α : Type) where
  profile : α
  isMultiUser : Bool := false
  deriving DecidableEq, Repr

/-- The error codes of the cache. -/
inductive CacheError where
  | invalidParams
  | exceedMaxSizeFail
  | notFoundFail
  deriving DecidableEq, Repr

/-- The cache of one process: what was put last under each key, and the switches of this device as
bits of a word. -/
structure ProfileCache where
  serviceProfileMap : ExtTreeMap Text (Flagged ServiceProfile) := ∅
  charProfileMap : ExtTreeMap Text (Flagged CharacteristicProfile) := ∅
  curLocalSwitch : BitVec 32 := 0

/-- The key of a service profile in the cache. -/
def ServiceProfile.cacheKey (p : ServiceProfile) : Text :=
  generateServiceProfileKey p.deviceId p.serviceName

/-- The key of a characteristic profile in the cache. -/
def CharacteristicProfile.cacheKey (p : CharacteristicProfile) : Text :=
  generateCharProfileKey p.deviceId p.serviceName p.characteristicKey

/-- The names under which a service profile is cached. -/
def AreServiceKeysValid (deviceId serviceName : Text) : Prop :=
  IsKeyValid deviceId ∧ IsKeyValid serviceName

/-- The names under which a characteristic profile is cached. -/
def AreCharKeysValid (deviceId serviceName charKey : Text) : Prop :=
  IsKeyValid deviceId ∧ IsKeyValid serviceName ∧ IsKeyValid charKey

instance (deviceId serviceName : Text) : Decidable (AreServiceKeysValid deviceId serviceName) :=
  inferInstanceAs (Decidable (_ ∧ _))

instance (deviceId serviceName charKey : Text) :
    Decidable (AreCharKeysValid deviceId serviceName charKey) :=
  inferInstanceAs (Decidable (_ ∧ _))

namespace ProfileCache

/-! ## Service profiles -/

/-- Reads a service out of the cache. Nothing is read for an invalid key. -/
def getServiceProfile (deviceId serviceName : Text) (c : ProfileCache) :
    Except CacheError (Flagged ServiceProfile) :=
  if ¬AreServiceKeysValid deviceId serviceName then .error .invalidParams
  else
    match c.serviceProfileMap[generateServiceProfileKey deviceId serviceName]? with
    | none => .error .notFoundFail
    | some serviceProfile => .ok serviceProfile

/-- The bound is checked before it is known whether the key is new. -/
def addServiceProfile (p : Flagged ServiceProfile) (c : ProfileCache) :
    Except CacheError ProfileCache :=
  if ¬AreServiceKeysValid p.profile.deviceId p.profile.serviceName then .error .invalidParams
  else if MAX_SERVICE_SIZE < c.serviceProfileMap.size then .error .exceedMaxSizeFail
  else .ok { c with serviceProfileMap := c.serviceProfileMap.insert p.profile.cacheKey p }

/-- The cache holds exactly this profile. -/
def IsServiceProfileExist (c : ProfileCache) (p : Flagged ServiceProfile) : Prop :=
  AreServiceKeysValid p.profile.deviceId p.profile.serviceName ∧
    c.serviceProfileMap[p.profile.cacheKey]? = some p

instance (c : ProfileCache) (p : Flagged ServiceProfile) :
    Decidable (c.IsServiceProfileExist p) :=
  inferInstanceAs (Decidable (_ ∧ _))

/-- Takes a service out of the cache; an absent one is no error. -/
def deleteServiceProfile (deviceId serviceName : Text) (c : ProfileCache) :
    Except CacheError ProfileCache :=
  if ¬AreServiceKeysValid deviceId serviceName then .error .invalidParams
  else .ok { c with
    serviceProfileMap := c.serviceProfileMap.erase
      (generateServiceProfileKey deviceId serviceName) }

/-! ## Characteristic profiles -/

/-- The bound is checked before it is known whether the key is new. -/
def addCharProfile (p : Flagged CharacteristicProfile) (c : ProfileCache) :
    Except CacheError ProfileCache :=
  if ¬AreCharKeysValid p.profile.deviceId p.profile.serviceName p.profile.characteristicKey then
    .error .invalidParams
  else if MAX_CHAR_SIZE < c.charProfileMap.size then .error .exceedMaxSizeFail
  else .ok { c with charProfileMap := c.charProfileMap.insert p.profile.cacheKey p }

/-- Reads a characteristic out of the cache. -/
def getCharacteristicProfile (deviceId serviceName charKey : Text) (c : ProfileCache) :
    Except CacheError (Flagged CharacteristicProfile) :=
  if ¬AreCharKeysValid deviceId serviceName charKey then .error .invalidParams
  else
    match c.charProfileMap[generateCharProfileKey deviceId serviceName charKey]? with
    | none => .error .notFoundFail
    | some charProfile => .ok charProfile

/-- The cache holds exactly this profile. -/
def IsCharProfileExist (c : ProfileCache) (p : Flagged CharacteristicProfile) : Prop :=
  AreCharKeysValid p.profile.deviceId p.profile.serviceName p.profile.characteristicKey ∧
    c.charProfileMap[p.profile.cacheKey]? = some p

instance (c : ProfileCache) (p : Flagged CharacteristicProfile) :
    Decidable (c.IsCharProfileExist p) :=
  inferInstanceAs (Decidable (_ ∧ _))

/-- Takes a characteristic out of the cache; an absent one is no error. -/
def deleteCharProfile (deviceId serviceName charKey : Text) (c : ProfileCache) :
    Except CacheError ProfileCache :=
  if ¬AreCharKeysValid deviceId serviceName charKey then .error .invalidParams
  else .ok { c with
    charProfileMap := c.charProfileMap.erase
      (generateCharProfileKey deviceId serviceName charKey) }

/-- Add a profile where nobody looks at the error code. -/
def cacheCharProfile (c : ProfileCache) (p : Flagged CharacteristicProfile) : ProfileCache :=
  (c.addCharProfile p).toOption.getD c

end ProfileCache

/-! ## Keys of the cache -/

/-- Valid names are determined by the key of the characteristic profile. -/
theorem generateCharProfileKey_injective {deviceId serviceName charKey : Text}
    {deviceId' serviceName' charKey' : Text} (h : AreCharKeysValid deviceId serviceName charKey)
    (h' : AreCharKeysValid deviceId' serviceName' charKey')
    (heq : generateCharProfileKey deviceId serviceName charKey =
      generateCharProfileKey deviceId' serviceName' charKey') :
    deviceId = deviceId' ∧ serviceName = serviceName' ∧ charKey = charKey' := by
  have hclean : ∀ {a b c : Text}, AreCharKeysValid a b c →
      ∀ str ∈ [CHAR_PREFIX, a, b, c], separator ∉ str := by
    intro a b c hvalid
    simp only [List.forall_mem_cons, List.not_mem_nil, false_implies, implies_true, and_true]
    exact ⟨by decide, hvalid.1.2, hvalid.2.1.2, hvalid.2.2.2⟩
  rw [generateCharProfileKey_eq, generateCharProfileKey_eq] at heq
  have hlist := joinString_injective (List.cons_ne_nil _ _) (List.cons_ne_nil _ _) (hclean h)
    (hclean h') heq
  simp only [List.cons.injEq, and_true, true_and] at hlist
  exact hlist

end DeviceProfile
