import Mathlib.Data.List.Basic

/-!
# The codes of the requests

The proxy sends each request with the code of its method. The stub looks the code up in one list
of cases after another, beginning with the access control ones or, behind the test whether the
service is initialized, with the profile ones. Every method arrives where it belongs.
-/

namespace DeviceProfile

/-- The codes of the requests to the service. -/
inductive DpIpcInterfaceCode where
  | putAclProfile
  | updateAclProfile
  | getTrustDeviceProfile
  | getAllTrustDeviceProfile
  | getAclProfile
  | getAllAclProfile
  | deleteAclProfile
  | putServiceProfile
  | putServiceProfileBatch
  | putCharProfile
  | putCharProfileBatch
  | getDeviceProfileNew
  | getServiceProfile
  | getCharProfile
  | delServiceProfile
  | delCharProfile
  | subscribeDeviceProfile
  | unsubscribeDeviceProfile
  | syncDeviceProfileNew
  | sendSubscribeInfos
  | subscribeDeviceProfileInited
  | unsubscribeDeviceProfileInited
  | putAllTrustedDevices
  | putDeviceProfileBatch
  | getDeviceProfiles
  | getDeviceIconInfos
  | putDeviceIconInfoBatch
  | putProductInfoBatch
  | deleteDeviceProfileBatch
  | putServiceInfo
  | deleteServiceInfo
  | getAllServiceInfoList
  | putSessionKey
  | getSessionKey
  | updateSessionKey
  | deleteSessionKey
  | subscribePincodeInvalid
  | unsubscribePincodeInvalid
  | putLocalServiceInfo
  | updateLocalServiceInfo
  | getLocalServiceInfoByBindleAndPintype
  | deleteLocalServiceInfo
  | getAllAclIncludeLnnAcl
  | registerBusinessCallback
  | unregisterBusinessCallback
  | putBusinessEvent
  | getBusinessEvent
  | syncStaticProfile
  | getServiceInfoByUserInfo
  | subscribeServiceInfoCallback
  | getSessionKeyBySessionkeyid
  deriving DecidableEq, Repr

/-- The number that is sent. -/
def DpIpcInterfaceCode.value : DpIpcInterfaceCode → Nat
  | .putAclProfile => 7
  | .updateAclProfile => 8
  | .getTrustDeviceProfile => 9
  | .getAllTrustDeviceProfile => 10
  | .getAclProfile => 11
  | .getAllAclProfile => 12
  | .deleteAclProfile => 13
  | .putServiceProfile => 14
  | .putServiceProfileBatch => 15
  | .putCharProfile => 16
  | .putCharProfileBatch => 17
  | .getDeviceProfileNew => 18
  | .getServiceProfile => 19
  | .getCharProfile => 20
  | .delServiceProfile => 21
  | .delCharProfile => 22
  | .subscribeDeviceProfile => 23
  | .unsubscribeDeviceProfile => 24
  | .syncDeviceProfileNew => 25
  | .sendSubscribeInfos => 26
  | .subscribeDeviceProfileInited => 41
  | .unsubscribeDeviceProfileInited => 42
  | .putAllTrustedDevices => 45
  | .putDeviceProfileBatch => 46
  | .getDeviceProfiles => 47
  | .getDeviceIconInfos => 48
  | .putDeviceIconInfoBatch => 49
  | .putProductInfoBatch => 50
  | .deleteDeviceProfileBatch => 51
  | .putServiceInfo => 52
  | .deleteServiceInfo => 53
  | .getAllServiceInfoList => 54
  | .putSessionKey => 55
  | .getSessionKey => 56
  | .updateSessionKey => 57
  | .deleteSessionKey => 58
  | .subscribePincodeInvalid => 60
  | .unsubscribePincodeInvalid => 61
  | .putLocalServiceInfo => 62
  | .updateLocalServiceInfo => 63
  | .getLocalServiceInfoByBindleAndPintype => 64
  | .deleteLocalServiceInfo => 65
  | .getAllAclIncludeLnnAcl => 66
  | .registerBusinessCallback => 68
  | .unregisterBusinessCallback => 69
  | .putBusinessEvent => 70
  | .getBusinessEvent => 71
  | .syncStaticProfile => 72
  | .getServiceInfoByUserInfo => 73
  | .subscribeServiceInfoCallback => 77
  | .getSessionKeyBySessionkeyid => 78

/-- The methods of `IDistributedDeviceProfile` that are called remotely. -/
inductive RemoteMethod where
  | putAccessControlProfile
  | updateAccessControlProfile
  | putProductInfoBatch
  | putDeviceIconInfoBatch
  | getDeviceIconInfos
  | getTrustDeviceProfile
  | getAllTrustDeviceProfile
  | getAccessControlProfile
  | getAllAccessControlProfile
  | getAllAclIncludeLnnAcl
  | deleteAccessControlProfile
  | putSessionKey
  | getSessionKey
  | getSessionKeyBySessionKeyId
  | updateSessionKey
  | deleteSessionKey
  | putDeviceProfileBatch
  | putServiceProfile
  | putServiceProfileBatch
  | putCharacteristicProfile
  | putCharacteristicProfileBatch
  | getDeviceProfile
  | getDeviceProfiles
  | deleteDeviceProfileBatch
  | getServiceProfile
  | getCharacteristicProfile
  | deleteServiceProfile
  | deleteCharacteristicProfile
  | subscribeDeviceProfile
  | unSubscribeDeviceProfile
  | syncDeviceProfile
  | syncStaticProfile
  | sendSubscribeInfos
  | subscribeDeviceProfileInited
  | unSubscribeDeviceProfileInited
  | subscribePinCodeInvalid
  | unSubscribePinCodeInvalid
  | putAllTrustedDevices
  | putLocalServiceInfo
  | updateLocalServiceInfo
  | getLocalServiceInfoByBundleAndPinType
  | deleteLocalServiceInfo
  | registerBusinessCallback
  | unRegisterBusinessCallback
  | putBusinessEvent
  | getBusinessEvent
  | putServiceInfo
  | deleteServiceInfo
  | getAllServiceInfoList
  | getServiceInfosByUserInfo
  | subscribeAllServiceInfo
  deriving DecidableEq, Repr

/-- The code a method of the proxy sends. -/
def proxyCode : RemoteMethod → DpIpcInterfaceCode
  | .putAccessControlProfile => .putAclProfile
  | .updateAccessControlProfile => .updateAclProfile
  | .putProductInfoBatch => .putProductInfoBatch
  | .putDeviceIconInfoBatch => .putDeviceIconInfoBatch
  | .getDeviceIconInfos => .getDeviceIconInfos
  | .getTrustDeviceProfile => .getTrustDeviceProfile
  | .getAllTrustDeviceProfile => .getAllTrustDeviceProfile
  | .getAccessControlProfile => .getAclProfile
  | .getAllAccessControlProfile => .getAllAclProfile
  | .getAllAclIncludeLnnAcl => .getAllAclIncludeLnnAcl
  | .deleteAccessControlProfile => .deleteAclProfile
  | .putSessionKey => .putSessionKey
  | .getSessionKey => .getSessionKey
  | .getSessionKeyBySessionKeyId => .getSessionKeyBySessionkeyid
  | .updateSessionKey => .updateSessionKey
  | .deleteSessionKey => .deleteSessionKey
  | .putDeviceProfileBatch => .putDeviceProfileBatch
  | .putServiceProfile => .putServiceProfile
  | .putServiceProfileBatch => .putServiceProfileBatch
  | .putCharacteristicProfile => .putCharProfile
  | .putCharacteristicProfileBatch => .putCharProfileBatch
  | .getDeviceProfile => .getDeviceProfileNew
  | .getDeviceProfiles => .getDeviceProfiles
  | .deleteDeviceProfileBatch => .deleteDeviceProfileBatch
  | .getServiceProfile => .getServiceProfile
  | .getCharacteristicProfile => .getCharProfile
  | .deleteServiceProfile => .delServiceProfile
  | .deleteCharacteristicProfile => .delCharProfile
  | .subscribeDeviceProfile => .subscribeDeviceProfile
  | .unSubscribeDeviceProfile => .unsubscribeDeviceProfile
  | .syncDeviceProfile => .syncDeviceProfileNew
  | .syncStaticProfile => .syncStaticProfile
  | .sendSubscribeInfos => .sendSubscribeInfos
  | .subscribeDeviceProfileInited => .subscribeDeviceProfileInited
  | .unSubscribeDeviceProfileInited => .unsubscribeDeviceProfileInited
  | .subscribePinCodeInvalid => .subscribePincodeInvalid
  | .unSubscribePinCodeInvalid => .unsubscribePincodeInvalid
  | .putAllTrustedDevices => .putAllTrustedDevices
  | .putLocalServiceInfo => .putLocalServiceInfo
  | .updateLocalServiceInfo => .updateLocalServiceInfo
  | .getLocalServiceInfoByBundleAndPinType => .getLocalServiceInfoByBindleAndPintype
  | .deleteLocalServiceInfo => .deleteLocalServiceInfo
  | .registerBusinessCallback => .registerBusinessCallback
  | .unRegisterBusinessCallback => .unregisterBusinessCallback
  | .putBusinessEvent => .putBusinessEvent
  | .getBusinessEvent => .getBusinessEvent
  | .putServiceInfo => .putServiceInfo
  | .deleteServiceInfo => .deleteServiceInfo
  | .getAllServiceInfoList => .getAllServiceInfoList
  | .getServiceInfosByUserInfo => .getServiceInfoByUserInfo
  | .subscribeAllServiceInfo => .subscribeServiceInfoCallback

/-- The cases of `NotifyAclEventInner`. -/
def notifyAclEvents : List (DpIpcInterfaceCode × RemoteMethod) :=
  [(.putAclProfile, .putAccessControlProfile),
    (.updateAclProfile, .updateAccessControlProfile),
    (.getTrustDeviceProfile, .getTrustDeviceProfile),
    (.getAllTrustDeviceProfile, .getAllTrustDeviceProfile),
    (.getAclProfile, .getAccessControlProfile),
    (.getAllAclProfile, .getAllAccessControlProfile),
    (.getAllAclIncludeLnnAcl, .getAllAclIncludeLnnAcl),
    (.deleteAclProfile, .deleteAccessControlProfile),
    (.putSessionKey, .putSessionKey),
    (.getSessionKey, .getSessionKey),
    (.updateSessionKey, .updateSessionKey),
    (.deleteSessionKey, .deleteSessionKey),
    (.getSessionKeyBySessionkeyid, .getSessionKeyBySessionKeyId)]

/-- The cases of `NotifyProfileDataEventInner`. -/
def notifyProfileDataEvents : List (DpIpcInterfaceCode × RemoteMethod) :=
  [(.subscribeDeviceProfile, .subscribeDeviceProfile),
    (.unsubscribeDeviceProfile, .unSubscribeDeviceProfile),
    (.sendSubscribeInfos, .sendSubscribeInfos),
    (.putServiceProfile, .putServiceProfile),
    (.putServiceProfileBatch, .putServiceProfileBatch),
    (.putCharProfile, .putCharacteristicProfile),
    (.putCharProfileBatch, .putCharacteristicProfileBatch),
    (.subscribeDeviceProfileInited, .subscribeDeviceProfileInited),
    (.unsubscribeDeviceProfileInited, .unSubscribeDeviceProfileInited),
    (.putAllTrustedDevices, .putAllTrustedDevices),
    (.putDeviceProfileBatch, .putDeviceProfileBatch),
    (.getDeviceProfiles, .getDeviceProfiles),
    (.getDeviceIconInfos, .getDeviceIconInfos),
    (.putDeviceIconInfoBatch, .putDeviceIconInfoBatch),
    (.putProductInfoBatch, .putProductInfoBatch),
    (.deleteDeviceProfileBatch, .deleteDeviceProfileBatch),
    (.subscribePincodeInvalid, .subscribePinCodeInvalid),
    (.unsubscribePincodeInvalid, .unSubscribePinCodeInvalid)]

/-- The cases of `NotifyServiceInfoEventInner`. -/
def notifyServiceInfoEvents : List (DpIpcInterfaceCode × RemoteMethod) :=
  [(.subscribeServiceInfoCallback, .subscribeAllServiceInfo),
    (.putServiceInfo, .putServiceInfo),
    (.deleteServiceInfo, .deleteServiceInfo),
    (.getAllServiceInfoList, .getAllServiceInfoList),
    (.getServiceInfoByUserInfo, .getServiceInfosByUserInfo)]

/-- The cases of `NotifyEventInner`. -/
def notifyEvents : List (DpIpcInterfaceCode × RemoteMethod) :=
  [(.getDeviceProfileNew, .getDeviceProfile),
    (.getServiceProfile, .getServiceProfile),
    (.getCharProfile, .getCharacteristicProfile),
    (.delServiceProfile, .deleteServiceProfile),
    (.delCharProfile, .deleteCharacteristicProfile),
    (.syncDeviceProfileNew, .syncDeviceProfile),
    (.syncStaticProfile, .syncStaticProfile)]

/-- The cases of `NotifyLocalServiceEventInner`. -/
def notifyLocalServiceEvents : List (DpIpcInterfaceCode × RemoteMethod) :=
  [(.putLocalServiceInfo, .putLocalServiceInfo),
    (.updateLocalServiceInfo, .updateLocalServiceInfo),
    (.getLocalServiceInfoByBindleAndPintype, .getLocalServiceInfoByBundleAndPinType),
    (.deleteLocalServiceInfo, .deleteLocalServiceInfo),
    (.registerBusinessCallback, .registerBusinessCallback),
    (.unregisterBusinessCallback, .unRegisterBusinessCallback),
    (.putBusinessEvent, .putBusinessEvent),
    (.getBusinessEvent, .getBusinessEvent)]

/-- The codes that `InitAclAndSubscribe` enters. -/
def aclAndSubscribeFuncs : List DpIpcInterfaceCode :=
  [.putAclProfile,
    .updateAclProfile,
    .getTrustDeviceProfile,
    .getAllTrustDeviceProfile,
    .getAclProfile,
    .getAllAclProfile,
    .getAllAclIncludeLnnAcl,
    .deleteAclProfile,
    .subscribeDeviceProfile,
    .unsubscribeDeviceProfile,
    .sendSubscribeInfos,
    .putServiceProfile,
    .putServiceProfileBatch,
    .putCharProfile,
    .putCharProfileBatch,
    .subscribeDeviceProfileInited,
    .unsubscribeDeviceProfileInited,
    .putAllTrustedDevices,
    .putDeviceProfileBatch,
    .getDeviceProfiles,
    .deleteDeviceProfileBatch,
    .getDeviceIconInfos,
    .putDeviceIconInfoBatch,
    .putProductInfoBatch,
    .putSessionKey,
    .getSessionKey,
    .updateSessionKey,
    .deleteSessionKey,
    .subscribePincodeInvalid,
    .unsubscribePincodeInvalid,
    .subscribeServiceInfoCallback,
    .putServiceInfo,
    .deleteServiceInfo,
    .getAllServiceInfoList,
    .getServiceInfoByUserInfo,
    .getSessionKeyBySessionkeyid]

/-- The method whose case has the code. -/
def caseOf (cases : List (DpIpcInterfaceCode × RemoteMethod)) (code : Nat) : Option RemoteMethod :=
  (cases.find? fun x => x.1.value = code).map Prod.snd

/-- The last switch of the chain, on the codes for service infos. -/
def notifyServiceInfoEventInner (code : Nat) : Option RemoteMethod :=
  caseOf notifyServiceInfoEvents code

/-- The switch on the codes for profile data, which falls through to the one for service infos. -/
def notifyProfileDataEventInner (code : Nat) : Option RemoteMethod :=
  (caseOf notifyProfileDataEvents code).or (notifyServiceInfoEventInner code)

/-- The switch on the codes for access control, which falls through to the one for profile data. -/
def notifyAclEventInner (code : Nat) : Option RemoteMethod :=
  (caseOf notifyAclEvents code).or (notifyProfileDataEventInner code)

/-- The switch on the codes for local services, the end of the second chain. -/
def notifyLocalServiceEventInner (code : Nat) : Option RemoteMethod :=
  caseOf notifyLocalServiceEvents code

/-- The switch on the remaining codes, which falls through to the one for local services. -/
def notifyEventInner (code : Nat) : Option RemoteMethod :=
  (caseOf notifyEvents code).or (notifyLocalServiceEventInner code)

/-- The code is one of those that do not wait for the initialization. -/
def isAclAndSubscribe (code : Nat) : Bool := (aclAndSubscribeFuncs.map (·.value)).contains code

/-- The method that a code leads to in a service that is initialized or not. -/
def dispatch (isInited : Bool) (code : Nat) : Option RemoteMethod :=
  if isAclAndSubscribe code then notifyAclEventInner code
  else if isInited then notifyEventInner code
  else none

/-- The methods that do not wait for the initialization. -/
def RemoteMethod.isEarly (m : RemoteMethod) : Bool := aclAndSubscribeFuncs.contains (proxyCode m)

/-- The first of two switches that knows a code decides. -/
theorem caseOf_append (cases cases' : List (DpIpcInterfaceCode × RemoteMethod)) (code : Nat) :
    (caseOf cases code).or (caseOf cases' code) = caseOf (cases ++ cases') code := by
  rw [caseOf, caseOf, caseOf, List.find?_append]
  cases cases.find? fun x => x.1.value = code with
  | none => rfl
  | some x => rfl

/-- A case that is chosen is one of the list, and has the code. -/
theorem exists_mem_of_caseOf {cases : List (DpIpcInterfaceCode × RemoteMethod)} {code : Nat}
    {m : RemoteMethod} (h : caseOf cases code = some m) :
    ∃ c, (c, m) ∈ cases ∧ c.value = code := by
  obtain ⟨⟨c, m'⟩, hfind, rfl⟩ := Option.map_eq_some_iff.mp h
  exact ⟨c, List.mem_of_find?_eq_some hfind, by simpa using List.find?_some hfind⟩

/-- The early cases, in their order. -/
theorem notifyAclEventInner_eq (code : Nat) :
    notifyAclEventInner code =
      caseOf (notifyAclEvents ++ (notifyProfileDataEvents ++ notifyServiceInfoEvents)) code := by
  rw [notifyAclEventInner, notifyProfileDataEventInner, notifyServiceInfoEventInner,
    caseOf_append, caseOf_append]

/-- The chain of the second switches is one switch over both lists. -/
theorem notifyEventInner_eq (code : Nat) :
    notifyEventInner code = caseOf (notifyEvents ++ notifyLocalServiceEvents) code := by
  rw [notifyEventInner, notifyLocalServiceEventInner, caseOf_append]

/-- The stub answers the codes of the proxy with their methods. -/
theorem dispatch_proxyCode (isInited : Bool) (m : RemoteMethod) :
    dispatch isInited (proxyCode m).value = if m.isEarly || isInited then some m else none := by
  cases isInited <;> cases m <;> rfl

/-- No case leads to a method from another code than the one its proxy sends. -/
theorem proxyCode_of_mem {c : DpIpcInterfaceCode} {m : RemoteMethod}
    (h : (c, m) ∈ notifyAclEvents ++ (notifyProfileDataEvents ++ notifyServiceInfoEvents) ∨
      (c, m) ∈ notifyEvents ++ notifyLocalServiceEvents) : proxyCode m = c := by
  have hall : ∀ x ∈ (notifyAclEvents ++ (notifyProfileDataEvents ++ notifyServiceInfoEvents)) ++
      (notifyEvents ++ notifyLocalServiceEvents), proxyCode x.2 = x.1 := by decide
  exact hall (c, m) (List.mem_append.mpr h)

/-- A request reaches a method exactly with the code that the method's proxy sends, and, unless
the method is an early one, only when the service is initialized. -/
theorem dispatch_eq_some_iff {isInited : Bool} {code : Nat} {m : RemoteMethod} :
    dispatch isInited code = some m ↔
      code = (proxyCode m).value ∧ (m.isEarly ∨ isInited) := by
  constructor
  · intro h
    have hcode : (proxyCode m).value = code := by
      rw [dispatch] at h
      split at h
      · rw [notifyAclEventInner_eq] at h
        obtain ⟨c, hc, hvalue⟩ := exists_mem_of_caseOf h
        rw [proxyCode_of_mem (.inl hc), hvalue]
      · split at h
        · rw [notifyEventInner_eq] at h
          obtain ⟨c, hc, hvalue⟩ := exists_mem_of_caseOf h
          rw [proxyCode_of_mem (.inr hc), hvalue]
        · cases h
    rw [← hcode, dispatch_proxyCode] at h
    refine ⟨hcode.symm, ?_⟩
    by_contra hnot
    rw [if_neg (by simpa using hnot)] at h
    cases h
  · rintro ⟨rfl, h⟩
    rw [dispatch_proxyCode, if_pos (by simpa using h)]

end DeviceProfile
