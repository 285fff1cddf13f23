import DeviceProfile.Ipc.InterfaceCode
import DeviceProfile.Library.Program
import Mathlib.Data.Finset.Basic

/-!
# Start, requests, idling and stop of the service

The service waits until the system abilities it depends on have been reported, by threads of
their own and in any order, and then initializes its parts. Requests of the clients are counted
while they run; the system asks whether the service may go idle, and stops it. All of this runs
interleaved.
-/

namespace DeviceProfile

open Library Prog

/-- The system abilities that are reported. -/
inductive SystemAbility where
  | softbusServer
  | distributedKvDataService
  | distributedHardwareDeviceManager
  | subsysAccountBegin
  | memoryManager
  | other (systemAbilityId : Int)
  deriving DecidableEq, Repr

/-- The abilities the service waits for. -/
def initialDepSaIds : Finset SystemAbility :=
  {.softbusServer, .distributedKvDataService, .distributedHardwareDeviceManager,
    .subsysAccountBegin, .memoryManager}

/-- The parts of the service. -/
inductive ServicePart where
  | dmAdapter
  | switchProfileManager
  | deviceProfileManager
  | staticProfileManager
  | profileCache
  | staticCapabilityCollector
  | localServiceInfoManager
  | multiUserManager
  | serviceInfoManager
  | settingsDataManager
  | contentSensorManager
  | businessEventManager
  | trustProfileManager
  | profileDataManager
  | permissionManager
  | subscribeProfileManager
  | eventHandlerFactory
  deriving DecidableEq, Repr

/-- The error codes of `PostInit` and of `UnInit`. -/
inductive PartError where
  | dmAdapterInitFail
  | deviceProfileManagerInitFail
  | contentSensorManagerInitFail
  | cacheInitFail
  | localServiceInfoManagerInitFail
  | multiUserManagerInitFail
  | settingsDataManagerInitFail
  | businessEventManagerInitFail
  | serviceInfoManagerInitFail
  | trustProfileManagerUninitFail
  | profileDataManagerUninitFail
  | deviceProfileManagerUninitFail
  | contentSensorManagerUninitFail
  | businessEventManagerUninitFail
  | deviceManagerUninitFail
  | subscribeDeviceProfileManagerUninitFail
  | settingsDataManagerUninitFail
  | dmAdapterUninitFail
  | cacheUninitFail
  | serviceInfoManagerUninitFail
  deriving DecidableEq, Repr

/-- What the threads of the service share, with a record of what was begun and served. -/
structure ServiceState where
  isInited : Bool := false
  isStopped : Bool := false
  runningIpcCount : Int := 0
  depSaIds : Finset SystemAbility := initialDepSaIds
  isDeviceOnline : Bool := false
  up : ServicePart → Bool := fun _ => false
  postInits : Int := 0
  notices : Nat := 0
  served : List RemoteMethod := []

/-- What a call of the service answers. -/
inductive ServiceAnswer where
  | done
  | readyIntoIdle
  | refuseIntoIdle
  | serviceStopped
  | serviceOnIdle
  | interfaceCheckFailed
  | loadServiceErr
  | answered (m : Option RemoteMethod)
  deriving DecidableEq, Repr

/-- A program over the state of the service. -/
abbrev ServiceProg := Prog PartError ServiceState

/-! ## Start -/

/-- The `Init` of a part, with the code that is returned when it fails. -/
def initPart (answers : ServicePart → Bool) (part : ServicePart × PartError) : ServiceProg Unit :=
  .step (fun s => if answers part.1 then { s with up := Function.update s.up part.1 true } else s)
    fun _ => if answers part.1 then .ret () else .fail part.2

/-- Parts are initialized up to the first that fails. -/
def initParts (answers : ServicePart → Bool) : List (ServicePart × PartError) → ServiceProg Unit
  | [] => .ret ()
  | part :: parts => do
    initPart answers part
    initParts answers parts

/-- The parts that `PostInit` cannot do without. -/
def postInitParts : List (ServicePart × PartError) :=
  [(.dmAdapter, .dmAdapterInitFail),
    (.switchProfileManager, .deviceProfileManagerInitFail),
    (.deviceProfileManager, .deviceProfileManagerInitFail),
    (.staticProfileManager, .contentSensorManagerInitFail),
    (.profileCache, .cacheInitFail),
    (.staticCapabilityCollector, .contentSensorManagerInitFail),
    (.localServiceInfoManager, .localServiceInfoManagerInitFail),
    (.multiUserManager, .multiUserManagerInitFail)]

/-- The parts that `PostInitNext` cannot do without. -/
def postInitNextParts : List (ServicePart × PartError) :=
  [(.settingsDataManager, .settingsDataManagerInitFail),
    (.contentSensorManager, .contentSensorManagerInitFail),
    (.businessEventManager, .businessEventManagerInitFail)]

/-- The service is initialized behind the last parts, and then tells its listeners. -/
def postInitNext (answers : ServicePart → Bool) : ServiceProg Unit := do
  initParts answers postInitNextParts
  .step (fun s => { s with isInited := true }) fun _ => .ret ()
  .step (fun s => { s with notices := s.notices + 1 }) fun _ => .ret ()

/-- The result for the service infos is ignored. -/
def postInit (answers : ServicePart → Bool) : ServiceProg Unit :=
  .step (fun s => { s with postInits := s.postInits + 1 }) fun _ => do
    initParts answers postInitParts
    (initPart answers (.serviceInfoManager, .serviceInfoManagerInitFail)).getD ()
    postInitNext answers

/-- Whoever takes the last ability out of the set initializes the service. -/
def onAddSystemAbility (systemAbilityId : SystemAbility) (answers : ServicePart → Bool) :
    ServiceProg ServiceAnswer :=
  .step id fun s =>
    if s.isInited then .ret .done
    else
      .step (fun s => { s with depSaIds := s.depSaIds.erase systemAbilityId }) fun s =>
        if s.depSaIds = ∅ ∨ s.depSaIds.erase systemAbilityId ≠ ∅ then .ret .done
        else do
          (postInit answers).getD ()
          return .done

/-! ## Stop -/

/-- The `UnInit` of a part, which is down then, with the code that is returned when it fails. -/
def unInitPart (answers : ServicePart → Bool) (part : ServicePart × PartError) :
    ServiceProg Unit :=
  .step (fun s => { s with up := Function.update s.up part.1 false }) fun _ =>
    if answers part.1 then .ret () else .fail part.2

/-- The `UnInit` of parts, up to the first that fails. -/
def unInitParts (answers : ServicePart → Bool) : List (ServicePart × PartError) → ServiceProg Unit
  | [] => .ret ()
  | part :: parts => do
    unInitPart answers part
    unInitParts answers parts

/-- The parts that `UnInit` and `UnInitNext` cannot do without. -/
def unInitOrder : List (ServicePart × PartError) :=
  [(.trustProfileManager, .trustProfileManagerUninitFail),
    (.profileDataManager, .profileDataManagerUninitFail),
    (.switchProfileManager, .deviceProfileManagerUninitFail),
    (.deviceProfileManager, .deviceProfileManagerUninitFail),
    (.staticProfileManager, .contentSensorManagerUninitFail),
    (.businessEventManager, .businessEventManagerUninitFail),
    (.profileCache, .cacheInitFail),
    (.permissionManager, .deviceManagerUninitFail),
    (.subscribeProfileManager, .subscribeDeviceProfileManagerUninitFail),
    (.staticCapabilityCollector, .contentSensorManagerUninitFail),
    (.settingsDataManager, .settingsDataManagerUninitFail),
    (.contentSensorManager, .contentSensorManagerUninitFail),
    (.dmAdapter, .dmAdapterUninitFail),
    (.eventHandlerFactory, .cacheUninitFail)]

/-- The result for the service infos, which come last, is ignored. -/
def unInit (answers : ServicePart → Bool) : ServiceProg Unit :=
  .step (fun s => { s with isInited := false }) fun _ => do
    unInitParts answers unInitOrder
    (unInitPart answers (.serviceInfoManager, .serviceInfoManagerUninitFail)).getD ()

/-- The service takes no more requests and takes its parts down. -/
def onStop (answers : ServicePart → Bool) : ServiceProg ServiceAnswer :=
  .step (fun s => { s with isStopped := true }) fun _ => do
    (unInit answers).getD ()
    return .done

/-! ## Requests -/

/-- The method of the code is called, if there is one. -/
def callInner (m : Option RemoteMethod) (s : ServiceState) : ServiceState :=
  { s with served := s.served ++ m.toList }

/-- The last step of a request that was counted. -/
def subtractRunningIpcCount (answer : ServiceAnswer) : ServiceProg ServiceAnswer :=
  .step (fun s => { s with runningIpcCount := s.runningIpcCount - 1 }) fun _ => .ret answer

/-- A request with the answer of `CancelIdle`, and whether its token is the one of the interface. -/
def onRemoteRequest (canceled hasToken : Bool) (code : Nat) : ServiceProg ServiceAnswer :=
  .step id fun s =>
    if s.isStopped then .ret .serviceStopped
    else if canceled = false then .ret .serviceOnIdle
    else .step (fun s => { s with runningIpcCount := s.runningIpcCount + 1 }) fun _ =>
      if hasToken = false then subtractRunningIpcCount .interfaceCheckFailed
      else if isAclAndSubscribe code then
        .step (callInner (notifyAclEventInner code)) fun _ =>
          subtractRunningIpcCount (.answered (notifyAclEventInner code))
      else .step id fun s =>
        if s.isInited = false then subtractRunningIpcCount .loadServiceErr
        else
          .step (callInner (notifyEventInner code)) fun _ =>
            subtractRunningIpcCount (.answered (notifyEventInner code))

/-! ## Idling -/

/-- The count of the requests is read first, and then whether a device is online. -/
def isReadyIntoIdle : ServiceProg ServiceAnswer :=
  .step id fun s =>
    if 0 < s.runningIpcCount then .ret .refuseIntoIdle
    else .step id fun s => .ret (if s.isDeviceOnline then .refuseIntoIdle else .readyIntoIdle)

/-- Only low memory asks whether the service is ready. -/
def onIdle (isLowMemory : Bool) : ServiceProg ServiceAnswer :=
  if isLowMemory then isReadyIntoIdle else .ret .readyIntoIdle

/-! ## Calls -/

/-- What the threads of the service run. -/
inductive LifecycleCall where
  | onAddSystemAbility (systemAbilityId : SystemAbility) (answers : ServicePart → Bool)
  | onRemoteRequest (canceled hasToken : Bool) (code : Nat)
  | onIdle (isLowMemory : Bool)
  | onStop (answers : ServicePart → Bool)
  | setDeviceOnline (isOnline : Bool)

/-- The program of a thread. -/
def LifecycleCall.prog : LifecycleCall → ServiceProg ServiceAnswer
  | onAddSystemAbility systemAbilityId answers =>
    DeviceProfile.onAddSystemAbility systemAbilityId answers
  | onRemoteRequest canceled hasToken code =>
    DeviceProfile.onRemoteRequest canceled hasToken code
  | onIdle isLowMemory => DeviceProfile.onIdle isLowMemory
  | onStop answers => DeviceProfile.onStop answers
  | setDeviceOnline isOnline =>
    .step (fun s => { s with isDeviceOnline := isOnline }) fun _ => .ret .done

end DeviceProfile
