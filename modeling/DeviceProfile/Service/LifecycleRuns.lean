import DeviceProfile.Library.Balance
import DeviceProfile.Library.Rely
import DeviceProfile.Service.Lifecycle

/-!
# What holds however the calls of the service are interleaved

Reports of abilities, requests, questions whether the service may go idle, and stops run in any
number and any order. The parts are initialized by one thread only, and by one of them if all
abilities were reported. A request reaches a method that needs the parts only when they are up.
The count of requests is right at every moment, and zero when all have been answered.
-/

namespace DeviceProfile

open Library Prog

/-- The service at its start, with calls that have not begun. -/
def lifecyclePool (calls : List LifecycleCall) : Pool PartError ServiceState ServiceAnswer :=
  ⟨{}, calls.map LifecycleCall.prog⟩

/-- The service after some steps of its calls. -/
def runLifecycle (calls : List LifecycleCall) (schedule : List Nat) :
    Pool PartError ServiceState ServiceAnswer :=
  schedule.foldl Pool.schedule (lifecyclePool calls)

/-- Some call reports the ability. -/
def IsReported (calls : List LifecycleCall) (systemAbilityId : SystemAbility) : Prop :=
  ∃ answers, .onAddSystemAbility systemAbilityId answers ∈ calls

/-- The parts are up, unless the service has been stopped. -/
def ServiceState.Has (s : ServiceState) (parts : List (ServicePart × PartError)) : Prop :=
  s.isStopped = true ∨ ∀ part ∈ parts, s.up part.1 = true

/-- The parts that `PostInit` and `PostInitNext` cannot do without. -/
def neededParts : List (ServicePart × PartError) := postInitParts ++ postInitNextParts

/-- The service is initialized only with its parts, and when it waits for nothing any more. -/
def ServiceState.Sound (s : ServiceState) : Prop :=
  s.isInited = true → s.Has neededParts ∧ s.depSaIds = ∅

/-- What a step of any call may change. -/
structure ServiceState.Changes (reported : SystemAbility → Prop) (s s' : ServiceState) :
    Prop where
  isStopped : s.isStopped = true → s'.isStopped = true
  up : ∀ part, s.up part = true → s'.isStopped = true ∨ s'.up part = true
  isInited : s'.isInited = true → s.isInited = true ∨ s'.Has neededParts ∧ s'.depSaIds = ∅
  depSaIds : s'.depSaIds ⊆ s.depSaIds
  waits : ∀ systemAbilityId ∈ s.depSaIds, ¬ reported systemAbilityId →
    systemAbilityId ∈ s'.depSaIds
  served : ∃ ms : List RemoteMethod, s'.served = s.served ++ ms ∧
    ∀ m ∈ ms, m.isEarly = true ∨ s.Has neededParts

variable {reported : SystemAbility → Prop} {s s' : ServiceState}
  {parts parts' : List (ServicePart × PartError)}

/-- A step that touches nothing of it. -/
theorem changes_of_eq (hstopped : s'.isStopped = s.isStopped) (hup : s'.up = s.up)
    (hinited : s'.isInited = s.isInited) (hdep : s'.depSaIds = s.depSaIds)
    (hserved : s'.served = s.served) : s.Changes reported s' where
  isStopped h := by rw [hstopped]; exact h
  up part h := by rw [hup]; exact Or.inr h
  isInited h := by rw [hinited] at h; exact Or.inl h
  depSaIds := by rw [hdep]
  waits sa h _ := by rw [hdep]; exact h
  served := ⟨[], by rw [hserved, List.append_nil], by simp⟩

theorem changes_refl (s : ServiceState) : s.Changes reported s :=
  changes_of_eq rfl rfl rfl rfl rfl

/-! ## What is stable -/

/-- What has been made stays. -/
theorem stable_has : Stable (ServiceState.Changes reported) (·.Has parts) := by
  rintro s s' h (hstopped | hup)
  · exact Or.inl (h.isStopped hstopped)
  · by_cases hs' : s'.isStopped = true
    · exact Or.inl hs'
    · exact Or.inr fun part hpart => (h.up _ (hup part hpart)).resolve_left hs'

theorem stable_isStopped : Stable (ServiceState.Changes reported) (·.isStopped = true) :=
  fun _ _ h => h.isStopped

/-- A report that has been seen stays seen. -/
theorem stable_depSaIds : Stable (ServiceState.Changes reported) (·.depSaIds = ∅) := by
  intro s s' h hempty
  have hsub := h.depSaIds
  rw [hempty] at hsub
  exact Finset.subset_empty.mp hsub

/-- Every change keeps a service sound. -/
theorem stable_sound : Stable (ServiceState.Changes reported) ServiceState.Sound := by
  intro s s' h hsound hinited
  rcases h.isInited hinited with hold | hnew
  · obtain ⟨hhas, hempty⟩ := hsound hold
    exact ⟨stable_has s s' h hhas, stable_depSaIds s s' h hempty⟩
  · exact hnew

theorem ServiceState.Has.append (h : s.Has parts) (h' : s.Has parts') :
    s.Has (parts ++ parts') := by
  rcases h with hstopped | hup
  · exact Or.inl hstopped
  · rcases h' with hstopped | hup'
    · exact Or.inl hstopped
    · refine Or.inr fun part hpart => ?_
      rcases List.mem_append.mp hpart with hpart | hpart
      · exact hup part hpart
      · exact hup' part hpart

/-- While the parts are initialized, the service waits for nothing, and some parts are up. -/
def ServiceState.Starting (parts : List (ServicePart × PartError)) (s : ServiceState) : Prop :=
  (s.Sound ∧ s.depSaIds = ∅) ∧ s.Has parts

/-- Others do not undo what a start has made so far. -/
theorem stable_starting (parts : List (ServicePart × PartError)) :
    Stable (ServiceState.Changes reported) (ServiceState.Starting parts) :=
  (stable_sound.and stable_depSaIds).and stable_has

/-- An ending that promises nothing. -/
abbrev Anyhow {α : Type} : α → ServiceState → Prop := fun _ _ => True

/-! ## The calls -/

/-- A start of one part: it is there afterwards, or the start has failed. -/
theorem initPart_relies {Q E : ServiceState → Prop} (answers : ServicePart → Bool)
    (part : ServicePart × PartError) (hQ : ∀ s, ServiceState.Starting (parts ++ [part]) s → Q s)
    (hE : ∀ s, ServiceState.Starting parts s → E s) :
    (initPart answers part).ReliesOnPeers (ServiceState.Changes reported) (fun _ => Q) (fun _ => E)
      (ServiceState.Starting parts) := by
  intro s hs
  by_cases hans : answers part.1 = true
  · simp only [hans, if_true]
    have hchange : s.Changes reported { s with up := Function.update s.up part.1 true } :=
      { isStopped := id
        up := fun p hp => Or.inr (by
          by_cases hpart : p = part.1
          · simp [hpart]
          · simpa [Function.update_of_ne hpart] using hp)
        isInited := Or.inl
        depSaIds := subset_rfl
        waits := fun _ h _ => h
        served := ⟨[], by simp⟩ }
    refine ⟨hchange, ServiceState.Starting (parts ++ [part]), stable_starting _, ?_, hQ⟩
    obtain ⟨hsound, hhas⟩ := stable_starting parts _ _ hchange hs
    refine ⟨hsound, hhas.append (Or.inr fun p hp => ?_)⟩
    obtain rfl := List.mem_singleton.mp hp
    simp
  · simp only [hans, Bool.false_eq_true, if_false]
    exact ⟨changes_refl s, ServiceState.Starting parts, stable_starting _, hs, hE⟩

/-- A start of parts in a row: those before stay, those after follow. -/
theorem initParts_relies (answers : ServicePart → Bool)
    (parts todo : List (ServicePart × PartError)) :
    (initParts answers todo).ReliesOnPeers (ServiceState.Changes reported)
      (fun _ => ServiceState.Starting (parts ++ todo)) Anyhow (ServiceState.Starting parts) := by
  induction todo generalizing parts with
  | nil =>
    rw [List.append_nil]
    exact fun s hs => hs
  | cons part todo ih =>
    have hrest := fun _ : Unit => ih (parts ++ [part])
    rw [List.append_assoc, List.singleton_append] at hrest
    exact relies_bind (initPart_relies answers part (fun _ h => h) fun _ _ => trivial) hrest

/-- The last part of the start raises the flag when all parts are there. -/
theorem postInitNext_relies (answers : ServicePart → Bool) :
    (postInitNext answers).ReliesOnPeers (ServiceState.Changes reported) Anyhow Anyhow
      (ServiceState.Starting postInitParts) := by
  refine relies_bind (initParts_relies answers postInitParts postInitNextParts) fun _ => ?_
  refine relies_step (stable_starting neededParts) fun s hs => ?_
  obtain ⟨⟨_, hempty⟩, hhas⟩ := hs
  have hchange : s.Changes reported { s with isInited := true } :=
    { isStopped := id
      up := fun _ => Or.inr
      isInited := fun _ => Or.inr ⟨hhas, hempty⟩
      depSaIds := subset_rfl
      waits := fun _ h _ => h
      served := ⟨[], by simp⟩ }
  refine ⟨hchange, ⟨⟨fun _ => ⟨hhas, hempty⟩, hempty⟩, hhas⟩, ?_⟩
  intro s hs
  exact ⟨changes_of_eq rfl rfl rfl rfl rfl, _, stable_starting _, hs, fun _ _ => trivial⟩

/-- The start makes its parts from the first on. -/
theorem postInit_relies (answers : ServicePart → Bool) :
    (postInit answers).ReliesOnPeers (ServiceState.Changes reported) Anyhow Anyhow
      (ServiceState.Starting []) := by
  refine relies_step (stable_starting []) fun s hs => ⟨changes_of_eq rfl rfl rfl rfl rfl, hs, ?_⟩
  refine relies_bind (initParts_relies answers [] postInitParts) fun _ => ?_
  refine relies_bind (Q := fun _ => ServiceState.Starting postInitParts) ?_ fun _ =>
    postInitNext_relies answers
  refine relies_getD (initPart_relies answers _ ?_ fun _ hs => hs)
  rintro s ⟨hsound, hhas⟩
  exact ⟨hsound, hhas.imp_right fun hup part hpart => hup part (List.mem_append_left _ hpart)⟩

/-- A report of a system ability that was expected keeps the service sound. -/
theorem onAddSystemAbility_relies {systemAbilityId : SystemAbility}
    (hreported : reported systemAbilityId) (answers : ServicePart → Bool) :
    (onAddSystemAbility systemAbilityId answers).ReliesOnPeers
      (ServiceState.Changes reported) Anyhow Anyhow ServiceState.Sound := by
  refine relies_step stable_sound fun s hs => ⟨changes_refl s, hs, ?_⟩
  by_cases hinited : s.isInited = true
  · simp only [hinited, if_true]
    exact fun _ _ => trivial
  simp only [hinited, Bool.false_eq_true, if_false]
  intro s hs
  have hchange : s.Changes reported { s with depSaIds := s.depSaIds.erase systemAbilityId } :=
    { isStopped := id
      up := fun _ => Or.inr
      isInited := Or.inl
      depSaIds := Finset.erase_subset _ _
      waits := fun sa hsa hnot => Finset.mem_erase.mpr ⟨fun h => hnot (h ▸ hreported), hsa⟩
      served := ⟨[], by simp⟩ }
  refine ⟨hchange, ?_⟩
  have hsound := stable_sound _ _ hchange hs
  dsimp only
  by_cases hlast : s.depSaIds = ∅ ∨ s.depSaIds.erase systemAbilityId ≠ ∅
  · rw [if_pos hlast]
    exact ⟨_, stable_sound, hsound, fun _ _ => trivial⟩
  · rw [if_neg hlast]
    obtain ⟨_, hempty⟩ := not_or.mp hlast
    refine ⟨ServiceState.Starting [], stable_starting _, ⟨⟨hsound, not_not.mp hempty⟩, ?_⟩, ?_⟩
    · exact Or.inr fun _ h => by cases h
    · exact relies_bind (relies_getD (postInit_relies answers)) fun _ _ _ => trivial

/-- A part goes down only in a service that has been stopped. -/
theorem unInitPart_relies {Q : ServiceState → Prop} (answers : ServicePart → Bool)
    (part : ServicePart × PartError) (hQ : ∀ s : ServiceState, s.isStopped = true → Q s) :
    (unInitPart answers part).ReliesOnPeers (ServiceState.Changes reported) (fun _ => Q) Anyhow
      (·.isStopped = true) := by
  refine relies_step stable_isStopped fun s hs => ⟨?_, hs, ?_⟩
  · exact
      { isStopped := id
        up := fun _ _ => Or.inl hs
        isInited := Or.inl
        depSaIds := subset_rfl
        waits := fun _ h _ => h
        served := ⟨[], by simp⟩ }
  · split
    · exact hQ
    · exact fun _ _ => trivial

/-- The end of the parts runs in a stopped service. -/
theorem unInitParts_relies (answers : ServicePart → Bool)
    (parts : List (ServicePart × PartError)) :
    (unInitParts answers parts).ReliesOnPeers (ServiceState.Changes reported)
      (fun _ s => s.isStopped = true) Anyhow (·.isStopped = true) := by
  induction parts with
  | nil => exact fun _ h => h
  | cons part parts ih =>
    exact relies_bind (unInitPart_relies answers part fun _ h => h) fun _ => ih

/-- The end of the service runs when it has stopped. -/
theorem unInit_relies (answers : ServicePart → Bool) :
    (unInit answers).ReliesOnPeers (ServiceState.Changes reported) Anyhow Anyhow
      (·.isStopped = true) := by
  refine relies_step stable_isStopped fun s hs => ⟨?_, hs, ?_⟩
  · exact
      { isStopped := id
        up := fun _ => Or.inr
        isInited := fun h => by cases h
        depSaIds := subset_rfl
        waits := fun _ h _ => h
        served := ⟨[], by simp⟩ }
  · refine relies_bind (unInitParts_relies answers _) fun _ => relies_getD ?_
    exact unInitPart_relies answers _ fun _ _ => trivial

/-- A stop keeps the service sound. -/
theorem onStop_relies (answers : ServicePart → Bool) :
    (onStop answers).ReliesOnPeers (ServiceState.Changes reported) Anyhow Anyhow
      ServiceState.Sound := by
  refine relies_step stable_isStopped fun s _ => ⟨?_, rfl, ?_⟩
  · exact
      { isStopped := fun _ => rfl
        up := fun _ => Or.inr
        isInited := Or.inl
        depSaIds := subset_rfl
        waits := fun _ h _ => h
        served := ⟨[], by simp⟩ }
  · exact relies_bind (relies_getD (unInit_relies answers)) fun _ _ _ => trivial

/-- What the requests rely on when they call a method. -/
theorem callInner_changes {m : Option RemoteMethod}
    (h : ∀ method, m = some method → method.isEarly = true ∨ s.Has neededParts) :
    s.Changes reported (callInner m s) where
  isStopped := id
  up _ := Or.inr
  isInited := Or.inl
  depSaIds := subset_rfl
  waits _ h _ := h
  served := ⟨m.toList, rfl, fun method hmem => h method (Option.mem_toList.mp hmem)⟩

/-- Counting a request down depends on nothing. -/
theorem subtractRunningIpcCount_relies {A : ServiceState → Prop} (answer : ServiceAnswer) :
    (subtractRunningIpcCount answer).ReliesOnPeers (ServiceState.Changes reported) Anyhow
      Anyhow A := by
  refine relies_step (B := fun _ => True) (fun _ _ _ _ => trivial) fun s _ => ⟨?_, trivial, ?_⟩
  · exact changes_of_eq rfl rfl rfl rfl rfl
  · exact fun _ _ => trivial

/-- The requests that are served early are those of access control and subscriptions. -/
theorem isEarly_of_notifyAcl {code : Nat} (hacl : isAclAndSubscribe code = true)
    {m : RemoteMethod} (hm : notifyAclEventInner code = some m) : m.isEarly = true := by
  have hdispatch : dispatch false code = some m := by rw [dispatch, if_pos hacl, hm]
  simpa using (dispatch_eq_some_iff.mp hdispatch).2

/-- A request keeps the service sound and finds its parts. -/
theorem onRemoteRequest_relies (canceled hasToken : Bool) (code : Nat) :
    (onRemoteRequest canceled hasToken code).ReliesOnPeers (ServiceState.Changes reported) Anyhow
      Anyhow ServiceState.Sound := by
  refine relies_step stable_sound fun s hs => ⟨changes_refl s, hs, ?_⟩
  split
  · exact fun _ _ => trivial
  split
  · exact fun _ _ => trivial
  refine relies_step stable_sound fun s hs => ⟨changes_of_eq rfl rfl rfl rfl rfl, hs, ?_⟩
  split
  · exact subtractRunningIpcCount_relies _
  split
  · rename_i hacl
    refine relies_step (B := fun _ => True) (fun _ _ _ _ => trivial) fun s _ => ⟨?_, trivial, ?_⟩
    · exact callInner_changes fun m hm => Or.inl (isEarly_of_notifyAcl hacl hm)
    · exact subtractRunningIpcCount_relies _
  · intro s hs
    refine ⟨changes_refl s, ?_⟩
    by_cases hinited : s.isInited = false
    · simp only [hinited, if_true]
      exact ⟨_, stable_sound, hs, subtractRunningIpcCount_relies _⟩
    · simp only [hinited]
      refine ⟨_, stable_has, (hs (Bool.not_eq_false _ ▸ hinited)).1, ?_⟩
      refine relies_step (B := fun _ => True) (fun _ _ _ _ => trivial) fun s hs =>
        ⟨?_, trivial, subtractRunningIpcCount_relies _⟩
      exact callInner_changes fun _ _ => Or.inr hs

/-- A question for idleness keeps the service sound. -/
theorem onIdle_relies (isLowMemory : Bool) :
    (onIdle isLowMemory).ReliesOnPeers (ServiceState.Changes reported) Anyhow Anyhow
      ServiceState.Sound := by
  rw [onIdle]
  split
  · refine relies_step stable_sound fun s hs => ⟨changes_refl s, hs, ?_⟩
    split
    · exact fun _ _ => trivial
    · exact relies_step stable_sound fun s hs => ⟨changes_refl s, hs, fun _ _ => trivial⟩
  · exact fun _ _ => trivial

/-- Each call keeps the service sound. -/
theorem prog_relies {calls : List LifecycleCall} {call : LifecycleCall} (hcall : call ∈ calls) :
    call.prog.ReliesOnPeers (ServiceState.Changes (IsReported calls)) Anyhow Anyhow
      ServiceState.Sound := by
  cases call with
  | onAddSystemAbility systemAbilityId answers =>
    exact onAddSystemAbility_relies ⟨answers, hcall⟩ answers
  | onRemoteRequest canceled hasToken code => exact onRemoteRequest_relies canceled hasToken code
  | onIdle isLowMemory => exact onIdle_relies isLowMemory
  | onStop answers => exact onStop_relies answers
  | setDeviceOnline isOnline =>
    exact relies_step stable_sound fun s hs =>
      ⟨changes_of_eq rfl rfl rfl rfl rfl, hs, fun _ _ => trivial⟩

/-! ## Runs -/

variable {calls : List LifecycleCall} {schedule : List Nat}

theorem runLifecycle_append (i : Nat) :
    runLifecycle calls (schedule ++ [i]) = (runLifecycle calls schedule).schedule i := by
  rw [runLifecycle, List.foldl_append]
  rfl

theorem sound_initial : ({} : ServiceState).Sound := fun h => by cases h

/-- In a whole run each call keeps what the others rely on. -/
theorem runLifecycle_relies (calls : List LifecycleCall) (schedule : List Nat) :
    (runLifecycle calls schedule).Relies (fun _ => ServiceState.Changes (IsReported calls))
      (fun _ => ServiceState.Changes (IsReported calls)) (fun _ => Anyhow) fun _ => Anyhow := by
  refine Pool.Relies.run (fun i m hm => ?_) (compatible_same _) schedule
  obtain ⟨call, hcall, rfl⟩ := List.mem_map.mp (List.mem_of_getElem? hm)
  exact ⟨_, stable_sound, sound_initial, prog_relies hcall⟩

/-- Each turn changes the service as a call may. -/
theorem runLifecycle_changes (calls : List LifecycleCall) (schedule : List Nat) (i : Nat) :
    (runLifecycle calls schedule).shared.Changes (IsReported calls)
      (runLifecycle calls (schedule ++ [i])).shared := by
  rw [runLifecycle_append]
  have hstep := ((runLifecycle_relies calls schedule).schedule (compatible_same _) i).1
  rcases hstep with hsame | hchange
  · rw [hsame]
    exact changes_refl _
  · exact hchange

/-- What every change keeps holds after every schedule. -/
theorem runLifecycle_invariant {I : ServiceState → Prop}
    (hI : Stable (ServiceState.Changes (IsReported calls)) I) (h : I {}) (schedule : List Nat) :
    I (runLifecycle calls schedule).shared :=
  (runLifecycle_relies calls []).invariant (compatible_same _) (fun _ => hI) h schedule

/-- A request calls a method that is served from the start on, or a service that has its parts
or is being stopped; and a service that is initialized has them. -/
theorem requests_find_their_parts (calls : List LifecycleCall) (schedule : List Nat) (i : Nat) :
    (runLifecycle calls schedule).shared.Sound ∧
      ∃ ms : List RemoteMethod, (runLifecycle calls (schedule ++ [i])).shared.served =
          (runLifecycle calls schedule).shared.served ++ ms ∧
        ∀ m ∈ ms, m.isEarly = true ∨ (runLifecycle calls schedule).shared.Has neededParts := by
  exact ⟨runLifecycle_invariant stable_sound sound_initial schedule,
    (runLifecycle_changes calls schedule i).served⟩

/-! ## One initialization -/

/-- The counts that a step leaves alone. -/
structure SameCounts (s s' : ServiceState) : Prop where
  postInits : s'.postInits = s.postInits
  depSaIds : s'.depSaIds = s.depSaIds
  runningIpcCount : s'.runningIpcCount = s.runningIpcCount

/-- A start of a part changes none of the counts. -/
theorem initPart_steps (answers : ServicePart → Bool) (part : ServicePart × PartError) :
    (initPart answers part).Steps SameCounts := by
  intro s
  by_cases hans : answers part.1 = true
  · simp only [hans, if_true]
    exact ⟨⟨rfl, rfl, rfl⟩, trivial⟩
  · simp only [hans, Bool.false_eq_true, if_false]
    exact ⟨⟨rfl, rfl, rfl⟩, trivial⟩

theorem initParts_steps (answers : ServicePart → Bool)
    (parts : List (ServicePart × PartError)) : (initParts answers parts).Steps SameCounts := by
  induction parts with
  | nil => trivial
  | cons part parts ih => exact steps_bind (initPart_steps answers part) fun _ => ih

/-- An end of a part changes none of the counts. -/
theorem unInitPart_steps (answers : ServicePart → Bool) (part : ServicePart × PartError) :
    (unInitPart answers part).Steps SameCounts := by
  refine fun s => ⟨⟨rfl, rfl, rfl⟩, ?_⟩
  dsimp only
  split <;> trivial

theorem unInitParts_steps (answers : ServicePart → Bool)
    (parts : List (ServicePart × PartError)) : (unInitParts answers parts).Steps SameCounts := by
  induction parts with
  | nil => trivial
  | cons part parts ih => exact steps_bind (unInitPart_steps answers part) fun _ => ih

/-- What `PostInit` does once it has begun. -/
def postInitRest (answers : ServicePart → Bool) : ServiceProg Unit := do
  initParts answers postInitParts
  (initPart answers (.serviceInfoManager, .serviceInfoManagerInitFail)).getD ()
  postInitNext answers

theorem postInitRest_steps (answers : ServicePart → Bool) :
    (postInitRest answers).Steps SameCounts := by
  refine steps_bind (initParts_steps answers _) fun _ => ?_
  refine steps_bind (steps_getD (initPart_steps answers _) _) fun _ => ?_
  refine steps_bind (initParts_steps answers _) fun _ => ?_
  exact fun s => ⟨⟨rfl, rfl, rfl⟩, fun s => ⟨⟨rfl, rfl, rfl⟩, trivial⟩⟩

theorem onStop_steps (answers : ServicePart → Bool) : (onStop answers).Steps SameCounts := by
  refine fun s => ⟨⟨rfl, rfl, rfl⟩, steps_bind (steps_getD ?_ _) fun _ => trivial⟩
  refine fun s => ⟨⟨rfl, rfl, rfl⟩, steps_bind (unInitParts_steps answers _) fun _ => ?_⟩
  exact steps_getD (unInitPart_steps answers _) _

theorem onIdle_steps (isLowMemory : Bool) : (onIdle isLowMemory).Steps SameCounts := by
  rw [onIdle]
  split
  · refine fun s => ⟨⟨rfl, rfl, rfl⟩, ?_⟩
    dsimp only
    split
    · trivial
    · exact fun s => ⟨⟨rfl, rfl, rfl⟩, trivial⟩
  · trivial

/-- The initializations that were begun, without the one that is due when nothing is waited
for. -/
def beyondDue (s : ServiceState) : Int := s.postInits - if s.depSaIds = ∅ then 1 else 0

theorem SameCounts.beyondDue_eq (h : SameCounts s s') : beyondDue s' = beyondDue s := by
  rw [beyondDue, beyondDue, h.postInits, h.depSaIds]

/-- A program that changes none of the counts adds nothing to the difference. -/
theorem steps_beyondDue {α : Type} {m : ServiceProg α} (h : m.Steps SameCounts) :
    m.Adds beyondDue 0 1 0 :=
  adds_zero_of_steps (h.mono fun _ _ => SameCounts.beyondDue_eq) le_rfl Int.one_nonneg

/-- Whoever takes the last ability out makes an initialization due, and begins it. -/
theorem onAddSystemAbility_adds (systemAbilityId : SystemAbility)
    (answers : ServicePart → Bool) :
    (onAddSystemAbility systemAbilityId answers).Adds beyondDue 0 1 0 := by
  refine ⟨le_rfl, Int.one_nonneg, fun s => ?_⟩
  by_cases hinited : s.isInited = true
  · simp [hinited, Adds]
  simp only [hinited, Bool.false_eq_true, if_false, id_eq, sub_self]
  refine ⟨le_rfl, Int.one_nonneg, fun s => ?_⟩
  dsimp only
  by_cases hbefore : s.depSaIds = ∅
  · simp [hbefore, beyondDue, Adds]
  by_cases hafter : s.depSaIds.erase systemAbilityId = ∅
  · have hshare : (0 : Int) - (beyondDue { s with depSaIds := s.depSaIds.erase systemAbilityId } -
        beyondDue s) = 1 := by
      simp only [beyondDue, hafter, hbefore, if_true, if_false]
      omega
    rw [hshare, if_neg (by simp [hbefore, hafter])]
    refine ⟨Int.one_nonneg, le_rfl, fun s => ?_⟩
    have hbegun : (1 : Int) - (beyondDue { s with postInits := s.postInits + 1 } -
        beyondDue s) = 0 := by
      simp only [beyondDue]
      omega
    have hend : (ret .done : ServiceProg ServiceAnswer).Steps SameCounts := trivial
    have hrest (n : Int) (hn : n = 0) :
        ((postInitRest answers).getD () >>= fun _ => ret ServiceAnswer.done).Adds beyondDue 0 1
          n := by
      rw [hn]
      exact steps_beyondDue (steps_bind (steps_getD (postInitRest_steps answers) ()) fun _ => hend)
    exact hrest _ hbegun
  · have hshare : (0 : Int) - (beyondDue { s with depSaIds := s.depSaIds.erase systemAbilityId } -
        beyondDue s) = 0 := by
      simp only [beyondDue, hafter, hbefore, if_false]
      omega
    rw [hshare, if_pos (Or.inr hafter)]
    rfl

theorem subtractRunningIpcCount_steps (answer : ServiceAnswer) :
    (subtractRunningIpcCount answer).Steps fun s s' => beyondDue s' = beyondDue s :=
  fun _ => ⟨rfl, trivial⟩

theorem onRemoteRequest_steps (canceled hasToken : Bool) (code : Nat) :
    (onRemoteRequest canceled hasToken code).Steps fun s s' => beyondDue s' = beyondDue s := by
  refine fun s => ⟨rfl, ?_⟩
  dsimp only
  split
  · trivial
  split
  · trivial
  refine fun s => ⟨rfl, ?_⟩
  dsimp only
  split
  · exact subtractRunningIpcCount_steps _
  split
  · exact fun s => ⟨rfl, subtractRunningIpcCount_steps _⟩
  refine fun s => ⟨rfl, ?_⟩
  dsimp only
  split
  · exact subtractRunningIpcCount_steps _
  · exact fun s => ⟨rfl, subtractRunningIpcCount_steps _⟩

theorem setDeviceOnline_steps (isOnline : Bool) :
    (LifecycleCall.setDeviceOnline isOnline).prog.Steps SameCounts :=
  fun _ => ⟨⟨rfl, rfl, rfl⟩, trivial⟩

/-- A call adds one to the difference at most on its way, and nothing in all. -/
theorem prog_adds_beyondDue (call : LifecycleCall) : call.prog.Adds beyondDue 0 1 0 := by
  cases call with
  | onAddSystemAbility systemAbilityId answers =>
    exact onAddSystemAbility_adds systemAbilityId answers
  | onRemoteRequest canceled hasToken code =>
    exact adds_zero_of_steps (onRemoteRequest_steps canceled hasToken code) le_rfl Int.one_nonneg
  | onIdle isLowMemory => exact steps_beyondDue (onIdle_steps isLowMemory)
  | onStop answers => exact steps_beyondDue (onStop_steps answers)
  | setDeviceOnline isOnline => exact steps_beyondDue (setDeviceOnline_steps isOnline)

/-- At any time the difference is the sum of what the calls have still to take from it. -/
theorem runLifecycle_beyondDue (calls : List LifecycleCall) (schedule : List Nat) :
    ∃ shares, (runLifecycle calls schedule).Balanced beyondDue 0 1 0 shares := by
  have hstart : (lifecyclePool calls).Each fun m => m.Adds beyondDue 0 1 0 := by
    intro m hm
    obtain ⟨call, _, rfl⟩ := List.mem_map.mp hm
    exact prog_adds_beyondDue call
  have hbalanced := Pool.balanced_of_each hstart
  have hzero : beyondDue (lifecyclePool calls).shared = 0 := rfl
  rw [hzero, Int.zero_mul, Int.add_zero] at hbalanced
  exact hbalanced.run schedule

/-- A thread that reports an ability takes it out, unless the service is initialized and waits for
nothing. -/
theorem onAddSystemAbility_owes (systemAbilityId : SystemAbility)
    (answers : ServicePart → Bool) :
    (onAddSystemAbility systemAbilityId answers).Owes ServiceState.Sound
      (systemAbilityId ∉ ·.depSaIds) := by
  intro s hs
  by_cases hinited : s.isInited = true
  · left
    change systemAbilityId ∉ s.depSaIds
    rw [(hs hinited).2]
    exact Finset.notMem_empty _
  · right
    simp only [hinited, Bool.false_eq_true, if_false]
    exact fun s _ => Or.inl (Finset.notMem_erase _ _)

/-- Every reported ability has been taken out, or the thread that reports it has not done so. -/
theorem runLifecycle_covered (calls : List LifecycleCall) (schedule : List Nat) :
    (runLifecycle calls schedule).Each (Prog.Honest ServiceState.Sound
        (fun sa _ => IsReported calls sa) fun sa s => sa ∉ s.depSaIds) ∧
      (runLifecycle calls schedule).Covered ServiceState.Sound
        (fun sa _ => IsReported calls sa) fun sa s => sa ∉ s.depSaIds := by
  induction schedule using List.reverseRecOn with
  | nil =>
    refine ⟨fun m _ => honest_of_always m, fun sa hsa => ?_⟩
    · obtain ⟨answers, hcall⟩ := hsa
      exact Or.inr ⟨_, List.mem_map_of_mem hcall, onAddSystemAbility_owes sa answers⟩
  | append_singleton schedule i ih =>
    have hchange := runLifecycle_changes calls schedule i
    rw [runLifecycle_append] at hchange ⊢
    refine Pool.schedule_covered ?_ ih.1 ih.2 fun sa _ hout => ?_
    · exact runLifecycle_invariant stable_sound sound_initial schedule
    · exact mt (fun h => hchange.depSaIds h) hout

/-- The parts are initialized by one thread at most. When all calls have ended it was one exactly
if every ability the service waits for has been reported. -/
theorem reports_initialize_once (calls : List LifecycleCall) (schedule : List Nat) :
    (runLifecycle calls schedule).shared.postInits ≤ 1 ∧
      ((runLifecycle calls schedule).Finished →
        ((runLifecycle calls schedule).shared.postInits = 1 ↔
          ∀ systemAbilityId ∈ initialDepSaIds, IsReported calls systemAbilityId)) := by
  obtain ⟨shares, hbalanced⟩ := runLifecycle_beyondDue calls schedule
  refine ⟨?_, fun hfinished => ?_⟩
  · have hle := hbalanced.le_total Int.one_nonneg
    rw [beyondDue] at hle
    split at hle <;> omega
  have hdue := hbalanced.of_finished hfinished
  rw [beyondDue] at hdue
  have hempty : (runLifecycle calls schedule).shared.depSaIds = ∅ ↔
      ∀ systemAbilityId ∈ initialDepSaIds, IsReported calls systemAbilityId := by
    constructor
    · intro hnone sa hsa
      by_contra hnot
      have hin : sa ∈ (runLifecycle calls schedule).shared.depSaIds :=
        runLifecycle_invariant (fun s s' h hs => h.waits sa hs hnot) hsa schedule
      rw [hnone] at hin
      exact Finset.notMem_empty sa hin
    · intro hall
      refine Finset.eq_empty_of_forall_notMem fun sa hsa => ?_
      have hinitial : sa ∈ initialDepSaIds :=
        runLifecycle_invariant (I := fun s => sa ∈ s.depSaIds → sa ∈ initialDepSaIds)
          (fun s s' h hs hin => hs (h.depSaIds hin)) id schedule hsa
      exact hfinished.settled (runLifecycle_covered calls schedule).2 sa (hall sa hinitial) hsa
  rw [← hempty]
  split at hdue
  · rename_i hnone
    simp only [hnone, iff_true]
    omega
  · rename_i hsome
    simp only [hsome, iff_false]
    omega

/-- Every ability is reported, by threads that run one after the other. -/
theorem reports_initialize_once_of_all :
    (runLifecycle
      [.onAddSystemAbility .softbusServer fun _ => true,
        .onAddSystemAbility .distributedKvDataService fun _ => true,
        .onAddSystemAbility .distributedHardwareDeviceManager fun _ => true,
        .onAddSystemAbility .subsysAccountBegin fun _ => true,
        .onAddSystemAbility .memoryManager fun _ => true]
      ([0, 0, 1, 1, 2, 2, 3, 3] ++ List.replicate 20 4)).shared.postInits = 1 := by
  refine ((reports_initialize_once _ _).2 (by decide)).mpr fun sa hsa => ?_
  simp only [initialDepSaIds, Finset.mem_insert, Finset.mem_singleton] at hsa
  rcases hsa with rfl | rfl | rfl | rfl | rfl <;> exact ⟨fun _ => true, by simp⟩

/-! ## Idling -/

/-- Whether a thread is inside a request: what is left of it takes one from the count. -/
def isRunning (m : ServiceProg ServiceAnswer) : Bool :=
  decide ((m.exec {}).2.runningIpcCount < 0)

/-- A running request is one that has still to count down. -/
theorem isRunning_iff (m : ServiceProg ServiceAnswer) (n : Int)
    (h : m.Adds ServiceState.runningIpcCount (-1) 0 n) : isRunning m = true ↔ n = -1 := by
  have hexec := h.exec {}
  obtain ⟨hlo, hhi⟩ := h.bounds (by decide) le_rfl
  rw [isRunning, decide_eq_true_iff, hexec]
  change 0 + n < 0 ↔ n = -1
  omega

/-- A program that changes none of the counts adds nothing to the number of running requests. -/
theorem steps_runningIpcCount {α : Type} {m : ServiceProg α} (h : m.Steps SameCounts) :
    m.Adds ServiceState.runningIpcCount (-1) 0 0 :=
  adds_zero_of_steps (h.mono fun _ _ => SameCounts.runningIpcCount) (by decide) le_rfl

theorem onAddSystemAbility_runningIpcCount (systemAbilityId : SystemAbility)
    (answers : ServicePart → Bool) :
    (onAddSystemAbility systemAbilityId answers).Steps fun s s' =>
      s'.runningIpcCount = s.runningIpcCount := by
  refine fun s => ⟨rfl, ?_⟩
  dsimp only
  split
  · trivial
  refine fun s => ⟨rfl, ?_⟩
  dsimp only
  split
  · trivial
  · refine steps_bind (steps_getD ?_ ()) fun _ => trivial
    intro s
    exact ⟨rfl, (postInitRest_steps answers).mono fun _ _ => SameCounts.runningIpcCount⟩

theorem subtractRunningIpcCount_adds (answer : ServiceAnswer) :
    (subtractRunningIpcCount answer).Adds ServiceState.runningIpcCount (-1) 0 (-1) := by
  refine ⟨le_rfl, by decide, fun s => ?_⟩
  change -1 - (s.runningIpcCount - 1 - s.runningIpcCount) = 0
  omega

/-- A step that leaves the count alone, in front of what takes one from it. -/
theorem adds_inside {upd : ServiceState → ServiceState}
    {next : ServiceState → ServiceProg ServiceAnswer}
    (hupd : ∀ s, (upd s).runningIpcCount = s.runningIpcCount)
    (h : ∀ s, (next s).Adds ServiceState.runningIpcCount (-1) 0 (-1)) :
    (Prog.step upd next).Adds ServiceState.runningIpcCount (-1) 0 (-1) := by
  refine ⟨le_rfl, by decide, fun s => ?_⟩
  rw [hupd, sub_self, sub_zero]
  exact h s

/-- A request counts itself down as often as up. -/
theorem onRemoteRequest_adds (canceled hasToken : Bool) (code : Nat) :
    (onRemoteRequest canceled hasToken code).Adds ServiceState.runningIpcCount (-1) 0 0 := by
  refine ⟨by decide, le_rfl, fun s => ?_⟩
  rw [id_eq, sub_self, sub_zero]
  dsimp only
  split
  · rfl
  split
  · rfl
  refine ⟨by decide, le_rfl, fun s => ?_⟩
  dsimp only
  have hbegun : (0 : Int) - (s.runningIpcCount + 1 - s.runningIpcCount) = -1 := by omega
  rw [hbegun]
  split
  · exact subtractRunningIpcCount_adds _
  split
  · exact adds_inside (fun _ => rfl) fun _ => subtractRunningIpcCount_adds _
  · refine adds_inside (fun _ => rfl) fun s => ?_
    split
    · exact subtractRunningIpcCount_adds _
    · exact adds_inside (fun _ => rfl) fun _ => subtractRunningIpcCount_adds _

/-- In all no call changes the number of running requests. -/
theorem prog_adds_runningIpcCount (call : LifecycleCall) :
    call.prog.Adds ServiceState.runningIpcCount (-1) 0 0 := by
  cases call with
  | onAddSystemAbility systemAbilityId answers =>
    exact adds_zero_of_steps (onAddSystemAbility_runningIpcCount systemAbilityId answers)
      (by decide) le_rfl
  | onRemoteRequest canceled hasToken code => exact onRemoteRequest_adds canceled hasToken code
  | onIdle isLowMemory => exact steps_runningIpcCount (onIdle_steps isLowMemory)
  | onStop answers => exact steps_runningIpcCount (onStop_steps answers)
  | setDeviceOnline isOnline => exact steps_runningIpcCount (setDeviceOnline_steps isOnline)

/-- The count is the number of the requests that are being answered. -/
theorem runningIpcCount_eq (calls : List LifecycleCall) (schedule : List Nat) :
    (runLifecycle calls schedule).shared.runningIpcCount =
      (runLifecycle calls schedule).threads.countP isRunning := by
  have hstart : (lifecyclePool calls).Each fun m =>
      m.Adds ServiceState.runningIpcCount (-1) 0 0 := by
    intro m hm
    obtain ⟨call, _, rfl⟩ := List.mem_map.mp hm
    exact prog_adds_runningIpcCount call
  have hbalanced := Pool.balanced_of_each hstart
  have hzero : (lifecyclePool calls).shared.runningIpcCount = 0 := rfl
  rw [hzero, Int.zero_mul, Int.add_zero] at hbalanced
  obtain ⟨shares, hrun⟩ := hbalanced.run schedule
  have hcount := hrun.eq_countP isRunning_iff
  rw [Int.zero_add] at hcount
  exact hcount

/-- Where thread `j`, which answers the question of low memory, is: before its first step, which
reads the count, between that and its second one, or at its end; with the schedule before and
between its steps. -/
inductive IdleStage (calls : List LifecycleCall) (j : Nat) (schedule : List Nat) :
    ServiceProg ServiceAnswer → Prop where
  | asked (hnone : j ∉ schedule) : IdleStage calls j schedule isReadyIntoIdle
  | refused : IdleStage calls j schedule (.ret .refuseIntoIdle)
  | counted (before between : List Nat) (hschedule : schedule = before ++ j :: between)
      (hbefore : j ∉ before) (hbetween : j ∉ between)
      (hnone : (runLifecycle calls before).threads.countP isRunning = 0) :
      IdleStage calls j schedule (.step id fun s =>
        .ret (if s.isDeviceOnline then .refuseIntoIdle else .readyIntoIdle))
  | ready (before between rest : List Nat)
      (hschedule : schedule = before ++ j :: (between ++ j :: rest))
      (hbefore : j ∉ before) (hbetween : j ∉ between)
      (hnone : (runLifecycle calls before).threads.countP isRunning = 0)
      (honline : (runLifecycle calls (before ++ j :: between)).shared.isDeviceOnline = false) :
      IdleStage calls j schedule (.ret .readyIntoIdle)

/-- The thread stays where it is while others take their steps, and when it has ended. -/
theorem IdleStage.append {j i : Nat} {m : ServiceProg ServiceAnswer}
    (h : IdleStage calls j schedule m) (hi : i ≠ j ∨ ∃ answer, m = .ret answer) :
    IdleStage calls j (schedule ++ [i]) m := by
  have hfree : ∀ l : List Nat, i ≠ j → j ∉ l → j ∉ l ++ [i] := by
    intro l hne hl hmem
    rcases List.mem_append.mp hmem with hold | hnew
    · exact hl hold
    · exact hne (List.mem_singleton.mp hnew).symm
  cases h with
  | asked hnone =>
    rcases hi with hne | ⟨answer, hret⟩
    · exact .asked (hfree _ hne hnone)
    · cases hret
  | refused => exact .refused
  | counted before between hschedule hbefore hbetween hnone =>
    rcases hi with hne | ⟨answer, hret⟩
    · refine .counted before (between ++ [i]) ?_ hbefore (hfree _ hne hbetween) hnone
      rw [hschedule, List.append_assoc, List.cons_append]
    · cases hret
  | ready before between rest hschedule hbefore hbetween hnone honline =>
    refine .ready before between (rest ++ [i]) ?_ hbefore hbetween hnone honline
    rw [hschedule, List.append_assoc, List.cons_append, List.append_assoc, List.cons_append]

/-- A step of the thread brings it to the next stage. -/
theorem IdleStage.next {j : Nat} {upd : ServiceState → ServiceState}
    {next : ServiceState → ServiceProg ServiceAnswer}
    (h : IdleStage calls j schedule (.step upd next)) :
    IdleStage calls j (schedule ++ [j]) (next (runLifecycle calls schedule).shared) := by
  have hcount := runningIpcCount_eq calls schedule
  cases h with
  | asked hnone =>
    dsimp only
    split
    · exact .refused
    · exact .counted schedule [] rfl hnone List.not_mem_nil (by omega)
  | counted before between hschedule hbefore hbetween hnone =>
    dsimp only
    split
    · exact .refused
    · refine .ready before between [] ?_ hbefore hbetween hnone ?_
      · rw [hschedule, List.append_assoc, List.cons_append]
      · rw [← hschedule]
        exact Bool.not_eq_true _ ▸ ‹_›

/-- A question for idleness goes through its stages in every schedule. -/
theorem idleStage_run {j : Nat} (hcall : calls[j]? = some (.onIdle true)) (schedule : List Nat) :
    ∃ m, (runLifecycle calls schedule).threads[j]? = some m ∧ IdleStage calls j schedule m := by
  induction schedule using List.reverseRecOn with
  | nil =>
    refine ⟨isReadyIntoIdle, ?_, .asked List.not_mem_nil⟩
    change (calls.map LifecycleCall.prog)[j]? = _
    rw [List.getElem?_map, hcall]
    rfl
  | append_singleton schedule i ih =>
    obtain ⟨m, hm, hstage⟩ := ih
    rw [runLifecycle_append]
    by_cases hij : i = j
    · subst hij
      cases m with
      | ret answer =>
        have hkept : (([i] : List Nat).foldl Pool.schedule _).threads[i]? = some (.ret answer) :=
          Pool.threads_of_ret hm
        exact ⟨_, hkept, hstage.append (.inr ⟨answer, rfl⟩)⟩
      | fail e => cases hstage
      | step upd next =>
        obtain ⟨hlt, _⟩ := List.getElem?_eq_some_iff.mp hm
        rw [Pool.schedule_of_step hm]
        exact ⟨_, List.getElem?_set_self hlt, hstage.next⟩
    · rw [Pool.threads_schedule_of_ne hij]
      exact ⟨m, hm, hstage.append (.inl hij)⟩

/-- Low memory is told that the service may go idle only if no request was being answered at the
first step of the question, and no device was online at its second and last one. -/
theorem idle_service_had_no_requests {j : Nat} (hcall : calls[j]? = some (.onIdle true))
    (hready : (runLifecycle calls schedule).threads[j]? = some (.ret .readyIntoIdle)) :
    ∃ before between rest, schedule = before ++ j :: (between ++ j :: rest) ∧
      j ∉ before ∧ j ∉ between ∧
      (runLifecycle calls before).threads.countP isRunning = 0 ∧
      (runLifecycle calls (before ++ j :: between)).shared.isDeviceOnline = false := by
  obtain ⟨m, hm, hstage⟩ := idleStage_run hcall schedule
  obtain rfl := Option.some.inj (hm.symm.trans hready)
  cases hstage with
  | ready before between rest hschedule hbefore hbetween hnone honline =>
    exact ⟨before, between, rest, hschedule, hbefore, hbetween, hnone, honline⟩

/-- A request begins before the question is asked, and again while it is being answered; a device
goes offline just before the last step. -/
theorem idle_service_after_request :
    let calls : List LifecycleCall := [.onRemoteRequest true true 7, .onIdle true,
      .onRemoteRequest true true 7, .setDeviceOnline true, .setDeviceOnline false]
    ∃ before between rest, [3, 0, 0, 0, 0, 1, 2, 2, 4, 1, 2] =
        before ++ 1 :: (between ++ 1 :: rest) ∧
      1 ∉ before ∧ 1 ∉ between ∧
      (runLifecycle calls before).threads.countP isRunning = 0 ∧
      (runLifecycle calls (before ++ 1 :: between)).shared.isDeviceOnline = false :=
  idle_service_had_no_requests (j := 1) rfl rfl

end DeviceProfile
