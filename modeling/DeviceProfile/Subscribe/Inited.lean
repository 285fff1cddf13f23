import DeviceProfile.Library.Run
import Mathlib.Logic.Function.Basic
import Std.Data.ExtTreeMap.Lemmas

/-!
# The notice of the initialization

A client that asks for the notice tests the flag of the service and then enters its callback. At
the end of the start the service sets the flag and then walks the callbacks once. The two steps
of a client are not one: whoever tests before the flag is set and enters after the walk is
told that it succeeded, and never called back.
-/

namespace DeviceProfile

open Std

/-- The largest number of a system ability. -/
def MAX_SAID : Int := 16777215

/-- The size above which no more clients are registered for the notice. -/
def MAX_CALLBACK_LEN : Nat := 1000

/-- The service, and what each client has seen of it. A client has one `saId`. -/
structure InitedState (κ : Type) where
  isInited : Bool := false
  /-- The callbacks have been walked. -/
  isNotified : Bool := false
  dpInitedCallbackMap : ExtTreeMap Int κ := ∅
  /-- The callback of a subscribe that has tested the flag and has not entered it. -/
  pending : Int → Option κ := fun _ => none
  /-- A subscribe of the client has returned success. -/
  subscribed : Int → Bool := fun _ => false
  /-- An unsubscribe of the client has returned success. -/
  unsubscribed : Int → Bool := fun _ => false
  /-- A subscribe of the client has found the flag set, and a callback that can be called. -/
  sawInited : Int → Bool := fun _ => false
  calledBack : Int → Bool := fun _ => false

/-- The steps of the clients and of the end of the start. -/
inductive InitedEvent (κ : Type) where
  /-- `SubscribeDeviceProfileInited` until it has tested the flag; the callback may be null. -/
  | test (saId : Int) (permitted : Bool) (callback : Option κ)
  /-- `SubscribeDeviceProfileInited` under the lock of the map. -/
  | insert (saId : Int)
  /-- `UnSubscribeDeviceProfileInited` -/
  | unsubscribe (saId : Int) (permitted : Bool)
  /-- `PostInitNext` sets the flag. -/
  | setInited
  /-- `NotifyDeviceProfileInited` -/
  | notify

namespace InitedState

variable {κ : Type} (castable : κ → Bool)

/-- The arguments and the test of the flag. A client that is told that the service is there is
called back at once. -/
def test (s : InitedState κ) (saId : Int) (permitted : Bool) (callback : Option κ) :
    InitedState κ :=
  match s.pending saId, permitted, callback with
  | none, true, some callback =>
    if saId ≤ 0 ∨ MAX_SAID < saId then s
    else if s.isInited then
      if castable callback then
        { s with
          pending := Function.update s.pending saId (some callback)
          sawInited := Function.update s.sawInited saId true
          calledBack := Function.update s.calledBack saId true }
      else s
    else { s with pending := Function.update s.pending saId (some callback) }
  | _, _, _ => s

/-- The entry in the map, unless there are too many. -/
def insert (s : InitedState κ) (saId : Int) : InitedState κ :=
  match s.pending saId with
  | none => s
  | some callback =>
    if MAX_CALLBACK_LEN < s.dpInitedCallbackMap.size then
      { s with pending := Function.update s.pending saId none }
    else
      { s with
        pending := Function.update s.pending saId none
        dpInitedCallbackMap := s.dpInitedCallbackMap.insert saId callback
        subscribed := Function.update s.subscribed saId true }

/-- A client between its calls takes its entry out of the map. -/
def unsubscribe (s : InitedState κ) (saId : Int) (permitted : Bool) : InitedState κ :=
  match s.pending saId, permitted with
  | none, true =>
    { s with
      dpInitedCallbackMap := s.dpInitedCallbackMap.erase saId
      unsubscribed := Function.update s.unsubscribed saId true }
  | _, _ => s

/-- The callback of a client is in the map and can be called. -/
def isReachable (s : InitedState κ) (saId : Int) : Bool :=
  (s.dpInitedCallbackMap[saId]?).any castable

/-- The walk over the map, once, after the flag is set. -/
def notify (s : InitedState κ) : InitedState κ :=
  if s.isInited && !s.isNotified then
    { s with
      isNotified := true
      calledBack := fun saId => s.calledBack saId || s.isReachable castable saId }
  else s

/-- One step. -/
def step (s : InitedState κ) : InitedEvent κ → InitedState κ
  | .test saId permitted callback => s.test castable saId permitted callback
  | .insert saId => s.insert saId
  | .unsubscribe saId permitted => s.unsubscribe saId permitted
  | .setInited => { s with isInited := true }
  | .notify => s.notify castable

/-- Once the callbacks have been walked, every client with a successful subscribe that has not
unsubscribed has been called back. -/
def NoMissedNotice (s : InitedState κ) : Prop :=
  s.isNotified = true → ∀ saId, s.subscribed saId = true → s.unsubscribed saId = false →
    s.calledBack saId = true

/-- The start and all calls are over. -/
def IsFinished (s : InitedState κ) : Prop := s.isNotified = true ∧ ∀ saId, s.pending saId = none

/-- The callbacks that are walked can be called, and who enters one after the walk has found the
flag set or had another one in the map that can be called; clients that have unsubscribed, or have
found the flag set, apart. -/
def InTime (s : InitedState κ) : InitedEvent κ → Prop
  | .insert saId => s.isNotified = true → s.pending saId ≠ none →
      s.dpInitedCallbackMap.size ≤ MAX_CALLBACK_LEN →
        s.unsubscribed saId = true ∨ s.sawInited saId = true ∨ s.isReachable castable saId = true
  | .notify => s.isInited = true → s.isNotified = false →
      ∀ saId callback, s.dpInitedCallbackMap[saId]? = some callback →
        castable callback = true ∨ s.unsubscribed saId = true ∨ s.sawInited saId = true
  | _ => True

/-- The clients with an entry are those whose subscribe succeeded, as long as they do not
unsubscribe. -/
structure Entered (s : InitedState κ) : Prop where
  entry : ∀ saId, s.subscribed saId = true → s.unsubscribed saId = false →
    saId ∈ s.dpInitedCallbackMap
  subscribed : ∀ saId ∈ s.dpInitedCallbackMap, s.subscribed saId = true

/-- The clients that found the flag set have been called back, and before the walk no others; of
those that found it unset and are still to enter a callback, the walk has called back the ones
with another in the map. -/
structure Told (s : InitedState κ) : Prop where
  isInited : s.isNotified = true → s.isInited = true
  calledBack : ∀ saId, s.sawInited saId = true → s.calledBack saId = true
  sawInited : s.isNotified = false → ∀ saId, s.calledBack saId = true → s.sawInited saId = true
  walked : s.isNotified = true → ∀ saId, s.pending saId ≠ none → s.sawInited saId = false →
    s.calledBack saId = s.isReachable castable saId

/-- A step that changes neither the map nor who has subscribed, and at most calls clients back. -/
structure OnlyCalls (s s' : InitedState κ) : Prop where
  isNotified : s'.isNotified = s.isNotified
  map : s'.dpInitedCallbackMap = s.dpInitedCallbackMap
  subscribed : s'.subscribed = s.subscribed
  unsubscribed : s'.unsubscribed = s.unsubscribed
  calledBack : ∀ saId, s.calledBack saId = true → s'.calledBack saId = true

section Steps

variable {castable} {s s' : InitedState κ}

theorem OnlyCalls.refl (s : InitedState κ) : OnlyCalls s s := ⟨rfl, rfl, rfl, rfl, fun _ => id⟩

/-- A test of the flag by a client between its calls, with a callback that it is to enter. -/
theorem test_cases (s : InitedState κ) (saId : Int) (permitted : Bool) (callback : Option κ) :
    s.test castable saId permitted callback = s ∨ s.pending saId = none ∧ ∃ entered,
      s.isInited = true ∧ s.test castable saId permitted callback = { s with
        pending := Function.update s.pending saId (some entered)
        sawInited := Function.update s.sawInited saId true
        calledBack := Function.update s.calledBack saId true } ∨
      s.isInited = false ∧ s.test castable saId permitted callback = { s with
        pending := Function.update s.pending saId (some entered) } := by
  unfold test
  split
  · next entered hpending =>
    split
    · exact .inl rfl
    · split
      · next hinited =>
        split
        · exact .inr ⟨hpending, entered, .inl ⟨hinited, rfl⟩⟩
        · exact .inl rfl
      · next hinited => exact .inr ⟨hpending, entered, .inr ⟨Bool.not_eq_true _ ▸ hinited, rfl⟩⟩
  · exact .inl rfl

/-- A test touches no registration. -/
theorem onlyCalls_test (s : InitedState κ) (saId : Int) (permitted : Bool)
    (callback : Option κ) : OnlyCalls s (s.test castable saId permitted callback) := by
  rcases s.test_cases saId permitted callback with
    hsame | ⟨-, entered, ⟨-, htest⟩ | ⟨-, htest⟩⟩
  · rw [hsame]
    exact .refl s
  · rw [htest]
    refine ⟨rfl, rfl, rfl, rfl, fun other hcalled => ?_⟩
    by_cases hother : other = saId
    · simp [hother]
    · simpa [hother] using hcalled
  · rw [htest]
    exact ⟨rfl, rfl, rfl, rfl, fun _ => id⟩

/-- Registrations stay as they have been entered. -/
theorem OnlyCalls.entered (h : OnlyCalls s s') (hs : s.Entered) : s'.Entered := by
  obtain ⟨-, hmap, hsubscribed, hunsubscribed, -⟩ := h
  refine ⟨fun saId => ?_, fun saId => ?_⟩
  · rw [hmap, hsubscribed, hunsubscribed]
    exact hs.entry saId
  · rw [hmap, hsubscribed]
    exact hs.subscribed saId

/-- Nobody misses a notice while no registration changes. -/
theorem OnlyCalls.noMissedNotice (h : OnlyCalls s s') (hs : s.NoMissedNotice) :
    s'.NoMissedNotice := by
  intro hnotified saId hsub hunsub
  rw [h.isNotified] at hnotified
  rw [h.subscribed] at hsub
  rw [h.unsubscribed] at hunsub
  exact h.calledBack saId (hs hnotified saId hsub hunsub)

/-- An insertion does nothing, or registers the client whose test is behind it. -/
theorem insert_cases (s : InitedState κ) (saId : Int) :
    OnlyCalls s (s.insert saId) ∧ (s.pending saId = none ∨
      MAX_CALLBACK_LEN < s.dpInitedCallbackMap.size) ∨
    ∃ callback, s.pending saId = some callback ∧
      s.dpInitedCallbackMap.size ≤ MAX_CALLBACK_LEN ∧ s.insert saId = { s with
        pending := Function.update s.pending saId none
        dpInitedCallbackMap := s.dpInitedCallbackMap.insert saId callback
        subscribed := Function.update s.subscribed saId true } := by
  unfold insert
  cases hpending : s.pending saId with
  | none => exact .inl ⟨.refl s, .inl rfl⟩
  | some callback =>
    by_cases hfull : MAX_CALLBACK_LEN < s.dpInitedCallbackMap.size
    · dsimp only
      rw [if_pos hfull]
      exact .inl ⟨⟨rfl, rfl, rfl, rfl, fun _ => id⟩, .inr hfull⟩
    · exact .inr ⟨callback, rfl, Nat.le_of_not_lt hfull, if_neg hfull⟩

/-- An end of a registration does nothing, or removes the client. -/
theorem unsubscribe_cases (s : InitedState κ) (saId : Int) (permitted : Bool) :
    s.unsubscribe saId permitted = s ∨ s.unsubscribe saId permitted = { s with
      dpInitedCallbackMap := s.dpInitedCallbackMap.erase saId
      unsubscribed := Function.update s.unsubscribed saId true } := by
  unfold unsubscribe
  split
  · exact .inr rfl
  · exact .inl rfl

/-- The clients with an entry stay those with a successful subscribe. -/
theorem entered_step (hs : s.Entered) (e : InitedEvent κ) : (s.step castable e).Entered := by
  cases e with
  | test saId permitted callback => exact (onlyCalls_test s saId permitted callback).entered hs
  | insert saId =>
    rcases s.insert_cases saId with ⟨hsame, -⟩ | ⟨callback, -, -, hinsert⟩
    · exact hsame.entered hs
    · rw [step, hinsert]
      refine ⟨fun other hsub hunsub => ?_, fun other hmem => ?_⟩
      · rw [ExtTreeMap.mem_insert]
        by_cases hother : other = saId
        · simp [hother]
        · exact .inr (hs.entry other (by simpa [hother] using hsub) hunsub)
      · by_cases hother : other = saId
        · simp [hother]
        · have hmem : other ∈ s.dpInitedCallbackMap := by
            simpa [ExtTreeMap.mem_insert, Ne.symm hother] using hmem
          simpa [hother] using hs.subscribed other hmem
  | unsubscribe saId permitted =>
    rcases s.unsubscribe_cases saId permitted with hsame | herase
    · rw [step, hsame]
      exact hs
    · rw [step, herase]
      refine ⟨fun other hsub hunsub => ?_, fun other hmem => ?_⟩
      · have hother : other ≠ saId := by
          rintro rfl
          simp at hunsub
        rw [ExtTreeMap.mem_erase]
        exact ⟨by simpa using hother.symm, hs.entry other hsub (by simpa [hother] using hunsub)⟩
      · exact hs.subscribed other (ExtTreeMap.mem_of_mem_erase hmem)
  | setInited => exact ⟨hs.entry, hs.subscribed⟩
  | notify =>
    simp only [step, notify]
    split
    · exact ⟨hs.entry, hs.subscribed⟩
    · exact hs

/-- A test keeps what is known of the clients: those under way at the walk have tested before. -/
theorem Told.test (hs : s.Told castable) (saId : Int) (permitted : Bool) (callback : Option κ) :
    (s.test castable saId permitted callback).Told castable := by
  rcases s.test_cases saId permitted callback with
    hsame | ⟨-, entered, ⟨hinited, htest⟩ | ⟨hinited, htest⟩⟩
  · rw [hsame]
    exact hs
  · rw [htest]
    refine ⟨hs.isInited, fun other hsaw => ?_, fun hnot other hcalled => ?_,
      fun hnotified other hpending hsaw => ?_⟩
    · by_cases hother : other = saId
      · simp [hother]
      · simpa [hother] using hs.calledBack other (by simpa [hother] using hsaw)
    · by_cases hother : other = saId
      · simp [hother]
      · simpa [hother] using hs.sawInited hnot other (by simpa [hother] using hcalled)
    · have hother : other ≠ saId := by
        rintro rfl
        simp at hsaw
      have hwalked := hs.walked hnotified other (by simpa [hother] using hpending)
        (by simpa [hother] using hsaw)
      simpa [hother, isReachable] using hwalked
  · rw [htest]
    -- The flag is not set, so nothing has been walked.
    refine ⟨hs.isInited, hs.calledBack, hs.sawInited, fun hnotified => ?_⟩
    rw [hs.isInited hnotified] at hinited
    cases hinited

/-- A client that is no longer under way leaves the others with their entries. -/
theorem Told.insert (hs : s.Told castable) (saId : Int) : (s.insert saId).Told castable := by
  have hwalked : ∀ other, other ≠ saId → s.isNotified = true →
      Function.update s.pending saId none other ≠ none → s.sawInited other = false →
        s.calledBack other = s.isReachable castable other := by
    intro other hother hnotified hpending hsaw
    exact hs.walked hnotified other (by simpa [hother] using hpending) hsaw
  unfold InitedState.insert
  split
  · exact hs
  · split
    · refine ⟨hs.isInited, hs.calledBack, hs.sawInited, fun hnotified other hpending hsaw => ?_⟩
      have hother : other ≠ saId := by
        rintro rfl
        simp at hpending
      exact hwalked other hother hnotified hpending hsaw
    · refine ⟨hs.isInited, hs.calledBack, hs.sawInited, fun hnotified other hpending hsaw => ?_⟩
      have hother : other ≠ saId := by
        rintro rfl
        simp at hpending
      rw [hwalked other hother hnotified hpending hsaw]
      simp [isReachable, ExtTreeMap.getElem?_insert, Ne.symm hother]

/-- A client unsubscribes between its calls. -/
theorem Told.unsubscribe (hs : s.Told castable) (saId : Int) (permitted : Bool) :
    (s.unsubscribe saId permitted).Told castable := by
  unfold InitedState.unsubscribe
  split
  · next hpending =>
    refine ⟨hs.isInited, hs.calledBack, hs.sawInited, fun hnotified other hother hsaw => ?_⟩
    have hne : other ≠ saId := by
      rintro rfl
      exact hother hpending
    have hwalked := hs.walked hnotified other hother hsaw
    simpa [isReachable, ExtTreeMap.getElem?_erase, Ne.symm hne] using hwalked
  · exact hs

/-- The walk calls back who has an entry. -/
theorem Told.notify (hs : s.Told castable) : (s.notify castable).Told castable := by
  unfold InitedState.notify
  split
  · next hwalk =>
    rw [Bool.and_eq_true, Bool.not_eq_true'] at hwalk
    refine ⟨fun _ => hwalk.1, fun saId hsaw => ?_, nofun, fun _ saId _ hsaw => ?_⟩
    · simp [hs.calledBack saId hsaw]
    · have hnot : s.calledBack saId = false := by
        by_contra hcalled
        rw [Bool.not_eq_false] at hcalled
        exact Bool.false_ne_true (hsaw.symm.trans (hs.sawInited hwalk.2 saId hcalled))
      simp [hnot, isReachable]
  · exact hs

/-- Every step keeps what is known of the clients. -/
theorem told_step (hs : s.Told castable) (e : InitedEvent κ) :
    (s.step castable e).Told castable := by
  cases e with
  | test saId permitted callback => exact hs.test saId permitted callback
  | insert saId => exact hs.insert saId
  | unsubscribe saId permitted => exact hs.unsubscribe saId permitted
  | setInited => exact ⟨fun _ => rfl, hs.calledBack, hs.sawInited, hs.walked⟩
  | notify => exact hs.notify

/-- A client that enters a callback after the walk has been called back when it has found the flag
set, or had another callback in the map. -/
theorem Told.calledBack_iff (hs : s.Told castable) (hnotified : s.isNotified = true) {saId : Int}
    (hpending : s.pending saId ≠ none) :
    s.calledBack saId = true ↔ s.sawInited saId = true ∨ s.isReachable castable saId = true := by
  cases hsaw : s.sawInited saId with
  | true => exact iff_of_true (hs.calledBack saId hsaw) (.inl rfl)
  | false =>
    rw [hs.walked hnotified saId hpending hsaw]
    exact ⟨.inr, fun h => h.resolve_left Bool.false_ne_true⟩

/-- Before the walk the clients that have been called back are those that found the flag set. -/
theorem Told.calledBack_iff_sawInited (hs : s.Told castable) (hnot : s.isNotified = false)
    {saId : Int} : s.calledBack saId = true ↔ s.sawInited saId = true :=
  ⟨hs.sawInited hnot saId, hs.calledBack saId⟩

/-- An insertion misses its client exactly when it comes behind the walk and the test did not find
the flag. -/
theorem noMissedNotice_insert_iff (htold : s.Told castable) (hmissed : s.NoMissedNotice)
    (saId : Int) : (s.insert saId).NoMissedNotice ↔ s.InTime castable (.insert saId) := by
  rcases s.insert_cases saId with ⟨hsame, hrefused⟩ | ⟨callback, hpending, hroom, hinsert⟩
  · refine iff_of_true (hsame.noMissedNotice hmissed) fun _ hpending hroom => ?_
    rcases hrefused with hnone | hfull
    · exact absurd hnone hpending
    · omega
  · rw [hinsert, InTime]
    have hunder : s.pending saId ≠ none := by simp [hpending]
    constructor
    · intro h hnotified _ _
      cases hunsub : s.unsubscribed saId with
      | true => exact .inl rfl
      | false =>
        exact .inr ((htold.calledBack_iff hnotified hunder).mp
          (h hnotified saId (Function.update_self ..) hunsub))
    · intro h hnotified other hsub hunsub
      by_cases hother : other = saId
      · subst hother
        rcases h hnotified hunder hroom with hgone | hcalled
        · exact absurd hgone (by simpa using hunsub)
        · exact (htold.calledBack_iff hnotified hunder).mpr hcalled
      · exact hmissed hnotified other (by simpa [hother] using hsub) hunsub

/-- Nobody is missed by the end of a registration. -/
theorem noMissedNotice_unsubscribe (hmissed : s.NoMissedNotice) (saId : Int) (permitted : Bool) :
    (s.unsubscribe saId permitted).NoMissedNotice := by
  rcases s.unsubscribe_cases saId permitted with hsame | herase
  · rw [hsame]
    exact hmissed
  · rw [herase]
    intro hnotified other hsub hunsub
    have hother : other ≠ saId := by
      rintro rfl
      simp at hunsub
    exact hmissed hnotified other hsub (by simpa [hother] using hunsub)

/-- The walk misses nobody exactly when it reaches everyone who was not called back before. -/
theorem noMissedNotice_notify_iff (hs : s.Entered) (htold : s.Told castable)
    (hmissed : s.NoMissedNotice) :
    (s.notify castable).NoMissedNotice ↔ s.InTime castable .notify := by
  simp only [notify, InTime]
  split
  · next hwalk =>
    rw [Bool.and_eq_true, Bool.not_eq_true'] at hwalk
    simp only [← htold.calledBack_iff_sawInited hwalk.2]
    constructor
    · intro h _ _ saId callback hentry
      cases hunsub : s.unsubscribed saId with
      | true => exact .inr (.inl rfl)
      | false =>
        have hmem : saId ∈ s.dpInitedCallbackMap := by
          rw [ExtTreeMap.mem_iff_isSome_getElem?, hentry]
          rfl
        have hcalled := h rfl saId (hs.subscribed saId hmem) hunsub
        simpa [isReachable, hentry, or_comm] using hcalled
    · intro h _ saId hsub hunsub
      obtain ⟨callback, hentry⟩ := Option.isSome_iff_exists.mp
        (ExtTreeMap.mem_iff_isSome_getElem?.mp (hs.entry saId hsub hunsub))
      have hcases := h hwalk.1 hwalk.2 saId callback hentry
      rw [show s.unsubscribed saId = false from hunsub] at hcases
      simpa [isReachable, hentry, or_comm] using hcases
  · next hwalk =>
    refine iff_of_true hmissed fun hinited hnot => ?_
    simp [hinited, hnot] at hwalk

/-- A step misses a client exactly when it is not in time. -/
theorem noMissedNotice_step_iff (hs : s.Entered) (htold : s.Told castable)
    (hmissed : s.NoMissedNotice) (e : InitedEvent κ) :
    (s.step castable e).NoMissedNotice ↔ s.InTime castable e := by
  cases e with
  | test saId permitted callback =>
    exact iff_of_true ((onlyCalls_test s saId permitted callback).noMissedNotice hmissed) trivial
  | insert saId => exact noMissedNotice_insert_iff htold hmissed saId
  | unsubscribe saId permitted =>
    exact iff_of_true (noMissedNotice_unsubscribe hmissed saId permitted) trivial
  | setInited => exact iff_of_true hmissed trivial
  | notify => exact noMissedNotice_notify_iff hs htold hmissed

end Steps

/-- In every run of any clients and the end of the start, from a service that has just been
created: no state misses a client exactly when all steps are in time. -/
theorem noMissedNotice_iff (events : List (InitedEvent κ)) :
    (∀ n, ((events.take n).foldl (step castable) {}).NoMissedNotice) ↔
      Library.Admits (step castable) (InTime castable) {} events := by
  symm
  apply Library.admits_iff (I := fun s => s.Entered ∧ s.Told castable)
  · exact fun s e hs => ⟨entered_step hs.1 e, told_step hs.2 e⟩
  · exact fun s e hs hmissed => noMissedNotice_step_iff hs.1 hs.2 hmissed e
  · refine ⟨⟨fun _ hsub => (nomatch hsub), fun saId hmem => ?_⟩,
      ⟨nofun, fun _ hsaw => (nomatch hsaw), fun _ _ hcalled => (nomatch hcalled), nofun⟩⟩
    exact absurd hmem ExtTreeMap.not_mem_empty
  · exact fun hnotified => nomatch hnotified

/-- A client tests the flag, the start ends, and the client enters its callback. -/
theorem late_insert_is_missed :
    ¬∀ events : List (InitedEvent Unit),
      (events.foldl (step fun _ => true) {}).IsFinished →
      ∀ saId, (events.foldl (step fun _ => true) {}).subscribed saId = true →
        (events.foldl (step fun _ => true) {}).unsubscribed saId = false →
        (events.foldl (step fun _ => true) {}).calledBack saId = true := by
  intro h
  have hmissed := h [.test 1 true (some ()), .setInited, .notify, .insert 1]
    ⟨by decide +kernel, fun saId => ?_⟩ 1 (by decide +kernel) (by decide +kernel)
  · revert hmissed
    decide +kernel
  · simp [step, test, insert, notify, MAX_SAID, MAX_CALLBACK_LEN]

end InitedState

end DeviceProfile
