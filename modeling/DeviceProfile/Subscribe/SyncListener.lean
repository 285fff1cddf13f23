import DeviceProfile.Library.Run
import DeviceProfile.Profile.Keys
import DeviceProfile.Subscribe.Table

/-!
# Listeners of a synchronization

A caller that starts a synchronization enters its listener in one of two tables. When a
synchronization is over, the listeners are copied, those of the copy are called back, and the
callers of the copy are taken out of the table. What a caller has entered in between goes with
its name, whether it was called back or not.
-/

namespace DeviceProfile

open Std

/-- The tables of `ProfileCache` and of `StaticProfileManager`. -/
inductive SyncTable where
  | dynamic
  | static
  deriving DecidableEq, Repr

/-- The listeners of one table under the names of their callers. -/
abbrev SyncListeners (κ : Type) := ExtTreeMap Text κ

/-- Some caller has entered the listener. -/
def SyncListeners.Has {κ : Type} (listeners : SyncListeners κ) (syncListener : κ) : Prop :=
  ∃ caller : Text, listeners[caller]? = some syncListener

/-- The error codes of the calls that start a synchronization. -/
inductive SyncError where
  | invalidParams
  | exceedMaxSizeFail
  | syncDeviceFail
  | nullptr
  deriving DecidableEq, Repr

/-- `AddSyncListener` of both tables: the caller's entry is overwritten; nobody is added to a full
table. -/
def addSyncListener {κ : Type} (caller : Text) (syncListener : κ) (listeners : SyncListeners κ) :
    Except SyncError Unit × SyncListeners κ :=
  if caller = [] ∨ MAX_STRING_LEN < caller.length then (.error .invalidParams, listeners)
  else if MAX_LISTENER_SIZE < listeners.size then (.error .exceedMaxSizeFail, listeners)
  else (.ok (), listeners.insert caller syncListener)

/-- The end of a synchronization that is under way: the copy, the listeners still to be called,
and those that have been called back. -/
structure Completion (κ : Type) where
  table : SyncTable
  syncListeners : SyncListeners κ
  toCall : List κ
  called : List κ

/-- The tables, the ends of synchronizations that are under way, and the listeners that were
taken out without a call. -/
structure SyncState (κ : Type) where
  listeners : SyncTable → SyncListeners κ := fun _ => ∅
  completions : Nat → Option (Completion κ) := fun _ => none
  dropped : List κ := []

/-- The steps of the callers and of the ends of synchronizations. -/
inductive SyncEvent (κ : Type) where
  /-- `AddSyncListener`; the listener may be null. -/
  | addSyncListener (table : SyncTable) (caller : Text) (syncListener : Option κ)
  /-- `GetSyncListeners` of `NotifySyncCompleted` or `NotifyStaticSyncCompleted`. -/
  | getSyncListeners (i : Nat) (table : SyncTable)
  /-- The next listener of the copy. -/
  | onSyncCompleted (i : Nat)
  /-- `RemoveSyncListeners` with the copy. -/
  | removeSyncListeners (i : Nat)

namespace SyncState

variable {κ : Type} (castable : κ → Bool)

/-- A caller enters its listener. -/
def addSyncListener (s : SyncState κ) (table : SyncTable) (caller : Text)
    (syncListener : Option κ) : SyncState κ :=
  match syncListener with
  | none => s
  | some syncListener =>
    { s with
      listeners := Function.update s.listeners table
        (DeviceProfile.addSyncListener caller syncListener (s.listeners table)).2 }

/-- The copy of a table. -/
def getSyncListeners (s : SyncState κ) (i : Nat) (table : SyncTable) : SyncState κ :=
  match s.completions i with
  | some _ => s
  | none =>
    { s with
      completions := Function.update s.completions i (some
        { table
          syncListeners := s.listeners table
          toCall := (s.listeners table).toList.map Prod.snd
          called := [] }) }

/-- The next listener of a copy is called back, if it can be cast. -/
def onSyncCompleted (s : SyncState κ) (i : Nat) : SyncState κ :=
  match s.completions i with
  | some ⟨table, syncListeners, syncListener :: toCall, called⟩ =>
    { s with
      completions := Function.update s.completions i (some
        ⟨table, syncListeners, toCall,
          if castable syncListener then syncListener :: called else called⟩) }
  | _ => s

/-- A step that leaves the ends of synchronizations and who was taken out as they are. -/
theorem addSyncListener_keeps (s : SyncState κ) (table : SyncTable) (caller : Text)
    (syncListener : Option κ) :
    (s.addSyncListener table caller syncListener).completions = s.completions ∧
      (s.addSyncListener table caller syncListener).dropped = s.dropped := by
  cases syncListener with
  | none => exact ⟨rfl, rfl⟩
  | some syncListener => exact ⟨rfl, rfl⟩

/-- A listener at the head of a copy is called back or passed over, or nothing happens. -/
theorem onSyncCompleted_cases (castable : κ → Bool) (s : SyncState κ) (i : Nat) :
    s.onSyncCompleted castable i = s ∨ ∃ c syncListener toCall, s.completions i = some c ∧
      c.toCall = syncListener :: toCall ∧ s.onSyncCompleted castable i = { s with
        completions := Function.update s.completions i (some { c with
          toCall
          called := if castable syncListener then syncListener :: c.called else c.called }) } := by
  unfold onSyncCompleted
  split
  · next table syncListeners syncListener toCall called hc =>
    exact .inr ⟨_, syncListener, toCall, hc, rfl, rfl⟩
  · exact .inl rfl

variable [DecidableEq κ]

/-- The listeners a completion takes out without having called them back. -/
def uncalled (listeners syncListeners : SyncListeners κ) (called : List κ) : List κ :=
  (listeners.toList.filter fun entry =>
    syncListeners.contains entry.1 && decide (entry.2 ∉ called)).map Prod.snd

/-- The callers of a copy are taken out of the table, whatever they have entered. -/
def removeSyncListeners (s : SyncState κ) (i : Nat) : SyncState κ :=
  match s.completions i with
  | some ⟨table, syncListeners, [], called⟩ =>
    { s with
      listeners := Function.update s.listeners table
        ((s.listeners table).filter fun caller _ => !syncListeners.contains caller)
      completions := Function.update s.completions i none
      dropped := s.dropped ++ uncalled (s.listeners table) syncListeners called }
  | _ => s

/-- One step. -/
def step (s : SyncState κ) : SyncEvent κ → SyncState κ
  | .addSyncListener table caller syncListener => s.addSyncListener table caller syncListener
  | .getSyncListeners i table => s.getSyncListeners i table
  | .onSyncCompleted i => s.onSyncCompleted castable i
  | .removeSyncListeners i => s.removeSyncListeners i

/-- Every listener that was taken out had been called back by the completion that did it. -/
def NobodyDropped (s : SyncState κ) : Prop := s.dropped = []

/-- When a completion takes its callers out, what they have in the table then are listeners of
its copy that can be cast. -/
def IsPrompt (s : SyncState κ) : SyncEvent κ → Prop
  | .removeSyncListeners i => ∀ c, s.completions i = some c → c.toCall = [] →
      ∀ caller ∈ c.syncListeners, ∀ syncListener,
        (s.listeners c.table)[caller]? = some syncListener →
        castable syncListener = true ∧ c.syncListeners.Has syncListener
  | _ => True

/-- A completion has called back, or is still to call, the listeners of its copy that can be
cast, and no others. -/
structure Follows (c : Completion κ) : Prop where
  calls : ∀ syncListener, c.syncListeners.Has syncListener → castable syncListener = true →
    syncListener ∈ c.called ∨ syncListener ∈ c.toCall
  called : ∀ syncListener ∈ c.called,
    castable syncListener = true ∧ c.syncListeners.Has syncListener
  toCall : ∀ syncListener ∈ c.toCall, c.syncListeners.Has syncListener

/-- Every completion follows its copy. -/
def Traced (s : SyncState κ) : Prop := ∀ i c, s.completions i = some c → Follows castable c

section Steps

variable {castable} {s : SyncState κ}

/-- The callers of a copy are taken out when all of it was called, or nothing happens. -/
theorem removeSyncListeners_cases (s : SyncState κ) (i : Nat) :
    s.removeSyncListeners i = s ∧ (∀ c, s.completions i = some c → c.toCall ≠ []) ∨
    ∃ c, s.completions i = some c ∧ c.toCall = [] ∧ s.removeSyncListeners i = { s with
      listeners := Function.update s.listeners c.table
        ((s.listeners c.table).filter fun caller _ => !c.syncListeners.contains caller)
      completions := Function.update s.completions i none
      dropped := s.dropped ++ uncalled (s.listeners c.table) c.syncListeners c.called } := by
  unfold removeSyncListeners
  split
  · next table syncListeners called hc =>
    exact .inr ⟨_, hc, rfl, rfl⟩
  · next hnone =>
    refine .inl ⟨rfl, fun c hc htoCall => ?_⟩
    obtain ⟨table, syncListeners, toCall, called⟩ := c
    obtain rfl : toCall = [] := htoCall
    exact hnone _ _ _ hc

/-- A listener that is not yet called: it is kept for a caller of the copy. -/
theorem mem_uncalled {listeners syncListeners : SyncListeners κ} {called : List κ}
    {syncListener : κ} :
    syncListener ∈ uncalled listeners syncListeners called ↔
      ∃ caller : Text, listeners[caller]? = some syncListener ∧ caller ∈ syncListeners ∧
        syncListener ∉ called := by
  simp only [uncalled, List.mem_map, List.mem_filter, Prod.exists,
    ExtTreeMap.mem_toList_iff_getElem?_eq_some, Bool.and_eq_true, decide_eq_true_eq,
    ExtTreeMap.contains_iff_mem, and_assoc]
  constructor
  · rintro ⟨caller, _, hentry, hcaller, hnot, rfl⟩
    exact ⟨caller, hentry, hcaller, hnot⟩
  · rintro ⟨caller, hentry, hcaller, hnot⟩
    exact ⟨caller, syncListener, hentry, hcaller, hnot, rfl⟩

omit [DecidableEq κ] in
/-- A completion that is entered or ended follows its copy when the new one does. -/
theorem Traced.updateCompletion (hs : s.Traced castable) {i : Nat}
    {completion : Option (Completion κ)}
    (hcompletion : ∀ c, completion = some c → Follows castable c)
    {listeners : SyncTable → SyncListeners κ} {dropped : List κ} :
    ({ listeners, completions := Function.update s.completions i completion, dropped } :
      SyncState κ).Traced castable := by
  intro j c hc
  dsimp only at hc
  by_cases hj : j = i
  · subst hj
    rw [Function.update_self] at hc
    exact hcompletion c hc
  · rw [Function.update_of_ne hj] at hc
    exact hs j c hc

omit [DecidableEq κ] in
/-- Of a new copy everything is still to be called. -/
theorem Traced.getSyncListeners (hs : s.Traced castable) (i : Nat) (table : SyncTable) :
    (s.getSyncListeners i table).Traced castable := by
  rw [SyncState.getSyncListeners]
  split
  · exact hs
  · apply hs.updateCompletion
    intro c hc
    obtain rfl := Option.some.inj hc
    have hmem : ∀ syncListener, syncListener ∈ (s.listeners table).toList.map Prod.snd ↔
        (s.listeners table).Has syncListener := by
      intro syncListener
      simp only [SyncListeners.Has, List.mem_map, Prod.exists,
        ExtTreeMap.mem_toList_iff_getElem?_eq_some, exists_eq_right]
    exact ⟨fun syncListener hcopied _ => .inr ((hmem syncListener).mpr hcopied), nofun,
      fun syncListener htoCall => (hmem syncListener).mp htoCall⟩

omit [DecidableEq κ] in
/-- The listener at the head of a copy has been called back or cannot be cast. -/
theorem Follows.onSyncCompleted {c : Completion κ} (h : Follows castable c) {syncListener : κ}
    {toCall : List κ} (htoCall : c.toCall = syncListener :: toCall) :
    Follows castable { c with
      toCall
      called := if castable syncListener then syncListener :: c.called else c.called } := by
  have hhead : c.syncListeners.Has syncListener :=
    h.toCall syncListener (htoCall ▸ List.mem_cons_self)
  refine ⟨fun other hcopied hcast => ?_, fun other hother => ?_, fun other hother => ?_⟩
  · have hlist := h.calls other hcopied hcast
    rw [htoCall, List.mem_cons] at hlist
    dsimp only
    rcases hlist with hmem | rfl | hmem
    · refine .inl ?_
      split
      · exact List.mem_cons_of_mem syncListener hmem
      · exact hmem
    · refine .inl ?_
      rw [if_pos hcast]
      exact List.mem_cons_self
    · exact .inr hmem
  · dsimp only at hother
    split at hother
    · next hcast =>
      rcases List.mem_cons.mp hother with rfl | hmem
      · exact ⟨hcast, hhead⟩
      · exact h.called other hmem
    · exact h.called other hother
  · exact h.toCall other (htoCall ▸ List.mem_cons_of_mem syncListener hother)

omit [DecidableEq κ] in
/-- A completion that begins keeps the trace. -/
theorem Traced.onSyncCompleted (hs : s.Traced castable) (i : Nat) :
    (s.onSyncCompleted castable i).Traced castable := by
  rcases s.onSyncCompleted_cases castable i with
    hsame | ⟨c, syncListener, toCall, hc, htoCall, hcall⟩
  · rw [hsame]
    exact hs
  · rw [hcall]
    apply hs.updateCompletion
    intro c' hc'
    obtain rfl := Option.some.inj hc'
    exact (hs i c hc).onSyncCompleted htoCall

/-- The removal of the called listeners keeps the trace. -/
theorem Traced.removeSyncListeners (hs : s.Traced castable) (i : Nat) :
    (s.removeSyncListeners i).Traced castable := by
  rcases s.removeSyncListeners_cases i with ⟨hsame, -⟩ | ⟨c, -, -, hremove⟩
  · rw [hsame]
    exact hs
  · rw [hremove]
    apply hs.updateCompletion
    intro c' hc'
    cases hc'

/-- Every step keeps the completions in line with their copies. -/
theorem traced_step (hs : s.Traced castable) (e : SyncEvent κ) :
    (s.step castable e).Traced castable := by
  cases e with
  | addSyncListener table caller syncListener =>
    intro i c hc
    rw [step, (s.addSyncListener_keeps table caller syncListener).1] at hc
    exact hs i c hc
  | getSyncListeners i table => exact hs.getSyncListeners i table
  | onSyncCompleted i => exact hs.onSyncCompleted i
  | removeSyncListeners i => exact hs.removeSyncListeners i

omit [DecidableEq κ] in
/-- When no listener is left to be called, those of the copy that can be cast have been. -/
theorem Follows.mem_called_iff {c : Completion κ} (h : Follows castable c)
    (htoCall : c.toCall = []) {syncListener : κ} :
    syncListener ∈ c.called ↔ castable syncListener = true ∧ c.syncListeners.Has syncListener := by
  constructor
  · exact h.called syncListener
  · rintro ⟨hcast, hcopied⟩
    rcases h.calls syncListener hcopied hcast with hmem | hmem
    · exact hmem
    · rw [htoCall] at hmem
      exact absurd hmem List.not_mem_nil

/-- Nobody is taken out uncalled when all that is under the callers of a copy was called back. -/
theorem uncalled_eq_nil_iff {listeners syncListeners : SyncListeners κ} {called : List κ} :
    uncalled listeners syncListeners called = [] ↔
      ∀ caller ∈ syncListeners, ∀ syncListener,
        listeners[caller]? = some syncListener → syncListener ∈ called := by
  rw [List.eq_nil_iff_forall_not_mem]
  simp only [mem_uncalled]
  constructor
  · intro h caller hcaller syncListener hentry
    by_contra hnot
    exact h _ ⟨caller, hentry, hcaller, hnot⟩
  · rintro h syncListener ⟨caller, hentry, hcaller, hnot⟩
    exact hnot (h caller hcaller syncListener hentry)

/-- A step drops somebody exactly when it is not prompt. -/
theorem nobodyDropped_step_iff (hs : s.Traced castable) (hnobody : s.NobodyDropped)
    (e : SyncEvent κ) : (s.step castable e).NobodyDropped ↔ s.IsPrompt castable e := by
  cases e with
  | addSyncListener table caller syncListener =>
    refine iff_of_true ?_ trivial
    rw [NobodyDropped, step, (s.addSyncListener_keeps table caller syncListener).2]
    exact hnobody
  | getSyncListeners i table =>
    refine iff_of_true ?_ trivial
    rw [step, getSyncListeners]
    split
    · exact hnobody
    · exact hnobody
  | onSyncCompleted i =>
    refine iff_of_true ?_ trivial
    rcases s.onSyncCompleted_cases castable i with
      hsame | ⟨c, syncListener, toCall, -, -, hcall⟩
    · rw [step, hsame]
      exact hnobody
    · rw [step, hcall]
      exact hnobody
  | removeSyncListeners i =>
    rcases s.removeSyncListeners_cases i with ⟨hsame, hnone⟩ | ⟨c, hc, htoCall, hremove⟩
    · rw [step, hsame]
      exact iff_of_true hnobody fun c hc htoCall => absurd htoCall (hnone c hc)
    · have hdropped : (s.step castable (.removeSyncListeners i)).NobodyDropped ↔
          ∀ caller ∈ c.syncListeners, ∀ syncListener,
            (s.listeners c.table)[caller]? = some syncListener → syncListener ∈ c.called := by
        rw [NobodyDropped, step, hremove]
        dsimp only
        rw [show s.dropped = [] from hnobody, List.nil_append, uncalled_eq_nil_iff]
      simp only [hdropped, (hs i c hc).mem_called_iff htoCall]
      constructor
      · intro h c' hc' _
        obtain rfl := Option.some.inj (hc.symm.trans hc')
        exact h
      · exact fun h => h c hc htoCall

end Steps

/-- In every run of any callers and ends of synchronizations, in any order of their steps: nobody
is dropped in any state exactly when every completion takes its callers out promptly. -/
theorem nobodyDropped_iff (events : List (SyncEvent κ)) :
    (∀ n, ((events.take n).foldl (step castable) {}).NobodyDropped) ↔
      Library.Admits (step castable) (IsPrompt castable) {} events := by
  symm
  apply Library.admits_iff (I := Traced castable)
  · exact fun s e hs => traced_step hs e
  · exact fun s e hs hnobody => nobodyDropped_step_iff hs hnobody e
  · exact nofun
  · rfl

/-- A caller enters another listener while the first one is called back. -/
theorem second_listener_is_dropped :
    ¬∀ (castable : Nat → Bool) (events : List (SyncEvent Nat)),
      (events.foldl (step castable) {}).NobodyDropped := by
  intro h
  have hdropped := h (fun _ => true) [.addSyncListener .dynamic "caller" (some 1),
    .getSyncListeners 0 .dynamic, .onSyncCompleted 0,
    .addSyncListener .dynamic "caller" (some 2), .removeSyncListeners 0]
  revert hdropped
  rw [NobodyDropped]
  decide +kernel

end SyncState

end DeviceProfile
