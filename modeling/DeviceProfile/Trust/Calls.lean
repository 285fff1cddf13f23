import DeviceProfile.Library.Run
import DeviceProfile.Trust.Effect

/-!
# What a whole call does

A call is its locked section followed by notifications and writes to the trust
device rows. The effect of the locked section on the access control and party
tables is therefore the effect of the call. A call is settled when no database
call fails in it, and such calls make up the runs without failures.
-/

namespace DeviceProfile

open Library

variable {env : Env}

/-! ## The locked section and the rest -/

/-- Nothing after the lock changes what the locked part of a Put did. -/
theorem PutEffect.unlocked {p : AccessControlProfile} {w w₁ w' : World}
    {r : Except DpError (Option (AccessControlProfile × Bool × Bool))}
    (he : PutEffect env p w w₁ r) (hu : Unlocked w₁ w') : PutEffect env p w w' r := by
  have hens : ∀ {role a}, w.tables.Ensured w₁.tables role a → w.tables.Ensured w'.tables role a :=
    fun h b => by rw [hu.parties]; exact h b
  cases he with
  | failed e hfaults hacl hparties =>
    exact .failed e hfaults (hu.accessControl.trans hacl)
      fun role => (hparties role).imp (hu.parties role).trans hens
  | found hacl hparties hfound =>
    exact .found (hu.accessControl.trans hacl) (fun role => hens (hparties role)) hfound
  | stored u a hacl hparties hflags =>
    exact .stored u a (hacl.trans (congrArg some hu.accessControl.symm))
      (fun role => hens (hparties role)) hflags

/-- Nothing after the lock changes what the locked part of a Delete did. -/
theorem DeleteEffect.unlocked {id : Int} {w w₁ w' : World}
    {r : Except DpError AccessControlProfile} (he : DeleteEffect id w w₁ r)
    (hu : Unlocked w₁ w') (hr : ∃ p, r = .ok p) : DeleteEffect id w w' r := by
  obtain ⟨p, rfl⟩ := hr
  cases he with
  | deleted row hrow hid hacl hparties =>
    exact .deleted row hrow hid (fun r => by rw [hu.accessControl]; exact hacl r)
      fun role b => by rw [hu.parties]; exact hparties role b

/-- Nothing after the lock changes what the locked part of an Update did. -/
theorem UpdateEffect.unlocked {p : AccessControlProfile} {w w₁ w' : World}
    {r : Except DpError AccessControlProfile} (he : UpdateEffect p w w₁ r)
    (hu : Unlocked w₁ w') (hr : ∃ old, r = .ok old) : UpdateEffect p w w' r := by
  obtain ⟨old, rfl⟩ := hr
  cases he with
  | updated row hrow hid hnames hacl hparties =>
    exact .updated row hrow hid hnames (hacl.trans (congrArg some hu.accessControl.symm))
      fun role => (hu.parties role).trans (hparties role)

/-- A Put: its locked part, and when that stored a row, the rest of the call. -/
theorem putAccessControlProfile_cases {p : AccessControlProfile} {w w' : World}
    {r : Except DpError Unit} (h : (putAccessControlProfile env p).exec w = (r, w')) :
    (∃ e, (putAccessControlProfileLocked env p).exec w = (.error e, w') ∧ r = .error e) ∨
      ((putAccessControlProfileLocked env p).exec w = (.ok none, w') ∧ r = .ok ()) ∨
        ∃ q u a w₁, (putAccessControlProfileLocked env p).exec w = (.ok (some (q, u, a)), w₁) ∧
          (do
            putAclCheck env q u a
            notify (.dpAclAdd q.accessControlId q.trustDeviceId q.bindType)).exec w₁ = (r, w') := by
  obtain ⟨x, w₁, h₁, h⟩ | ⟨e, h₁, rfl⟩ := Prog.exec_bind_cases h
  · rw [Prog.exec_atomic] at h₁
    match x with
    | none =>
      obtain ⟨rfl, rfl⟩ := Prod.mk.inj h
      exact Or.inr (Or.inl ⟨h₁, rfl⟩)
    | some (q, u, a) => exact Or.inr (Or.inr ⟨q, u, a, w₁, h₁, h⟩)
  · rw [Prog.exec_atomic] at h₁
    exact Or.inl ⟨e, h₁, rfl⟩

/-- What follows a put leaves the tables of the entries. -/
theorem unlocked_putTail (q : AccessControlProfile) (u a : Bool) :
    (do
      putAclCheck env q u a
      notify (.dpAclAdd q.accessControlId q.trustDeviceId q.bindType) : DpProg Unit).Steps
      Unlocked :=
  Prog.steps_bind (unlocked_putAclCheck env q u a) fun _ =>
    unlocked_of_notifies (notifies_notify _)

/-- What a Put did to the access control and party tables. -/
theorem putAccessControlProfile_effect {p : AccessControlProfile} {w w' : World}
    {r : Except DpError Unit} (h : (putAccessControlProfile env p).exec w = (r, w')) :
    ∃ r₁, PutEffect env p w w' r₁ ∧ (r = .ok () → ∃ x, r₁ = .ok x) := by
  obtain ⟨e, h₁, rfl⟩ | ⟨h₁, rfl⟩ | ⟨q, u, a, w₁, h₁, h₂⟩ := putAccessControlProfile_cases h
  · exact ⟨_, putAccessControlProfileLocked_effect h₁, fun hr => by cases hr⟩
  · exact ⟨_, putAccessControlProfileLocked_effect h₁, fun _ => ⟨_, rfl⟩⟩
  · exact ⟨_, (putAccessControlProfileLocked_effect h₁).unlocked
      (Unlocked.of_exec (unlocked_putTail q u a) h₂), fun _ => ⟨_, rfl⟩⟩

/-- A Delete: its locked part, and when that deleted a row, the rest of the call. -/
theorem deleteAccessControlProfile_cases {id : Int} {w w' : World} {r : Except DpError Unit}
    (h : (deleteAccessControlProfile env id).exec w = (r, w')) :
    (∃ e, (deleteAccessControlProfileLocked id).exec w = (.error e, w') ∧ r = .error e) ∨
      ∃ p w₁, (deleteAccessControlProfileLocked id).exec w = (.ok p, w₁) ∧
        (deleteTrustDeviceCheck env p).exec w₁ = (r, w') := by
  obtain ⟨p, w₁, h₁, h⟩ | ⟨e, h₁, rfl⟩ := Prog.exec_bind_cases h
  · rw [Prog.exec_atomic] at h₁
    exact Or.inr ⟨p, w₁, h₁, h⟩
  · rw [Prog.exec_atomic] at h₁
    exact Or.inl ⟨e, h₁, rfl⟩

/-- What a Delete did to the access control and party tables. -/
theorem deleteAccessControlProfile_effect {id : Int} {w w' : World} {r : Except DpError Unit}
    (h : (deleteAccessControlProfile env id).exec w = (r, w')) :
    ∃ r₁, DeleteEffect id w w' r₁ := by
  obtain ⟨e, h₁, _⟩ | ⟨p, w₁, h₁, h₂⟩ := deleteAccessControlProfile_cases h
  · exact ⟨_, deleteAccessControlProfileLocked_effect h₁⟩
  · exact ⟨_, (deleteAccessControlProfileLocked_effect h₁).unlocked
      (Unlocked.of_exec (unlocked_deleteTrustDeviceCheck env p) h₂) ⟨p, rfl⟩⟩

/-- What follows the locked part of an Update. -/
def updateTail (env : Env) (p old : AccessControlProfile) : DpProg Unit := do
  (notifyCheck env p old).getD ()
  let status ← (getResultStatus p.trustDeviceId).getD STATUS_INACTIVE
  (updateTrustDeviceProfile { convertToTrustDeviceProfile p with status }).orFail
    .updateTrustDeviceProfileFail

/-- An Update: its locked part, and when that wrote the row, the rest of the call. -/
theorem updateAccessControlProfile_cases {p : AccessControlProfile} {w w' : World}
    {r : Except DpError Unit} (h : (updateAccessControlProfile env p).exec w = (r, w')) :
    (∃ e, (updateAccessControlProfileLocked p).exec w = (.error e, w') ∧ r = .error e) ∨
      ∃ old w₁, (updateAccessControlProfileLocked p).exec w = (.ok old, w₁) ∧
        (updateTail env p old).exec w₁ = (r, w') := by
  obtain ⟨old, w₁, h₁, h⟩ | ⟨e, h₁, rfl⟩ := Prog.exec_bind_cases h
  · rw [Prog.exec_atomic] at h₁
    exact Or.inr ⟨old, w₁, h₁, h⟩
  · rw [Prog.exec_atomic] at h₁
    exact Or.inl ⟨e, h₁, rfl⟩

/-- What follows an update leaves the tables of the entries. -/
theorem unlocked_updateTail (p old : AccessControlProfile) :
    (updateTail env p old).Steps Unlocked :=
  Prog.steps_bind (unlocked_of_notifies
    (Prog.steps_getD (notifies_notifyCheck env p old) _)) fun _ =>
  Prog.steps_bind (Prog.steps_getD
    ((reads_getResultStatus _).mono fun _ _ => Reads.unlocked) _) fun _ =>
  Prog.steps_orFail (unlocked_updateTrustDeviceProfile _) _

/-- What an Update did to the access control and party tables, without failures. -/
theorem updateAccessControlProfile_effect {p : AccessControlProfile} {w w' : World}
    {r : Except DpError Unit} (hw : w.faults = [])
    (h : (updateAccessControlProfile env p).exec w = (r, w')) :
    ∃ r₁, UpdateEffect p w w' r₁ ∧ (r = .ok () → ∃ old, r₁ = .ok old) := by
  obtain ⟨e, h₁, rfl⟩ | ⟨old, w₁, h₁, h₂⟩ := updateAccessControlProfile_cases h
  · exact ⟨_, updateAccessControlProfileLocked_effect hw h₁, fun hr => by cases hr⟩
  · exact ⟨_, (updateAccessControlProfileLocked_effect hw h₁).unlocked
      (Unlocked.of_exec (unlocked_updateTail p old) h₂) ⟨old, rfl⟩, fun _ => ⟨old, rfl⟩⟩

/-! ## Runs without failures -/

/-- No step makes a database call fail that would not have failed anyway. -/
def Calm (w w' : World) : Prop := w.faults = [] → w'.faults = []

private theorem calm_atomic {α : Type} {m : DpProg α} (hm : m.Steps Locked) :
    m.atomic.Steps Calm :=
  Prog.steps_atomic fun w => (hm.exec Locked.refl Locked.trans w).calm

private theorem calm_of_unlocked {α : Type} {m : DpProg α} (hm : m.Steps Unlocked) :
    m.Steps Calm :=
  hm.mono fun _ _ h => h.calm

/-- Each call goes on calmly where no database call fails. -/
theorem calm_prog (env : Env) (call : Call) : (call.prog env).Steps Calm := by
  cases call with
  | put p =>
    refine Prog.steps_bind (calm_atomic (locked_putAccessControlProfileLocked env p)) fun x => ?_
    match x with
    | none => trivial
    | some (q, u, a) => exact calm_of_unlocked (unlocked_putTail q u a)
  | update p =>
    exact Prog.steps_bind (calm_atomic (locked_updateAccessControlProfileLocked p)) fun old =>
      calm_of_unlocked (unlocked_updateTail p old)
  | delete id =>
    exact Prog.steps_bind (calm_atomic (locked_deleteAccessControlProfileLocked id)) fun p =>
      calm_of_unlocked (unlocked_deleteTrustDeviceCheck env p)

/-- A call without failures leaves none for the next. -/
theorem calm_run (env : Env) {w : World} (call : Call) (hw : w.faults = []) :
    (call.run env w).faults = [] :=
  (calm_prog env call).exec (fun _ => id) (fun _ _ _ hab hbc => hbc ∘ hab) w hw

/-- What every call preserves, every run preserves. -/
theorem run_invariant {P : World → Prop} (hstep : ∀ w call, P w → P (Call.run env w call))
    {w : World} (hw : P w) (calls : List Call) : P (run env w calls) :=
  foldl_invariant (fun w call hw (_ : True) => hstep w call hw) hw
    (admits_of_forall (fun _ _ => trivial) w calls)

/-- One more call of a run. -/
theorem run_take_succ {w : World} {calls : List Call} {n : Nat} {call : Call}
    (h : calls[n]? = some call) :
    run env w (calls.take (n + 1)) = call.run env (run env w (calls.take n)) := by
  rw [run, run, List.take_add_one, h, List.foldl_append]
  rfl

/-- A state reached from empty tables by calls in which no database call fails. -/
def Reachable (env : Env) (w : World) : Prop := ∃ calls, w = run env {} calls

/-- In a reachable world no database call is going to fail. -/
theorem Reachable.calm {w : World} (h : Reachable env w) : w.faults = [] := by
  obtain ⟨calls, rfl⟩ := h
  exact run_invariant (P := fun w => w.faults = []) (fun _ call => calm_run env call) rfl calls

end DeviceProfile
