import DeviceProfile.Library.Interleaving
import DeviceProfile.Trust.Integrity
import DeviceProfile.Trust.TrustDevice

/-!
# Puts and Deletes of several clients

The lock covers the access control and party tables, so their integrity survives
every interleaving. The trust device row is written outside the lock: a Put owes
its device a row from the moment its entry is stored, and pays whatever the other
clients do. Only the deletion of that row can take the payment back, namely when
the count that led to it is stale.
-/

namespace DeviceProfile

open Library

variable {env : Env}

/-- Each client is about to make its call. -/
def clients (env : Env) (w : World) (calls : List Call) : Pool DpError World Unit :=
  ⟨w, calls.map (Call.prog env)⟩

/-- The pool after the first steps of a schedule. -/
def poolAt (env : Env) (w : World) (calls : List Call) (schedule : List Nat) (n : Nat) :
    Pool DpError World Unit :=
  (schedule.take n).foldl Pool.schedule (clients env w calls)

/-! ## Access control and party tables -/

/-- Referential integrity is kept, and a row that stays keeps its parties. -/
def KeepsParties (w w' : World) : Prop :=
  w.faults = [] → w.tables.Integrity → w'.faults = [] ∧ w'.tables.Integrity ∧
    ∀ row ∈ w.tables.accessControl, row ∈ w'.tables.accessControl →
      ∀ role, w'.tables.partyOf row role = w.tables.partyOf row role

theorem KeepsParties.refl (w : World) : KeepsParties w w :=
  fun hw hi => ⟨hw, hi, fun _ _ _ _ => rfl⟩

theorem Unlocked.keepsParties {w w' : World} (h : Unlocked w w') : KeepsParties w w' := by
  intro hw hi
  refine ⟨h.calm hw, fun role id => ?_, fun row _ _ role => ?_⟩
  · rw [Tables.Stores, Tables.Names, h.parties, h.accessControl]
    exact hi role id
  · rw [Tables.partyOf, Tables.partyOf, h.parties]

private theorem keepsParties_putLocked (p : AccessControlProfile) (w : World) :
    KeepsParties w ((putAccessControlProfileLocked env p).exec w).2 := by
  intro hw hi
  obtain ⟨r, w', h⟩ : ∃ r w', (putAccessControlProfileLocked env p).exec w = (r, w') :=
    ⟨_, _, rfl⟩
  rw [h]
  have hcalm := (Locked.of_exec (locked_putAccessControlProfileLocked env p) h).calm hw
  have he := putAccessControlProfileLocked_effect h
  exact ⟨hcalm, he.integrity hw hi, fun row hrow _ role => he.partyOf_eq hw hi hrow role⟩

private theorem keepsParties_deleteLocked (id : Int) (w : World) :
    KeepsParties w ((deleteAccessControlProfileLocked id).exec w).2 := by
  intro hw hi
  obtain ⟨r, w', h⟩ : ∃ r w', (deleteAccessControlProfileLocked id).exec w = (r, w') :=
    ⟨_, _, rfl⟩
  rw [h]
  have hcalm := (Locked.of_exec (locked_deleteAccessControlProfileLocked id) h).calm hw
  have he := deleteAccessControlProfileLocked_effect h
  exact ⟨hcalm, he.integrity hw hi,
    fun row hrow hrow' role => he.partyOf_eq hw hi hrow hrow' role⟩

/-- Every step of a Put or of a Delete keeps integrity and the parties of the rows that stay. -/
theorem keepsParties_prog (env : Env) {call : Call} (hcall : call.Binds) :
    (call.prog env).Steps KeepsParties := by
  have hunlocked : ∀ w w', Unlocked w w' → KeepsParties w w' := fun _ _ h => h.keepsParties
  cases call with
  | put p =>
    refine Prog.steps_bind (Prog.steps_atomic (keepsParties_putLocked p)) fun x => ?_
    match x with
    | none => trivial
    | some (q, u, a) => exact (unlocked_putTail q u a).mono hunlocked
  | update p => exact hcall.elim
  | delete id =>
    exact Prog.steps_bind (Prog.steps_atomic (keepsParties_deleteLocked id)) fun p =>
      (unlocked_deleteTrustDeviceCheck env p).mono hunlocked

/-- What every client keeps to, and what therefore holds of the tables they share. -/
structure Sound (c : Pool DpError World Unit) : Prop where
  steps : c.Each (Prog.Steps KeepsParties)
  calm : c.shared.faults = []
  integrity : c.shared.tables.Integrity

/-- Every turn keeps the pool sound. -/
theorem Sound.schedule {c : Pool DpError World Unit} (h : Sound c) (i : Nat) :
    Sound (c.schedule i) := by
  obtain ⟨hstep, hsteps⟩ := Pool.schedule_guarantee KeepsParties.refl h.steps i
  obtain ⟨hcalm, hi, _⟩ := hstep h.calm h.integrity
  exact ⟨hsteps, hcalm, hi⟩

/-! ## Trust device rows -/

/-- The device has a trust device row. -/
def Trusted (deviceId : Text) (w : World) : Prop := w.tables.trustStatus deviceId ≠ none

/-- An access control row trusts the device, so it should have a trust device row. -/
def ShouldTrust (deviceId : Text) (w : World) : Prop := w.tables.Trusts deviceId

/-- Completing a trust profile does not change its device. -/
private theorem returns_notifyAccountAcl (c : Bool) (p : AccessControlProfile)
    (trustProfile : TrustDeviceProfile) (notice : TrustDeviceProfile → Notice) :
    (notifyAccountAcl env c p trustProfile notice).Returns
      fun x => x.deviceId = trustProfile.deviceId := by
  cases c with
  | false => exact (rfl : trustProfile.deviceId = trustProfile.deviceId)
  | true =>
    refine Prog.returns_bind (Prog.returns_true _) fun serviceIdList _ => ?_
    exact Prog.returns_bind (Prog.returns_true _) fun _ _ =>
      (rfl : trustProfile.deviceId = trustProfile.deviceId)

/-- After an insertion without failure the device has a row: the new one, or the one that
the insertion conflicts with. -/
private theorem trusted_insertTrustDevice {w : World} (hw : w.faults = [])
    (profile : TrustDeviceProfile) :
    Trusted profile.deviceId (w.written (·.insertTrustDevice profile)) := by
  have hfault : w.fault = false := by
    rw [World.fault, hw]
    rfl
  have houtcome : w.outcome (·.insertTrustDevice profile) =
      w.tables.insertTrustDevice profile := by
    simp only [World.outcome, hfault, Bool.false_eq_true, if_false]
  unfold Trusted World.written
  rw [houtcome]
  by_cases hnone : w.tables.trustStatus profile.deviceId = none
  · obtain ⟨t', ht', hstatus⟩ := Tables.insertTrustDevice_spec profile hnone
    simp only [ht', Option.getD_some, hstatus, Function.update_self, ne_eq, reduceCtorEq,
      not_false_eq_true]
  · have hrefused : w.tables.insertTrustDevice profile = none := by
      rw [Tables.trustStatus_eq_none] at hnone
      push Not at hnone
      obtain ⟨row, hrow, hid⟩ := hnone
      rw [Tables.insertTrustDevice, Option.map_eq_none_iff, Table.insert?_eq_none]
      exact ⟨row, hrow, Or.inr hid⟩
    rw [hrefused, Option.getD_none]
    exact hnone

/-- A Put whose entry is stored owes its device a row. -/
private theorem owes_putAclCheck (q : AccessControlProfile) (u a : Bool) :
    (putAclCheck env q u a).Owes (fun w => w.faults = []) (Trusted q.trustDeviceId) := by
  refine Prog.owes_bind_right (Prog.returns_true _) fun _ _ => ?_
  refine Prog.owes_bind_right (returns_notifyAccountAcl _ q _ _) fun trustProfile hid => ?_
  change trustProfile.deviceId = q.trustDeviceId at hid
  intro w hw
  by_cases hrows : w.tables.trustDeviceRows q.trustDeviceId = []
  · right
    have hfault : w.fault = false := by
      rw [World.fault, hw]
      rfl
    simp only [hfault, Bool.false_eq_true, if_false, hrows]
    intro w₁ hw₁
    rw [← hid]
    exact Or.inl (trusted_insertTrustDevice hw₁ trustProfile)
  · exact Or.inl fun hnone => hrows (Tables.trustDeviceRows_eq_nil.mpr hnone)

/-- What only touches the trust device rows and the notifications makes no debt due. -/
private theorem honest_of_unlocked {m : DpProg Unit} (hm : m.Steps Unlocked) :
    m.Honest (fun w => w.faults = []) ShouldTrust Trusted := by
  refine Prog.honest_of_steps hm fun w w' hu _ d hd => ?_
  obtain ⟨row, hrow, hid⟩ := hd
  exact ⟨row, hu.accessControl ▸ hrow, hid⟩

/-- A call that binds is honest: it leaves no device trusted that should not be. -/
theorem honest_prog (env : Env) {call : Call} (hcall : call.Binds) :
    (call.prog env).Honest (fun w => w.faults = []) ShouldTrust Trusted := by
  cases call with
  | put p =>
    refine Prog.honest_atomic_bind fun w hw => ⟨fun e w' h => ?_, fun x w' h => ?_⟩
    · cases putAccessControlProfileLocked_effect h with
      | failed _ hfaults => exact absurd hw hfaults
    · cases putAccessControlProfileLocked_effect h with
      | found hacl hparties hfound =>
        refine ⟨trivial, fun d hd => Or.inl ?_⟩
        obtain ⟨row, hrow, hid⟩ := hd
        exact ⟨row, hacl ▸ hrow, hid⟩
      | stored u a hacl hparties hflags =>
        refine ⟨honest_of_unlocked (unlocked_putTail _ u a), fun d hd => ?_⟩
        obtain ⟨row, hrow, hid⟩ := hd
        rcases (Table.mem_insert? hacl).mp hrow with rfl | hrow
        · right
          rw [← hid]
          exact Prog.owes_bind (owes_putAclCheck (w.tables.prepared p) u a)
        · exact Or.inl ⟨row, hrow, hid⟩
  | update p => exact hcall.elim
  | delete id =>
    have hrows : ∀ w r w', (deleteAccessControlProfileLocked id).exec w = (r, w') →
        ∀ row ∈ w'.tables.accessControl, row ∈ w.tables.accessControl := by
      intro w r w' h row hrow
      cases deleteAccessControlProfileLocked_effect h with
      | missing htables => exact htables ▸ hrow
      | failed e _ hacl => exact hacl ▸ hrow
      | deleted deleted _ _ hacl => exact ((hacl row).mp hrow).1
    refine Prog.honest_atomic_bind fun w hw => ⟨fun e w' h d hd => ?_, fun p w' h =>
      ⟨honest_of_unlocked (unlocked_deleteTrustDeviceCheck env p), fun d hd => Or.inl ?_⟩⟩
    · obtain ⟨row, hrow, hid⟩ := hd
      exact ⟨row, hrows w _ w' h row hrow, hid⟩
    · obtain ⟨row, hrow, hid⟩ := hd
      exact ⟨row, hrows w _ w' h row hrow, hid⟩

/-- The step does not delete the trust device row of a device that has entries. -/
def NoStaleDeletion (c : Pool DpError World Unit) (i : Nat) : Prop :=
  ∀ row ∈ c.shared.tables.accessControl.rows,
    (c.shared.tables.trustStatus row.trustDeviceId).isSome = true →
    ((c.schedule i).shared.tables.trustStatus row.trustDeviceId).isSome = true

instance (c : Pool DpError World Unit) (i : Nat) : Decidable (NoStaleDeletion c i) :=
  inferInstanceAs (Decidable (∀ row ∈ c.shared.tables.accessControl.rows, _))

/-- The clients are honest, and each device with entries has a row or is owed one. -/
structure Settling (c : Pool DpError World Unit) : Prop extends Sound c where
  honest : c.Each (Prog.Honest (fun w => w.faults = []) ShouldTrust Trusted)
  covered : c.Covered (fun w => w.faults = []) ShouldTrust Trusted

/-- Every turn but a deletion that is decided on stale rows keeps the pool settling. -/
theorem Settling.schedule {c : Pool DpError World Unit} (h : Settling c) {i : Nat}
    (hstale : NoStaleDeletion c i) : Settling (c.schedule i) := by
  have hkeep : ∀ d, ShouldTrust d c.shared → Trusted d c.shared →
      Trusted d (c.schedule i).shared := by
    rintro d ⟨row, hrow, rfl⟩ htrusted
    exact Option.isSome_iff_ne_none.mp
      (hstale row hrow (Option.isSome_iff_ne_none.mpr htrusted))
  obtain ⟨hhonest, hcovered⟩ := Pool.schedule_covered h.calm h.honest h.covered hkeep
  exact ⟨h.toSound.schedule i, hhonest, hcovered⟩

/-! ## Every schedule -/

section Schedules

variable {w : World} {calls : List Call} {schedule : List Nat}

/-- The calls of clients start sound. -/
theorem sound_clients (hw : Reachable env w) (hcalls : ∀ call ∈ calls, call.Binds) :
    Sound (clients env w calls) := by
  refine ⟨fun m hm => ?_, hw.calm, hw.integrity⟩
  obtain ⟨call, hcall, rfl⟩ := List.mem_map.mp hm
  exact keepsParties_prog env (hcalls call hcall)

/-- The calls of clients are sound at every time. -/
theorem sound_poolAt (hw : Reachable env w) (hcalls : ∀ call ∈ calls, call.Binds) (n : Nat) :
    Sound (poolAt env w calls schedule n) :=
  foldl_invariant (fun _ i hs (_ : True) => hs.schedule i) (sound_clients hw hcalls)
    (admits_of_forall (fun _ _ => trivial) _ _)

/-- One more step of a schedule. -/
theorem poolAt_succ {n i : Nat} (h : schedule[n]? = some i) :
    poolAt env w calls schedule (n + 1) = (poolAt env w calls schedule n).schedule i := by
  rw [poolAt, List.take_add_one, h, List.foldl_append]
  rfl

theorem poolAt_succ_of_length_le {n : Nat} (h : schedule.length ≤ n) :
    poolAt env w calls schedule (n + 1) = poolAt env w calls schedule n := by
  rw [poolAt, poolAt, List.take_of_length_le h, List.take_of_length_le (by omega)]

/-- A row that stays in every later state keeps its parties. -/
theorem partyOf_poolAt (hw : Reachable env w) (hcalls : ∀ call ∈ calls, call.Binds) {n m : Nat}
    {row : AccessControlRow} (hnm : n ≤ m)
    (hrow : ∀ k, n ≤ k → row ∈ (poolAt env w calls schedule k).shared.tables.accessControl)
    (role : Role) :
    (poolAt env w calls schedule m).shared.tables.partyOf row role =
      (poolAt env w calls schedule n).shared.tables.partyOf row role := by
  induction m, hnm using Nat.le_induction with
  | base => rfl
  | succ m hnm ih =>
    rw [← ih]
    cases hs : schedule[m]? with
    | none => rw [poolAt_succ_of_length_le (List.getElem?_eq_none_iff.mp hs)]
    | some i =>
      have hsound : Sound (poolAt env w calls schedule m) := sound_poolAt hw hcalls m
      have hstep := (Pool.schedule_guarantee KeepsParties.refl hsound.steps i).1
      obtain ⟨_, _, hkeep⟩ := hstep hsound.calm hsound.integrity
      rw [← poolAt_succ hs] at hkeep
      exact hkeep row (hrow m hnm) (hrow (m + 1) (by omega)) role

/-- The first step of a Put is its locked section. -/
theorem poolAt_put {n i : Nat} {p : AccessControlProfile} (hi : schedule[n]? = some i)
    (hfirst : i ∉ schedule.take n) (hcall : calls[i]? = some (.put p)) :
    (poolAt env w calls schedule (n + 1)).shared =
      ((putAccessControlProfileLocked env p).exec (poolAt env w calls schedule n).shared).2 := by
  have hthread : (poolAt env w calls schedule n).threads[i]? =
      some (putAccessControlProfile env p) := by
    rw [poolAt, Pool.threads_of_not_mem hfirst, clients, List.getElem?_map, hcall]
    rfl
  rw [poolAt_succ hi, Pool.schedule_of_step hthread]

/-- Once Puts and Deletes of any number of clients have all returned success, every device
with an entry has a trust device row, and the entry of a Put that nobody deleted resolves to
its parties, in every interleaving in which no step deletes the row of a device with entries
and which starts with a row for each such device. -/
theorem concurrent_calls_settle (env : Env) (w : World) (hw : Reachable env w)
    (htrust : ∀ row ∈ w.tables.accessControl, w.tables.trustStatus row.trustDeviceId ≠ none)
    (calls : List Call) (hcalls : ∀ call ∈ calls, call.Binds) (schedule : List Nat)
    (hstale : Admits Pool.schedule NoStaleDeletion (clients env w calls) schedule)
    (hfinished : (poolAt env w calls schedule schedule.length).Finished) :
    (∀ row ∈ (poolAt env w calls schedule schedule.length).shared.tables.accessControl,
      (poolAt env w calls schedule schedule.length).shared.tables.trustStatus
        row.trustDeviceId ≠ none) ∧
    ∀ n i p row, schedule[n]? = some i → i ∉ schedule.take n → calls[i]? = some (.put p) →
      row.indexColumns =
        ((poolAt env w calls schedule n).shared.tables.prepared p).indexColumns →
      (∀ m, n < m → row ∈ (poolAt env w calls schedule m).shared.tables.accessControl) →
      ∀ role, ∃ a, (poolAt env w calls schedule schedule.length).shared.tables.partyOf row role =
        some a ∧ a.indexColumns = (p.party role).indexColumns := by
  constructor
  · have hstart : Settling (clients env w calls) := by
      refine ⟨sound_clients hw hcalls, fun m hm => ?_, ?_⟩
      · obtain ⟨call, hcall, rfl⟩ := List.mem_map.mp hm
        exact honest_prog env (hcalls call hcall)
      · rintro d ⟨row, hrow, rfl⟩
        exact Or.inl (htrust row hrow)
    have hsettling : Settling (poolAt env w calls schedule schedule.length) := by
      rw [poolAt, List.take_length]
      exact foldl_invariant (fun _ _ hs hc => hs.schedule hc) hstart hstale
    exact fun row hrow => hfinished.settled hsettling.covered row.trustDeviceId ⟨row, hrow, rfl⟩
  · intro n i p row hi hfirst hcall hcols hstays role
    have hsound : Sound (poolAt env w calls schedule n) := sound_poolAt hw hcalls n
    have hn : n < schedule.length := (List.getElem?_eq_some_iff.mp hi).1
    obtain ⟨r, w', hexec⟩ : ∃ r w', (putAccessControlProfileLocked env p).exec
        (poolAt env w calls schedule n).shared = (r, w') := ⟨_, _, rfl⟩
    have hafter : (poolAt env w calls schedule (n + 1)).shared = w' := by
      rw [poolAt_put hi hfirst hcall, hexec]
    have hparties : (poolAt env w calls schedule n).shared.tables.Ensured w'.tables role
        (((poolAt env w calls schedule n).shared.tables.prepared p).party role) := by
      cases putAccessControlProfileLocked_effect hexec with
      | failed e hfaults => exact absurd hsound.calm hfaults
      | found _ hparties _ => exact hparties role
      | stored _ _ _ hparties _ => exact hparties role
    have hid : row.partyId role =
        ((poolAt env w calls schedule n).shared.tables.prepared p).partyId role := by
      cases role
      · exact congrArg AccessControlIndex.accesserId hcols
      · exact congrArg AccessControlIndex.accesseeId hcols
    obtain ⟨a, ha, haid, hac⟩ := hparties.exists_party
    refine ⟨a, ?_, hac⟩
    rw [partyOf_poolAt hw hcalls hn (fun k hk => hstays k hk) role, hafter]
    exact Tables.partyOf_eq_some.mpr ⟨ha, haid.trans hid.symm⟩

end Schedules

/-- The state with one entry, which one client deletes while another one stores it again. -/
def boundWorld : World := run .bare {} [.put boundEntry]

/-- Both clients in turn, until both have returned. -/
def fairSchedule : List Nat := (List.replicate 30 [0, 1]).flatten

/-- When the clients take turns, the Delete counts the entry that the Put stored. -/
theorem concurrent_calls_settle_fair :
    (poolAt .bare boundWorld [.delete 1, .put boundEntry] fairSchedule
      fairSchedule.length).shared.tables.trustStatus "peer" ≠ none := by
  have htrust : ∀ row ∈ boundWorld.tables.accessControl.rows,
      boundWorld.tables.trustStatus row.trustDeviceId ≠ none := by decide +kernel
  have hsettled := concurrent_calls_settle .bare boundWorld ⟨_, rfl⟩ htrust
    [.delete 1, .put boundEntry] (by decide) fairSchedule (by decide +kernel) (by decide +kernel)
  obtain ⟨row, hrow, hpeer⟩ : ∃ row ∈ (poolAt .bare boundWorld [.delete 1, .put boundEntry]
      fairSchedule fairSchedule.length).shared.tables.accessControl.rows,
        row.trustDeviceId = "peer" := by decide +kernel
  exact hpeer ▸ hsettled.1 row hrow

/-- The Delete up to its count, the whole Put, and then the deletion of the device's row. -/
def staleSchedule : List Nat :=
  List.replicate 9 0 ++ List.replicate 30 1 ++ List.replicate 2 0

/-- Not every interleaving settles: a stale count deletes the row of a device that has an
entry again. -/
theorem not_settled_of_stale_count :
    ¬∀ (env : Env) (w : World) (calls : List Call) (schedule : List Nat), Reachable env w →
      (∀ row ∈ w.tables.accessControl, w.tables.trustStatus row.trustDeviceId ≠ none) →
      (∀ call ∈ calls, call.Binds) →
      (poolAt env w calls schedule schedule.length).Finished →
      ∀ row ∈ (poolAt env w calls schedule schedule.length).shared.tables.accessControl,
        (poolAt env w calls schedule schedule.length).shared.tables.trustStatus
          row.trustDeviceId ≠ none := by
  intro h
  have htrust : ∀ row ∈ boundWorld.tables.accessControl.rows,
      boundWorld.tables.trustStatus row.trustDeviceId ≠ none := by
    decide +kernel
  have hall := h .bare boundWorld [.delete 1, .put boundEntry] staleSchedule ⟨_, rfl⟩ htrust
    (by decide) (by decide +kernel)
  have hlost : ∃ row ∈ (poolAt .bare boundWorld [.delete 1, .put boundEntry] staleSchedule
        staleSchedule.length).shared.tables.accessControl.rows,
      (poolAt .bare boundWorld [.delete 1, .put boundEntry] staleSchedule
        staleSchedule.length).shared.tables.trustStatus row.trustDeviceId = none := by
    decide +kernel
  obtain ⟨row, hrow, hnone⟩ := hlost
  exact hall row hrow hnone

end DeviceProfile
