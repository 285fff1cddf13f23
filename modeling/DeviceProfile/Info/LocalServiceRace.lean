import DeviceProfile.Info.LocalService

/-!
# Interleavings of local service info operations

However the database calls of the operations are interleaved, the operations answer like those of
a map that are performed at once. A put takes effect at its insertion, which the unique index
refuses when another one was faster. An update whose row is gone takes effect in front of the
deletion that took the row away.
-/

namespace DeviceProfile.LocalServiceInfoManager

open Library Prog

/-! ## Updates whose row may be gone -/

/-- A call of a client with its answer. -/
abbrev LocalCall := Call LocalOperation (Except LocalServiceError (Option LocalServiceInfo))

/-- A call under way, with the statements it has still to run. -/
abbrev LocalRunning := Running LocalServiceError LocalServiceTable (Option LocalServiceInfo)
  LocalOperation

/-- A key that an operation found when it began at some time is there still, or it was there in
front of a deletion, where the deletion and all behind it ended later. -/
def Found (m : ServiceMap) (calls : List LocalCall) (key : ServiceKey) (start : Nat) : Prop :=
  (serviceMap.after m calls key).isSome ∨
    ∃ before d behind, calls = before ++ d :: behind ∧ d.op = .delete key ∧
      (serviceMap.after m before key).isSome ∧ ∀ c ∈ d :: behind, start ≤ c.stop

section Found

variable {m : ServiceMap} {calls before behind : List LocalCall} {c d : LocalCall}
  {key : ServiceKey} {start : Nat}

theorem isSome_update {info : LocalServiceInfo} {other : ServiceKey} (h : (m key).isSome) :
    (Function.update m other (some info) key).isSome := by
  by_cases hkey : key = other
  · rw [hkey, Function.update_self]
    rfl
  · rw [Function.update_of_ne hkey]
    exact h

/-- Only a deletion of its key takes an info away. -/
theorem isSome_effect {op : LocalOperation} (h : (m key).isSome) (hop : op ≠ .delete key) :
    (serviceMap.effect m op key).isSome := by
  cases op with
  | put info =>
    rw [serviceMap]
    dsimp only
    split
    · exact h
    · exact isSome_update h
  | update info =>
    rw [serviceMap]
    dsimp only
    split
    · exact isSome_update h
    · exact h
  | delete other =>
    have hkey : key ≠ other := fun hkey => hop (hkey ▸ rfl)
    rw [serviceMap]
    dsimp only
    rw [Function.update_of_ne hkey]
    exact h
  | get other => exact h

/-- What was found stays found when another call ends behind all others. -/
theorem Found.append (h : Found m calls key start) (hstart : start ≤ c.stop) :
    Found m (calls ++ [c]) key start := by
  rcases h with hsome | ⟨before, d, behind, rfl, hd, hsome, hstop⟩
  · by_cases hop : c.op = .delete key
    · refine .inr ⟨calls, c, [], rfl, hop, hsome, ?_⟩
      intro x hx
      rw [List.mem_singleton.mp hx]
      exact hstart
    · left
      rw [SequentialObject.after_append]
      exact isSome_effect hsome hop
  · refine .inr ⟨before, d, behind ++ [c], ?_, hd, hsome, ?_⟩
    · rw [List.append_assoc, List.cons_append]
    · intro x hx
      rw [← List.cons_append] at hx
      rcases List.mem_append.mp hx with hx | hx
      · exact hstop x hx
      · rw [List.mem_singleton.mp hx]
        exact hstart

/-- What was found stays found when an update ends in front of a deletion that hides it. -/
theorem Found.insert (h : Found m (before ++ d :: behind) key start) (hstart : start ≤ c.stop)
    (hop : ∀ key, c.op ≠ .delete key)
    (hhidden : serviceMap.effect (serviceMap.effect (serviceMap.after m before) c.op) d.op =
      serviceMap.effect (serviceMap.after m before) d.op) :
    Found m (before ++ c :: d :: behind) key start := by
  have hsame : ∀ calls, serviceMap.after m (before ++ c :: d :: calls) =
      serviceMap.after m (before ++ d :: calls) := by
    intro calls
    rw [SequentialObject.after_append, SequentialObject.after_append, SequentialObject.after_cons,
      SequentialObject.after_cons, SequentialObject.after_cons, hhidden]
  -- the call comes between what was before and the deletion
  have hfront : d.op = .delete key → (serviceMap.after m before key).isSome →
      (∀ x ∈ d :: behind, start ≤ x.stop) → Found m (before ++ c :: d :: behind) key start := by
    intro hd hsome hstop
    refine .inr ⟨before ++ [c], d, behind, ?_, hd, ?_, hstop⟩
    · rw [List.append_assoc, List.singleton_append]
    · rw [SequentialObject.after_append]
      exact isSome_effect hsome (hop key)
  rcases h with hsome | ⟨before', d', behind', hcalls, hd', hsome, hstop⟩
  · left
    rw [hsame]
    exact hsome
  rcases List.append_eq_append_iff.mp hcalls with ⟨between, hbefore', hbetween⟩ |
    ⟨between, hbefore, hbetween⟩
  · cases between with
    | nil =>
      obtain ⟨rfl, rfl⟩ := List.cons.inj hbetween
      rw [List.append_nil] at hbefore'
      exact hfront hd' (hbefore' ▸ hsome) hstop
    | cons x between =>
      rw [List.cons_append] at hbetween
      obtain ⟨rfl, hbehind⟩ := List.cons.inj hbetween
      refine .inr ⟨before ++ c :: d :: between, d', behind', ?_, hd', ?_, hstop⟩
      · rw [hbehind, List.append_assoc, List.cons_append, List.cons_append]
      · rw [hsame, ← hbefore']
        exact hsome
  · cases between with
    | nil =>
      obtain ⟨rfl, rfl⟩ := List.cons.inj hbetween
      rw [List.append_nil] at hbefore
      exact hfront hd' (hbefore ▸ hsome) hstop
    | cons x between =>
      rw [List.cons_append] at hbetween
      obtain ⟨rfl, hbehind'⟩ := List.cons.inj hbetween
      refine .inr ⟨before', d', between ++ c :: d :: behind, ?_, hd', hsome, ?_⟩
      · rw [hbefore, List.append_assoc, List.cons_append]
      · intro y hy
        rw [hbehind'] at hstop
        simp only [List.mem_cons, List.mem_append] at hy hstop
        rcases hy with hy | hy | rfl | hy
        · exact hstop y (.inl hy)
        · exact hstop y (.inr (.inl hy))
        · exact hstart
        · exact hstop y (.inr (.inr hy))

end Found

/-! ## Every interleaving -/

/-- What is known of an operation in progress. -/
inductive Pending (m : ServiceMap) (calls : List LocalCall) : LocalRunning → Prop
  | fresh {op : LocalOperation} (start : Nat) (h : op.Valid) :
    Pending m calls ⟨op, start, op.program⟩
  | inserting (info : LocalServiceInfo) (start : Nat) :
    Pending m calls ⟨.put info, start, inserting info⟩
  | updating {info : LocalServiceInfo} {start : Nat} (h : Found m calls info.key start) :
    Pending m calls ⟨.update info, start, updating info⟩
  | deleting (key : ServiceKey) (start : Nat) :
    Pending m calls ⟨.delete key, start, deleting key⟩

section Points

variable {m : ServiceMap} {calls calls' : List LocalCall} {t t' : LocalServiceTable}
  {r : LocalRunning}

/-- A call stays in its place while the table goes on. -/
theorem Pending.mono (h : Pending m calls r)
    (hfound : ∀ key, Found m calls key r.start → Found m calls' key r.start) :
    Pending m calls' r := by
  cases h with
  | fresh start hvalid => exact .fresh start hvalid
  | inserting info start => exact .inserting info start
  | updating h => exact .updating (hfound _ h)
  | deleting key start => exact .deleting key start

/-- A call that answers and does what the map does now stands behind all others. -/
theorem findsPlace_now {c : LocalCall} (hlegal : serviceMap.Legal m calls)
    (hafter : serviceMap.after m calls = contents t)
    (hanswers : serviceMap.Answers (contents t) c.op c.result)
    (heffect : serviceMap.effect (contents t) c.op = contents t') :
    FindsPlace serviceMap m (contents t') (Pending m) calls c := by
  rw [← hafter] at hanswers heffect
  apply findsPlace_last hlegal hanswers heffect
  intro r hr hpending
  exact hpending.mono fun key h => h.append hr

/-- An update of a row that is gone stands in front of the deletion that took it away. -/
theorem findsPlace_of_gone {c : LocalCall} {info : LocalServiceInfo}
    (hlegal : serviceMap.Legal m calls) (hafter : serviceMap.after m calls = contents t)
    (hop : c.op = .update info) (hresult : c.result.isOk = true)
    (hfound : Found m calls info.key c.start) (hgone : ¬(contents t info.key).isSome) :
    FindsPlace serviceMap m (contents t) (Pending m) calls c := by
  rw [← hafter] at hgone
  obtain ⟨before, d, behind, rfl, hd, hsome, hstop⟩ := hfound.resolve_left hgone
  have hhidden : serviceMap.effect (serviceMap.effect (serviceMap.after m before) c.op) d.op =
      serviceMap.effect (serviceMap.after m before) d.op := by
    rw [hd, hop, serviceMap]
    dsimp only
    rw [← serviceMap, if_pos hsome, Function.update_idem]
  obtain ⟨-, hdeleted, -⟩ := SequentialObject.legal_append.mp hlegal
  apply findsPlace_before hlegal hstop
  · rw [hop]
    exact hresult.trans hsome.symm
  · exact hhidden
  · rw [hd] at hdeleted ⊢
    exact hdeleted
  · exact hafter
  · intro r hr hpending
    refine hpending.mono fun key h => h.insert hr (fun key => ?_) hhidden
    rw [hop]
    exact nofun

/-- A put of a key that is there fails, with either error code. -/
theorem answers_put_error {info : LocalServiceInfo} (h : (m info.key).isSome)
    (e : LocalServiceError) : serviceMap.Answers m (.put info) (.error e) := by
  obtain ⟨stored, hstored⟩ := Option.isSome_iff_exists.mp h
  rw [serviceMap]
  dsimp only
  rw [hstored]
  rfl

/-- The first step of an operation asks whether there is a row. It ends the operation when it has
the answer then, or it lets it go on to its statement. -/
theorem finish_fresh {op : LocalOperation} (hvalid : op.Valid) {start clock : Nat}
    {result : Except LocalServiceError (Option LocalServiceInfo)}
    (hlegal : serviceMap.Legal m calls) (hafter : serviceMap.after m calls = contents t)
    (hresult : (op.program.perform t).1.result? = some result) :
    FindsPlace serviceMap m (contents (op.program.perform t).2) (Pending m) calls
      ⟨op, result, start, clock⟩ := by
  cases op with
  | put info =>
    rw [program_put hvalid, perform_step] at hresult ⊢
    dsimp only at hresult
    split at hresult
    · rename_i hsome
      obtain rfl := Option.some.inj hresult
      exact findsPlace_now hlegal hafter (answers_put_error hsome _) (if_pos hsome)
    · cases hresult
  | update info =>
    rw [program_update hvalid, perform_step] at hresult ⊢
    dsimp only at hresult
    split at hresult
    · cases hresult
    · rename_i hnone
      obtain rfl := Option.some.inj hresult
      apply findsPlace_now hlegal hafter
      · exact (Bool.eq_false_of_not_eq_true hnone).symm
      · exact if_neg hnone
  | delete key =>
    have hkey : key.1 ≠ [] ∧ key.2 ≠ 0 := hvalid
    rw [program_delete hkey, perform_step] at hresult ⊢
    dsimp only at hresult
    split at hresult
    · cases hresult
    · rename_i hnone
      obtain rfl := Option.some.inj hresult
      apply findsPlace_now hlegal hafter
      · rfl
      · rw [Option.not_isSome_iff_eq_none] at hnone
        rw [serviceMap]
        dsimp only
        rw [← hnone, Function.update_eq_self]
        rfl
  | get key =>
    have hkey : key.1 ≠ [] ∧ key.2 ≠ 0 := hvalid
    rw [program_get hkey, perform_step] at hresult ⊢
    apply findsPlace_now hlegal hafter
    · rw [serviceMap]
      dsimp only at hresult ⊢
      split at hresult
      · exact (Option.some.inj hresult).symm
      · exact (Option.some.inj hresult).symm
    · rfl

/-- A call that has just begun only looks. -/
theorem advance_fresh {op : LocalOperation} (hvalid : op.Valid) {start : Nat}
    (hafter : serviceMap.after m calls = contents t)
    (hresult : (op.program.perform t).1.result? = none) :
    contents (op.program.perform t).2 = contents t ∧
      Pending m calls ⟨op, start, (op.program.perform t).1⟩ := by
  cases op with
  | put info =>
    rw [program_put hvalid, perform_step] at hresult ⊢
    dsimp only at hresult ⊢
    split at hresult
    · cases hresult
    · rename_i hnone
      rw [if_neg hnone]
      exact ⟨rfl, .inserting info start⟩
  | update info =>
    rw [program_update hvalid, perform_step] at hresult ⊢
    dsimp only at hresult ⊢
    split at hresult
    · rename_i hsome
      rw [if_pos hsome]
      exact ⟨rfl, .updating (.inl (hafter ▸ hsome))⟩
    · cases hresult
  | delete key =>
    have hkey : key.1 ≠ [] ∧ key.2 ≠ 0 := hvalid
    rw [program_delete hkey, perform_step] at hresult ⊢
    dsimp only at hresult ⊢
    split at hresult
    · rename_i hsome
      rw [if_pos hsome]
      exact ⟨rfl, .deleting key start⟩
    · cases hresult
  | get key =>
    have hkey : key.1 ≠ [] ∧ key.2 ≠ 0 := hvalid
    rw [program_get hkey, perform_step] at hresult
    dsimp only at hresult
    split at hresult
    · cases hresult
    · cases hresult

/-- A put that found no row is refused exactly when there is one now. -/
theorem finish_inserting {info : LocalServiceInfo} {start clock : Nat}
    {result : Except LocalServiceError (Option LocalServiceInfo)}
    (hlegal : serviceMap.Legal m calls) (hafter : serviceMap.after m calls = contents t)
    (hresult : ((inserting info).perform t).1.result? = some result) :
    FindsPlace serviceMap m (contents ((inserting info).perform t).2) (Pending m) calls
      ⟨.put info, result, start, clock⟩ := by
  rw [inserting, insert, step_bind, perform_step] at hresult ⊢
  dsimp only at hresult ⊢
  cases hinsert : t.insert? (newRow t info) with
  | none =>
    rw [hinsert] at hresult
    obtain rfl := Option.some.inj hresult
    have hsome := insert?_eq_none_iff.mp hinsert
    exact findsPlace_now hlegal hafter (answers_put_error hsome _) (if_pos hsome)
  | some t' =>
    rw [hinsert] at hresult
    obtain rfl := Option.some.inj hresult
    have hnone : ¬(contents t info.key).isSome := by
      rw [← insert?_eq_none_iff, hinsert]
      exact nofun
    apply findsPlace_now hlegal hafter
    · rw [Option.not_isSome_iff_eq_none] at hnone
      rw [serviceMap]
      dsimp only
      rw [hnone]
      rfl
    · rw [Option.getD_some, contents_insert? hinsert]
      exact if_neg hnone

/-- An update that found a row succeeds, also when the row is gone now. -/
theorem finish_updating {info : LocalServiceInfo} {start clock : Nat}
    (hlegal : serviceMap.Legal m calls) (hafter : serviceMap.after m calls = contents t)
    (hfound : Found m calls info.key start) :
    FindsPlace serviceMap m (contents ((updating info).perform t).2) (Pending m) calls
      ⟨.update info, .ok none, start, clock⟩ := by
  have heffect : contents ((updating info).perform t).2 =
      serviceMap.effect (contents t) (.update info) := contents_modify
  by_cases hsome : (contents t info.key).isSome
  · apply findsPlace_now hlegal hafter
    · exact hsome.symm
    · exact heffect.symm
  · have hsame : serviceMap.effect (contents t) (.update info) = contents t := if_neg hsome
    rw [heffect, hsame]
    exact findsPlace_of_gone hlegal hafter rfl rfl hfound hsome

end Points

/-- Each operation takes effect at its last step, only an update of a row that is gone does so in
front of the deletion of the row. -/
theorem linearizationPoints (m : ServiceMap) :
    LinearizationPoints serviceMap contents LocalOperation.program LocalOperation.Valid m
      (Pending m) where
  fresh calls op clock hvalid := .fresh clock hvalid
  advance calls r t hlegal hafter hpending hresult := by
    cases hpending with
    | fresh start hvalid => exact advance_fresh hvalid hafter hresult
    | inserting info start =>
      rw [inserting, insert, step_bind, perform_step] at hresult
      dsimp only at hresult
      split at hresult
      · cases hresult
      · cases hresult
    | updating h => cases hresult
    | deleting key start => cases hresult
  finish calls r t clock result hlegal hafter hpending hresult := by
    cases hpending with
    | fresh start hvalid => exact finish_fresh hvalid hlegal hafter hresult
    | inserting info start => exact finish_inserting hlegal hafter hresult
    | updating h =>
      obtain rfl := Option.some.inj hresult
      exact finish_updating hlegal hafter h
    | deleting key start =>
      obtain rfl := Option.some.inj hresult
      exact findsPlace_now hlegal hafter rfl contents_delete.symm

/-- For any clients, valid operations and steps in any order, the operations that have ended are
linearizable as operations of a map, which comes to what the table has; no operation is lost. -/
theorem local_service_info_linearizable (t : LocalServiceTable)
    (operations : List (List LocalOperation)) (hvalid : ∀ todo ∈ operations, ∀ op ∈ todo, op.Valid)
    (schedule : List Nat) :
    let w := (Workload.initial t operations).run LocalOperation.program schedule
    (∃ calls, serviceMap.Linearizes (contents t) (contents w.shared) w.history calls) ∧
      (w.history.map Call.op ++ w.unfinished).Perm operations.flatten := by
  intro w
  refine ⟨(linearizationPoints (contents t)).exists_linearizes hvalid schedule, ?_⟩
  rw [← Workload.operations_initial t operations]
  exact Workload.operations_run LocalOperation.program (Workload.initial t operations) schedule

/-- The info of a camera that is paired by a pin. -/
def cameraService : LocalServiceInfo where
  bundleName := ("camera" : Text)
  authBoxType := 1
  authType := 2
  pinExchangeType := 1
  pinCode := ("123456" : Text)
  description := []
  extraInfo := []

/-- A table with one info. -/
def cameraTable : LocalServiceTable where
  rows := [(1, cameraService)]
  ascending := List.pairwise_singleton _ _
  indexed := List.pairwise_singleton _ _

/-- The row of an update is deleted between its question and its statement. -/
theorem local_service_info_linearizable_deleted :
    let w := (Workload.initial cameraTable
      [[.update { cameraService with pinCode := ("654321" : Text) }],
        [.delete cameraService.key]]).run LocalOperation.program [0, 1, 1, 0]
    (∃ calls, serviceMap.Linearizes (contents cameraTable) (contents w.shared) w.history calls) ∧
      (w.history.map Call.op ++ w.unfinished).Perm
        [.update { cameraService with pinCode := ("654321" : Text) }, .delete cameraService.key] :=
  local_service_info_linearizable cameraTable _ (by decide) [0, 1, 1, 0]

end DeviceProfile.LocalServiceInfoManager
