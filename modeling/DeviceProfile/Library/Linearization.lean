import DeviceProfile.Library.Program
import DeviceProfile.Library.Run

/-!
# Linearizability

Several clients call operations on a shared state, each client one after the other. An operation
is a program, and the steps of the other clients may fall between its steps. The calls that have
ended are linearizable when there is an order of them that a sequential object allows, and in
which no call stands before one that had ended when it began.
-/

namespace Library

/-- An operation that has ended: its answer, and the clock at its first and at its last step. -/
structure Call (ω ρ : Type) where
  op : ω
  result : ρ
  start : Nat
  stop : Nat

/-- An object whose operations are performed at once: what each does, and the answers it allows. -/
structure SequentialObject (ω ρ τ : Type) where
  effect : τ → ω → τ
  Answers : τ → ω → ρ → Prop

namespace SequentialObject

variable {ω ρ τ : Type} (S : SequentialObject ω ρ τ)

/-- What calls in this order make of the object. -/
def after (m : τ) (calls : List (Call ω ρ)) : τ := calls.foldl (fun m c => S.effect m c.op) m

/-- Each call of this order got an answer that the object allows. -/
def Legal (m : τ) (calls : List (Call ω ρ)) : Prop :=
  Admits (fun m c => S.effect m c.op) (fun m c => S.Answers m c.op c.result) m calls

/-- An order of the calls of a history that leads from one value of the object to another. -/
structure Linearizes (m m' : τ) (history calls : List (Call ω ρ)) : Prop where
  perm : calls.Perm history
  legal : S.Legal m calls
  after : S.after m calls = m'
  order : calls.Pairwise fun a b => ¬b.stop < a.start

variable {S} {m m' m'' : τ} {history calls calls' : List (Call ω ρ)} {c : Call ω ρ}

theorem after_append : S.after m (calls ++ calls') = S.after (S.after m calls) calls' :=
  List.foldl_append

theorem after_cons : S.after m (c :: calls) = S.after (S.effect m c.op) calls := rfl

theorem legal_append :
    S.Legal m (calls ++ calls') ↔ S.Legal m calls ∧ S.Legal (S.after m calls) calls' :=
  admits_append

theorem legal_cons :
    S.Legal m (c :: calls) ↔ S.Answers m c.op c.result ∧ S.Legal (S.effect m c.op) calls :=
  Iff.rfl

theorem Linearizes.nil : S.Linearizes m m [] [] := ⟨.nil, trivial, rfl, .nil⟩

/-- A call that ends last stands anywhere among the calls, as long as none of those behind it had
ended when it began. -/
theorem Linearizes.insert (h : S.Linearizes m m' history (calls ++ calls'))
    (hlegal : S.Legal m (calls ++ c :: calls')) (hafter : S.after m (calls ++ c :: calls') = m'')
    (hstop : ∀ d ∈ history, d.start ≤ c.stop) (hstart : ∀ d ∈ calls', c.start ≤ d.stop) :
    S.Linearizes m m'' (history ++ [c]) (calls ++ c :: calls') := by
  have hperm : (calls ++ c :: calls').Perm (history ++ [c]) := by
    apply List.perm_middle.trans
    exact (h.perm.cons c).trans (List.perm_append_singleton c history).symm
  refine ⟨hperm, hlegal, hafter, ?_⟩
  obtain ⟨hcalls, hcalls', hbetween⟩ := List.pairwise_append.mp h.order
  apply List.pairwise_append.mpr
  refine ⟨hcalls, List.pairwise_cons.mpr ⟨?_, hcalls'⟩, ?_⟩
  · intro d hd
    exact Nat.not_lt.mpr (hstart d hd)
  · intro d hd x hx
    rcases List.mem_cons.mp hx with rfl | hx
    · have hmem : d ∈ history := h.perm.mem_iff.mp (List.mem_append_left _ hd)
      exact Nat.not_lt.mpr (hstop d hmem)
    · exact hbetween d hd x hx

end SequentialObject

/-! ## Clients -/

namespace Prog

variable {ε σ α : Type}

/-- How a program has ended, if it has. -/
def result? : Prog ε σ α → Option (Except ε α)
  | ret a => some (.ok a)
  | fail e => some (.error e)
  | step _ _ => none

/-- Perform one step, if there is one. -/
def perform : Prog ε σ α → σ → Prog ε σ α × σ
  | step upd next, s => (next s, upd s)
  | m, s => (m, s)

@[simp] theorem perform_step (upd : σ → σ) (next : σ → Prog ε σ α) (s : σ) :
    (step upd next).perform s = (next s, upd s) := rfl

end Prog

/-- An operation in progress: when it began, and what it still has to do. -/
structure Running (ε σ α ω : Type) where
  op : ω
  start : Nat
  rest : Prog ε σ α

/-- A client: its operation in progress, and those it calls after it. -/
structure Client (ε σ α ω : Type) where
  running : Option (Running ε σ α ω) := none
  todo : List ω

/-- The clients of a shared state, and the calls that have ended. -/
structure Workload (ε σ α ω : Type) where
  shared : σ
  clients : List (Client ε σ α ω)
  clock : Nat := 0
  history : List (Call ω (Except ε α)) := []

variable {ε σ α ω τ : Type}

/-- The operation a client goes on with or begins, and those it calls later. -/
def Client.next (program : ω → Prog ε σ α) (clock : Nat) (c : Client ε σ α ω) :
    Option (Running ε σ α ω × List ω) :=
  match c.running, c.todo with
  | some r, todo => some (r, todo)
  | none, op :: todo => some (⟨op, clock, program op⟩, todo)
  | none, [] => none

/-- The operations of a client that have not ended. -/
def Client.unfinished (c : Client ε σ α ω) : List ω := c.running.toList.map Running.op ++ c.todo

/-- A client's unfinished work is the running operation and what it has still to do. -/
theorem Client.unfinished_of_next {program : ω → Prog ε σ α} {clock : Nat} {c : Client ε σ α ω}
    {r : Running ε σ α ω} {todo : List ω} (h : c.next program clock = some (r, todo)) :
    c.unfinished = r.op :: todo := by
  obtain ⟨running, ops⟩ := c
  cases running with
  | some running =>
    obtain ⟨rfl, rfl⟩ := Prod.mk.inj (Option.some.inj h)
    rfl
  | none =>
    cases ops with
    | nil => cases h
    | cons op ops =>
      obtain ⟨rfl, rfl⟩ := Prod.mk.inj (Option.some.inj h)
      rfl

namespace Workload

/-- Each client has a list of operations to call. -/
def initial (s : σ) (operations : List (List ω)) : Workload ε σ α ω where
  shared := s
  clients := operations.map fun todo => { todo }

/-- A client performs one step of its operation in progress, or the first one of its next. -/
def step (program : ω → Prog ε σ α) (w : Workload ε σ α ω) (i : Nat) : Workload ε σ α ω :=
  match w.clients[i]?.bind (Client.next program w.clock) with
  | none => w
  | some (r, todo) =>
    let (rest, shared) := r.rest.perform w.shared
    match rest.result? with
    | none =>
      { w with
        shared
        clients := w.clients.set i ⟨some { r with rest }, todo⟩
        clock := w.clock + 1 }
    | some result =>
      { shared
        clients := w.clients.set i ⟨none, todo⟩
        clock := w.clock + 1
        history := w.history ++ [⟨r.op, result, r.start, w.clock⟩] }

/-- The clients step in the order of a schedule. -/
def run (program : ω → Prog ε σ α) (w : Workload ε σ α ω) (schedule : List Nat) :
    Workload ε σ α ω :=
  schedule.foldl (step program) w

/-- The operations that have not ended. -/
def unfinished (w : Workload ε σ α ω) : List ω := w.clients.flatMap Client.unfinished

/-- The operations that have ended and those that have not. -/
def operations (w : Workload ε σ α ω) : List ω := w.history.map Call.op ++ w.unfinished

/-- What a step does when the client has one: it takes the operation on, or ends it. -/
theorem step_cases (program : ω → Prog ε σ α) (w : Workload ε σ α ω) (i : Nat) :
    w.step program i = w ∨ ∃ c r todo, w.clients[i]? = some c ∧
      c.next program w.clock = some (r, todo) ∧
        (((r.rest.perform w.shared).1.result? = none ∧ w.step program i =
            { w with
              shared := (r.rest.perform w.shared).2
              clients := w.clients.set i ⟨some { r with rest := (r.rest.perform w.shared).1 }, todo⟩
              clock := w.clock + 1 }) ∨
          ∃ result, (r.rest.perform w.shared).1.result? = some result ∧ w.step program i =
            { shared := (r.rest.perform w.shared).2
              clients := w.clients.set i ⟨none, todo⟩
              clock := w.clock + 1
              history := w.history ++ [⟨r.op, result, r.start, w.clock⟩] }) := by
  cases hnext : w.clients[i]?.bind (Client.next program w.clock) with
  | none =>
    left
    rw [step, hnext]
  | some x =>
    obtain ⟨c, hc, hx⟩ := Option.bind_eq_some_iff.mp hnext
    obtain ⟨r, todo⟩ := x
    refine .inr ⟨c, r, todo, hc, hx, ?_⟩
    cases hresult : (r.rest.perform w.shared).1.result? with
    | none =>
      refine .inl ⟨rfl, ?_⟩
      rw [step, hnext]
      dsimp only
      rw [hresult]
    | some result =>
      refine .inr ⟨result, rfl, ?_⟩
      rw [step, hnext]
      dsimp only
      rw [hresult]

/-- Replacing a client replaces its operations. -/
theorem exists_flatMap_set {clients : List (Client ε σ α ω)} {i : Nat} {c : Client ε σ α ω}
    (hc : clients[i]? = some c) (c' : Client ε σ α ω) :
    ∃ before behind, clients.flatMap Client.unfinished = before ++ c.unfinished ++ behind ∧
      (clients.set i c').flatMap Client.unfinished = before ++ c'.unfinished ++ behind := by
  obtain ⟨hi, hget⟩ := List.getElem?_eq_some_iff.mp hc
  obtain ⟨l₁, l₂, hclients, -, hset⟩ := List.exists_of_set hi
  refine ⟨l₁.flatMap Client.unfinished, l₂.flatMap Client.unfinished, ?_, ?_⟩
  · rw [hclients, hget, List.flatMap_append, List.flatMap_cons, List.append_assoc]
  · rw [hset, List.flatMap_append, List.flatMap_cons, List.append_assoc]

/-- No operation is lost or called twice. -/
theorem operations_step (program : ω → Prog ε σ α) (w : Workload ε σ α ω) (i : Nat) :
    (w.step program i).operations.Perm w.operations := by
  rcases w.step_cases program i with hsame | ⟨c, r, todo, hc, hnext, hstep⟩
  · rw [hsame]
  rw [operations, operations]
  rcases hstep with ⟨-, hstep⟩ | ⟨result, -, hstep⟩
  · rw [hstep, unfinished, unfinished]
    obtain ⟨before, behind, hold, hnew⟩ := exists_flatMap_set hc
      ⟨some { r with rest := (r.rest.perform w.shared).1 }, todo⟩
    rw [hold, hnew, Client.unfinished_of_next hnext]
    exact .refl _
  · rw [hstep, unfinished, unfinished]
    obtain ⟨before, behind, hold, hnew⟩ := exists_flatMap_set hc ⟨none, todo⟩
    rw [hold, hnew, Client.unfinished_of_next hnext, List.map_append, List.append_assoc]
    apply List.Perm.append_left
    rw [List.append_assoc before, List.append_assoc before]
    have hmiddle : (before ++ r.op :: (todo ++ behind)).Perm
        (r.op :: (before ++ (todo ++ behind))) := List.perm_middle
    exact hmiddle.symm

/-- A schedule neither loses nor invents an operation. -/
theorem operations_run (program : ω → Prog ε σ α) (w : Workload ε σ α ω) (schedule : List Nat) :
    (w.run program schedule).operations.Perm w.operations := by
  induction schedule generalizing w with
  | nil => exact .refl _
  | cons i schedule ih => exact (ih (w.step program i)).trans (operations_step program w i)

/-- At the start no operation has ended. -/
theorem operations_initial (s : σ) (ops : List (List ω)) :
    (initial s ops : Workload ε σ α ω).operations = ops.flatten := by
  rw [operations, unfinished, initial, List.map_nil, List.nil_append, List.flatMap_map,
    ← List.flatMap_id]
  rfl

end Workload

/-! ## Linearization points -/

/-- A call that ends finds a place among those that ended before, behind all that had ended when it
began, and what is known of the operations in progress is still known. -/
def FindsPlace (S : SequentialObject ω (Except ε α) τ) (m m' : τ)
    (Pending : List (Call ω (Except ε α)) → Running ε σ α ω → Prop)
    (calls : List (Call ω (Except ε α))) (c : Call ω (Except ε α)) : Prop :=
  ∃ before behind, calls = before ++ behind ∧ (∀ d ∈ behind, c.start ≤ d.stop) ∧
    S.Legal m (before ++ c :: behind) ∧ S.after m (before ++ c :: behind) = m' ∧
    ∀ r, r.start ≤ c.stop → Pending calls r → Pending (before ++ c :: behind) r

section FindsPlace

variable {S : SequentialObject ω (Except ε α) τ} {m m' : τ}
  {Pending : List (Call ω (Except ε α)) → Running ε σ α ω → Prop}
  {calls before behind : List (Call ω (Except ε α))} {c d : Call ω (Except ε α)}

/-- A call whose answer is right now stands behind all others. -/
theorem findsPlace_last (hlegal : S.Legal m calls)
    (hanswers : S.Answers (S.after m calls) c.op c.result)
    (heffect : S.effect (S.after m calls) c.op = m')
    (hkeeps : ∀ r, r.start ≤ c.stop → Pending calls r → Pending (calls ++ [c]) r) :
    FindsPlace S m m' Pending calls c := by
  refine ⟨calls, [], (List.append_nil calls).symm, nofun, ?_, ?_, hkeeps⟩
  · exact SequentialObject.legal_append.mpr ⟨hlegal, hanswers, trivial⟩
  · rw [SequentialObject.after_append]
    exact heffect

/-- A call whose effect another one hides stands in front of it. -/
theorem findsPlace_before (hlegal : S.Legal m (before ++ d :: behind))
    (hstop : ∀ x ∈ d :: behind, c.start ≤ x.stop)
    (hanswers : S.Answers (S.after m before) c.op c.result)
    (hhidden : S.effect (S.effect (S.after m before) c.op) d.op = S.effect (S.after m before) d.op)
    (hnext : S.Answers (S.effect (S.after m before) c.op) d.op d.result)
    (hafter : S.after m (before ++ d :: behind) = m')
    (hkeeps : ∀ r, r.start ≤ c.stop → Pending (before ++ d :: behind) r →
      Pending (before ++ c :: d :: behind) r) :
    FindsPlace S m m' Pending (before ++ d :: behind) c := by
  obtain ⟨hbefore, -, hbehind⟩ := SequentialObject.legal_append.mp hlegal
  refine ⟨before, d :: behind, rfl, hstop, ?_, ?_, hkeeps⟩
  · rw [SequentialObject.legal_append, SequentialObject.legal_cons, SequentialObject.legal_cons,
      hhidden]
    exact ⟨hbefore, hanswers, hnext, hbehind⟩
  · rw [← hafter, SequentialObject.after_append, SequentialObject.after_append,
      SequentialObject.after_cons, SequentialObject.after_cons, SequentialObject.after_cons,
      hhidden]

end FindsPlace

/-- What is shown of the steps of the operations, one at a time, so that all their interleavings
are linearizable. What is known of an operation in progress is a property of the order of the
calls that have ended. A step that ends no operation changes nothing, and a step that ends one
finds it a place in the order. -/
structure LinearizationPoints (S : SequentialObject ω (Except ε α) τ) (abs : σ → τ)
    (program : ω → Prog ε σ α) (Valid : ω → Prop) (m : τ)
    (Pending : List (Call ω (Except ε α)) → Running ε σ α ω → Prop) : Prop where
  fresh : ∀ calls op clock, Valid op → Pending calls ⟨op, clock, program op⟩
  advance : ∀ calls r s, S.Legal m calls → S.after m calls = abs s → Pending calls r →
    (r.rest.perform s).1.result? = none →
      abs (r.rest.perform s).2 = abs s ∧ Pending calls { r with rest := (r.rest.perform s).1 }
  finish : ∀ calls r s clock result, S.Legal m calls → S.after m calls = abs s →
    Pending calls r → (r.rest.perform s).1.result? = some result →
      FindsPlace S m (abs (r.rest.perform s).2) Pending calls ⟨r.op, result, r.start, clock⟩

namespace LinearizationPoints

variable {S : SequentialObject ω (Except ε α) τ} {abs : σ → τ} {program : ω → Prog ε σ α}
  {Valid : ω → Prop} {m : τ} {Pending : List (Call ω (Except ε α)) → Running ε σ α ω → Prop}

/-- The order of the calls that have ended, and what is known of the clients. -/
structure Holds (S : SequentialObject ω (Except ε α) τ) (abs : σ → τ) (Valid : ω → Prop) (m : τ)
    (Pending : List (Call ω (Except ε α)) → Running ε σ α ω → Prop) (w : Workload ε σ α ω)
    (calls : List (Call ω (Except ε α))) : Prop where
  linearizes : S.Linearizes m (abs w.shared) w.history calls
  started : ∀ d ∈ w.history, d.start ≤ w.clock
  running : ∀ c ∈ w.clients, ∀ r ∈ c.running, r.start ≤ w.clock ∧ Pending calls r
  todo : ∀ c ∈ w.clients, ∀ op ∈ c.todo, Valid op

/-- What is known of the operation that a client goes on with. -/
theorem Holds.next (hpoints : LinearizationPoints S abs program Valid m Pending)
    {w : Workload ε σ α ω} {calls : List (Call ω (Except ε α))}
    (h : Holds S abs Valid m Pending w calls) {c : Client ε σ α ω} (hc : c ∈ w.clients)
    {r : Running ε σ α ω} {todo : List ω} (hnext : c.next program w.clock = some (r, todo)) :
    r.start ≤ w.clock ∧ Pending calls r ∧ ∀ op ∈ todo, Valid op := by
  have hrunning := h.running c hc
  have htodo := h.todo c hc
  obtain ⟨running, ops⟩ := c
  cases running with
  | some running =>
    obtain ⟨rfl, rfl⟩ := Prod.mk.inj (Option.some.inj hnext)
    obtain ⟨hstart, hpending⟩ := hrunning _ rfl
    exact ⟨hstart, hpending, htodo⟩
  | none =>
    cases ops with
    | nil => cases hnext
    | cons op ops =>
      obtain ⟨rfl, rfl⟩ := Prod.mk.inj (Option.some.inj hnext)
      refine ⟨Nat.le_refl _, hpoints.fresh calls op w.clock (htodo op List.mem_cons_self), ?_⟩
      exact fun op' hop => htodo op' (List.mem_cons_of_mem op hop)

/-- One step keeps an order of the calls, with the call in its place that the step ends. -/
theorem Holds.step (hpoints : LinearizationPoints S abs program Valid m Pending)
    {w : Workload ε σ α ω} {calls : List (Call ω (Except ε α))}
    (h : Holds S abs Valid m Pending w calls) (i : Nat) :
    ∃ calls', Holds S abs Valid m Pending (w.step program i) calls' := by
  rcases w.step_cases program i with hsame | ⟨c, r, todo, hc, hnext, hstep⟩
  · rw [hsame]
    exact ⟨calls, h⟩
  obtain ⟨hstart, hpending, hvalid⟩ := h.next hpoints (List.mem_of_getElem? hc) hnext
  have hlin := h.linearizes
  have hlater : w.clock ≤ w.clock + 1 := Nat.le_succ _
  rcases hstep with ⟨hresult, hstep⟩ | ⟨result, hresult, hstep⟩
  · rw [hstep]
    obtain ⟨habs, hpending'⟩ :=
      hpoints.advance calls r w.shared hlin.legal hlin.after hpending hresult
    refine ⟨calls, ?_, ?_, ?_, ?_⟩
    · exact ⟨hlin.perm, hlin.legal, hlin.after.trans habs.symm, hlin.order⟩
    · exact fun d hd => Nat.le_trans (h.started d hd) hlater
    · intro c' hc' r' hr'
      rcases List.mem_or_eq_of_mem_set hc' with hc' | rfl
      · exact (h.running c' hc' r' hr').imp_left fun hle => Nat.le_trans hle hlater
      · obtain rfl := Option.some.inj hr'
        exact ⟨Nat.le_trans hstart hlater, hpending'⟩
    · intro c' hc'
      rcases List.mem_or_eq_of_mem_set hc' with hc' | rfl
      · exact h.todo c' hc'
      · exact hvalid
  · rw [hstep]
    obtain ⟨before, behind, rfl, hbehind, hlegal, hafter, hkeeps⟩ :=
      hpoints.finish calls r w.shared w.clock result hlin.legal hlin.after hpending hresult
    refine ⟨_, hlin.insert hlegal hafter h.started hbehind, ?_, ?_, ?_⟩
    · intro d hd
      rcases List.mem_append.mp hd with hd | hd
      · exact Nat.le_trans (h.started d hd) hlater
      · rw [List.mem_singleton.mp hd]
        exact Nat.le_trans hstart hlater
    · intro c' hc' r' hr'
      rcases List.mem_or_eq_of_mem_set hc' with hc' | rfl
      · obtain ⟨hstart', hpending'⟩ := h.running c' hc' r' hr'
        exact ⟨Nat.le_trans hstart' hlater, hkeeps r' hstart' hpending'⟩
      · cases hr'
    · intro c' hc'
      rcases List.mem_or_eq_of_mem_set hc' with hc' | rfl
      · exact h.todo c' hc'
      · exact hvalid

/-- However the steps of the clients are interleaved, the calls that have ended are
linearizable. -/
theorem exists_linearizes {s : σ} {operations : List (List ω)}
    (hpoints : LinearizationPoints S abs program Valid (abs s) Pending)
    (hvalid : ∀ todo ∈ operations, ∀ op ∈ todo, Valid op) (schedule : List Nat) :
    ∃ calls, S.Linearizes (abs s)
      (abs ((Workload.initial s operations).run program schedule).shared)
      ((Workload.initial s operations).run program schedule).history calls := by
  have hinitial : Holds S abs Valid (abs s) Pending (Workload.initial s operations) [] := by
    refine ⟨.nil, nofun, ?_, ?_⟩
    · intro c hc r hr
      obtain ⟨todo, -, rfl⟩ := List.mem_map.mp hc
      cases hr
    · intro c hc
      obtain ⟨todo, htodo, rfl⟩ := List.mem_map.mp hc
      exact hvalid todo htodo
  have hrun : ∀ w : Workload ε σ α ω,
      (∃ calls, Holds S abs Valid (abs s) Pending w calls) →
        ∃ calls, Holds S abs Valid (abs s) Pending (w.run program schedule) calls := by
    intro w
    induction schedule generalizing w with
    | nil => exact id
    | cons i schedule ih =>
      rintro ⟨calls, h⟩
      exact ih (w.step program i) (h.step hpoints i)
  obtain ⟨calls, h⟩ := hrun _ ⟨[], hinitial⟩
  exact ⟨calls, h.linearizes⟩

end LinearizationPoints

end Library
