import Mathlib.Logic.Relation

/-!
# Programs that act on a shared state one atomic step at a time

A program either returns, ends early with an error code, or performs one atomic
step on the state and continues. Running a program alone gives its sequential
meaning. A section under a lock is a program collapsed to a single step. Frame
properties are relations that every step of a program meets from any state, so
they hold however the steps of other programs fall between them.
-/

namespace Library

/-- A finite program over the state `σ` with error codes `ε`. -/
inductive Prog (ε σ α : Type) where
  /-- Return a value. -/
  | ret (a : α)
  /-- End the program with an error code, keeping the state. -/
  | fail (e : ε)
  /-- One atomic step: both functions read the state before the step. -/
  | step (upd : σ → σ) (next : σ → Prog ε σ α)

namespace Prog

variable {ε σ α β γ : Type}

/-- Continue with the value of the first program. -/
def bind : Prog ε σ α → (α → Prog ε σ β) → Prog ε σ β
  | ret a, f => f a
  | fail e, _ => fail e
  | step upd next, f => step upd fun s => (next s).bind f

instance : Monad (Prog ε σ) where
  pure := ret
  bind := bind

instance : MonadExcept ε (Prog ε σ) where
  throw := fail
  tryCatch m h := match m with
    | fail e => h e
    | m => m

@[simp] theorem pure_eq (a : α) : (pure a : Prog ε σ α) = ret a := rfl

@[simp] theorem throw_eq (e : ε) : (throw e : Prog ε σ α) = fail e := rfl

@[simp] theorem ret_bind (a : α) (f : α → Prog ε σ β) : (ret a : Prog ε σ α) >>= f = f a := rfl

@[simp] theorem fail_bind (e : ε) (f : α → Prog ε σ β) :
    (fail e : Prog ε σ α) >>= f = fail e := rfl

@[simp] theorem step_bind (upd : σ → σ) (next : σ → Prog ε σ α) (f : α → Prog ε σ β) :
    step upd next >>= f = step upd fun s => next s >>= f := rfl

/-- Sequences associate. -/
theorem bind_assoc (m : Prog ε σ α) (f : α → Prog ε σ β) (g : β → Prog ε σ γ) :
    m >>= f >>= g = m >>= fun a => f a >>= g := by
  induction m with
  | ret a => rfl
  | fail e => rfl
  | step upd next ih =>
    rw [step_bind, step_bind, step_bind]
    exact congrArg (step upd) (funext ih)

/-- Returning nothing behind a program that returns nothing changes nothing. -/
theorem bind_ret_unit (m : Prog ε σ Unit) : (m >>= fun _ => ret ()) = m := by
  induction m with
  | ret a => rfl
  | fail e => rfl
  | step upd next ih => exact congrArg (step upd) (funext ih)

/-- Run a program alone; the state is kept when it ends with an error. -/
def exec : Prog ε σ α → σ → Except ε α × σ
  | ret a, s => (.ok a, s)
  | fail e, s => (.error e, s)
  | step upd next, s => (next s).exec (upd s)

@[simp] theorem exec_ret (a : α) (s : σ) : (ret a : Prog ε σ α).exec s = (.ok a, s) := rfl

@[simp] theorem exec_fail (e : ε) (s : σ) : (fail e : Prog ε σ α).exec s = (.error e, s) := rfl

@[simp] theorem exec_step (upd : σ → σ) (next : σ → Prog ε σ α) (s : σ) :
    (step upd next).exec s = (next s).exec (upd s) := rfl

/-- The second program starts in the state where the first one returned. -/
theorem exec_bind (m : Prog ε σ α) (f : α → Prog ε σ β) (s : σ) :
    (m >>= f).exec s = match m.exec s with
      | (.ok a, s') => (f a).exec s'
      | (.error e, s') => (.error e, s') := by
  induction m generalizing s with
  | ret a => rfl
  | fail e => rfl
  | step upd next ih => exact ih s (upd s)

/-- A program that returned hands its value and state to the continuation. -/
theorem exec_bind_ok {m : Prog ε σ α} {s s' : σ} {a : α} (h : m.exec s = (.ok a, s'))
    (f : α → Prog ε σ β) : (m >>= f).exec s = (f a).exec s' := by
  rw [exec_bind, h]

/-- A program that failed ends the whole sequence in its own final state. -/
theorem exec_bind_error {m : Prog ε σ α} {s s' : σ} {e : ε} (h : m.exec s = (.error e, s'))
    (f : α → Prog ε σ β) : (m >>= f).exec s = (.error e, s') := by
  rw [exec_bind, h]

/-- A sequence that ended either failed in its first part or ran both of them. -/
theorem exec_bind_cases {m : Prog ε σ α} {f : α → Prog ε σ β} {s s' : σ} {r : Except ε β}
    (h : (m >>= f).exec s = (r, s')) :
    (∃ a s₁, m.exec s = (.ok a, s₁) ∧ (f a).exec s₁ = (r, s')) ∨
      ∃ e, m.exec s = (.error e, s') ∧ r = .error e := by
  rw [exec_bind] at h
  split at h
  case h_1 a s₁ hm => exact Or.inl ⟨a, s₁, hm, h⟩
  case h_2 e s₁ hm =>
    obtain ⟨rfl, rfl⟩ := Prod.mk.inj h
    exact Or.inr ⟨e, hm, rfl⟩

/-- Run a program whose error code the caller looks at, or ignores, itself. -/
def attempt : Prog ε σ α → Prog ε σ (Except ε α)
  | ret a => ret (.ok a)
  | fail e => ret (.error e)
  | step upd next => step upd fun s => (next s).attempt

@[simp] theorem exec_attempt (m : Prog ε σ α) (s : σ) :
    m.attempt.exec s = (.ok (m.exec s).1, (m.exec s).2) := by
  induction m generalizing s with
  | ret a => rfl
  | fail e => rfl
  | step upd next ih => exact ih s (upd s)

/-- The value of a program, or a default when its error code is ignored. -/
def getD (m : Prog ε σ α) (d : α) : Prog ε σ α := do
  match ← m.attempt with
  | .ok a => return a
  | .error _ => return d

/-- An ignored error leaves the default value, and the state reached so far. -/
theorem exec_getD (m : Prog ε σ α) (d : α) (s : σ) :
    (m.getD d).exec s = (.ok ((m.exec s).1.toOption.getD d), (m.exec s).2) := by
  rw [getD, exec_bind_ok (exec_attempt m s)]
  cases (m.exec s).1 <;> rfl

/-- What a program whose errors are ignored delivers comes from one run of it. -/
theorem exec_getD_cases {m : Prog ε σ α} {d : α} {s s' : σ} {r : Except ε α}
    (h : (m.getD d).exec s = (r, s')) :
    ∃ x, m.exec s = (x, s') ∧ r = .ok (x.toOption.getD d) := by
  rw [exec_getD] at h
  obtain ⟨rfl, rfl⟩ := Prod.mk.inj h
  exact ⟨_, rfl, rfl⟩

/-- Replace the error code of a program. -/
def orFail (m : Prog ε σ α) (e : ε) : Prog ε σ α := do
  match ← m.attempt with
  | .ok a => return a
  | .error _ => throw e

/-- A replaced error code keeps the value, and the state reached so far. -/
theorem exec_orFail (m : Prog ε σ α) (e : ε) (s : σ) :
    (m.orFail e).exec s = ((m.exec s).1.mapError fun _ => e, (m.exec s).2) := by
  rw [orFail, exec_bind_ok (exec_attempt m s)]
  cases (m.exec s).1 <;> rfl

/-- A program with a replaced error code comes from one run of it. -/
theorem exec_orFail_cases {m : Prog ε σ α} {e : ε} {s s' : σ} {r : Except ε α}
    (h : (m.orFail e).exec s = (r, s')) :
    ∃ x, m.exec s = (x, s') ∧ r = x.mapError fun _ => e := by
  rw [exec_orFail] at h
  obtain ⟨rfl, rfl⟩ := Prod.mk.inj h
  exact ⟨_, rfl, rfl⟩

/-- What is left of a program that ended with the given result. -/
def ofExcept : Except ε α → Prog ε σ α
  | .ok a => ret a
  | .error e => fail e

/-- A section under a lock: the whole program is one atomic step. -/
def atomic (m : Prog ε σ α) : Prog ε σ α :=
  step (fun s => (m.exec s).2) fun s => ofExcept (m.exec s).1

/-- Alone, a locked section computes what its body computes. -/
@[simp] theorem exec_atomic (m : Prog ε σ α) (s : σ) : m.atomic.exec s = m.exec s := by
  rw [atomic, exec_step]
  cases h : m.exec s with
  | mk r s' => cases r <;> rfl

/-- Every step of the program, from any state, relates the states around it. -/
def Steps (G : σ → σ → Prop) : Prog ε σ α → Prop
  | ret _ => True
  | fail _ => True
  | step upd next => ∀ s, G s (upd s) ∧ (next s).Steps G

variable {G : σ → σ → Prop}

theorem steps_bind {m : Prog ε σ α} {f : α → Prog ε σ β} (hm : m.Steps G)
    (hf : ∀ a, (f a).Steps G) : (m >>= f).Steps G := by
  induction m with
  | ret a => exact hf a
  | fail e => trivial
  | step upd next ih => exact fun s => ⟨(hm s).1, ih s (hm s).2⟩

/-- What is left after the first part of a sequence returned takes the steps of the sequence. -/
theorem Steps.of_bind {m : Prog ε σ α} {f : α → Prog ε σ β} (h : (m >>= f).Steps G) {s s' : σ}
    {a : α} (hm : m.exec s = (.ok a, s')) : (f a).Steps G := by
  induction m generalizing s with
  | ret b =>
    obtain ⟨hb, _⟩ := Prod.mk.inj hm
    rw [← Except.ok.inj hb]
    exact h
  | fail e => cases (Prod.mk.inj hm).1
  | step upd next ih => exact ih s (h s).2 hm

theorem steps_attempt {m : Prog ε σ α} (hm : m.Steps G) : m.attempt.Steps G := by
  induction m with
  | ret a => trivial
  | fail e => trivial
  | step upd next ih => exact fun s => ⟨(hm s).1, ih s (hm s).2⟩

theorem steps_getD {m : Prog ε σ α} (hm : m.Steps G) (d : α) : (m.getD d).Steps G := by
  refine steps_bind (steps_attempt hm) fun r => ?_
  cases r <;> trivial

theorem steps_orFail {m : Prog ε σ α} (hm : m.Steps G) (e : ε) : (m.orFail e).Steps G := by
  refine steps_bind (steps_attempt hm) fun r => ?_
  cases r <;> trivial

theorem Steps.mono {H : σ → σ → Prop} {m : Prog ε σ α} (hm : m.Steps G)
    (h : ∀ s s', G s s' → H s s') : m.Steps H := by
  induction m with
  | ret a => trivial
  | fail e => trivial
  | step upd next ih => exact fun s => ⟨h _ _ (hm s).1, ih s (hm s).2⟩

/-- A relation that composes holds between the two ends of a whole run. -/
theorem Steps.exec {m : Prog ε σ α} (hm : m.Steps G) (hrefl : ∀ s, G s s)
    (htrans : ∀ a b c, G a b → G b c → G a c) (s : σ) : G s (m.exec s).2 := by
  induction m generalizing s with
  | ret a => exact hrefl s
  | fail e => exact hrefl s
  | step upd next ih => exact htrans _ _ _ (hm s).1 (ih s (hm s).2 (upd s))

/-- A locked section is one step from its start to its end. -/
theorem steps_atomic {m : Prog ε σ α} (h : ∀ s, G s (m.exec s).2) : m.atomic.Steps G := by
  intro s
  refine ⟨h s, ?_⟩
  change (ofExcept (m.exec s).1).Steps G
  cases (m.exec s).1 <;> trivial

end Prog

end Library
