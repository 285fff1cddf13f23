import Mathlib.Data.List.Basic

/-!
# Runs of a deterministic system

A run applies a list of events one after the other. A property that each
admitted event preserves holds after every run of admitted events.
-/

namespace Library

variable {σ ι : Type}

/-- Each event of the run is admitted in the state it meets. -/
def Admits (step : σ → ι → σ) (cond : σ → ι → Prop) : σ → List ι → Prop
  | _, [] => True
  | s, i :: rest => cond s i ∧ Admits step cond (step s i) rest

instance decidableAdmits (step : σ → ι → σ) (cond : σ → ι → Prop)
    [∀ s i, Decidable (cond s i)] : ∀ s events, Decidable (Admits step cond s events)
  | _, [] => isTrue trivial
  | s, i :: rest =>
    have := decidableAdmits step cond (step s i) rest
    inferInstanceAs (Decidable (_ ∧ _))

/-- What every admitted event preserves, every admitted run preserves. -/
theorem foldl_invariant {step : σ → ι → σ} {cond : σ → ι → Prop} {P : σ → Prop}
    (hstep : ∀ s i, P s → cond s i → P (step s i)) {s : σ} {events : List ι} (hs : P s)
    (hadm : Admits step cond s events) : P (events.foldl step s) := by
  induction events generalizing s with
  | nil => exact hs
  | cons i rest ih => exact ih (hstep s i hs hadm.1) hadm.2

/-- When exactly the admitted events preserve a property, exactly the admitted runs keep it
in every state they reach. -/
theorem admits_iff {step : σ → ι → σ} {cond : σ → ι → Prop} {I P : σ → Prop}
    (hI : ∀ s i, I s → I (step s i)) (hstep : ∀ s i, I s → P s → (P (step s i) ↔ cond s i))
    {s : σ} {events : List ι} (hIs : I s) (hs : P s) :
    Admits step cond s events ↔ ∀ n, P ((events.take n).foldl step s) := by
  induction events generalizing s with
  | nil => exact iff_of_true trivial fun n => by rw [List.take_nil]; exact hs
  | cons i rest ih =>
    constructor
    · rintro ⟨hc, hrest⟩ n
      cases n with
      | zero => exact hs
      | succ n => exact (ih (hI s i hIs) ((hstep s i hIs hs).mpr hc)).mp hrest n
    · intro h
      have hnext : P (step s i) := h 1
      exact ⟨(hstep s i hIs hs).mp hnext, (ih (hI s i hIs) hnext).mpr fun n => h (n + 1)⟩

/-- When only admitted events preserve a property, a run that keeps it in every state it
reaches is admitted. -/
theorem admits_of_forall_take {step : σ → ι → σ} {cond : σ → ι → Prop} {Q : ι → Prop}
    {I P : σ → Prop} (hI : ∀ s i, Q i → I s → I (step s i))
    (hcond : ∀ s i, I s → P s → P (step s i) → cond s i) {s : σ} {events : List ι}
    (hQ : ∀ i ∈ events, Q i) (hs : I s) (h : ∀ n, P ((events.take n).foldl step s)) :
    Admits step cond s events := by
  induction events generalizing s with
  | nil => trivial
  | cons i rest ih =>
    refine ⟨hcond s i hs (h 0) (h 1), ?_⟩
    apply ih (fun j hj => hQ j (List.mem_cons_of_mem i hj)) (hI s i (hQ i List.mem_cons_self) hs)
    exact fun n => h (n + 1)

/-- Without a condition every run is admitted. -/
theorem admits_of_forall {step : σ → ι → σ} {cond : σ → ι → Prop} (h : ∀ s i, cond s i) (s : σ)
    (events : List ι) : Admits step cond s events := by
  induction events generalizing s with
  | nil => trivial
  | cons i rest ih => exact ⟨h s i, ih _⟩

/-- A condition that follows from another one in every state a run can reach. -/
theorem Admits.imp_of_invariant {step : σ → ι → σ} {cond cond' : σ → ι → Prop} {I : σ → Prop}
    {s : σ} {events : List ι} (h : Admits step cond s events)
    (hI : ∀ s i, I s → I (step s i)) (himp : ∀ s i, I s → cond s i → cond' s i) (hs : I s) :
    Admits step cond' s events := by
  induction events generalizing s with
  | nil => trivial
  | cons i rest ih => exact ⟨himp s i hs h.1, ih h.2 (hI s i hs)⟩

/-- Steps that meet a condition meet a weaker one. -/
theorem Admits.imp {step : σ → ι → σ} {cond cond' : σ → ι → Prop} {s : σ} {events : List ι}
    (h : Admits step cond s events) (himp : ∀ s i, cond s i → cond' s i) :
    Admits step cond' s events :=
  h.imp_of_invariant (I := fun _ => True) (fun _ _ _ => trivial) (fun s i _ => himp s i) trivial

/-- The start of an admitted run is admitted. -/
theorem Admits.take {step : σ → ι → σ} {cond : σ → ι → Prop} {s : σ} {events : List ι}
    (h : Admits step cond s events) (n : Nat) : Admits step cond s (events.take n) := by
  induction events generalizing s n with
  | nil =>
    rw [List.take_nil]
    trivial
  | cons i rest ih =>
    cases n with
    | zero => trivial
    | succ n => exact ⟨h.1, ih h.2 n⟩

/-- Each event of an admitted run is admitted in the state that the events before it reach. -/
theorem Admits.get {step : σ → ι → σ} {cond : σ → ι → Prop} {s : σ} {events : List ι}
    (h : Admits step cond s events) {n : Nat} {i : ι} (hi : events[n]? = some i) :
    cond ((events.take n).foldl step s) i := by
  induction events generalizing s n with
  | nil => cases hi
  | cons j rest ih =>
    cases n with
    | zero =>
      obtain rfl : j = i := Option.some.inj hi
      exact h.1
    | succ n => exact ih h.2 hi

/-- A property of the events alone is one more condition on each of them. -/
theorem Admits.and_forall {step : σ → ι → σ} {cond : σ → ι → Prop} {Q : ι → Prop} {s : σ}
    {events : List ι} (h : Admits step cond s events) (hQ : ∀ i ∈ events, Q i) :
    Admits step (fun s i => cond s i ∧ Q i) s events := by
  induction events generalizing s with
  | nil => trivial
  | cons i rest ih =>
    exact ⟨⟨h.1, hQ i List.mem_cons_self⟩, ih h.2 fun j hj => hQ j (List.mem_cons_of_mem i hj)⟩

/-- Two conditions on a run are one. -/
theorem Admits.and {step : σ → ι → σ} {cond cond' : σ → ι → Prop} {s : σ} {events : List ι}
    (h : Admits step cond s events) (h' : Admits step cond' s events) :
    Admits step (fun s i => cond s i ∧ cond' s i) s events := by
  induction events generalizing s with
  | nil => trivial
  | cons i rest ih => exact ⟨⟨h.1, h'.1⟩, ih h.2 h'.2⟩

/-- A run is admitted when its start is, and its rest from the state that the start reaches. -/
theorem admits_append {step : σ → ι → σ} {cond : σ → ι → Prop} {s : σ} {events rest : List ι} :
    Admits step cond s (events ++ rest) ↔
      Admits step cond s events ∧ Admits step cond (events.foldl step s) rest := by
  induction events generalizing s with
  | nil => exact (iff_of_eq (true_and _)).symm
  | cons i others ih =>
    rw [List.cons_append, List.foldl_cons, Admits, Admits, ih, and_assoc]

/-- What every admitted event preserves holds in every state of an admitted run. -/
theorem Admits.invariant {step : σ → ι → σ} {cond : σ → ι → Prop} {Q : ι → Prop} {P : σ → Prop}
    {s : σ} {events : List ι} (h : Admits step cond s events) (hQ : ∀ i ∈ events, Q i)
    (hstep : ∀ s i, P s → Q i → cond s i → P (step s i)) (hs : P s) (n : Nat) :
    P ((events.take n).foldl step s) := by
  have hadm := (h.and_forall hQ).take n
  exact foldl_invariant (fun s i hP hc => hstep s i hP hc.2 hc.1) hs hadm

end Library
