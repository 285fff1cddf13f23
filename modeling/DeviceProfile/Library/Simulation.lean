import DeviceProfile.Library.Rely

/-!
# An object that is used while others act on its state

An object answers calls and has an abstract state. A program for each call implements it if,
begun in a state that represents an abstract one, it ends with an answer that the object may give
and in a state that represents what the object becomes, whatever the others do between its steps.
Calls made one after the other then behave as calls of the object.
-/

namespace Library

variable {ε σ C A M : Type}

/-- The calls of an object with their answers, one after the other. -/
inductive Performs (Spec : C → A → M → M → Prop) : List C → List A → M → M → Prop where
  | nil (m : M) : Performs Spec [] [] m m
  | cons {c : C} {a : A} {cs : List C} {as : List A} {m m₁ m' : M} (first : Spec c a m m₁)
      (rest : Performs Spec cs as m₁ m') : Performs Spec (c :: cs) (a :: as) m m'

/-- The calls of a caller, one after the other. -/
def performAll (impl : C → Prog ε σ A) : List C → Prog ε σ (List A)
  | [] => return []
  | c :: cs => do
    let a ← impl c
    let as ← performAll impl cs
    return a :: as

namespace Prog

variable {R G : σ → σ → Prop} {α ι : Type} {Q : α → σ → Prop} {E : ε → σ → Prop}

/-- Where one of several assertions holds, each of them may be the one. -/
theorem relies_exists {m : Prog ε σ α} {A : ι → σ → Prop} (h : ∀ i, m.Relies R G Q E (A i)) :
    m.Relies R G Q E fun s => ∃ i, A i s := by
  cases m with
  | ret a => exact fun s ⟨i, hs⟩ => h i s hs
  | fail e => exact fun s ⟨i, hs⟩ => h i s hs
  | step upd next => exact fun s ⟨i, hs⟩ => h i s hs

/-- What does not depend on the state may be assumed. -/
theorem relies_and {m : Prog ε σ α} {p : Prop} {A : σ → Prop} (h : p → m.Relies R G Q E A) :
    m.Relies R G Q E fun s => p ∧ A s := by
  cases m with
  | ret a => exact fun s ⟨hp, hs⟩ => h hp s hs
  | fail e => exact fun s ⟨hp, hs⟩ => h hp s hs
  | step upd next => exact fun s ⟨hp, hs⟩ => h hp s hs

theorem Relies.imp {R' : α → σ → Prop} {m : Prog ε σ α} {A : σ → Prop}
    (h : m.Relies R G Q E A) (hQ : ∀ a s, Q a s → R' a s) : m.Relies R G R' E A := by
  induction m generalizing A with
  | ret a => exact fun s hs => hQ a s (h s hs)
  | fail e => exact h
  | step upd next ih =>
    intro s hs
    obtain ⟨hG, B, hB, hupd, hnext⟩ := h s hs
    exact ⟨hG, B, hB, hupd, ih s hnext⟩

/-- A program whose steps all meet the guarantee relies on nothing. -/
theorem Steps.relies {m : Prog ε σ α} (h : m.Steps G) :
    m.Relies R G (fun _ _ => True) (fun _ _ => True) fun _ => True := by
  induction m with
  | ret a => exact fun _ _ => trivial
  | fail e => exact fun _ _ => trivial
  | step upd next ih =>
    exact fun s _ => ⟨(h s).1, fun _ => True, fun _ _ _ _ => trivial, trivial, ih s (h s).2⟩

/-- A step that reads and changes the state at once. -/
def act (f : σ → α × σ) : Prog ε σ α := step (fun s => (f s).2) fun s => ret (f s).1

/-- An atomic call fits its triple when its one step does. -/
theorem relies_act {f : σ → α × σ} {A : σ → Prop} (hQ : ∀ a, Stable R (Q a))
    (h : ∀ s, A s → G s (f s).2 ∧ Q (f s).1 (f s).2) : (act f).Relies R G Q E A := by
  intro s hs
  obtain ⟨hG, hpost⟩ := h s hs
  exact ⟨hG, Q (f s).1, hQ _, hpost, fun _ hs' => hs'⟩

/-- Begun where an abstract state is represented, the program ends where one of those is that
the postcondition tells, whatever the others do between its steps. -/
def Simulates (R : σ → σ → Prop) (Rep : M → σ → Prop) (prog : Prog ε σ α) (m : M)
    (Q : α → M → Prop) : Prop :=
  prog.Relies R (fun _ _ => True) (fun a s => ∃ m', Q a m' ∧ Rep m' s) (fun _ _ => True) (Rep m)

variable {Rep : M → σ → Prop} {β : Type} {m : M} {P : α → M → Prop} {P' : β → M → Prop}

/-- A return simulates no operation. -/
theorem simulates_ret {a : α} (h : P a m) : (ret a : Prog ε σ α).Simulates R Rep m P :=
  fun _ hs => ⟨m, h, hs⟩

/-- A sequence simulates its parts. -/
theorem simulates_bind {prog : Prog ε σ α} {f : α → Prog ε σ β}
    (hprog : prog.Simulates R Rep m P) (hf : ∀ a m', P a m' → (f a).Simulates R Rep m' P') :
    (prog >>= f).Simulates R Rep m P' :=
  relies_bind hprog fun a => relies_exists fun m' => relies_and (hf a m')

/-- A step is looked at in the states that represent the abstract one. -/
theorem simulates_act (hRep : ∀ m, Stable R (Rep m)) {f : σ → α × σ}
    (h : ∀ s, Rep m s → ∃ m', P (f s).1 m' ∧ Rep m' (f s).2) :
    (act f : Prog ε σ α).Simulates R Rep m P := by
  refine relies_act (fun a s s' hR hs => ?_) fun s hs => ⟨trivial, h s hs⟩
  obtain ⟨m', hP, hs⟩ := hs
  exact ⟨m', hP, hRep m' s s' hR hs⟩

/-- The abstract state at the end may be replaced by one that is represented too. -/
theorem Simulates.represented {prog : Prog ε σ α} {P' : α → M → Prop}
    (h : prog.Simulates R Rep m P)
    (hP : ∀ a m', P a m' → ∃ m'', P' a m'' ∧ ∀ s, Rep m' s → Rep m'' s) :
    prog.Simulates R Rep m P' := by
  refine Relies.imp h fun a s hs => ?_
  obtain ⟨m', hPm, hs⟩ := hs
  obtain ⟨m'', hPm', hRep⟩ := hP a m' hPm
  exact ⟨m'', hPm', hRep s hs⟩

/-- What is said of the result can be weakened. -/
theorem Simulates.imp {prog : Prog ε σ α} {P' : α → M → Prop} (h : prog.Simulates R Rep m P)
    (hP : ∀ a m', P a m' → P' a m') : prog.Simulates R Rep m P' :=
  h.represented fun a m' hPm => ⟨m', hP a m' hPm, fun _ hs => hs⟩

end Prog

/-- The programs of the calls implement the object among others that take steps. -/
def Implements (R : σ → σ → Prop) (Spec : C → A → M → M → Prop) (Rep : M → σ → Prop)
    (impl : C → Prog ε σ A) : Prop :=
  ∀ c m, (impl c).Simulates R Rep m fun a m' => Spec c a m m'

variable {R : σ → σ → Prop} {Spec : C → A → M → M → Prop} {Rep : M → σ → Prop}
  {impl : C → Prog ε σ A}

/-- Calls that are implemented one by one are implemented one after the other. -/
theorem Implements.simulates (h : Implements R Spec Rep impl) (calls : List C) (m : M) :
    (performAll impl calls).Simulates R Rep m fun answers m' =>
      Performs Spec calls answers m m' := by
  induction calls generalizing m with
  | nil => exact Prog.simulates_ret (.nil m)
  | cons c cs ih =>
    refine Prog.simulates_bind (h c m) fun a m₁ hfirst => ?_
    refine Prog.simulates_bind (ih m₁) fun as m' hrest => ?_
    exact Prog.simulates_ret (.cons hfirst hrest)

/-- A caller among others whose steps it relies on: when its calls are answered, they were
calls of the object. -/
theorem Implements.run (h : Implements R Spec Rep impl) (hRep : ∀ m, Stable R (Rep m))
    {others : List (Prog ε σ (List A))} (hothers : ∀ other ∈ others, other.Steps R)
    (calls : List C) {m : M} {s : σ} (hs : Rep m s) (schedule : List Nat) {answers : List A}
    (hdone : (schedule.foldl Pool.schedule ⟨s, performAll impl calls :: others⟩).threads[0]? =
      some (.ret answers)) :
    ∃ m', Performs Spec calls answers m m' ∧
      Rep m' (schedule.foldl Pool.schedule ⟨s, performAll impl calls :: others⟩).shared := by
  have hstart : (⟨s, performAll impl calls :: others⟩ : Pool ε σ (List A)).Relies
      (fun i s s' => i = 0 → R s s') (fun i s s' => i ≠ 0 → R s s')
      (fun i answers s => i = 0 → ∃ m', Performs Spec calls answers m m' ∧ Rep m' s)
      fun _ _ _ => True := by
    intro i prog hprog
    cases i with
    | zero =>
      obtain rfl : performAll impl calls = prog := Option.some.inj hprog
      simp only [true_implies, ne_eq, not_true_eq_false, false_implies]
      exact ⟨Rep m, hRep m, hs, h.simulates calls m⟩
    | succ i =>
      have hsteps : prog.Steps fun s s' => i + 1 ≠ 0 → R s s' :=
        (hothers prog (List.mem_of_getElem? hprog)).mono fun _ _ hR _ => hR
      refine ⟨fun _ => True, fun _ _ _ _ => trivial, trivial, ?_⟩
      exact hsteps.relies.imp fun _ _ _ h => absurd h (Nat.succ_ne_zero i)
  have hcompatible : Compatible (fun i s s' => i = 0 → R s s')
      (fun i s s' => i ≠ 0 → R s s') := by
    rintro i j hij s s' hG rfl
    exact hG (Ne.symm hij)
  exact (hstart.run hcompatible schedule).of_ret hdone rfl

/-! ## Runs of the object -/

variable {calls before after : List C} {as : List A} {m m' : M}

/-- A split of the calls splits the answers. -/
theorem Performs.of_append (h : Performs Spec (before ++ after) as m m') :
    ∃ as₁ as₂ m₁, as = as₁ ++ as₂ ∧ Performs Spec before as₁ m m₁ ∧
      Performs Spec after as₂ m₁ m' := by
  induction before generalizing m as with
  | nil => exact ⟨[], as, m, rfl, .nil m, h⟩
  | cons c before ih =>
    cases h with
    | @cons _ a _ as _ _ _ hfirst hrest =>
      obtain ⟨as₁, as₂, m₁, rfl, hbefore, hafter⟩ := ih hrest
      exact ⟨a :: as₁, as₂, m₁, rfl, .cons hfirst hbefore, hafter⟩

/-- There is one answer for each call. -/
theorem Performs.length_eq (h : Performs Spec calls as m m') : as.length = calls.length := by
  induction h with
  | nil => rfl
  | cons _ _ ih => rw [List.length_cons, List.length_cons, ih]

/-- What no call breaks holds behind all of them. -/
theorem Performs.invariant {I : M → Prop} (h : Performs Spec calls as m m')
    (hI : ∀ c ∈ calls, ∀ a m m', Spec c a m m' → I m → I m') (hm : I m) : I m' := by
  induction h with
  | nil => exact hm
  | cons first rest ih =>
    exact ih (fun c hc => hI c (List.mem_cons_of_mem _ hc))
      (hI _ List.mem_cons_self _ _ _ first hm)

end Library
