import DeviceProfile.Library.Interleaving

/-!
# What a program may rely on

Between the steps of a program the other programs take theirs. A program carries an assertion
that their steps cannot break, makes only steps that it guarantees, and hands the assertion on to
the rest of its run. If what each program guarantees is what the others rely on, all of them keep
their assertions however they are interleaved.
-/

namespace Library

variable {ε σ α β : Type}

/-- The steps of others do not break the assertion. -/
def Stable (R : σ → σ → Prop) (A : σ → Prop) : Prop := ∀ s s', R s s' → A s → A s'

theorem Stable.and {R : σ → σ → Prop} {A B : σ → Prop} (hA : Stable R A) (hB : Stable R B) :
    Stable R fun s => A s ∧ B s :=
  fun s s' hR h => ⟨hA s s' hR h.1, hB s s' hR h.2⟩

namespace Prog

/-- From states of the assertion every step meets the guarantee and leads to an assertion that is
stable again; the program returns and fails with its postconditions. -/
def Relies (R G : σ → σ → Prop) (Q : α → σ → Prop) (E : ε → σ → Prop) :
    Prog ε σ α → (σ → Prop) → Prop
  | ret a, A => ∀ s, A s → Q a s
  | fail e, A => ∀ s, A s → E e s
  | step upd next, A => ∀ s, A s → G s (upd s) ∧
      ∃ B : σ → Prop, Stable R B ∧ B (upd s) ∧ (next s).Relies R G Q E B

/-- From one state on a program has a stable assertion that it may rely on. -/
def ReliesFrom (R G : σ → σ → Prop) (Q : α → σ → Prop) (E : ε → σ → Prop) (m : Prog ε σ α)
    (s : σ) : Prop :=
  ∃ A : σ → Prop, Stable R A ∧ A s ∧ m.Relies R G Q E A

/-- A program among others that make the same kind of steps. -/
abbrev ReliesOnPeers (G : σ → σ → Prop) (Q : α → σ → Prop) (E : ε → σ → Prop)
    (m : Prog ε σ α) (A : σ → Prop) : Prop :=
  m.Relies G G Q E A

variable {R G : σ → σ → Prop} {Q : α → σ → Prop} {E : ε → σ → Prop} {A B : σ → Prop}

/-- A stronger assumption gives the same triple. -/
theorem Relies.mono {m : Prog ε σ α} (h : m.Relies R G Q E A) (hBA : ∀ s, B s → A s) :
    m.Relies R G Q E B := by
  cases m with
  | ret a => exact fun s hs => h s (hBA s hs)
  | fail e => exact fun s hs => h s (hBA s hs)
  | step upd next => exact fun s hs => h s (hBA s hs)

/-- From a state where a kept assumption holds, the triple holds. -/
theorem Relies.reliesFrom {m : Prog ε σ α} {s : σ} (h : m.Relies R G Q E A) (hA : Stable R A)
    (hs : A s) : m.ReliesFrom R G Q E s :=
  ⟨A, hA, hs, h⟩

/-- A program that returns needs a postcondition that the others do not break. -/
theorem reliesFrom_ret {a : α} {s : σ} (hQ : Stable R (Q a)) (hs : Q a s) :
    (ret a : Prog ε σ α).ReliesFrom R G Q E s :=
  ⟨Q a, hQ, hs, fun _ h => h⟩

/-- A step that leads to one assertion from all states. -/
theorem relies_step {upd : σ → σ} {next : σ → Prog ε σ α} (hB : Stable R B)
    (h : ∀ s, A s → G s (upd s) ∧ B (upd s) ∧ (next s).Relies R G Q E B) :
    (step upd next).Relies R G Q E A := by
  intro s hs
  obtain ⟨hG, hupd, hnext⟩ := h s hs
  exact ⟨hG, B, hB, hupd, hnext⟩

/-- The rule for sequences: the first part's conclusion is what the second part relies on. -/
theorem relies_bind {Q' : β → σ → Prop} {m : Prog ε σ α} {f : α → Prog ε σ β}
    (hm : m.Relies R G Q E A) (hf : ∀ a, (f a).Relies R G Q' E (Q a)) :
    (m >>= f).Relies R G Q' E A := by
  induction m generalizing A with
  | ret a => exact (hf a).mono hm
  | fail e => exact hm
  | step upd next ih =>
    intro s hs
    obtain ⟨hG, B, hB, hupd, hnext⟩ := hm s hs
    exact ⟨hG, B, hB, hupd, ih s hnext⟩

/-- Where errors are ignored, both postconditions lead on. -/
theorem relies_getD {m : Prog ε σ α} {d : α} (h : m.Relies R G Q (fun _ s => Q d s) A) :
    (m.getD d).Relies R G Q E A := by
  induction m generalizing A with
  | ret a => exact h
  | fail e => exact h
  | step upd next ih =>
    intro s hs
    obtain ⟨hG, B, hB, hupd, hnext⟩ := h s hs
    exact ⟨hG, B, hB, hupd, ih s hnext⟩

end Prog

/-- What each program guarantees, the others may rely on. -/
def Compatible (R G : Nat → σ → σ → Prop) : Prop :=
  ∀ i j, i ≠ j → ∀ s s', G j s s' → R i s s'

/-- Programs that guarantee the relation they rely on go together. -/
theorem compatible_same (G : σ → σ → Prop) : Compatible (fun _ => G) fun _ => G :=
  fun _ _ _ _ _ h => h

namespace Pool

variable {R G : Nat → σ → σ → Prop} {Q : Nat → α → σ → Prop} {E : Nat → ε → σ → Prop}
  {c : Pool ε σ α}

/-- Every program has an assertion that holds, that the others do not break, and that it may
rely on. -/
def Relies (R G : Nat → σ → σ → Prop) (Q : Nat → α → σ → Prop) (E : Nat → ε → σ → Prop)
    (c : Pool ε σ α) : Prop :=
  ∀ i m, c.threads[i]? = some m →
    ∃ A : σ → Prop, Stable (R i) A ∧ A c.shared ∧ m.Relies (R i) (G i) (Q i) (E i) A

/-- A step of the pool meets the guarantee of the scheduled program, and all programs keep what
they rely on. -/
theorem Relies.schedule (h : c.Relies R G Q E) (hRG : Compatible R G) (i : Nat) :
    ((c.schedule i).shared = c.shared ∨ G i c.shared (c.schedule i).shared) ∧
      (c.schedule i).Relies R G Q E := by
  rcases c.schedule_cases i with hsame | ⟨upd, next, hi, hstep⟩
  · rw [hsame]
    exact ⟨Or.inl rfl, h⟩
  · obtain ⟨A, -, hA, hm⟩ := h i _ hi
    obtain ⟨hG, B, hB, hupd, hnext⟩ := hm c.shared hA
    rw [hstep]
    refine ⟨Or.inr hG, fun j m hj => ?_⟩
    by_cases hij : i = j
    · subst hij
      obtain ⟨hlt, -⟩ := List.getElem?_eq_some_iff.mp hi
      change (c.threads.set i (next c.shared))[i]? = some m at hj
      rw [List.getElem?_set_self hlt] at hj
      obtain rfl := Option.some.inj hj
      exact ⟨B, hB, hupd, hnext⟩
    · change (c.threads.set i (next c.shared))[j]? = some m at hj
      rw [List.getElem?_set_ne hij] at hj
      obtain ⟨A', hstable, hA', hm'⟩ := h j m hj
      exact ⟨A', hstable, hstable _ _ (hRG j i (Ne.symm hij) _ _ hG) hA', hm'⟩

/-- All programs keep what they rely on in every run. -/
theorem Relies.run (h : c.Relies R G Q E) (hRG : Compatible R G) (schedule : List Nat) :
    (schedule.foldl Pool.schedule c).Relies R G Q E := by
  induction schedule generalizing c with
  | nil => exact h
  | cons i rest ih => exact ih (h.schedule hRG i).2

/-- What every step keeps, a run keeps. -/
theorem Relies.invariant (h : c.Relies R G Q E) (hRG : Compatible R G) {I : σ → Prop}
    (hI : ∀ i, Stable (G i) I) (hs : I c.shared) (schedule : List Nat) :
    I (schedule.foldl Pool.schedule c).shared := by
  induction schedule generalizing c with
  | nil => exact hs
  | cons i rest ih =>
    obtain ⟨hstep, hnext⟩ := h.schedule hRG i
    refine ih hnext ?_
    rcases hstep with hsame | hG
    · rw [hsame]
      exact hs
    · exact hI i _ _ hG hs

/-- A program that has returned left its postcondition. -/
theorem Relies.of_ret (h : c.Relies R G Q E) {i : Nat} {a : α}
    (ha : c.threads[i]? = some (.ret a)) : Q i a c.shared := by
  obtain ⟨A, -, hA, hm⟩ := h i _ ha
  exact hm c.shared hA

end Pool

end Library
