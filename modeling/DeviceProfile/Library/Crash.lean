import DeviceProfile.Library.Restart

/-!
# Programs whose process may die

A crash specification has two sides. Every state in which the process may die meets the crash
condition, and a program that comes to its end meets its postcondition there. The rules follow
the way the program is put together. What a store becomes over such runs is described by the
accepted writes and by the changes between them that keep what is stored.
-/

namespace Library

namespace Prog

variable {ε σ α β : Type} {C : σ → Prop} {E : ε → σ → Prop}

/-- The program passes through states of the crash condition only; it returns with the first
postcondition and fails with the second one. -/
def Guards (C : σ → Prop) (Q : α → σ → Prop) (E : ε → σ → Prop) : Prog ε σ α → σ → Prop
  | ret a, s => C s ∧ Q a s
  | fail e, s => C s ∧ E e s
  | step upd next, s => C s ∧ (next s).Guards C Q E (upd s)

/-- Wherever the process dies, the crash condition holds. -/
theorem Guards.passes {Q : α → σ → Prop} {m : Prog ε σ α} {s x : σ} (h : m.Guards C Q E s)
    (hx : x ∈ m.passes s) : C x := by
  induction m generalizing s with
  | ret a =>
    rw [List.mem_singleton.mp hx]
    exact h.1
  | fail e =>
    rw [List.mem_singleton.mp hx]
    exact h.1
  | step upd next ih =>
    rcases List.mem_cons.mp hx with rfl | hx
    · exact h.1
    · exact ih s h.2 hx

theorem Guards.of_ok {Q : α → σ → Prop} {m : Prog ε σ α} {s s' : σ} {a : α}
    (h : m.Guards C Q E s) (hexec : m.exec s = (.ok a, s')) : Q a s' := by
  induction m generalizing s with
  | ret b =>
    obtain ⟨hb, rfl⟩ := Prod.mk.inj hexec
    rw [← Except.ok.inj hb]
    exact h.2
  | fail e => cases (Prod.mk.inj hexec).1
  | step upd next ih => exact ih s h.2 hexec

theorem Guards.of_error {Q : α → σ → Prop} {m : Prog ε σ α} {s s' : σ} {e : ε}
    (h : m.Guards C Q E s) (hexec : m.exec s = (.error e, s')) : E e s' := by
  induction m generalizing s with
  | ret b => cases (Prod.mk.inj hexec).1
  | fail e' =>
    obtain ⟨he, rfl⟩ := Prod.mk.inj hexec
    rw [← Except.error.inj he]
    exact h.2
  | step upd next ih => exact ih s h.2 hexec

/-- A program that guards more guards less. -/
theorem Guards.mono {D : σ → Prop} {F : ε → σ → Prop} {Q R : α → σ → Prop} {m : Prog ε σ α}
    {s : σ} (h : m.Guards C Q E s) (hC : ∀ s, C s → D s) (hQ : ∀ a s, C s → Q a s → R a s)
    (hE : ∀ e s, C s → E e s → F e s) : m.Guards D R F s := by
  induction m generalizing s with
  | ret a => exact ⟨hC s h.1, hQ a s h.1 h.2⟩
  | fail e => exact ⟨hC s h.1, hE e s h.1 h.2⟩
  | step upd next ih => exact ⟨hC s h.1, ih s h.2⟩

/-- The rest of a sequence starts where its first part returned. -/
theorem guards_bind {R : β → σ → Prop} {m : Prog ε σ α} {f : α → Prog ε σ β} {s : σ}
    (h : m.Guards C (fun a s' => (f a).Guards C R E s') E s) : (m >>= f).Guards C R E s := by
  induction m generalizing s with
  | ret a => exact h.2
  | fail e => exact h
  | step upd next ih => exact ⟨h.1, ih s h.2⟩

theorem guards_attempt {R : Except ε α → σ → Prop} {m : Prog ε σ α} {s : σ}
    (h : m.Guards C (fun a s' => R (.ok a) s') (fun e s' => R (.error e) s') s) :
    m.attempt.Guards C R E s := by
  induction m generalizing s with
  | ret a => exact h
  | fail e => exact h
  | step upd next ih => exact ⟨h.1, ih s h.2⟩

theorem guards_orFail {Q : α → σ → Prop} {m : Prog ε σ α} {e : ε} {s : σ}
    (h : m.Guards C Q (fun _ s' => E e s') s) : (m.orFail e).Guards C Q E s := by
  induction m generalizing s with
  | ret a => exact h
  | fail e' => exact h
  | step upd next ih => exact ⟨h.1, ih s h.2⟩

/-- Where errors are ignored, a failure returns the default. -/
theorem guards_getD {Q : α → σ → Prop} {m : Prog ε σ α} {d : α} {s : σ}
    (h : m.Guards C Q (fun _ s' => Q d s') s) : (m.getD d).Guards C Q E s := by
  induction m generalizing s with
  | ret a => exact h
  | fail e => exact h
  | step upd next ih => exact ⟨h.1, ih s h.2⟩

/-- Only the chosen branch runs. -/
theorem guards_ite {Q : α → σ → Prop} {p : Prop} [Decidable p] {m m' : Prog ε σ α} {s : σ}
    (h : p → m.Guards C Q E s) (h' : ¬p → m'.Guards C Q E s) :
    (if p then m else m').Guards C Q E s := by
  split
  · exact h ‹p›
  · exact h' ‹¬p›

end Prog

/-! ## What a store becomes -/

/-- A store after the given writes, in their order, with changes between them that keep what
is stored. -/
inductive Evolves {σ : Type} (keeps : σ → σ → Prop) (s : σ) : List (σ → σ) → σ → Prop where
  | start : Evolves keeps s [] s
  | keep {writes : List (σ → σ)} {t u : σ} (h : Evolves keeps s writes t) (hkeep : keeps t u) :
      Evolves keeps s writes u
  | write {writes : List (σ → σ)} {t : σ} (h : Evolves keeps s writes t) (f : σ → σ) :
      Evolves keeps s (writes ++ [f]) (f t)

end Library
