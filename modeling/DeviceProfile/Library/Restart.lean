import DeviceProfile.Library.Program

/-!
# Programs that are stopped and run again

A program may be stopped after any of its steps and later run from its start, on the state it
left. A sequence of programs that move a state through stages, where no program touches a stage
behind its own, comes to the same end however often it was stopped before.
-/

namespace Library

namespace Prog

variable {ε σ α β : Type}

/-- The states a program passes through when it runs alone, the first one among them. -/
def passes : Prog ε σ α → σ → List σ
  | ret _, s => [s]
  | fail _, s => [s]
  | step upd next, s => s :: (next s).passes (upd s)

/-- The second state is left by runs from the first one, each of them stopped somewhere. -/
def Stopped (m : Prog ε σ α) : σ → σ → Prop := Relation.ReflTransGen fun s t => t ∈ m.passes s

/-- The program leads from one state to another and passes through no third one. -/
structure Moves (m : Prog ε σ Unit) (s t : σ) : Prop where
  exec : m.exec s = (.ok (), t)
  passes : ∀ x ∈ m.passes s, x = s ∨ x = t

theorem moves_ret (s : σ) : (ret () : Prog ε σ Unit).Moves s s :=
  ⟨rfl, fun _ h => .inl (List.mem_singleton.mp h)⟩

/-- A step that reads lets the rest of the program move the state. -/
theorem moves_step_id {next : σ → Prog ε σ Unit} {s t : σ} (h : (next s).Moves s t) :
    (step id next).Moves s t := by
  refine ⟨h.exec, fun x hx => ?_⟩
  rcases List.mem_cons.mp hx with rfl | hx
  · exact .inl rfl
  · exact h.passes x hx

/-- What a sequence passes through, its first part passes through, or the rest behind it. -/
theorem mem_passes_bind {m : Prog ε σ α} {f : α → Prog ε σ β} {s x : σ}
    (h : x ∈ (m >>= f).passes s) :
    x ∈ m.passes s ∨ ∃ a s', m.exec s = (.ok a, s') ∧ x ∈ (f a).passes s' := by
  induction m generalizing s with
  | ret a => exact .inr ⟨a, s, rfl, h⟩
  | fail e => exact .inl h
  | step upd next ih =>
    rcases List.mem_cons.mp h with rfl | h
    · exact .inl List.mem_cons_self
    · exact (ih s h).imp_left (List.mem_cons_of_mem s)

/-- What the first part passes, the sequence passes. -/
theorem mem_passes_bind_left {m : Prog ε σ α} {s x : σ} (h : x ∈ m.passes s)
    (f : α → Prog ε σ β) : x ∈ (m >>= f).passes s := by
  induction m generalizing s with
  | ret a =>
    rw [List.mem_singleton.mp h]
    cases hf : f a <;> rw [ret_bind, hf] <;> simp only [passes, List.mem_cons, true_or]
  | fail e => exact h
  | step upd next ih =>
    rcases List.mem_cons.mp h with rfl | h
    · exact List.mem_cons_self
    · exact List.mem_cons_of_mem s (ih s h)

/-- A program may also be stopped behind its last step. -/
theorem exec_snd_mem_passes (m : Prog ε σ α) (s : σ) : (m.exec s).2 ∈ m.passes s := by
  induction m generalizing s with
  | ret a => exact List.mem_singleton.mpr rfl
  | fail e => exact List.mem_singleton.mpr rfl
  | step upd next ih => exact List.mem_cons_of_mem s (ih s (upd s))

/-- Run programs one after the other. -/
def runAll : List (Prog ε σ Unit) → Prog ε σ Unit
  | [] => ret ()
  | m :: ms => m >>= fun _ => runAll ms

/-- From the stage with its number each program moves the state to the next stage, and a stage
behind that it leaves alone. -/
def Staged (stage : Nat → σ) (first : Nat) (ms : List (Prog ε σ Unit)) : Prop :=
  ∀ i m, ms[i]? = some m → ∀ k, first + i ≤ k → k ≤ first + ms.length →
    m.Moves (stage k) (stage (max k (first + i + 1)))

/-- After the first program the rest is staged one later. -/
theorem Staged.tail {stage : Nat → σ} {first : Nat} {m : Prog ε σ Unit}
    {ms : List (Prog ε σ Unit)} (h : Staged stage first (m :: ms)) :
    Staged stage (first + 1) ms := by
  intro i m' hm' k hle hlast
  have hshift : first + 1 + i = first + (i + 1) := by omega
  rw [hshift]
  apply h (i + 1) m' hm' k
  · omega
  · rw [List.length_cons]
    omega

/-- The whole sequence comes from any of its stages to the last one, through the stages between. -/
theorem Staged.run {stage : Nat → σ} {first : Nat} {ms : List (Prog ε σ Unit)}
    (h : Staged stage first ms) {k : Nat} (hfirst : first ≤ k) (hlast : k ≤ first + ms.length) :
    (runAll ms).exec (stage k) = (.ok (), stage (first + ms.length)) ∧
      ∀ x ∈ (runAll ms).passes (stage k),
        ∃ l, first ≤ l ∧ l ≤ first + ms.length ∧ x = stage l := by
  induction ms generalizing first k with
  | nil =>
    obtain rfl : first = k := Nat.le_antisymm hfirst hlast
    exact ⟨rfl, fun x hx => ⟨first, hfirst, hlast, List.mem_singleton.mp hx⟩⟩
  | cons m ms ih =>
    have hlength : first + (m :: ms).length = first + 1 + ms.length := by
      rw [List.length_cons]
      omega
    have hmoves := h 0 m rfl k hfirst hlast
    rw [hlength] at hlast ⊢
    have hfirst' : first + 1 ≤ max k (first + 0 + 1) := by omega
    obtain ⟨hexec, hpasses⟩ := ih h.tail hfirst' (by omega)
    refine ⟨(exec_bind_ok hmoves.exec _).trans hexec, fun x hx => ?_⟩
    rcases mem_passes_bind hx with hx | ⟨_, s', hs', hx⟩
    · rcases hmoves.passes x hx with rfl | rfl
      · exact ⟨k, hfirst, hlast, rfl⟩
      · exact ⟨_, by omega, by omega, rfl⟩
    · obtain rfl := (Prod.mk.inj (hs'.symm.trans hmoves.exec)).2
      obtain ⟨l, hfirst', hlast', hl⟩ := hpasses x hx
      exact ⟨l, by omega, hlast', hl⟩

/-- However often it was stopped, a sequence in stages comes to its last stage. -/
theorem Staged.exec_of_stopped {stage : Nat → σ} {ms : List (Prog ε σ Unit)}
    (h : Staged stage 0 ms) {s : σ} (hstopped : (runAll ms).Stopped (stage 0) s) :
    (runAll ms).exec s = (.ok (), stage ms.length) := by
  have hstage : ∃ l, l ≤ ms.length ∧ s = stage l := by
    induction hstopped with
    | refl => exact ⟨0, Nat.zero_le _, rfl⟩
    | tail _ hpass ih =>
      obtain ⟨l, hl, rfl⟩ := ih
      obtain ⟨l', -, hl', hs⟩ := (h.run (Nat.zero_le l) (by omega)).2 _ hpass
      exact ⟨l', by omega, hs⟩
  obtain ⟨l, hl, rfl⟩ := hstage
  have hexec := (h.run (Nat.zero_le l) (by omega)).1
  rwa [Nat.zero_add] at hexec

end Prog

end Library
