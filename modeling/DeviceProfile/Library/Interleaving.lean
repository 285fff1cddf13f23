import DeviceProfile.Library.Program

/-!
# Interleavings of programs

A pool holds programs of several clients over one shared state. A schedule names
the client that performs its next atomic step, so the schedules of a pool are its
interleavings. Two rules serve every interleaving. A relation that all steps of
all programs meet holds across every step of the pool. A debt that some program
owes is, after each step, either paid or still owed, and a pool whose programs
have all returned owes nothing.
-/

namespace Library

variable {ε σ α β δ : Type}

namespace Prog

/-- The program returns after at most one step. -/
def Immediate : Prog ε σ α → Prop
  | ret _ => True
  | fail _ => False
  | step _ next => ∀ s, ∃ a, next s = ret a

/-- A locked section whose errors are looked at is one step. -/
theorem immediate_attempt_atomic (m : Prog ε σ α) (f : Except ε α → β) :
    (m.atomic.attempt >>= fun r => ret (f r) : Prog ε σ β).Immediate := by
  intro s
  refine ⟨f (m.exec s).1, ?_⟩
  change ((ofExcept (m.exec s).1).attempt >>= fun r => ret (f r)) = ret (f (m.exec s).1)
  cases (m.exec s).1 <;> rfl

/-- Every value the program can return, from whatever states its steps meet, has the property. -/
def Returns (Q : α → Prop) : Prog ε σ α → Prop
  | ret a => Q a
  | fail _ => True
  | step _ next => ∀ s, (next s).Returns Q

/-- From any state of the invariant, the program reaches the goal before it returns;
ending with an error code is no return. -/
def Owes (I P : σ → Prop) : Prog ε σ α → Prop
  | ret _ => False
  | fail _ => True
  | step upd next => ∀ s, I s → P (upd s) ∨ (next s).Owes I P

/-- Every step that makes a debt due either pays it or leaves it to the rest of the program. -/
def Honest (I : σ → Prop) (due paid : δ → σ → Prop) : Prog ε σ α → Prop
  | ret _ => True
  | fail _ => True
  | step upd next => ∀ s, I s →
      (∀ d, due d (upd s) → due d s ∨ paid d (upd s) ∨ (next s).Owes I (paid d)) ∧
        (next s).Honest I due paid

variable {I P : σ → Prop} {due paid : δ → σ → Prop}

/-- A sequence returns what its last part returns. -/
theorem returns_bind {Q : α → Prop} {R : β → Prop} {m : Prog ε σ α} {f : α → Prog ε σ β}
    (hm : m.Returns Q) (hf : ∀ a, Q a → (f a).Returns R) : (m >>= f).Returns R := by
  induction m with
  | ret a => exact hf a hm
  | fail e => trivial
  | step upd next ih => exact fun s => ih s (hm s)

/-- What the program can return, it returns in a run. -/
theorem Returns.exec {Q : α → Prop} {m : Prog ε σ α} (h : m.Returns Q) {s : σ} {a : α}
    (hm : (m.exec s).1 = .ok a) : Q a := by
  induction m generalizing s with
  | ret b => exact Except.ok.inj hm ▸ h
  | fail e => cases hm
  | step upd next ih => exact ih s (h s) hm

/-- A program whose errors are looked at returns an error or a value. -/
theorem returns_attempt {Q : α → Prop} {R : Except ε α → Prop} {m : Prog ε σ α}
    (hm : m.Returns Q) (hok : ∀ a, Q a → R (.ok a)) (herror : ∀ e, R (.error e)) :
    m.attempt.Returns R := by
  induction m with
  | ret a => exact hok a hm
  | fail e => exact herror e
  | step upd next ih => exact fun s => ih s (hm s)

/-- A replaced error code changes no value. -/
theorem returns_orFail {Q : α → Prop} {m : Prog ε σ α} {e : ε} (hm : m.Returns Q) :
    (m.orFail e).Returns Q := by
  refine returns_bind (returns_attempt (R := fun r => ∀ a, r = .ok a → Q a) hm ?_ ?_) fun r hr => ?_
  · rintro a ha b hb
    exact Except.ok.inj hb ▸ ha
  · exact fun e a ha => nomatch ha
  · cases r with
    | ok a => exact hr a rfl
    | error e => trivial

/-- Without a property there is nothing to return. -/
theorem returns_true (m : Prog ε σ α) : m.Returns fun _ => True := by
  induction m with
  | ret a => trivial
  | fail e => trivial
  | step upd next ih => exact ih

/-- What the first program owes, the sequence owes. -/
theorem owes_bind {m : Prog ε σ α} {f : α → Prog ε σ β} (hm : m.Owes I P) :
    (m >>= f).Owes I P := by
  induction m with
  | ret a => exact hm.elim
  | fail e => trivial
  | step upd next ih => exact fun s hs => (hm s hs).imp_right (ih s)

/-- What the continuation owes for every value it may get, the sequence owes. -/
theorem owes_bind_right {Q : α → Prop} {m : Prog ε σ α} {f : α → Prog ε σ β} (hm : m.Returns Q)
    (hf : ∀ a, Q a → (f a).Owes I P) : (m >>= f).Owes I P := by
  induction m with
  | ret a => exact hf a hm
  | fail e => trivial
  | step upd next ih => exact fun s _ => Or.inr (ih s (hm s))

/-- A program none of whose steps makes a debt due is honest. -/
theorem honest_of_steps {G : σ → σ → Prop} {m : Prog ε σ α} (hm : m.Steps G)
    (hG : ∀ s s', G s s' → I s → ∀ d, due d s' → due d s) : m.Honest I due paid := by
  induction m with
  | ret a => trivial
  | fail e => trivial
  | step upd next ih =>
    exact fun s hs => ⟨fun d hd => Or.inl (hG _ _ (hm s).1 hs d hd), ih s (hm s).2⟩

/-- No step makes a debt due that is due from the start on. -/
theorem honest_of_always {always : δ → Prop} (m : Prog ε σ α) :
    m.Honest I (fun d _ => always d) paid := by
  induction m with
  | ret a => trivial
  | fail e => trivial
  | step upd next ih => exact fun s _ => ⟨fun _ hd => Or.inl hd, ih s⟩

/-- A locked section leaves the debts it makes due to what follows its result. -/
theorem honest_atomic_bind {m : Prog ε σ α} {f : α → Prog ε σ β}
    (h : ∀ s, I s → (∀ e s', m.exec s = (.error e, s') → ∀ d, due d s' → due d s) ∧
      ∀ a s', m.exec s = (.ok a, s') → (f a).Honest I due paid ∧
        ∀ d, due d s' → due d s ∨ (f a).Owes I (paid d)) :
    (m.atomic >>= f).Honest I due paid := by
  intro s hs
  obtain ⟨herror, hok⟩ := h s hs
  change (∀ d, due d (m.exec s).2 → _ ∨ _ ∨ (ofExcept (m.exec s).1 >>= f).Owes I (paid d)) ∧
    (ofExcept (m.exec s).1 >>= f).Honest I due paid
  cases hexec : m.exec s with
  | mk r s' =>
    cases r with
    | error e => exact ⟨fun d hd => Or.inl (herror e s' hexec d hd), trivial⟩
    | ok a =>
      obtain ⟨hhonest, hdue⟩ := hok a s' hexec
      exact ⟨fun d hd => (hdue d hd).imp_right Or.inr, hhonest⟩

end Prog

/-- Programs of several clients over one shared state. -/
structure Pool (ε σ α : Type) where
  /-- The state all clients act on. -/
  shared : σ
  /-- What each client still has to do. -/
  threads : List (Prog ε σ α)

namespace Pool

/-- A client performs its next atomic step; a client that has none left changes nothing. -/
def schedule (c : Pool ε σ α) (i : Nat) : Pool ε σ α :=
  match c.threads[i]? with
  | some (.step upd next) => ⟨upd c.shared, c.threads.set i (next c.shared)⟩
  | _ => c

/-- Every client has returned without an error code. -/
def Finished (c : Pool ε σ α) : Prop := ∀ m ∈ c.threads, ∃ a, m = Prog.ret a

/-- Whether a program has returned. -/
private def returned : Prog ε σ α → Bool
  | .ret _ => true
  | _ => false

instance (c : Pool ε σ α) : Decidable c.Finished := by
  refine decidable_of_iff (c.threads.all returned = true) ?_
  rw [List.all_eq_true]
  refine forall₂_congr fun m _ => ?_
  cases m with
  | ret a => exact iff_of_true rfl ⟨a, rfl⟩
  | fail e => exact iff_of_false Bool.false_ne_true fun ⟨_, h⟩ => by cases h
  | step upd next => exact iff_of_false Bool.false_ne_true fun ⟨_, h⟩ => by cases h

/-- Every program of the pool has the property. -/
def Each (c : Pool ε σ α) (P : Prog ε σ α → Prop) : Prop := ∀ m ∈ c.threads, P m

/-- A scheduled client steps, or the pool stays as it is. -/
theorem schedule_cases (c : Pool ε σ α) (i : Nat) :
    c.schedule i = c ∨ ∃ upd next, c.threads[i]? = some (.step upd next) ∧
      c.schedule i = ⟨upd c.shared, c.threads.set i (next c.shared)⟩ := by
  unfold schedule
  split
  · exact Or.inr ⟨_, _, ‹_›, rfl⟩
  · exact Or.inl rfl

/-- A client that has a step left performs it. -/
theorem schedule_of_step {c : Pool ε σ α} {i : Nat} {upd : σ → σ} {next : σ → Prog ε σ α}
    (h : c.threads[i]? = some (.step upd next)) :
    c.schedule i = ⟨upd c.shared, c.threads.set i (next c.shared)⟩ := by
  simp only [schedule, h]

/-- Only the scheduled client goes on. -/
theorem threads_schedule_of_ne {c : Pool ε σ α} {i j : Nat} (h : i ≠ j) :
    (c.schedule i).threads[j]? = c.threads[j]? := by
  rcases c.schedule_cases i with hsame | ⟨upd, next, _, hstep⟩
  · rw [hsame]
  · rw [hstep]
    exact List.getElem?_set_ne h

/-- A client that is not scheduled is left where it was. -/
theorem threads_of_not_mem {c : Pool ε σ α} {schedule : List Nat} {i : Nat} (h : i ∉ schedule) :
    (schedule.foldl Pool.schedule c).threads[i]? = c.threads[i]? := by
  induction schedule generalizing c with
  | nil => rfl
  | cons j rest ih =>
    rw [List.mem_cons, not_or] at h
    rw [List.foldl_cons, ih h.2, threads_schedule_of_ne (Ne.symm h.1)]

/-- A program that has returned has nothing left. -/
theorem threads_of_ret {c : Pool ε σ α} {schedule : List Nat} {i : Nat} {a : α}
    (h : c.threads[i]? = some (.ret a)) :
    (schedule.foldl Pool.schedule c).threads[i]? = some (.ret a) := by
  induction schedule generalizing c with
  | nil => exact h
  | cons j rest ih =>
    refine ih ?_
    rcases c.schedule_cases j with hsame | ⟨upd, next, hj, hstep⟩
    · rw [hsame]
      exact h
    · have hne : j ≠ i := by
        rintro rfl
        rw [hj] at h
        cases h
      rw [hstep]
      exact (List.getElem?_set_ne hne).trans h

/-- The schedule before the first turn of a client, or all of it if it has none. -/
def beforeTurn (schedule : List Nat) (i : Nat) : List Nat := schedule.takeWhile (· ≠ i)

/-- A client whose turn comes is not scheduled before it. -/
theorem eq_beforeTurn_append {schedule : List Nat} {i : Nat} (h : i ∈ schedule) :
    i ∉ beforeTurn schedule i ∧ ∃ rest, schedule = beforeTurn schedule i ++ i :: rest := by
  induction schedule with
  | nil => cases h
  | cons j rest ih =>
    by_cases hij : j = i
    · subst hij
      have hnow : beforeTurn (j :: rest) j = [] := by simp [beforeTurn]
      rw [hnow]
      exact ⟨List.not_mem_nil, rest, rfl⟩
    · have hlater : beforeTurn (j :: rest) i = j :: beforeTurn rest i := by
        simp [beforeTurn, hij]
      obtain ⟨hfree, rest', hrest⟩ := ih ((List.mem_cons.mp h).resolve_left (Ne.symm hij))
      rw [hlater]
      refine ⟨fun hmem => (List.mem_cons.mp hmem).elim (Ne.symm hij) hfree, rest', ?_⟩
      rw [List.cons_append, ← hrest]

/-- A program of at most one step returns what it computes from the state at its turn. -/
theorem exec_of_turn {c : Pool ε σ α} {schedule : List Nat} {i : Nat} {m : Prog ε σ α}
    (hi : c.threads[i]? = some m) (hm : m.Immediate) {a : α}
    (hret : (schedule.foldl Pool.schedule c).threads[i]? = some (.ret a)) :
    (m.exec ((beforeTurn schedule i).foldl Pool.schedule c).shared).1 = .ok a := by
  cases m with
  | ret b =>
    rw [threads_of_ret hi] at hret
    cases hret
    rfl
  | fail e => exact hm.elim
  | step upd next =>
    have hturn : i ∈ schedule := Decidable.byContradiction fun hnot => by
      rw [threads_of_not_mem hnot, hi] at hret
      cases hret
    obtain ⟨hfree, rest, hschedule⟩ := eq_beforeTurn_append hturn
    generalize beforeTurn schedule i = before at hfree hschedule ⊢
    subst hschedule
    have hnow : (before.foldl Pool.schedule c).threads[i]? = some (.step upd next) :=
      (threads_of_not_mem hfree).trans hi
    rw [List.foldl_append, List.foldl_cons] at hret
    generalize before.foldl Pool.schedule c = s at hnow hret ⊢
    obtain ⟨hlt, -⟩ := List.getElem?_eq_some_iff.mp hnow
    obtain ⟨b, hb⟩ := hm s.shared
    have hdone : (s.schedule i).threads[i]? = some (.ret b) := by
      rw [schedule_of_step hnow, ← hb]
      exact List.getElem?_set_self hlt
    rw [threads_of_ret hdone] at hret
    cases hret
    rw [Prog.exec_step, hb]
    rfl

/-- Only the program that steps is replaced. -/
private theorem each_set {P : Prog ε σ α → Prop} {ms : List (Prog ε σ α)} {i : Nat}
    {m : Prog ε σ α} (h : ∀ x ∈ ms, P x) (hm : P m) : ∀ x ∈ ms.set i m, P x := by
  intro x hx
  rcases List.mem_or_eq_of_mem_set hx with hx | rfl
  · exact h x hx
  · exact hm

variable {G : σ → σ → Prop} {I : σ → Prop} {due paid : δ → σ → Prop} {c : Pool ε σ α}

/-- A step of the pool is a step of one of its programs. -/
theorem schedule_guarantee (hrefl : ∀ s, G s s) (h : c.Each (Prog.Steps G)) (i : Nat) :
    G c.shared (c.schedule i).shared ∧ (c.schedule i).Each (Prog.Steps G) := by
  rcases c.schedule_cases i with hsame | ⟨upd, next, hi, hstep⟩
  · rw [hsame]
    exact ⟨hrefl _, h⟩
  · have hm : (Prog.step upd next).Steps G := h _ (List.mem_of_getElem? hi)
    rw [hstep]
    exact ⟨(hm c.shared).1, each_set h (hm c.shared).2⟩

/-- Every debt that is due is paid or still owed by some program. -/
def Covered (I : σ → Prop) (due paid : δ → σ → Prop) (c : Pool ε σ α) : Prop :=
  ∀ d, due d c.shared → paid d c.shared ∨ ∃ m ∈ c.threads, m.Owes I (paid d)

/-- Honest programs keep every debt covered across steps that take no payment back. -/
theorem schedule_covered {i : Nat} (hI : I c.shared) (hh : c.Each (Prog.Honest I due paid))
    (hc : c.Covered I due paid)
    (hkeep : ∀ d, due d c.shared → paid d c.shared → paid d (c.schedule i).shared) :
    (c.schedule i).Each (Prog.Honest I due paid) ∧ (c.schedule i).Covered I due paid := by
  rcases c.schedule_cases i with hsame | ⟨upd, next, hi, hsched⟩
  · rw [hsame]
    exact ⟨hh, hc⟩
  rw [hsched] at hkeep ⊢
  have hmem := List.mem_of_getElem? hi
  have hstep := hh _ hmem c.shared hI
  refine ⟨each_set hh hstep.2, fun d hd => ?_⟩
  have hlt : i < c.threads.length := (List.getElem?_eq_some_iff.mp hi).1
  have hnext : next c.shared ∈ c.threads.set i (next c.shared) := List.mem_set hlt _
  rcases hstep.1 d hd with hdue | hpaid | howes
  · rcases hc d hdue with hpaid | ⟨m, hm, howes⟩
    · exact Or.inl (hkeep d hdue hpaid)
    · obtain ⟨j, hj⟩ := List.mem_iff_getElem?.mp hm
      by_cases hij : i = j
      · subst hij
        obtain rfl : Prog.step upd next = m := Option.some.inj (hi.symm.trans hj)
        rcases howes c.shared hI with hpaid | howes
        · exact Or.inl hpaid
        · exact Or.inr ⟨_, hnext, howes⟩
      · refine Or.inr ⟨m, List.mem_of_getElem? (i := j) ?_, howes⟩
        rw [List.getElem?_set_ne hij]
        exact hj
  · exact Or.inl hpaid
  · exact Or.inr ⟨_, hnext, howes⟩

/-- Once every client has returned, every debt that is due is paid. -/
theorem Finished.settled (hf : c.Finished) (hc : c.Covered I due paid) (d : δ)
    (hd : due d c.shared) : paid d c.shared := by
  rcases hc d hd with hpaid | ⟨m, hm, howes⟩
  · exact hpaid
  · obtain ⟨a, rfl⟩ := hf m hm
    exact howes.elim

end Pool

end Library
