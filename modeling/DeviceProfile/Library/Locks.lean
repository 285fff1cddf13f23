import Mathlib.Data.List.Nodup
import Mathlib.Logic.Function.Basic
import Mathlib.Logic.Relation

/-!
# Locks and cycles of waiting threads

Each thread has a list of locks to take and to give back. A thread that wants a lock of another
thread waits for it, and a cycle of waiting threads never goes on. Whatever the rank of the locks,
in such a cycle some thread wants a lock that does not rank above all of its own.
-/

namespace Library

/-- A lock is taken or given back. -/
inductive LockStep (κ : Type) where
  | acquire (lock : κ)
  | release (lock : κ)
  deriving DecidableEq, Repr

/-- Take a lock for the steps inside. -/
def locked {κ : Type} (lock : κ) (inner : List (LockStep κ)) : List (LockStep κ) :=
  .acquire lock :: (inner ++ [.release lock])

/-- The locks with their owners, and what each thread still has to do. -/
structure LockPool (κ : Type) where
  owner : κ → Option Nat
  threads : List (List (LockStep κ))

namespace LockPool

variable {κ : Type}

/-- No lock is taken yet. -/
def start (threads : List (List (LockStep κ))) : LockPool κ := ⟨fun _ => none, threads⟩

/-- A thread wants a lock that another one owns. -/
def Waits (s : LockPool κ) (i j : Nat) : Prop :=
  ∃ lock rest, s.threads[i]? = some (.acquire lock :: rest) ∧ s.owner lock = some j

/-- Threads wait for each other in a cycle. -/
def Deadlocked (s : LockPool κ) : Prop := ∃ i, Relation.TransGen s.Waits i i

/-- Nobody waits at the start. -/
theorem not_deadlocked_start (threads : List (List (LockStep κ))) :
    ¬(start threads).Deadlocked := by
  rintro ⟨i, hcycle⟩
  obtain ⟨j, ⟨_, _, _, howner⟩, -⟩ := Relation.TransGen.head'_iff.mp hcycle
  cases howner

/-- Along waiting threads that own only locks of a lower rank than the one they want, the rank of
the lock that is wanted grows. -/
theorem rank_lt_of_transGen {s : LockPool κ} {rank : κ → Nat}
    (hrank : ∀ i lock own rest, s.threads[i]? = some (.acquire lock :: rest) →
      s.owner own = some i → rank own < rank lock) {i j : Nat}
    (h : Relation.TransGen s.Waits i j) {lock lock' : κ} {rest rest' : List (LockStep κ)}
    (hi : s.threads[i]? = some (.acquire lock :: rest))
    (hj : s.threads[j]? = some (.acquire lock' :: rest')) : rank lock < rank lock' := by
  have hstep : ∀ {i j : Nat} {lock lock' : κ} {rest rest' : List (LockStep κ)}, s.Waits i j →
      s.threads[i]? = some (.acquire lock :: rest) →
      s.threads[j]? = some (.acquire lock' :: rest') → rank lock < rank lock' := by
    rintro i j lock lock' rest rest' ⟨l, others, hwants, howner⟩ hi hj
    obtain ⟨rfl, rfl⟩ : l = lock ∧ others = rest := by
      simpa using hwants.symm.trans hi
    exact hrank j lock' l rest' hj howner
  induction h generalizing lock' rest' with
  | single hwaits => exact hstep hwaits hi hj
  | tail _ hwaits ih =>
    obtain ⟨l, others, hwants, howner⟩ := hwaits
    exact Nat.lt_trans (ih hwants) (hstep ⟨l, others, hwants, howner⟩ hwants hj)

/-- In a cycle some thread wants a lock that does not rank above one of its own. -/
theorem Deadlocked.exists_rank_le {s : LockPool κ} (h : s.Deadlocked) (rank : κ → Nat) :
    ∃ i lock own rest, s.threads[i]? = some (.acquire lock :: rest) ∧
      s.owner own = some i ∧ rank lock ≤ rank own := by
  by_contra hnone
  obtain ⟨i, hcycle⟩ := h
  obtain ⟨j, ⟨lock, rest, hwants, howner⟩, -⟩ := Relation.TransGen.head'_iff.mp hcycle
  refine Nat.lt_irrefl (rank lock) (rank_lt_of_transGen ?_ hcycle hwants hwants)
  intro k wanted own others hk howner
  by_contra hle
  exact hnone ⟨k, wanted, own, others, hk, howner, Nat.le_of_not_lt hle⟩

/-! ## Threads that follow a rule -/

/-- A thread takes a lock only where a rule admits it besides the locks it holds, gives the
last one back first, and ends without locks. -/
def Follows (may : List κ → κ → Prop) : List κ → List (LockStep κ) → Prop
  | held, [] => held = []
  | held, .acquire lock :: rest => may held lock ∧ Follows may (lock :: held) rest
  | held, .release lock :: rest => ∃ others, held = lock :: others ∧ Follows may others rest

variable {may : List κ → κ → Prop}

/-- What ends without locks can be followed by more. -/
theorem Follows.append {held : List κ} {todo more : List (LockStep κ)}
    (h : Follows may held todo) (hmore : Follows may [] more) :
    Follows may held (todo ++ more) := by
  induction todo generalizing held with
  | nil =>
    obtain rfl : held = [] := h
    exact hmore
  | cons step rest ih =>
    cases step with
    | acquire lock => exact ⟨h.1, ih h.2⟩
    | release lock =>
      obtain ⟨others, rfl, hrest⟩ := h
      exact ⟨others, rfl, ih hrest⟩

/-- Steps in a row follow the order when each part gives its locks back. -/
theorem follows_flatMap {ι : Type} {steps : ι → List (LockStep κ)} {l : List ι}
    (h : ∀ x ∈ l, Follows may [] (steps x)) : Follows may [] (l.flatMap steps) := by
  induction l with
  | nil => rfl
  | cons x rest ih =>
    rw [List.flatMap_cons]
    exact (h x List.mem_cons_self).append (ih fun y hy => h y (List.mem_cons_of_mem x hy))

/-- The owners of the locks are the threads that hold them, and each follows the rule. -/
def Owned (may : List κ → κ → Prop) (s : LockPool κ) : Prop :=
  ∀ i todo, s.threads[i]? = some todo → ∃ held : List κ, held.Nodup ∧
    (∀ lock, s.owner lock = some i ↔ lock ∈ held) ∧ Follows may held todo

/-- At the start nobody owns a lock, and every thread follows the rule. -/
theorem owned_start {threads : List (List (LockStep κ))}
    (h : ∀ todo ∈ threads, Follows may [] todo) : (start threads).Owned may := by
  intro i todo hi
  exact ⟨[], List.nodup_nil, fun lock => iff_of_false nofun List.not_mem_nil,
    h todo (List.mem_of_getElem? hi)⟩

/-- A thread does not want what it owns. -/
theorem Owned.admits {s : LockPool κ} (hs : s.Owned may) {i : Nat} {lock : κ}
    {rest : List (LockStep κ)} (hi : s.threads[i]? = some (.acquire lock :: rest)) :
    ∃ held : List κ, (∀ own, s.owner own = some i ↔ own ∈ held) ∧ may held lock := by
  obtain ⟨held, -, howner, hmay, -⟩ := hs i _ hi
  exact ⟨held, howner, hmay⟩

/-! ## Runs -/

variable [DecidableEq κ]

/-- A thread does its next step, unless it waits. -/
def schedule (s : LockPool κ) (i : Nat) : LockPool κ :=
  match s.threads[i]? with
  | some (.acquire lock :: rest) =>
    if s.owner lock = none then
      ⟨Function.update s.owner lock (some i), s.threads.set i rest⟩
    else s
  | some (.release lock :: rest) =>
    ⟨Function.update s.owner lock none, s.threads.set i rest⟩
  | _ => s

/-- What a step can do. -/
theorem schedule_cases (s : LockPool κ) (i : Nat) :
    s.schedule i = s ∨
    (∃ lock rest, s.threads[i]? = some (.acquire lock :: rest) ∧ s.owner lock = none ∧
      s.schedule i = ⟨Function.update s.owner lock (some i), s.threads.set i rest⟩) ∨
    ∃ lock rest, s.threads[i]? = some (.release lock :: rest) ∧
      s.schedule i = ⟨Function.update s.owner lock none, s.threads.set i rest⟩ := by
  unfold schedule
  split
  · next lock rest hi =>
    split
    · next hfree => exact .inr (.inl ⟨lock, rest, hi, hfree, rfl⟩)
    · exact .inl rfl
  · next lock rest hi => exact .inr (.inr ⟨lock, rest, hi, rfl⟩)
  · exact .inl rfl

/-- A step keeps the rule and the owners. -/
theorem owned_schedule (hnew : ∀ held lock, may held lock → lock ∉ held) {s : LockPool κ}
    (hs : s.Owned may) (i : Nat) : (s.schedule i).Owned may := by
  rcases s.schedule_cases i with hsame | ⟨lock, rest, hi, hfree, hstep⟩ |
    ⟨lock, rest, hi, hstep⟩
  · rw [hsame]
    exact hs
  · rw [hstep]
    intro j todo hj
    obtain ⟨held, hnodup, howner, hfollows⟩ := hs i _ hi
    by_cases hij : i = j
    · subst hij
      obtain rfl : rest = todo := by
        simpa [List.getElem?_set, (List.getElem?_eq_some_iff.mp hi).1] using hj
      refine ⟨lock :: held, List.nodup_cons.mpr ⟨hnew held lock hfollows.1, hnodup⟩,
        fun l => ?_, hfollows.2⟩
      by_cases hl : l = lock
      · simp [hl]
      · simp [hl, howner l]
    · obtain ⟨held', hnodup', howner', hfollows'⟩ :=
        hs j todo (by simpa [List.getElem?_set, hij] using hj)
      refine ⟨held', hnodup', fun l => ?_, hfollows'⟩
      by_cases hl : l = lock
      · subst hl
        have hnot : l ∉ held' := by
          rw [← howner' l, hfree]
          nofun
        simp [hij, hnot]
      · simp [Function.update_of_ne hl, howner' l]
  · rw [hstep]
    intro j todo hj
    obtain ⟨held, hnodup, howner, others, rfl, hfollows⟩ := hs i _ hi
    by_cases hij : i = j
    · subst hij
      obtain rfl : rest = todo := by
        simpa [List.getElem?_set, (List.getElem?_eq_some_iff.mp hi).1] using hj
      obtain ⟨hnot, hnodup⟩ := List.nodup_cons.mp hnodup
      refine ⟨others, hnodup, fun l => ?_, hfollows⟩
      by_cases hl : l = lock
      · subst hl
        simp [hnot]
      · simp [hl, howner l]
    · obtain ⟨held', hnodup', howner', hfollows'⟩ :=
        hs j todo (by simpa [List.getElem?_set, hij] using hj)
      refine ⟨held', hnodup', fun l => ?_, hfollows'⟩
      by_cases hl : l = lock
      · subst hl
        have hnot : l ∉ held' := by
          rw [← howner' l, (howner l).mpr List.mem_cons_self]
          exact fun h => hij (Option.some.inj h)
        simp [hnot]
      · simp [Function.update_of_ne hl, howner' l]

end LockPool

end Library
