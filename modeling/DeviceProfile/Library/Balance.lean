import DeviceProfile.Library.Interleaving
import Mathlib.Algebra.BigOperators.Group.List.Basic
import Mathlib.Algebra.Ring.Int.Defs

/-!
# Counters that several programs share

Each program of a pool still has a share to add to a counter. However the programs are
interleaved, the counter and the shares that are left sum to the same number, so the counter
tells how many programs are at a point where they owe something, and it is back where it was
when all have ended.
-/

namespace Library

variable {ε σ α : Type}

namespace Prog

/-- However the rest of the program runs, it adds the same number to the counter, and what is
left to add stays between two bounds. -/
def Adds (v : σ → Int) (lo hi : Int) : Prog ε σ α → Int → Prop
  | ret _, n => n = 0
  | fail _, n => n = 0
  | step upd next, n => lo ≤ n ∧ n ≤ hi ∧ ∀ s, (next s).Adds v lo hi (n - (v (upd s) - v s))

variable {v : σ → Int} {lo hi n k : Int}

/-- A program that leaves the counter alone adds nothing. -/
theorem adds_zero_of_steps {m : Prog ε σ α} (h : m.Steps fun s s' => v s' = v s) (hlo : lo ≤ 0)
    (hhi : 0 ≤ hi) : m.Adds v lo hi 0 := by
  induction m with
  | ret a => rfl
  | fail e => rfl
  | step upd next ih =>
    refine ⟨hlo, hhi, fun s => ?_⟩
    rw [(h s).1]
    simpa using ih s (h s).2

/-- A program that runs alone adds its share. -/
theorem Adds.exec {m : Prog ε σ α} (h : m.Adds v lo hi n) (s : σ) :
    v (m.exec s).2 = v s + n := by
  induction m generalizing n s with
  | ret a =>
    obtain rfl : n = 0 := h
    exact (add_zero _).symm
  | fail e =>
    obtain rfl : n = 0 := h
    exact (add_zero _).symm
  | step upd next ih =>
    rw [exec_step, ih s (h.2.2 s)]
    omega

theorem Adds.bounds {m : Prog ε σ α} (h : m.Adds v lo hi n) (hlo : lo ≤ 0) (hhi : 0 ≤ hi) :
    lo ≤ n ∧ n ≤ hi := by
  cases m with
  | ret a =>
    obtain rfl : n = 0 := h
    exact ⟨hlo, hhi⟩
  | fail e =>
    obtain rfl : n = 0 := h
    exact ⟨hlo, hhi⟩
  | step upd next => exact ⟨h.1, h.2.1⟩

end Prog

namespace Pool

variable {v : σ → Int} {lo hi total : Int} {c : Pool ε σ α} {shares : List Int}

/-- The shares that the programs still have to add, and the counter, sum to a total. -/
structure Balanced (v : σ → Int) (lo hi total : Int) (shares : List Int) (c : Pool ε σ α) :
    Prop where
  adds : List.Forall₂ (fun n m => m.Adds v lo hi n) shares c.threads
  total : v c.shared + shares.sum = total

private theorem forall₂_getElem? {β γ : Type} {R : β → γ → Prop} {as : List β} {bs : List γ}
    (h : List.Forall₂ R as bs) {i : Nat} {b : γ} (hb : bs[i]? = some b) :
    ∃ a, as[i]? = some a ∧ R a b := by
  induction h generalizing i with
  | nil => cases hb
  | cons hab _ ih =>
    cases i with
    | zero =>
      obtain rfl := Option.some.inj hb
      exact ⟨_, rfl, hab⟩
    | succ i => exact ih hb

private theorem forall₂_set {β γ : Type} {R : β → γ → Prop} {as : List β} {bs : List γ}
    (h : List.Forall₂ R as bs) {a : β} {b : γ} (hab : R a b) (i : Nat) :
    List.Forall₂ R (as.set i a) (bs.set i b) := by
  induction h generalizing i with
  | nil => exact .nil
  | cons hrest htail ih =>
    cases i with
    | zero => exact .cons hab htail
    | succ i => exact .cons hrest (ih i)

/-- A step moves part of a share into the counter. -/
theorem Balanced.schedule (h : c.Balanced v lo hi total shares) (i : Nat) :
    ∃ shares', (c.schedule i).Balanced v lo hi total shares' := by
  rcases c.schedule_cases i with hsame | ⟨upd, next, hi', hstep⟩
  · exact ⟨shares, by rw [hsame]; exact h⟩
  · obtain ⟨n, hn, hadds⟩ := forall₂_getElem? h.adds hi'
    rw [hstep]
    refine ⟨shares.set i (n - (v (upd c.shared) - v c.shared)), ?_, ?_⟩
    · exact forall₂_set h.adds (hadds.2.2 c.shared) i
    · obtain ⟨hlt, hget⟩ := List.getElem?_eq_some_iff.mp hn
      have htotal := h.total
      rw [List.sum_set', dif_pos hlt, hget]
      change v (upd c.shared) + _ = total
      omega

/-- Any number of steps keeps the balance. -/
theorem Balanced.run (h : c.Balanced v lo hi total shares) (schedule : List Nat) :
    ∃ shares', (schedule.foldl Pool.schedule c).Balanced v lo hi total shares' := by
  induction schedule generalizing c shares with
  | nil => exact ⟨shares, h⟩
  | cons i rest ih =>
    obtain ⟨shares', h'⟩ := h.schedule i
    exact ih h'

/-- Programs that all have the same share. -/
theorem balanced_of_each {n : Int} (h : c.Each fun m => m.Adds v lo hi n) :
    c.Balanced v lo hi (v c.shared + n * c.threads.length) (c.threads.map fun _ => n) := by
  refine ⟨?_, ?_⟩
  · rw [List.forall₂_map_left_iff, List.forall₂_same]
    exact h
  · simp [List.map_const', List.sum_replicate, mul_comm]

/-- Programs that have ended have no shares left. -/
private theorem sum_eq_zero {threads : List (Prog ε σ α)}
    (h : List.Forall₂ (fun n m => m.Adds v lo hi n) shares threads)
    (hf : ∀ m ∈ threads, ∃ a, m = Prog.ret a) : shares.sum = 0 := by
  induction h with
  | nil => rfl
  | cons hrel _ ih =>
    obtain ⟨a, rfl⟩ := hf _ List.mem_cons_self
    rw [List.sum_cons, ih fun m hm => hf m (List.mem_cons_of_mem _ hm), add_zero]
    exact hrel

/-- When all programs have ended, the counter has the total. -/
theorem Balanced.of_finished (h : c.Balanced v lo hi total shares) (hf : c.Finished) :
    v c.shared = total := by
  rw [← h.total, sum_eq_zero h.adds hf, add_zero]

/-- Shares that none of is negative. -/
private theorem sum_nonneg_of_adds (hhi : 0 ≤ hi) {threads : List (Prog ε σ α)}
    (h : List.Forall₂ (fun n m => m.Adds v 0 hi n) shares threads) : 0 ≤ shares.sum := by
  induction h with
  | nil => exact Int.le_refl 0
  | cons hrel _ ih =>
    have hbounds := hrel.bounds (Int.le_refl 0) hhi
    rw [List.sum_cons]
    omega

/-- A counter that no program is to lower stays below the total. -/
theorem Balanced.le_total (h : c.Balanced v 0 hi total shares) (hhi : 0 ≤ hi) :
    v c.shared ≤ total := by
  have hnonneg := sum_nonneg_of_adds hhi h.adds
  have htotal := h.total
  omega

/-- Each program that has one to subtract takes one from the sum. -/
private theorem sum_eq_neg_countP {threads : List (Prog ε σ α)}
    (h : List.Forall₂ (fun n m => m.Adds v (-1) 0 n) shares threads) {P : Prog ε σ α → Bool}
    (hP : ∀ m n, m.Adds v (-1) 0 n → (P m = true ↔ n = -1)) :
    shares.sum = -(threads.countP P : Int) := by
  induction h with
  | nil => rfl
  | @cons n m ns ms hrel _ ih =>
    obtain ⟨hlo, hhi⟩ := hrel.bounds (by decide) (by decide)
    rw [List.sum_cons, ih]
    have hat := hP m n hrel
    by_cases hm : P m = true
    · have hn := hat.mp hm
      rw [List.countP_cons_of_pos hm]
      omega
    · have hn := mt hat.mpr hm
      rw [List.countP_cons_of_neg hm]
      omega

/-- A counter that each program lowers by one while it is at some point counts the programs that
are there. -/
theorem Balanced.eq_countP (h : c.Balanced v (-1) 0 total shares) {P : Prog ε σ α → Bool}
    (hP : ∀ m n, m.Adds v (-1) 0 n → (P m = true ↔ n = -1)) :
    v c.shared = total + c.threads.countP P := by
  have hsum := sum_eq_neg_countP h.adds hP
  have htotal := h.total
  omega

end Pool

end Library
