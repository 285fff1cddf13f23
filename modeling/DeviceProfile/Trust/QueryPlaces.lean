import DeviceProfile.Trust.Manager
import DeviceProfile.Trust.Reading

/-!
# The places of the database calls

The check for the listeners reads all entries up to four times. How many database calls it makes
depends on the calls that fail and on the parties that the rows find: a row whose accesser is not
found is not asked for its accessee, and where no entry is found the next reading is left out. The
calls are counted here, so that what comes after the check has a place among the calls.
-/

namespace DeviceProfile

open Library

/-! ## Single database calls -/

/-- Whether the database call after the next `i` ones fails. -/
def World.callFails (w : World) (i : Nat) : Bool := (w.faults.drop i).headD false

section Places

variable (fails : Nat → Bool)

end Places

/-! ## Readings and their places -/

/-- The world holds these tables, and the first `i` calls of another one are over. -/
structure World.At (w₀ : World) (t : Tables) (i : Nat) (w : World) : Prop where
  tables : w.tables = t
  faults : w.faults = w₀.faults.drop i

/-- From one place a program moves to another one without changing the tables, and it succeeds or
not. -/
def MovesTo {α : Type} (w₀ : World) (t : Tables) (m : DpProg α) (i j : Nat) (succeeds : Bool) :
    Prop :=
  ∀ w, w₀.At t i w → w₀.At t j (m.exec w).2 ∧ (m.exec w).1.isOk = succeeds

section Readings

variable {α β : Type} {w₀ w : World} {t : Tables} {i j k : Nat} {succeeds : Bool}

/-- The call at the place of a world. -/
theorem World.At.fault (h : w₀.At t i w) : w.fault = w₀.callFails i := by
  rw [World.fault, h.faults, World.callFails]

/-- The calls behind the place of a world. -/
theorem World.At.callFails (h : w₀.At t i w) (n : Nat) : w.callFails n = w₀.callFails (i + n) := by
  rw [World.callFails, World.callFails, h.faults, List.drop_drop]

/-- One call later. -/
theorem World.At.pop (h : w₀.At t i w) : w₀.At t (i + 1) w.pop where
  tables := h.tables
  faults := by rw [World.pop, h.faults, List.tail_drop]

/-- A program behind one that succeeds. -/
theorem MovesTo.bind {m : DpProg α} {f : α → DpProg β} (hm : MovesTo w₀ t m i j true)
    (hf : ∀ a, MovesTo w₀ t (f a) j k succeeds) : MovesTo w₀ t (m >>= f) i k succeeds := by
  intro w h
  have hfirst := hm w h
  rw [Prog.exec_bind]
  cases hexec : m.exec w with
  | mk r w' =>
    rw [hexec] at hfirst
    cases r with
    | ok a => exact hf a w' hfirst.1
    | error e => cases hfirst.2

/-- A program that fails leaves out what is behind it. -/
theorem MovesTo.bind_of_fails {m : DpProg α} {f : α → DpProg β} (hm : MovesTo w₀ t m i j false) :
    MovesTo w₀ t (m >>= f) i j false := by
  intro w h
  have hfirst := hm w h
  rw [Prog.exec_bind]
  cases hexec : m.exec w with
  | mk r w' =>
    rw [hexec] at hfirst
    cases r with
    | ok a => cases hfirst.2
    | error e => exact ⟨hfirst.1, rfl⟩

/-- A program and one behind it that stays where it is. -/
theorem MovesTo.map {m : DpProg α} {f : α → DpProg β} (hm : MovesTo w₀ t m i j succeeds)
    (hf : ∀ a, MovesTo w₀ t (f a) j j true) : MovesTo w₀ t (m >>= f) i j succeeds := by
  cases succeeds with
  | true => exact hm.bind hf
  | false => exact hm.bind_of_fails

/-- A default for a failure moves as the program does and succeeds. -/
theorem MovesTo.getD {m : DpProg α} (hm : MovesTo w₀ t m i j succeeds) (d : α) :
    MovesTo w₀ t (m.getD d) i j true := by
  intro w h
  rw [Prog.exec_getD]
  exact ⟨(hm w h).1, rfl⟩

/-- Replacing the error moves as the program does. -/
theorem MovesTo.orFail {m : DpProg α} (hm : MovesTo w₀ t m i j succeeds) (e : DpError) :
    MovesTo w₀ t (m.orFail e) i j succeeds := by
  intro w h
  rw [Prog.exec_orFail]
  refine ⟨(hm w h).1, ?_⟩
  rw [← (hm w h).2]
  cases (m.exec w).1 <;> rfl

end Readings

end DeviceProfile
