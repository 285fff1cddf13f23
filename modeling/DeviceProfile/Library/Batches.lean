import Mathlib.Data.List.Basic

/-!
# Lists cut into batches

A list is cut where its index is a multiple of a size. The first batches together are a start
of the list, so whoever works through the batches and stops has done a start of the list.
-/

namespace Library

variable {α : Type}

/-- The slices of a list from the multiples of a size on; the last one may be shorter. -/
def batches (size : Nat) (l : List α) : List (List α) :=
  (List.range ((l.length + (size - 1)) / size)).map fun i => (l.drop (i * size)).take size

variable {size : Nat} {l : List α}

/-- The number of batches, the last one possibly short. -/
theorem length_batches (size : Nat) (l : List α) :
    (batches size l).length = (l.length + (size - 1)) / size := by
  rw [batches, List.length_map, List.length_range]

/-- There is a batch for each multiple of the size below the length. -/
theorem lt_length_batches_iff (hsize : 0 < size) (i : Nat) :
    i < (batches size l).length ↔ i * size < l.length := by
  rw [length_batches, Nat.lt_div_iff_mul_lt hsize]
  omega

/-- The batch at a place. -/
theorem getElem?_batches {i : Nat} (hi : i < (batches size l).length) :
    (batches size l)[i]? = some ((l.drop (i * size)).take size) := by
  rw [length_batches] at hi
  simp [batches, hi]

/-- The first batches are a start of the list. -/
theorem flatten_take_batches (hsize : 0 < size) (i : Nat) :
    ((batches size l).take i).flatten = l.take (i * size) := by
  induction i with
  | zero => rw [Nat.zero_mul]; rfl
  | succ i ih =>
    rw [List.take_add_one, List.flatten_append, ih, Nat.succ_mul, List.take_add]
    by_cases hi : i < (batches size l).length
    · rw [getElem?_batches hi]
      simp
    · have hend : l.length ≤ i * size :=
        Nat.not_lt.mp (mt (lt_length_batches_iff hsize i).mpr hi)
      rw [List.getElem?_eq_none (Nat.not_lt.mp hi), List.drop_eq_nil_of_le hend,
        List.take_nil]
      rfl

/-- The batches are the list, cut up. -/
theorem flatten_batches (hsize : 0 < size) (l : List α) : (batches size l).flatten = l := by
  have hall := flatten_take_batches (l := l) hsize (batches size l).length
  rw [List.take_length] at hall
  rw [hall, List.take_of_length_le]
  exact Nat.not_lt.mp (mt (lt_length_batches_iff hsize _).mpr (Nat.lt_irrefl _))

end Library
