import Mathlib.Data.List.TakeWhile

/-!
# Decimal numbers in text

Integers are written with the digits of their absolute value after an optional
sign, and read back from the digits at the start of a text, unbounded or as machine integers.
-/

namespace Library

/-- The blanks that are skipped before a number. -/
def IsSpace (c : Char) : Prop := c ∈ [' ', '\t', '\n', '\x0b', '\x0c', '\r']

instance (c : Char) : Decidable (IsSpace c) := inferInstanceAs (Decidable (c ∈ _))

/-- The text after an optional sign. -/
def unsigned : List Char → List Char
  | '-' :: l => l
  | '+' :: l => l
  | l => l

/-- Digits, at least one, after an optional sign. -/
def IsNumeral (l : List Char) : Prop := unsigned l ≠ [] ∧ ∀ c ∈ unsigned l, c.isDigit

instance (l : List Char) : Decidable (IsNumeral l) :=
  have : Decidable (∀ c ∈ unsigned l, c.isDigit) := List.decidableBAll _ _
  inferInstanceAs (Decidable (_ ∧ _))

/-- Write an integer. -/
def numeral : Int → List Char
  | .ofNat n => Nat.toDigits 10 n
  | .negSucc n => '-' :: Nat.toDigits 10 (n + 1)

/-- Read the integer at the start of a text. -/
def readInt (l : List Char) : Int :=
  let l := l.dropWhile fun c => decide (IsSpace c)
  let n : Int := Nat.ofDigitChars 10 ((unsigned l).takeWhile Char.isDigit) 0
  if l.head? = some '-' then -n else n

/-- What the C library reads as an `int` or a `long long`: a number of another size wraps around. -/
def atoi (l : List Char) : Int32 := Int32.ofInt (readInt l)

/-- The documented value of `atoll` on a text, a number of 64 bits. -/
def atoll (l : List Char) : Int64 := Int64.ofInt (readInt l)

theorem isDigit_of_mem_toDigits {n : Nat} {c : Char} (h : c ∈ Nat.toDigits 10 n) :
    c.isDigit = true :=
  Nat.isDigit_of_mem_toDigits (by decide) (by decide) h

/-- A number starts with a digit, so it has no sign to strip. -/
theorem toDigits_eq_cons (n : Nat) :
    ∃ c l, Nat.toDigits 10 n = c :: l ∧ c.isDigit = true := by
  obtain ⟨c, l, h⟩ := List.exists_cons_of_ne_nil (Nat.toDigits_ne_nil (n := n) (b := 10))
  exact ⟨c, l, h, isDigit_of_mem_toDigits (h ▸ List.mem_cons_self)⟩

theorem unsigned_toDigits (n : Nat) : unsigned (Nat.toDigits 10 n) = Nat.toDigits 10 n := by
  obtain ⟨c, l, h, hc⟩ := toDigits_eq_cons n
  rw [h]
  unfold unsigned
  split
  · rename_i heq
    rw [(List.cons.inj heq).1] at hc
    cases hc
  · rename_i heq
    rw [(List.cons.inj heq).1] at hc
    cases hc
  · rfl

/-- What is written after the sign are the digits. -/
theorem unsigned_numeral (n : Int) : unsigned (numeral n) = Nat.toDigits 10 n.natAbs := by
  cases n with
  | ofNat n => exact unsigned_toDigits n
  | negSucc n => rfl

/-- The numeral of a number is one. -/
theorem isNumeral_numeral (n : Int) : IsNumeral (numeral n) := by
  rw [IsNumeral, unsigned_numeral]
  exact ⟨Nat.toDigits_ne_nil, fun c hc => isDigit_of_mem_toDigits hc⟩

/-- Only digits and the minus sign are written. -/
theorem not_mem_numeral {c : Char} (hdigit : c.isDigit = false) (hsign : c ≠ '-') (n : Int) :
    c ∉ numeral n := by
  have hdigits : ∀ m, c ∉ Nat.toDigits 10 m := by
    intro m hc
    rw [isDigit_of_mem_toDigits hc] at hdigit
    cases hdigit
  cases n with
  | ofNat n => exact hdigits n
  | negSucc n =>
    rw [numeral, List.mem_cons, not_or]
    exact ⟨hsign, hdigits _⟩

theorem numeral_ne_nil (n : Int) : numeral n ≠ [] := by
  intro h
  have hdigits := unsigned_numeral n
  rw [h] at hdigits
  exact Nat.toDigits_ne_nil hdigits.symm

/-- No blank and no sign but the minus comes first. -/
theorem head?_numeral (n : Int) :
    ∃ c l, numeral n = c :: l ∧ (c.isDigit = true ∨ c = '-') ∧ (c = '-' ↔ n < 0) := by
  cases n with
  | ofNat n =>
    obtain ⟨c, l, h, hc⟩ := toDigits_eq_cons n
    refine ⟨c, l, h, .inl hc, ?_, ?_⟩
    · rintro rfl
      cases hc
    · intro hneg
      exact absurd hneg (by simp)
  | negSucc n => exact ⟨'-', _, rfl, .inr rfl, fun _ => Int.negSucc_lt_zero n, fun _ => rfl⟩

/-- What is written is read back. -/
theorem readInt_numeral (n : Int) : readInt (numeral n) = n := by
  obtain ⟨c, l, h, hc, hneg⟩ := head?_numeral n
  have hspace : ¬IsSpace c := by
    rintro hs
    rcases hc with hc | rfl
    · revert hc
      simp only [IsSpace, List.mem_cons, List.not_mem_nil, or_false] at hs
      rcases hs with rfl | rfl | rfl | rfl | rfl | rfl <;> decide
    · revert hs
      decide
  have hdrop : (numeral n).dropWhile (fun c => decide (IsSpace c)) = numeral n := by
    rw [h, List.dropWhile_cons_of_neg]
    simpa using hspace
  have htake : (Nat.toDigits 10 n.natAbs).takeWhile Char.isDigit = Nat.toDigits 10 n.natAbs :=
    List.takeWhile_eq_self_iff.mpr fun c hc => isDigit_of_mem_toDigits hc
  have hhead : (numeral n).head? = some '-' ↔ n < 0 := by
    rw [h, List.head?_cons, Option.some.injEq, hneg]
  simp only [readInt, hdrop, unsigned_numeral, htake, Nat.ofDigitChars_ten_toDigits, hhead]
  split <;> omega

/-- A number of 32 bits is read as it was written. -/
@[simp] theorem atoi_numeral (n : Int32) : atoi (numeral n.toInt) = n := by
  rw [atoi, readInt_numeral, Int32.ofInt_toInt]

/-- A number of 64 bits is read as it was written. -/
@[simp] theorem atoll_numeral (n : Int64) : atoll (numeral n.toInt) = n := by
  rw [atoll, readInt_numeral, Int64.ofInt_toInt]

/-- Different numbers have different numerals. -/
theorem numeral_injective {m n : Int} (h : numeral m = numeral n) : m = n := by
  rw [← readInt_numeral m, h, readInt_numeral]

end Library
