import Mathlib.Algebra.Group.Int.Defs
import Mathlib.Algebra.Group.Nat.Defs

/-!
# Numbers as doubles

A number of JSON text is handed over as a double: the nearest one, and of two nearest ones the
one with the even significand. Doubles have 53 binary digits and no digit behind the 1074th.
There is no largest double here.
-/

namespace Library

/-- The nearest whole number, and of two the even one. -/
def roundHalfEven (q : Rat) : Int :=
  if q - q.floor < 1 / 2 ∨ q - q.floor = 1 / 2 ∧ q.floor % 2 = 0 then q.floor else q.floor + 1

/-- The position of the first binary digit. -/
def leadingExponent (q : Rat) : Int :=
  let e : Int := q.num.natAbs.log2 - q.den.log2
  if (2 : Rat) ^ e * q.den ≤ q.num.natAbs then e else e - 1

/-- The position of the last digit that a double has. -/
def quantumExponent (q : Rat) : Int := max (leadingExponent q - 52) (-1074)

/-- The double a number is handed over as. -/
def toDouble (q : Rat) : Rat :=
  roundHalfEven (q / 2 ^ quantumExponent q) * 2 ^ quantumExponent q

example : toDouble 9007199254740993 = 9007199254740992 := by decide +kernel

end Library
