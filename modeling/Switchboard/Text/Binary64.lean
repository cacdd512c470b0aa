set_option autoImplicit false

/-!
# The binary64 number nearest to a decimal

A decimal `m · 10 ^ e` is rounded to the nearest number of the IEEE format binary64, a tie to the
one with an even significand, and is given as the 64 bits of that number.  All arithmetic is exact,
on natural numbers; a decimal far outside the range of the format is not computed but settled by
its number of digits.
-/

namespace Switchboard.Binary64

/-- The bits of positive infinity. -/
def infinity : Nat := 0x7FF0000000000000

/-- The bits of the number that is none. -/
def notANumber : Nat := 0x7FF8000000000000

/-- The bit of the sign. -/
def signBit : Nat := 0x8000000000000000

/-- The quotient of two numbers, rounded to the nearest integer, a tie to the even one. -/
def roundDiv (num den : Nat) : Nat :=
  let q := num / den
  let r := num % den
  if 2 * r > den ∨ (2 * r = den ∧ q % 2 = 1) then q + 1 else q

/-- `num · 2 ^ (-shift) / den`, rounded. -/
def roundScaled (num den : Nat) (shift : Int) : Nat :=
  if 0 ≤ shift then roundDiv num (den * Nat.pow 2 shift.toNat)
  else roundDiv (num * Nat.pow 2 (-shift).toNat) den

/-- The least `k` with `num / den < 2 ^ (k + 1)`, for a positive fraction. -/
def binaryExponent (num den : Nat) : Int :=
  let guess : Int := num.log2 - den.log2
  let below : Bool :=
    if 0 ≤ guess then num < den * Nat.pow 2 guess.toNat
    else num * Nat.pow 2 (-guess).toNat < den
  if below then guess - 1 else guess

/-- The bits of the number nearest to a positive fraction.  The significand has 53 bits, or fewer
at the bottom of the range; adding it to the shifted exponent carries a significand that rounding
has filled up into the next exponent. -/
def ofFraction (num den : Nat) : Nat :=
  let shift := max (-1074) (binaryExponent num den - 52)
  let bits := (shift + 1074).toNat * Nat.pow 2 52 + roundScaled num den shift
  min bits infinity

/-- The bits of the nonnegative number nearest to `m · 10 ^ e`. -/
def ofDecimal (m : Nat) (e : Int) : Nat :=
  let magnitude : Int := (Nat.toDigits 10 m).length + e
  if m = 0 ∨ magnitude < -330 then 0
  else if magnitude > 330 then infinity
  else if 0 ≤ e then ofFraction (m * Nat.pow 10 e.toNat) 1
  else ofFraction m (Nat.pow 10 (-e).toNat)

example : ofDecimal 1 0 = 0x3FF0000000000000 := by decide +kernel
example : ofDecimal 1 (-1) = 0x3FB999999999999A := by decide +kernel
example : ofDecimal 5 (-324) = 1 := by decide +kernel
example : ofDecimal 2 (-324) = 0 := by decide +kernel
example : ofDecimal 22250738585072014 (-324) = 0x0010000000000000 := by decide +kernel
example : ofDecimal 17976931348623157 292 = 0x7FEFFFFFFFFFFFFF := by decide +kernel
example : ofDecimal 18 307 = infinity := by decide +kernel

end Switchboard.Binary64
