import Switchboard.Text.Basic

set_option autoImplicit false

/-!
# Decimal numerals

The digits of a number, and the number that a run of digits stands for.  Reading refuses the empty
text, every character but the ten digits, and values above a bound; it accepts leading zeros.
Main statement: what `digits` writes, `read?` reads back.
-/

namespace Switchboard.Decimal

/-- The decimal digits of a number, without leading zeros. -/
def digits (n : Nat) : Text := Nat.toDigits 10 n

/-- The number that a run of digits stands for. -/
def value (s : Text) : Nat := Nat.ofDigitChars 10 s 0

/-- Whether a text is a numeral: digits only, and at least one. -/
def isNumeral (s : Text) : Bool := !s.isEmpty && s.all Char.isDigit

/-- The number that a numeral stands for, when it does not exceed the bound. -/
def read? (bound : Nat) (s : Text) : Option Nat :=
  if isNumeral s && value s ≤ bound then some (value s) else none

/-- Like `read?`, with a plus sign allowed in front. -/
def readSigned? (bound : Nat) : Text → Option Nat
  | '+' :: s => read? bound s
  | s => read? bound s

theorem read?_eq_some_iff {bound n : Nat} {s : Text} :
    read? bound s = some n ↔ isNumeral s = true ∧ value s = n ∧ n ≤ bound := by
  unfold read?
  by_cases h : isNumeral s = true <;> by_cases hb : value s ≤ bound <;> simp_all <;> omega

theorem isNumeral_digits (n : Nat) : isNumeral (digits n) = true := by
  have h : digits n ≠ [] := Nat.toDigits_ne_nil
  simp only [isNumeral, Bool.and_eq_true, Bool.not_eq_true', List.isEmpty_eq_false_iff]
  exact ⟨h, List.all_eq_true.2 fun c hc =>
    Nat.isDigit_of_mem_toDigits (by decide) (by decide) hc⟩

@[simp] theorem value_digits (n : Nat) : value (digits n) = n :=
  Nat.ofDigitChars_ten_toDigits

theorem read?_digits {bound n : Nat} (h : n ≤ bound) : read? bound (digits n) = some n :=
  read?_eq_some_iff.2 ⟨isNumeral_digits n, value_digits n, h⟩

end Switchboard.Decimal
