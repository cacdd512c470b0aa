import Switchboard.Text.Basic

set_option autoImplicit false

/-!
# The order of texts

Texts are ordered character by character by code point; a text comes before every longer text that
it starts.  The order is strict and total.
-/

namespace Switchboard.Text

/-- Whether a text comes before another one. -/
def precedes : Text → Text → Bool
  | _, [] => false
  | [], _ :: _ => true
  | x :: s, y :: t => x.toNat < y.toNat || (x == y && precedes s t)

theorem precedes_irrefl (s : Text) : precedes s s = false := by
  induction s with
  | nil => rfl
  | cons x s ih => simp [precedes, ih]

theorem precedes_trans {s t u : Text} (h : precedes s t = true) (h' : precedes t u = true) :
    precedes s u = true := by
  induction s generalizing t u with
  | nil =>
    cases u with
    | nil => cases t <;> simp [precedes] at h'
    | cons z u => rfl
  | cons x s ih =>
    cases t with
    | nil => simp [precedes] at h
    | cons y t =>
      cases u with
      | nil => simp [precedes] at h'
      | cons z u =>
        simp only [precedes, Bool.or_eq_true, decide_eq_true_eq, Bool.and_eq_true,
          beq_iff_eq] at h h' ⊢
        rcases h with h | ⟨rfl, h⟩
        · rcases h' with h' | ⟨rfl, h'⟩
          · exact .inl (Nat.lt_trans h h')
          · exact .inl h
        · rcases h' with h' | ⟨rfl, h'⟩
          · exact .inl h'
          · exact .inr ⟨rfl, ih h h'⟩

theorem precedes_or_precedes {s t : Text} (h : s ≠ t) :
    precedes s t = true ∨ precedes t s = true := by
  induction s generalizing t with
  | nil =>
    cases t with
    | nil => exact absurd rfl h
    | cons y t => exact .inl rfl
  | cons x s ih =>
    cases t with
    | nil => exact .inr rfl
    | cons y t =>
      simp only [precedes, Bool.or_eq_true, decide_eq_true_eq, Bool.and_eq_true, beq_iff_eq]
      rcases Nat.lt_trichotomy x.toNat y.toNat with hlt | heq | hgt
      · exact .inl (.inl hlt)
      · have hxy : x = y := Char.ext (UInt32.toNat_inj.1 heq)
        subst hxy
        rcases ih (t := t) (fun e => h (by rw [e])) with h | h
        · exact .inl (.inr ⟨rfl, h⟩)
        · exact .inr (.inr ⟨rfl, h⟩)
      · exact .inr (.inl hgt)

end Switchboard.Text
