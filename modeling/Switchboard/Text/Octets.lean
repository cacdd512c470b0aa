import Switchboard.Text.Basic

set_option autoImplicit false

/-!
# Positions in the octets of a text

A text is kept as octets, one to four of them for a character, and a position in it counts octets.
A text can be cut at the positions that lie between two characters, at its start and at its end, and
at no others (`splitAt?_eq_some_iff`).
-/

namespace Switchboard.Text

/-- The octets of a text, in UTF-8. -/
def octets (s : Text) : List UInt8 := s.flatMap String.utf8EncodeChar

/-- How many octets a text takes. -/
def size (s : Text) : Nat := s.octets.length

/-- The octet at a position; nothing at the end of the text or behind it. -/
def octetAt? (s : Text) (position : Nat) : Option UInt8 := s.octets[position]?

/-- The text before a position and the text from there on; nothing where the position lies inside a
character or behind the end. -/
def splitAt? : Text → Nat → Option (Text × Text)
  | s, 0 => some ([], s)
  | [], _ + 1 => none
  | c :: rest, position + 1 =>
    if c.utf8Size ≤ position + 1 then
      (splitAt? rest (position + 1 - c.utf8Size)).map fun sides => (c :: sides.1, sides.2)
    else none

/-- The text from a position on. -/
def sliceFrom? (s : Text) (first : Nat) : Option Text := (s.splitAt? first).map Prod.snd

/-- The text from a position up to another, which must not come before it. -/
def slice? (s : Text) (first last : Nat) : Option Text :=
  if first ≤ last then do
    let rest ← s.sliceFrom? first
    let sides ← rest.splitAt? (last - first)
    return sides.1
  else none

/-- The position of the first `c`. -/
def position? (c : Char) (s : Text) : Option Nat := (cut? c s).map fun sides => size sides.1

/-- The position of the last `c`. -/
def lastPosition? (c : Char) (s : Text) : Option Nat :=
  (cutLast? c s).map fun sides => size sides.1

/-! ## Sizes -/

@[simp] theorem size_nil : size [] = 0 := rfl

@[simp] theorem size_append (a b : Text) : size (a ++ b) = size a + size b := by
  simp [size, octets]

@[simp] theorem size_cons (c : Char) (s : Text) : size (c :: s) = c.utf8Size + size s := by
  simp [size, octets]

theorem size_eq_zero_iff {s : Text} : size s = 0 ↔ s = [] := by
  cases s with
  | nil => simp
  | cons c rest =>
    have hpos := c.utf8Size_pos
    simp
    omega

/-! ## Cutting at a position -/

theorem splitAt?_eq_some_iff {s a b : Text} {position : Nat} :
    splitAt? s position = some (a, b) ↔ s = a ++ b ∧ size a = position := by
  induction s generalizing a b position with
  | nil =>
    cases position with
    | zero => simp +contextual [splitAt?, eq_comm]
    | succ n => simp +contextual [splitAt?]
  | cons c rest ih =>
    have hpos := c.utf8Size_pos
    cases position with
    | zero =>
      rw [size_eq_zero_iff]
      cases a with
      | nil => simp [splitAt?]
      | cons d a => simp [splitAt?]
    | succ n =>
      simp only [splitAt?, Option.ite_none_right_eq_some, Option.map_eq_some_iff, Prod.mk.injEq,
        Prod.exists, ih]
      cases a with
      | nil => simp
      | cons d a =>
        simp only [List.cons.injEq, List.cons_append, size_cons]
        constructor
        · rintro ⟨hfits, _, _, ⟨rfl, hsize⟩, ⟨rfl, rfl⟩, rfl⟩
          exact ⟨⟨rfl, rfl⟩, by omega⟩
        · rintro ⟨⟨rfl, rfl⟩, hsize⟩
          exact ⟨by omega, a, b, ⟨rfl, by omega⟩, ⟨rfl, rfl⟩, rfl⟩

theorem splitAt?_append (a b : Text) : splitAt? (a ++ b) (size a) = some (a, b) :=
  splitAt?_eq_some_iff.2 ⟨rfl, rfl⟩

/-- A text has one beginning of a given size. -/
theorem append_inj_of_size {a a' b b' : Text} (h : a ++ b = a' ++ b') (hsize : size a = size a') :
    a = a' ∧ b = b' := by
  have hcut := splitAt?_append a b
  rw [h, hsize, splitAt?_append] at hcut
  simpa [eq_comm] using hcut

theorem sliceFrom?_append (a b : Text) : sliceFrom? (a ++ b) (size a) = some b := by
  rw [sliceFrom?, splitAt?_append]
  rfl

theorem slice?_append (a inner b : Text) :
    slice? (a ++ (inner ++ b)) (size a) (size a + size inner) = some inner := by
  rw [slice?, if_pos (Nat.le_add_right _ _), sliceFrom?_append, Nat.add_sub_cancel_left]
  simp [splitAt?_append]

/-! ## The position of a character -/

theorem position?_eq_none_iff {c : Char} {s : Text} : position? c s = none ↔ c ∉ s := by
  rw [position?, Option.map_eq_none_iff, cut?_eq_none_iff]

theorem position?_append_cons {c : Char} {a : Text} (b : Text) (h : c ∉ a) :
    position? c (a ++ c :: b) = some (size a) := by
  rw [position?, cut?_append_cons b h]
  rfl

theorem lastPosition?_eq_none_iff {c : Char} {s : Text} : lastPosition? c s = none ↔ c ∉ s := by
  rw [lastPosition?, Option.map_eq_none_iff, cutLast?_eq_none_iff]

/-- The last `c` is at the end of a beginning of the text exactly if it comes next, and no other
follows. -/
theorem lastPosition?_append_iff {c : Char} {a b : Text} :
    lastPosition? c (a ++ b) = some (size a) ↔ ∃ rest, b = c :: rest ∧ c ∉ rest := by
  rw [lastPosition?, Option.map_eq_some_iff]
  constructor
  · rintro ⟨⟨before, after⟩, hcut, hsize⟩
    obtain ⟨heq, hafter⟩ := cutLast?_eq_some_iff.1 hcut
    exact ⟨after, (append_inj_of_size heq hsize.symm).2, hafter⟩
  · rintro ⟨rest, rfl, hrest⟩
    exact ⟨(a, rest), cutLast?_append_cons a hrest, rfl⟩

/-! ## The octet at a position -/

theorem octetAt?_append (a b : Text) : octetAt? (a ++ b) (size a) = b.octets.head? := by
  have hoctets : octets (a ++ b) = octets a ++ octets b := List.flatMap_append
  rw [octetAt?, hoctets, size, List.getElem?_append_right (Nat.le_refl _), Nat.sub_self,
    List.head?_eq_getElem?]

/-- No character's octets begin with those of another. -/
theorem eq_of_encode_append {c d : Char} {a b : List UInt8}
    (h : String.utf8EncodeChar c ++ a = String.utf8EncodeChar d ++ b) : c = d := by
  have hc : ((String.utf8EncodeChar c ++ a).toByteArray).utf8DecodeChar? 0 = some c := by
    rw [List.toByteArray_append, ByteArray.utf8DecodeChar?_utf8EncodeChar_append]
  have hd : ((String.utf8EncodeChar d ++ b).toByteArray).utf8DecodeChar? 0 = some d := by
    rw [List.toByteArray_append, ByteArray.utf8DecodeChar?_utf8EncodeChar_append]
  rw [h, hd] at hc
  exact (Option.some.inj hc).symm

/-- A character that is a single octet is told by that octet. -/
theorem exists_octetAt?_append_cons {d : Char} {octet : UInt8}
    (hd : String.utf8EncodeChar d = [octet]) (a : Text) (c : Char) (b : Text) :
    ∃ first, octetAt? (a ++ c :: b) (size a) = some first ∧ (first = octet ↔ c = d) := by
  rw [octetAt?_append]
  cases hc : String.utf8EncodeChar c with
  | nil => exact absurd hc String.utf8EncodeChar_ne_nil
  | cons first rest =>
    refine ⟨first, by simp [octets, hc], ?_⟩
    constructor
    · rintro rfl
      refine eq_of_encode_append (a := []) (b := rest) ?_
      rw [hc, hd]
      simp
    · rintro rfl
      rw [hc] at hd
      exact (List.cons.inj hd).1

end Switchboard.Text
