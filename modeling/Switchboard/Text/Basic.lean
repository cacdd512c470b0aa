set_option autoImplicit false

/-!
# Text, and cutting it at a separator

Text is the sequence of its characters, so that a grammar can be read off by recursion on it.
Three ways to divide a text at a character `c` are kept here: at the first `c`, at the last `c`,
and at every `c`.  Each comes with the statement that fixes it: `cut?_eq_some_iff` and
`cutLast?_eq_some_iff` say that the two sides with the separator between them are the whole text,
and which side is free of the separator.
-/

namespace Switchboard

/-- Text as the characters it is made of. -/
abbrev Text : Type := List Char

namespace Text

/-- The text before the first `c` and the text after it; nothing when there is no `c`. -/
def cut? (c : Char) : Text → Option (Text × Text)
  | [] => none
  | x :: rest =>
    if x = c then some ([], rest)
    else (cut? c rest).map fun sides => (x :: sides.1, sides.2)

/-- The text before the last `c` and the text after it; nothing when there is no `c`. -/
def cutLast? (c : Char) : Text → Option (Text × Text)
  | [] => none
  | x :: rest =>
    match cutLast? c rest with
    | some (before, after) => some (x :: before, after)
    | none => if x = c then some ([], rest) else none

/-- The pieces between the characters that satisfy `sep`, in order: one piece more than there are
such characters. -/
def piecesBy (sep : Char → Bool) : Text → List Text
  | [] => [[]]
  | x :: rest =>
    if sep x then [] :: piecesBy sep rest
    else
      match piecesBy sep rest with
      | [] => [[x]]
      | piece :: more => (x :: piece) :: more

/-- The pieces between the separators `c`, in order. -/
def pieces (c : Char) (s : Text) : List Text := piecesBy (· == c) s

/-- The characters up to the first `c`, or all of them. -/
def upTo (c : Char) (s : Text) : Text := s.takeWhile (· ≠ c)

/-- The characters from the first `c` on, with it, or none. -/
def onFrom (c : Char) (s : Text) : Text := s.dropWhile (· ≠ c)

/-- A text whose characters are all of a kind holds none of another kind. -/
theorem not_mem_of_forall {p : Char → Bool} {s : Text} (h : ∀ c ∈ s, p c = true) {c : Char}
    (hc : p c = false) : c ∉ s := by
  intro hmem
  rw [h c hmem] at hc
  exact Bool.false_ne_true hc.symm

/-- Letters and digits of ASCII lie between the zero and the small z. -/
theorem toNat_of_isAlphanum {c : Char} (h : c.isAlphanum = true) :
    0x30 ≤ c.toNat ∧ c.toNat ≤ 0x7A := by
  have hranges : ((decide (c.val ≥ 65 ∧ c.val ≤ 90) ||
      decide (c.val ≥ 97) && decide (c.val ≤ 122)) ||
      decide (c.val ≥ 48) && decide (c.val ≤ 57)) = true := h
  simp only [Bool.or_eq_true, Bool.and_eq_true, decide_eq_true_eq, ge_iff_le,
    UInt32.le_iff_toNat_le] at hranges
  have hval : c.toNat = c.val.toNat := rfl
  simp at hranges
  omega

/-! ## Cutting at the first separator -/

@[simp] theorem cut?_nil (c : Char) : cut? c [] = none := rfl

theorem cut?_eq_none_iff {c : Char} {s : Text} : cut? c s = none ↔ c ∉ s := by
  induction s with
  | nil => simp
  | cons x rest ih =>
    by_cases h : x = c
    · simp [cut?, h]
    · simp [cut?, h, ih, Ne.symm h]

theorem cut?_eq_some_iff {c : Char} {s a b : Text} :
    cut? c s = some (a, b) ↔ s = a ++ c :: b ∧ c ∉ a := by
  induction s generalizing a with
  | nil => simp
  | cons x rest ih =>
    by_cases h : x = c
    · subst h
      cases a with
      | nil => simp [cut?, eq_comm]
      | cons y a =>
        simp only [cut?, if_true, List.cons_append, List.cons.injEq, List.mem_cons, not_or]
        constructor
        · simp
        · rintro ⟨⟨rfl, _⟩, hne, _⟩
          exact absurd rfl hne
    · cases a with
      | nil => simp [cut?, h]
      | cons y a =>
        simp only [cut?, if_neg h, Option.map_eq_some_iff, Prod.mk.injEq, Prod.exists,
          List.cons.injEq, List.cons_append, List.mem_cons, not_or]
        constructor
        · rintro ⟨a', b', hc, ⟨rfl, rfl⟩, rfl⟩
          obtain ⟨hr, hm⟩ := ih.1 hc
          exact ⟨⟨rfl, hr⟩, fun e => h e.symm, hm⟩
        · rintro ⟨⟨rfl, hr⟩, _, hm⟩
          exact ⟨a, b, ih.2 ⟨hr, hm⟩, ⟨rfl, rfl⟩, rfl⟩

theorem cut?_append_cons {c : Char} {a : Text} (b : Text) (h : c ∉ a) :
    cut? c (a ++ c :: b) = some (a, b) :=
  cut?_eq_some_iff.2 ⟨rfl, h⟩

/-! ## Cutting at the last separator -/

@[simp] theorem cutLast?_nil (c : Char) : cutLast? c [] = none := rfl

theorem cutLast?_eq_none_iff {c : Char} {s : Text} : cutLast? c s = none ↔ c ∉ s := by
  induction s with
  | nil => simp
  | cons x rest ih =>
    unfold cutLast?
    cases hr : cutLast? c rest with
    | some sides =>
      obtain ⟨a, b⟩ := sides
      have hmem : c ∈ rest := Classical.not_not.1 fun hn => by simp [ih.2 hn] at hr
      simp [hmem]
    | none =>
      have hmem : c ∉ rest := ih.1 hr
      by_cases h : x = c
      · simp [h]
      · simp [h, hmem, Ne.symm h]

theorem cutLast?_eq_some_iff {c : Char} {s a b : Text} :
    cutLast? c s = some (a, b) ↔ s = a ++ c :: b ∧ c ∉ b := by
  induction s generalizing a b with
  | nil => simp
  | cons x rest ih =>
    unfold cutLast?
    cases hr : cutLast? c rest with
    | some sides =>
      obtain ⟨a', b'⟩ := sides
      obtain ⟨hrest, hb'⟩ := ih.1 hr
      simp only [Option.some.injEq, Prod.mk.injEq]
      constructor
      · rintro ⟨rfl, rfl⟩
        exact ⟨by rw [hrest, List.cons_append], hb'⟩
      · rintro ⟨he, hb⟩
        cases a with
        | nil =>
          simp only [List.nil_append, List.cons.injEq] at he
          exact absurd (he.2 ▸ hrest ▸ by simp) hb
        | cons y a =>
          simp only [List.cons_append, List.cons.injEq] at he
          have := hr.symm.trans (ih.2 ⟨he.2, hb⟩)
          simp only [Option.some.injEq, Prod.mk.injEq] at this
          exact ⟨by rw [he.1, this.1], this.2⟩
    | none =>
      have hno : c ∉ rest := cutLast?_eq_none_iff.1 hr
      by_cases h : x = c
      · subst h
        simp only [if_true, Option.some.injEq, Prod.mk.injEq]
        constructor
        · rintro ⟨rfl, rfl⟩
          exact ⟨rfl, hno⟩
        · rintro ⟨he, _⟩
          cases a with
          | nil =>
            simp only [List.nil_append, List.cons.injEq, true_and] at he
            exact ⟨rfl, he⟩
          | cons y a =>
            simp only [List.cons_append, List.cons.injEq] at he
            exact absurd (he.2 ▸ by simp) hno
      · simp only [if_neg h]
        constructor
        · simp
        · rintro ⟨he, _⟩
          cases a with
          | nil =>
            simp only [List.nil_append, List.cons.injEq] at he
            exact absurd he.1 h
          | cons y a =>
            simp only [List.cons_append, List.cons.injEq] at he
            exact absurd (he.2 ▸ by simp) hno

theorem cutLast?_append_cons {c : Char} (a : Text) {b : Text} (h : c ∉ b) :
    cutLast? c (a ++ c :: b) = some (a, b) :=
  cutLast?_eq_some_iff.2 ⟨rfl, h⟩

/-! ## Cutting at every separator -/

theorem piecesBy_ne_nil (sep : Char → Bool) (s : Text) : piecesBy sep s ≠ [] := by
  cases s with
  | nil => simp [piecesBy]
  | cons x rest =>
    unfold piecesBy
    split
    · simp
    · split <;> simp

theorem piecesBy_of_forall {sep : Char → Bool} {s : Text} (h : ∀ c ∈ s, sep c = false) :
    piecesBy sep s = [s] := by
  induction s with
  | nil => rfl
  | cons x rest ih =>
    have hx := h x (by simp)
    simp [piecesBy, hx, ih fun c hc => h c (by simp [hc])]

theorem piecesBy_append_cons {sep : Char → Bool} {c : Char} (hc : sep c = true) (a b : Text) :
    piecesBy sep (a ++ c :: b) = piecesBy sep a ++ piecesBy sep b := by
  induction a with
  | nil => simp [piecesBy, hc]
  | cons x rest ih =>
    by_cases h : sep x = true
    · simp [piecesBy, h, ih]
    · simp only [List.cons_append, piecesBy, h, ih]
      cases hp : piecesBy sep rest with
      | nil => exact absurd hp (piecesBy_ne_nil sep rest)
      | cons piece more => simp

theorem pieces_of_not_mem {c : Char} {s : Text} (h : c ∉ s) : pieces c s = [s] :=
  piecesBy_of_forall fun x hx => by
    have : x ≠ c := fun e => h (e ▸ hx)
    simpa using this

theorem pieces_append_cons (c : Char) (a b : Text) :
    pieces c (a ++ c :: b) = pieces c a ++ pieces c b :=
  piecesBy_append_cons (by simp) a b

/-- A character of a text separates two pieces or stands in one. -/
theorem mem_piecesBy (sep : Char → Bool) {s : Text} {c : Char} (hc : c ∈ s) :
    sep c = true ∨ ∃ piece ∈ piecesBy sep s, c ∈ piece := by
  induction s with
  | nil => simp at hc
  | cons x rest ih =>
    by_cases hx : sep x = true
    · rcases List.mem_cons.1 hc with rfl | hrest
      · exact .inl hx
      · rcases ih hrest with hsep | ⟨piece, hpiece, hmem⟩
        · exact .inl hsep
        · exact .inr ⟨piece, by simp [piecesBy, hx, hpiece], hmem⟩
    · cases hp : piecesBy sep rest with
      | nil => exact absurd hp (piecesBy_ne_nil sep rest)
      | cons first more =>
        have hcons : piecesBy sep (x :: rest) = (x :: first) :: more := by
          simp [piecesBy, hx, hp]
        rw [hcons]
        rcases List.mem_cons.1 hc with rfl | hrest
        · exact .inr ⟨c :: first, by simp, by simp⟩
        · rcases ih hrest with hsep | ⟨piece, hpiece, hmem⟩
          · exact .inl hsep
          · rw [hp] at hpiece
            rcases List.mem_cons.1 hpiece with rfl | hmore
            · exact .inr ⟨x :: piece, by simp, by simp [hmem]⟩
            · exact .inr ⟨piece, by simp [hmore], hmem⟩

theorem mem_pieces (sep : Char) {s : Text} {c : Char} (hc : c ∈ s) :
    c = sep ∨ ∃ piece ∈ pieces sep s, c ∈ piece :=
  (mem_piecesBy (· == sep) hc).imp_left eq_of_beq

theorem upTo_append_onFrom (c : Char) (s : Text) : upTo c s ++ onFrom c s = s :=
  List.takeWhile_append_dropWhile

theorem not_mem_upTo (c : Char) (s : Text) : c ∉ upTo c s := by
  induction s with
  | nil => simp [upTo]
  | cons x rest ih =>
    by_cases h : x = c
    · simp [upTo, h]
    · simpa [upTo, List.takeWhile_cons, h, Ne.symm h] using ih

theorem upTo_append {c : Char} {a : Text} (h : c ∉ a) (b : Text) :
    upTo c (a ++ b) = a ++ upTo c b := by
  refine List.takeWhile_append_of_pos fun x hx => ?_
  have hne : x ≠ c := fun e => h (e ▸ hx)
  simpa using hne

theorem onFrom_append {c : Char} {a : Text} (h : c ∉ a) (b : Text) :
    onFrom c (a ++ b) = onFrom c b := by
  refine List.dropWhile_append_of_pos fun x hx => ?_
  have hne : x ≠ c := fun e => h (e ▸ hx)
  simpa using hne

@[simp] theorem upTo_nil (c : Char) : upTo c [] = [] := rfl

@[simp] theorem onFrom_nil (c : Char) : onFrom c [] = [] := rfl

@[simp] theorem upTo_cons_self (c : Char) (s : Text) : upTo c (c :: s) = [] := by simp [upTo]

@[simp] theorem onFrom_cons_self (c : Char) (s : Text) : onFrom c (c :: s) = c :: s := by
  simp [onFrom]

theorem onFrom_eq_nil_or_cons (c : Char) (s : Text) :
    onFrom c s = [] ∨ ∃ t, onFrom c s = c :: t := by
  induction s with
  | nil => exact .inl rfl
  | cons x rest ih =>
    by_cases h : x = c
    · subst h
      exact .inr ⟨rest, onFrom_cons_self x rest⟩
    · have hskip : onFrom c (x :: rest) = onFrom c rest :=
        onFrom_append (a := [x]) (by simpa using Ne.symm h) rest
      rwa [hskip]

end Text

end Switchboard
