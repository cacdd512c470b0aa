import Mathlib
import Switchboard.Uri.Printer
import Switchboard.Uri.Reader

set_option autoImplicit false

/-!
# The stages of reading a URI

A text is divided by one stage after another: the fragment, the scheme, the query, and the
authority with its user.  Each stage gets two statements here.  One says what the pieces are like
and how they make up the text that was divided; the other says that a piece written by the printer
is found again by its stage, whatever the text around it.
-/

namespace Switchboard.Uri

/-! ## The fragment -/

theorem splitFragment_of_not_mem {s : Text} (h : '#' ∉ s) : splitFragment s = (s, []) := by
  rw [splitFragment, Text.cut?_eq_none_iff.2 h]
  rfl

/-- The printed fragment is found behind a text without a number sign. -/
theorem splitFragment_append {head : Text} (h : '#' ∉ head) (u : Uri) :
    splitFragment (head ++ u.printFragment) = (head, u.fragment) := by
  by_cases hf : u.fragment = []
  · have hprint : u.printFragment = [] := if_pos hf
    rw [hprint, List.append_nil, hf]
    exact splitFragment_of_not_mem h
  · have hprint : u.printFragment = '#' :: u.fragment := if_neg hf
    rw [hprint, splitFragment, Text.cut?_append_cons _ h]
    rfl

/-- What the fragment is cut from: the head has no number sign, and head and fragment make up the
text. -/
theorem splitFragment_spec (raw : Text) :
    '#' ∉ (splitFragment raw).1 ∧
      (raw = (splitFragment raw).1 ∧ (splitFragment raw).2 = [] ∨
        raw = (splitFragment raw).1 ++ '#' :: (splitFragment raw).2) := by
  cases hcut : Text.cut? '#' raw with
  | none =>
    have hno : '#' ∉ raw := Text.cut?_eq_none_iff.1 hcut
    rw [splitFragment_of_not_mem hno]
    exact ⟨hno, .inl ⟨rfl, rfl⟩⟩
  | some sides =>
    obtain ⟨head, fragment⟩ := sides
    obtain ⟨hraw, hno⟩ := Text.cut?_eq_some_iff.1 hcut
    have hsplit : splitFragment raw = (head, fragment) := by
      rw [splitFragment, hcut]
      rfl
    rw [hsplit]
    exact ⟨hno, .inr hraw⟩

/-! ## The query -/

/-- The printed query is found behind a text without a question mark. -/
theorem splitQuery_append {middle : Text} (h : '?' ∉ middle) {u : Uri}
    (hforce : u.forceQuery = true → u.query = []) :
    splitQuery (middle ++ u.printQuery)
      = { before := middle, forceQuery := u.forceQuery, query := u.query } := by
  by_cases hprint : u.forceQuery = true ∨ u.query ≠ []
  · have hq : u.printQuery = '?' :: u.query := if_pos hprint
    rw [hq, splitQuery, Text.cut?_append_cons _ h]
    cases hquery : u.query with
    | nil =>
      have hf : u.forceQuery = true := hprint.resolve_right (fun hne => hne hquery)
      rw [hf]
    | cons c rest =>
      have hf : u.forceQuery = false := by
        cases hf : u.forceQuery with
        | false => rfl
        | true => simp [hforce hf] at hquery
      rw [hf]
  · have hq : u.printQuery = [] := if_neg hprint
    obtain ⟨hf, hquery⟩ := not_or.1 hprint
    rw [hq, List.append_nil, splitQuery, Text.cut?_eq_none_iff.2 h]
    simp [Bool.eq_false_of_not_eq_true hf, not_not.1 hquery]

/-- What the query is cut from: the text before it has no question mark, a forced query is empty,
and the parts make up the text. -/
theorem splitQuery_spec (s : Text) :
    '?' ∉ (splitQuery s).before ∧
      ((splitQuery s).forceQuery = true → (splitQuery s).query = []) ∧
      (s = (splitQuery s).before ∧ (splitQuery s).forceQuery = false ∧ (splitQuery s).query = [] ∨
        s = (splitQuery s).before ++ '?' :: (splitQuery s).query ∧
          ((splitQuery s).forceQuery = true ∨ (splitQuery s).query ≠ [])) := by
  cases hcut : Text.cut? '?' s with
  | none =>
    have hno : '?' ∉ s := Text.cut?_eq_none_iff.1 hcut
    have hsplit : splitQuery s = { before := s } := by rw [splitQuery, hcut]
    rw [hsplit]
    exact ⟨hno, by simp, .inl ⟨rfl, rfl, rfl⟩⟩
  | some sides =>
    obtain ⟨before, query⟩ := sides
    obtain ⟨hs, hno⟩ := Text.cut?_eq_some_iff.1 hcut
    cases query with
    | nil =>
      have hsplit : splitQuery s = { before := before, forceQuery := true } := by
        rw [splitQuery, hcut]
      rw [hsplit]
      exact ⟨hno, fun _ => rfl, .inr ⟨hs, .inl rfl⟩⟩
    | cons c rest =>
      have hsplit : splitQuery s = { before := before, query := c :: rest } := by
        rw [splitQuery, hcut]
      rw [hsplit]
      exact ⟨hno, by simp, .inr ⟨hs, .inr (by simp)⟩⟩

/-! ## The scheme -/

/-- Whether a character can stand in the name of a scheme. -/
def isSchemeChar (c : Char) : Bool := c.isAlphanum || c == '+' || c == '-' || c == '.'

theorem isSchemeChar_of_isSchemeName {name : Text} (h : isSchemeName name = true) :
    ∀ c ∈ name, isSchemeChar c = true := by
  cases name with
  | nil => simp
  | cons first rest =>
    simp only [isSchemeName, Bool.and_eq_true, List.all_eq_true] at h
    obtain ⟨hfirst, hrest⟩ := h
    intro c hc
    rcases List.mem_cons.1 hc with rfl | hc
    · simp [isSchemeChar, Char.isAlphanum, hfirst]
    · exact hrest c hc

/-- A character that no scheme holds is not in the name of a scheme. -/
theorem not_mem_of_isSchemeName {name : Text} (h : isSchemeName name = true) {c : Char}
    (hc : isSchemeChar c = false) : c ∉ name :=
  Text.not_mem_of_forall (isSchemeChar_of_isSchemeName h) hc

theorem isSchemeChar_toLower (c : Char) (h : isSchemeChar c = true) :
    isSchemeChar c.toLower = true := by
  by_cases hup : c.isUpper = true
  · have halpha : c.toLower.isAlpha = true := by simp [Char.isAlpha, hup]
    simp [isSchemeChar, Char.isAlphanum, halpha]
  · rwa [Char.toLower_eq_of_not_isUpper hup]

/-- The name of a scheme is one in lower case too. -/
theorem isSchemeName_map_toLower {name : Text} (h : isSchemeName name = true) :
    isSchemeName (name.map Char.toLower) = true := by
  cases name with
  | nil => simp [isSchemeName] at h
  | cons first rest =>
    have hall := isSchemeChar_of_isSchemeName h
    simp only [isSchemeName, Bool.and_eq_true, List.all_eq_true, List.map_cons] at h ⊢
    refine ⟨by simpa using h.1, ?_⟩
    intro c hc
    obtain ⟨x, hx, rfl⟩ := List.mem_map.1 hc
    exact isSchemeChar_toLower x (hall x (List.mem_cons_of_mem _ hx))

/-- The printed scheme is found in front of any text. -/
theorem splitScheme_append {scheme : Text} (hname : isSchemeName scheme = true)
    (hlower : scheme.map Char.toLower = scheme) (rest : Text) :
    splitScheme (scheme ++ ':' :: rest) = .ok (scheme, rest) := by
  have hcolon : ':' ∉ scheme := not_mem_of_isSchemeName hname (by decide)
  rw [splitScheme, Text.cut?_append_cons _ hcolon]
  cases scheme with
  | nil => simp [isSchemeName] at hname
  | cons c cs => simp only [hname, if_true, hlower]

theorem splitScheme_of_not_mem {s : Text} (h : ':' ∉ s) : splitScheme s = .ok ([], s) := by
  rw [splitScheme, Text.cut?_eq_none_iff.2 h]

/-- Behind a character that no scheme holds, a colon ends no scheme. -/
theorem splitScheme_of_barrier {before : Text} (hcolon : ':' ∉ before) {c : Char}
    (hc : isSchemeChar c = false) (hne : c ≠ ':') (after : Text) :
    splitScheme (before ++ c :: after) = .ok ([], before ++ c :: after) := by
  cases hcut : Text.cut? ':' (before ++ c :: after) with
  | none => rw [splitScheme, hcut]
  | some sides =>
    obtain ⟨name, rest⟩ := sides
    obtain ⟨heq, hname⟩ := Text.cut?_eq_some_iff.1 hcut
    -- the colon stands behind `c`, so the name takes `c` in
    have hmem : c ∈ name := by
      rcases List.append_eq_append_iff.1 heq with ⟨t, hn, ht⟩ | ⟨t, hb, ht⟩
      · cases t with
        | nil =>
          simp only [List.nil_append, List.cons.injEq] at ht
          exact absurd ht.1 hne
        | cons x t =>
          simp only [List.cons_append, List.cons.injEq] at ht
          rw [hn, ht.1]
          simp
      · cases t with
        | nil =>
          simp only [List.nil_append, List.cons.injEq] at ht
          exact absurd ht.1.symm hne
        | cons x t =>
          simp only [List.cons_append, List.cons.injEq] at ht
          exact absurd (by rw [hb, ← ht.1]; simp) hcolon
    have hbad : isSchemeName name = false := by
      cases hn : isSchemeName name with
      | false => rfl
      | true => exact absurd hmem (not_mem_of_isSchemeName hn hc)
    cases name with
    | nil => simp at hmem
    | cons x xs => simp only [splitScheme, hcut, hbad, Bool.false_eq_true, if_false]

/-- What the scheme is cut from: it is in lower case and stood in some case before a colon, or
there is none and nothing is cut off. -/
theorem splitScheme_spec {head scheme rest : Text} (h : splitScheme head = .ok (scheme, rest)) :
    (∃ name, isSchemeName name = true ∧ scheme = name.map Char.toLower ∧
        head = name ++ ':' :: rest) ∨
      scheme = [] ∧ rest = head := by
  unfold splitScheme at h
  split at h
  · simp only [Except.ok.injEq, Prod.mk.injEq] at h
    exact .inr ⟨h.1.symm, h.2.symm⟩
  · simp at h
  · rename_i name after _ hcut
    split at h
    · rename_i hname
      simp only [Except.ok.injEq, Prod.mk.injEq] at h
      obtain ⟨rfl, rfl⟩ := h
      exact .inl ⟨name, hname, rfl, (Text.cut?_eq_some_iff.1 hcut).1⟩
    · simp only [Except.ok.injEq, Prod.mk.injEq] at h
      exact .inr ⟨h.1.symm, h.2.symm⟩

/-! ## The user -/

/-- A printed user is found in front of a host without an at sign. -/
theorem splitUser_append (user : Text) {host : Text} (h : '@' ∉ host) :
    splitUser (user ++ '@' :: host) = (some user, host) := by
  rw [splitUser, Text.cutLast?_append_cons _ h]

theorem splitUser_of_not_mem {host : Text} (h : '@' ∉ host) : splitUser host = (none, host) := by
  rw [splitUser, Text.cutLast?_eq_none_iff.2 h]

/-- What the user is cut from: the host has no at sign, and both make up the authority. -/
theorem splitUser_spec (authority : Text) :
    '@' ∉ (splitUser authority).2 ∧
      ((splitUser authority).1 = none ∧ authority = (splitUser authority).2 ∨
        ∃ user, (splitUser authority).1 = some user ∧
          authority = user ++ '@' :: (splitUser authority).2) := by
  cases hcut : Text.cutLast? '@' authority with
  | none =>
    have hno : '@' ∉ authority := Text.cutLast?_eq_none_iff.1 hcut
    rw [splitUser_of_not_mem hno]
    exact ⟨hno, .inl ⟨rfl, rfl⟩⟩
  | some sides =>
    obtain ⟨user, host⟩ := sides
    obtain ⟨hauth, hno⟩ := Text.cutLast?_eq_some_iff.1 hcut
    have hsplit : splitUser authority = (some user, host) := by rw [splitUser, hcut]
    rw [hsplit]
    exact ⟨hno, .inr ⟨user, rfl, hauth⟩⟩

end Switchboard.Uri
