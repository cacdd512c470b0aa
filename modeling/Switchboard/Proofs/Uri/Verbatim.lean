import Switchboard.Proofs.Uri.Grammar
import Switchboard.Proofs.Uri.RoundTrip
import Switchboard.Proofs.Uri.SocketUri

set_option autoImplicit false

/-!
# Texts that are printed as they were read

`Layout` is how the separators divide a text: the name of a scheme, the middle, the query and the
fragment.  Reading a text and printing what was read keeps all of it but the spelling of these
parts, and `Layout.settled` says how it spells them: the scheme in small letters, no fragment that
is empty, and the slashes of an authority exactly where the printer writes them.  Main statement: a
text is printed as it was read exactly if its layout has nothing to settle (`print_eq_raw_iff`).

Two of the changes could not make up for each other: the slashes come and go in pairs and the number
sign of an empty fragment alone, so the length of a text shows which of them took place.
-/

namespace Switchboard.Uri

/-! ## Layouts -/

/-- A part of a text behind the mark that announces it; a part that is absent has no mark. -/
def marked (mark : Char) : Option Text → Text
  | none => []
  | some part => mark :: part

/-- The parts of a text, without the colon, the question mark and the number sign between them. -/
@[ext] structure Layout where
  scheme : Option Text := none
  middle : Text
  query : Option Text := none
  fragment : Option Text := none
  deriving DecidableEq, Repr

namespace Layout

/-- The name of the scheme and its colon. -/
def schemeText (l : Layout) : Text :=
  match l.scheme with
  | none => []
  | some name => name ++ [':']

/-- What stands between the scheme and the fragment. -/
def rest (l : Layout) : Text := l.middle ++ marked '?' l.query

/-- What stands before the fragment. -/
def head (l : Layout) : Text := l.schemeText ++ l.rest

/-- The whole text. -/
def text (l : Layout) : Text := l.head ++ marked '#' l.fragment

/-- How the printer spells a middle.  Two slashes with nothing behind them are left out, and so are
those that a text without a scheme has in front of a path alone; a path behind a scheme gets two. -/
def settledMiddle (l : Layout) : Text :=
  if l.middle = ['/', '/'] ∨ l.scheme = none ∧ ['/', '/', '/'] <+: l.middle then l.middle.drop 2
  else if l.scheme ≠ none ∧ l.middle.head? = some '/' ∧ ¬ ['/', '/'] <+: l.middle then
    '/' :: '/' :: l.middle
  else l.middle

/-- The components that stand around the middle. -/
def base (l : Layout) : Uri where
  scheme := (l.scheme.getD []).map Char.toLower
  query := l.query.getD []
  forceQuery := ForcesQuery l.rest
  fragment := l.fragment.getD []

@[simp] theorem base_body (l : Layout) : l.base.body = [] := rfl

@[simp] theorem base_user (l : Layout) : l.base.user = none := rfl

@[simp] theorem base_host (l : Layout) : l.base.host = [] := rfl

@[simp] theorem base_path (l : Layout) : l.base.path = [] := rfl

/-- The parts as the printer spells them. -/
def settled (l : Layout) : Layout where
  scheme := l.scheme.map (List.map Char.toLower)
  middle := l.settledMiddle
  query := l.query
  fragment := l.fragment.filter (· ≠ [])

/-- A layout with nothing to settle. -/
structure Plain (l : Layout) : Prop where
  lower : ∀ name, l.scheme = some name → ∀ c ∈ name, c.isUpper = false
  fragment : l.fragment ≠ some []
  single : ¬ (l.scheme ≠ none ∧ l.middle.head? = some '/' ∧ ¬ ['/', '/'] <+: l.middle)
  slashes : l.middle ≠ ['/', '/']
  triple : ¬ (l.scheme = none ∧ ['/', '/', '/'] <+: l.middle)

end Layout

/-- The parts of a layout are those of a text: the fragment stands behind the first number sign, the
query behind the first question mark before it, and the scheme before a colon if its name is one. -/
structure IsLayout (raw : Text) (l : Layout) : Prop where
  text : l.text = raw
  head : '#' ∉ l.head
  middle : '?' ∉ l.middle
  scheme : ∀ name, l.scheme = some name → isSchemeName name = true
  nameless : l.scheme = none →
    ∀ name rest, l.head = name ++ ':' :: rest → isSchemeName name = false

/-! ## Every text has a layout -/

theorem exists_marked (c : Char) (s : Text) :
    ∃ before part, s = before ++ marked c part ∧ c ∉ before := by
  cases hcut : Text.cut? c s with
  | none => exact ⟨s, none, (List.append_nil s).symm, Text.cut?_eq_none_iff.1 hcut⟩
  | some sides =>
    obtain ⟨heq, hfirst⟩ := Text.cut?_eq_some_iff.1 hcut
    exact ⟨sides.1, some sides.2, heq, hfirst⟩

theorem exists_isLayout (raw : Text) : ∃ l, IsLayout raw l := by
  obtain ⟨head, fragment, hraw, hhead⟩ := exists_marked '#' raw
  by_cases hname : ∃ name rest, head = name ++ ':' :: rest ∧ isSchemeName name = true
  · obtain ⟨name, rest, heq, hname⟩ := hname
    obtain ⟨middle, query, hrest, hmiddle⟩ := exists_marked '?' rest
    have htext : head = Layout.head ⟨some name, middle, query, fragment⟩ := by
      simp [Layout.head, Layout.schemeText, Layout.rest, heq, hrest]
    refine ⟨⟨some name, middle, query, fragment⟩, ?_, htext ▸ hhead, hmiddle, ?_, by simp⟩
    · rw [hraw, htext, Layout.text]
    · intro name' h
      rwa [← Option.some.inj h]
  · obtain ⟨middle, query, hrest, hmiddle⟩ := exists_marked '?' head
    have htext : head = Layout.head ⟨none, middle, query, fragment⟩ := hrest
    refine ⟨⟨none, middle, query, fragment⟩, ?_, htext ▸ hhead, hmiddle, by simp, ?_⟩
    · rw [hraw, htext, Layout.text]
    · intro _ name rest heq
      exact Bool.eq_false_of_not_eq_true fun h => hname ⟨name, rest, htext.trans heq, h⟩

/-! ## The reader finds the layout -/

theorem divided_marked {c : Char} {before : Text} (h : c ∉ before) (part : Option Text) :
    Divided c (before ++ marked c part) before (part.getD []) := by
  cases part with
  | none =>
    rw [marked, List.append_nil]
    exact .undivided before h
  | some part => exact .divided before part h

variable {raw : Text} {l : Layout}

theorem IsLayout.splitFragment (h : IsLayout raw l) :
    splitFragment raw = (l.head, l.fragment.getD []) := by
  rw [← h.text]
  exact splitFragment_of_divided (divided_marked h.head l.fragment)

theorem IsLayout.splitScheme (h : IsLayout raw l) {scheme rest : Text}
    (hsplit : splitScheme l.head = .ok (scheme, rest)) :
    scheme = (l.scheme.getD []).map Char.toLower ∧ rest = l.rest := by
  cases hscheme : l.scheme with
  | none =>
    have hhead : l.head = l.rest := by simp [Layout.head, Layout.schemeText, hscheme]
    rcases splitScheme_spec hsplit with ⟨name, hname, -, heq⟩ | ⟨hnil, hrest⟩
    · rw [h.nameless hscheme name rest heq] at hname
      simp at hname
    · exact ⟨hnil, hrest.trans hhead⟩
  | some name =>
    have hhead : l.head = name ++ ':' :: l.rest := by
      simp [Layout.head, Layout.schemeText, hscheme]
    have hnamed := splitScheme_of_schemeOf (.named name l.rest (h.scheme name hscheme))
    rw [hhead, hnamed, Except.ok.injEq, Prod.mk.injEq] at hsplit
    exact ⟨hsplit.1.symm, hsplit.2.symm⟩

theorem IsLayout.splitQuery (h : IsLayout raw l) :
    splitQuery l.rest = { before := l.middle, forceQuery := ForcesQuery l.rest,
                          query := l.query.getD [] } :=
  splitQuery_of_divided (divided_marked h.middle l.query)

/-- What is read of a text is read of the middle of its layout. -/
theorem IsLayout.middle_of_read (h : IsLayout raw l) {u : Uri} (hread : read raw = .ok u) :
    Middle l.base l.middle u := by
  obtain ⟨-, scheme, rest, hscheme, hmiddle⟩ := read_eq_ok_iff.1 hread
  rw [h.splitFragment] at hscheme
  obtain ⟨rfl, rfl⟩ := h.splitScheme hscheme
  rwa [frameOf, h.splitFragment, h.splitQuery] at hmiddle

/-! ## The printer settles it -/

theorem IsLayout.scheme_base_iff (h : IsLayout raw l) : l.base.scheme = [] ↔ l.scheme = none := by
  cases hscheme : l.scheme with
  | none => simp [Layout.base, hscheme]
  | some name =>
    have hne : name ≠ [] := by
      rintro rfl
      simpa [isSchemeName] using h.scheme [] hscheme
    simp [Layout.base, hscheme, hne]

theorem IsLayout.printScheme (h : IsLayout raw l) :
    l.base.printScheme = l.settled.schemeText := by
  cases hscheme : l.scheme with
  | none =>
    have hnil : l.base.scheme = [] := h.scheme_base_iff.2 hscheme
    simp [Uri.printScheme, Layout.settled, Layout.schemeText, hscheme, hnil]
  | some name =>
    have hne : l.base.scheme ≠ [] := fun hnil => by simp [h.scheme_base_iff.1 hnil] at hscheme
    rw [Uri.printScheme, if_neg hne]
    simp [Layout.base, Layout.settled, Layout.schemeText, hscheme]

theorem IsLayout.printQuery (h : IsLayout raw l) :
    l.base.printQuery = marked '?' l.query := by
  cases hquery : l.query with
  | none =>
    have hrest : l.rest = l.middle := by simp [Layout.rest, hquery, marked]
    have hno : ¬ ForcesQuery l.rest := fun hf => h.middle (hrest ▸ List.mem_of_getLast? hf.2)
    simp [Uri.printQuery, Layout.base, marked, hquery, hno]
  | some query =>
    have hforce : ForcesQuery l.rest ↔ query = [] := by
      rw [Layout.rest, hquery]
      exact forcesQuery_append_iff h.middle
    have hany : l.base.forceQuery = true ∨ l.base.query ≠ [] := by
      simp only [Layout.base, hquery, Option.getD_some, decide_eq_true_eq, hforce]
      exact em (query = [])
    rw [Uri.printQuery, if_pos hany]
    simp [Layout.base, marked, hquery]

theorem printFragment_base (l : Layout) :
    l.base.printFragment = marked '#' l.settled.fragment := by
  cases hfragment : l.fragment with
  | none => simp [printFragment, Layout.base, Layout.settled, marked, hfragment]
  | some fragment =>
    cases fragment with
    | nil => simp [printFragment, Layout.base, Layout.settled, marked, hfragment, Option.filter]
    | cons c tail =>
      simp [printFragment, Layout.base, Layout.settled, marked, hfragment, Option.filter]

theorem settledMiddle_of_slashless (h : l.middle.head? ≠ some '/') :
    l.settledMiddle = l.middle := by
  have htwo : ¬ (l.middle = ['/', '/'] ∨ l.scheme = none ∧ ['/', '/', '/'] <+: l.middle) := by
    rintro (heq | ⟨-, rest, heq⟩)
    · simp [heq] at h
    · simp [← heq] at h
  rw [Layout.settledMiddle, if_neg htwo, if_neg fun hsingle => h hsingle.2.1]

theorem settledMiddle_of_single {rest : Text} (h : l.middle = '/' :: rest)
    (hsingle : rest.head? ≠ some '/') :
    l.settledMiddle = if l.scheme = none then l.middle else '/' :: '/' :: l.middle := by
  have hone : ¬ ['/', '/'] <+: l.middle := by
    rintro ⟨tail, heq⟩
    rw [h] at heq
    simp [← (List.cons.inj heq).2] at hsingle
  have htwo : ¬ (l.middle = ['/', '/'] ∨ l.scheme = none ∧ ['/', '/', '/'] <+: l.middle) := by
    rintro (heq | ⟨-, tail, heq⟩)
    · exact hone ⟨[], heq.symm⟩
    · exact hone ⟨'/' :: tail, heq⟩
  by_cases hscheme : l.scheme = none
  · rw [Layout.settledMiddle, if_neg htwo, if_neg fun hs => hs.1 hscheme, if_pos hscheme]
  · have hhead : l.middle.head? = some '/' := by rw [h]; rfl
    rw [Layout.settledMiddle, if_neg htwo, if_pos ⟨hscheme, hhead, hone⟩, if_neg hscheme]

theorem settledMiddle_of_slashes {rest : Text} (h : l.middle = '/' :: '/' :: rest) :
    l.settledMiddle = if rest = [] ∨ l.scheme = none ∧ rest.head? = some '/' then rest
      else l.middle := by
  have htriple : ['/', '/', '/'] <+: l.middle ↔ rest.head? = some '/' := by
    rw [h, List.cons_prefix_cons, List.cons_prefix_cons, List.head?_eq_some_iff]
    simp [List.cons_prefix_iff]
  have hpair : l.middle = ['/', '/'] ↔ rest = [] := by simp [h]
  have hsingle : ¬ (l.scheme ≠ none ∧ l.middle.head? = some '/' ∧ ¬ ['/', '/'] <+: l.middle) :=
    fun hs => hs.2.2 ⟨rest, h.symm⟩
  have hdrop : l.middle.drop 2 = rest := by rw [h]; rfl
  rw [Layout.settledMiddle, if_neg hsingle, hdrop]
  exact if_congr (or_congr hpair (and_congr Iff.rfl htriple)) rfl rfl

/-- An authority has no user and no host exactly if it is empty. -/
theorem splitUser_eq_iff (authority : Text) :
    (splitUser authority).1 = none ∧ (splitUser authority).2 = [] ↔ authority = [] := by
  constructor
  · rintro ⟨huser, hhost⟩
    obtain ⟨-, ⟨-, heq⟩ | ⟨user, hsome, -⟩⟩ := splitUser_spec authority
    · exact heq.trans hhost
    · simp [huser] at hsome
  · rintro rfl
    exact ⟨rfl, rfl⟩

theorem authorityText_splitUser (authority : Text) :
    authorityText (splitUser authority).1 (splitUser authority).2 = authority := by
  obtain ⟨-, ⟨hnone, heq⟩ | ⟨user, hsome, heq⟩⟩ := splitUser_spec authority
  · rw [hnone, authorityText, List.nil_append]
    exact heq.symm
  · rw [hsome, authorityText, List.append_assoc]
    exact heq.symm

theorem upTo_eq_nil_iff (rest : Text) :
    Text.upTo '/' rest = [] ↔ rest = [] ∨ rest.head? = some '/' := by
  cases rest with
  | nil => simp
  | cons c tail => by_cases hc : c = '/' <;> simp [Text.upTo, hc]

/-- Behind two slashes, a URI that is written without an authority is its path alone. -/
theorem not_hasAuthority_slashes_iff (base : Uri) (rest : Text) :
    ¬ HasAuthority { base with
        user := (splitUser (Text.upTo '/' rest)).1, host := (splitUser (Text.upTo '/' rest)).2,
        path := Text.onFrom '/' rest } ↔
      rest = [] ∨ base.scheme = [] ∧ rest.head? = some '/' := by
  have hwhole : Text.upTo '/' rest ++ Text.onFrom '/' rest = rest :=
    Text.upTo_append_onFrom '/' rest
  simp only [HasAuthority, not_or, not_and, not_not]
  rw [← and_assoc, splitUser_eq_iff, upTo_eq_nil_iff]
  constructor
  · rintro ⟨hempty, hpath⟩
    by_cases hs : base.scheme = []
    · exact hempty.imp_right fun hhead => ⟨hs, hhead⟩
    · rw [(upTo_eq_nil_iff rest).2 hempty, hpath hs] at hwhole
      exact .inl hwhole.symm
  · rintro (rfl | ⟨hs, hhead⟩)
    · exact ⟨.inl rfl, fun _ => rfl⟩
    · exact ⟨.inr hhead, fun hne => absurd hs hne⟩

theorem printMiddle_of_middle {u : Uri} (hscheme : l.base.scheme = [] ↔ l.scheme = none)
    (h : Middle l.base l.middle u) : u.printMiddle = l.settledMiddle := by
  generalize hmiddle : l.middle = middle at h
  cases h with
  | authority rest valid =>
    have hauth := not_hasAuthority_slashes_iff l.base rest
    have hwhole : Text.upTo '/' rest ++ Text.onFrom '/' rest = rest :=
      Text.upTo_append_onFrom '/' rest
    rw [hscheme] at hauth
    rw [settledMiddle_of_slashes hmiddle]
    split
    · rename_i hbare
      have hempty : Text.upTo '/' rest = [] :=
        (upTo_eq_nil_iff rest).2 (hbare.imp_right fun hpath => hpath.2)
      rw [printMiddle_of_not_hasAuthority rfl (hauth.2 hbare)]
      rwa [hempty] at hwhole
    · rename_i hbare
      rw [printMiddle_of_hasAuthority rfl (not_not.1 (mt hauth.1 hbare)) (rooted_onFrom rest),
        authorityText_splitUser, hwhole, hmiddle]
  | rooted rest single =>
    rw [settledMiddle_of_single hmiddle single, hmiddle]
    split
    · rename_i hnone
      have hnil : l.base.scheme = [] := hscheme.2 hnone
      exact printMiddle_of_not_hasAuthority rfl (by simp [HasAuthority, hnil])
    · rename_i hsome
      have hne : l.base.scheme ≠ [] := mt hscheme.1 hsome
      exact printMiddle_of_hasAuthority rfl (.inr (.inr ⟨hne, by simp⟩)) (.inr rfl)
  | body middle slashless scheme =>
    rw [settledMiddle_of_slashless (hmiddle ▸ slashless), hmiddle]
    by_cases hnil : middle = []
    · rw [hnil]
      exact printMiddle_of_not_hasAuthority rfl (by simp [HasAuthority])
    · exact if_neg hnil
  | relative middle slashless scheme colonless =>
    rw [settledMiddle_of_slashless (hmiddle ▸ slashless), hmiddle]
    exact printMiddle_of_not_hasAuthority rfl (by simp [HasAuthority, scheme])

/-- What is printed around a middle does not depend on it. -/
theorem print_around_middle {base u : Uri} {middle : Text} (h : Middle base middle u) :
    u.printScheme = base.printScheme ∧ u.printQuery = base.printQuery ∧
      u.printFragment = base.printFragment := by
  cases h <;> exact ⟨rfl, rfl, rfl⟩

/-- Printing what was read of a text settles the spelling of its parts and changes nothing else. -/
theorem print_of_isLayout (h : IsLayout raw l) {u : Uri} (hread : read raw = .ok u) :
    u.print = l.settled.text := by
  have hmiddle := h.middle_of_read hread
  obtain ⟨hscheme, hquery, hfragment⟩ := print_around_middle hmiddle
  rw [print_eq, hscheme, hquery, hfragment, printMiddle_of_middle h.scheme_base_iff hmiddle,
    h.printScheme, h.printQuery, printFragment_base]
  rfl

/-! ## What the length of a text tells -/

/-- A middle is left as it is, or two slashes are put in front of it or taken away. -/
theorem settledMiddle_cases (l : Layout) :
    l.settledMiddle = l.middle ∨ l.settledMiddle.length + 2 = l.middle.length ∨
      l.settledMiddle.length = l.middle.length + 2 := by
  unfold Layout.settledMiddle
  split
  · rename_i hdrop
    refine .inr (.inl ?_)
    have htwo : 2 ≤ l.middle.length := by
      rcases hdrop with heq | ⟨-, hprefix⟩
      · rw [heq]; rfl
      · exact Nat.le_of_succ_le hprefix.length_le
    rw [List.length_drop]
    omega
  · split
    · exact .inr (.inr rfl)
    · exact .inl rfl

/-- A fragment is left as it is, or its number sign is taken away. -/
theorem settled_fragment_cases (l : Layout) :
    l.settled.fragment = l.fragment ∨
      (marked '#' l.settled.fragment).length + 1 = (marked '#' l.fragment).length := by
  cases hfragment : l.fragment with
  | none => exact .inl (by simp [Layout.settled, hfragment])
  | some fragment =>
    cases fragment with
    | nil => exact .inr (by simp [Layout.settled, hfragment, marked, Option.filter])
    | cons c tail => exact .inl (by simp [Layout.settled, hfragment, Option.filter])

theorem length_settled_schemeText (l : Layout) :
    l.settled.schemeText.length = l.schemeText.length := by
  cases hscheme : l.scheme <;> simp [Layout.settled, Layout.schemeText, hscheme]

theorem length_text (l : Layout) :
    l.text.length = l.schemeText.length + l.middle.length + (marked '?' l.query).length
      + (marked '#' l.fragment).length := by
  simp [Layout.text, Layout.head, Layout.rest, Nat.add_assoc]

/-- The settled text is the text itself only if each part is left as it is. -/
theorem settled_text_eq_iff (l : Layout) : l.settled.text = l.text ↔ l.settled = l := by
  constructor
  · intro h
    have hlength : l.settled.text.length = l.text.length := congrArg List.length h
    have hquery : l.settled.query = l.query := rfl
    have hspelled : l.settled.middle = l.settledMiddle := rfl
    rw [length_text, length_text, length_settled_schemeText, hquery, hspelled] at hlength
    -- the slashes come in pairs and the number sign alone, so neither of them has moved
    have hkept : l.settledMiddle = l.middle ∧ l.settled.fragment = l.fragment := by
      rcases settledMiddle_cases l with hmiddle | hmiddle | hmiddle <;>
        rcases settled_fragment_cases l with hfragment | hfragment
      · exact ⟨hmiddle, hfragment⟩
      · rw [hmiddle] at hlength
        omega
      · rw [hfragment] at hlength
        omega
      · omega
      · rw [hfragment] at hlength
        omega
      · omega
    obtain ⟨hmiddle, hfragment⟩ := hkept
    have hscheme : l.settled.schemeText = l.schemeText := by
      simp only [Layout.text, Layout.head, Layout.rest, hspelled, hmiddle, hquery, hfragment,
        List.append_left_inj] at h
      exact h
    have hname : l.settled.scheme = l.scheme := by
      cases hs : l.scheme with
      | none => simp [Layout.settled, hs]
      | some name =>
        simp only [Layout.settled, Layout.schemeText, hs, Option.map_some,
          List.append_left_inj] at hscheme
        simp only [Layout.settled, hs, Option.map_some, hscheme]
    exact Layout.ext hname hmiddle hquery hfragment
  · intro h
    rw [h]

/-- A middle is left as it is exactly if none of the three rules for slashes applies to it. -/
theorem settledMiddle_eq_iff (l : Layout) :
    l.settledMiddle = l.middle ↔
      ¬ (l.scheme ≠ none ∧ l.middle.head? = some '/' ∧ ¬ ['/', '/'] <+: l.middle) ∧
        l.middle ≠ ['/', '/'] ∧ ¬ (l.scheme = none ∧ ['/', '/', '/'] <+: l.middle) := by
  unfold Layout.settledMiddle
  split
  · rename_i hdrop
    have hne : l.middle.drop 2 ≠ l.middle := by
      intro heq
      have hlength : (l.middle.drop 2).length = l.middle.length := congrArg List.length heq
      rw [List.length_drop] at hlength
      rcases hdrop with hpair | ⟨-, hprefix⟩
      · simp [hpair] at hlength
      · have hlong : 3 ≤ l.middle.length := hprefix.length_le
        omega
    exact iff_of_false hne fun hplain => hdrop.elim hplain.2.1 hplain.2.2
  · rename_i hdrop
    obtain ⟨hpair, htriple⟩ := not_or.1 hdrop
    split
    · rename_i hsingle
      have hne : '/' :: '/' :: l.middle ≠ l.middle := by
        intro heq
        have hlength := congrArg List.length heq
        simp only [List.length_cons] at hlength
        omega
      exact iff_of_false hne fun hplain => hplain.1 hsingle
    · rename_i hsingle
      exact iff_of_true rfl ⟨hsingle, hpair, htriple⟩

theorem settled_scheme_eq_iff (l : Layout) :
    l.settled.scheme = l.scheme ↔
      ∀ name, l.scheme = some name → ∀ c ∈ name, c.isUpper = false := by
  cases hscheme : l.scheme with
  | none => simp [Layout.settled, hscheme]
  | some name =>
    have hsettled : l.settled.scheme = some (name.map Char.toLower) := by
      simp only [Layout.settled, hscheme, Option.map_some]
    rw [hsettled, Option.some.injEq, map_toLower_eq_iff]
    exact ⟨fun h name' heq => Option.some.inj heq ▸ h, fun h => h name rfl⟩

theorem settled_fragment_eq_iff (l : Layout) :
    l.settled.fragment = l.fragment ↔ l.fragment ≠ some [] := by
  cases hfragment : l.fragment with
  | none => simp [Layout.settled, hfragment]
  | some fragment =>
    cases fragment <;> simp [Layout.settled, hfragment, Option.filter]

theorem settled_eq_iff_plain (l : Layout) : l.settled = l ↔ l.Plain := by
  constructor
  · intro h
    obtain ⟨hsingle, hslashes, htriple⟩ :=
      (settledMiddle_eq_iff l).1 (congrArg Layout.middle h)
    exact
      { lower := (settled_scheme_eq_iff l).1 (congrArg Layout.scheme h)
        fragment := (settled_fragment_eq_iff l).1 (congrArg Layout.fragment h)
        single := hsingle
        slashes := hslashes
        triple := htriple }
  · intro h
    have hscheme := (settled_scheme_eq_iff l).2 h.lower
    have hfragment := (settled_fragment_eq_iff l).2 h.fragment
    have hmiddle : l.settled.middle = l.middle :=
      (settledMiddle_eq_iff l).2 ⟨h.single, h.slashes, h.triple⟩
    exact Layout.ext hscheme hmiddle rfl hfragment

instance (l : Layout) : Decidable l.Plain := decidable_of_iff _ (settled_eq_iff_plain l)

/-! ## Main statement -/

/-- Every text has a layout.  One that was read is printed as it stands exactly if its scheme has no
capital letter, its fragment is absent or not empty, and the part between its scheme and its query
neither starts with a single slash behind a scheme, nor is two slashes, nor starts with three
slashes without a scheme. -/
theorem print_eq_raw_iff {raw : Text} {u : Uri} (hread : parse raw = .ok u) :
    (∃ l, IsLayout raw l) ∧ ∀ l, IsLayout raw l → (u.print = raw ↔ l.Plain) := by
  refine ⟨exists_isLayout raw, ?_⟩
  intro l h
  rw [print_of_isLayout h (parse_eq_ok_iff.1 hread), ← settled_eq_iff_plain, ← settled_text_eq_iff,
    h.text]

/-- A text with every mark in it twice is printed as it stands; one with a path right behind its
scheme is not. -/
theorem print_eq_raw_of_many_marks :
    (∃ u, parse "tcp://a@b@h:http//p?q?#f#".toList = .ok u ∧
      u.print = "tcp://a@b@h:http//p?q?#f#".toList) ∧
    ∃ u, parse "file:/p".toList = .ok u ∧ u.print ≠ "file:/p".toList := by
  have hmarks : parse "tcp://a@b@h:http//p?q?#f#".toList
      = .ok { scheme := "tcp".toList, user := some "a@b".toList, host := "h:http".toList,
              path := "//p".toList, query := "q?".toList, fragment := "f#".toList } := rfl
  have hpath : parse "file:/p".toList
      = .ok { scheme := "file".toList, path := "/p".toList } := rfl
  have hmarked : IsLayout "tcp://a@b@h:http//p?q?#f#".toList
      { scheme := some "tcp".toList, middle := "//a@b@h:http//p".toList, query := some "q?".toList,
        fragment := some "f#".toList } :=
    { text := rfl, head := by decide, middle := by decide
      scheme := fun name heq => Option.some.inj heq ▸ rfl, nameless := by simp }
  have hsingle : IsLayout "file:/p".toList
      { scheme := some "file".toList, middle := "/p".toList } :=
    { text := rfl, head := by decide, middle := by decide
      scheme := fun name heq => Option.some.inj heq ▸ rfl, nameless := by simp }
  exact ⟨⟨_, hmarks, ((print_eq_raw_iff hmarks).2 _ hmarked).2 (by decide)⟩,
    ⟨_, hpath, mt ((print_eq_raw_iff hpath).2 _ hsingle).1 (by decide)⟩⟩

end Switchboard.Uri
