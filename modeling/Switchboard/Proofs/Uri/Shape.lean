import Switchboard.Proofs.Uri.Stages

set_option autoImplicit false

/-!
# What every URI that was read is like

`Middle` says, beside the reader, what the text between the scheme and the query stands for, one
rule a form.  `Shaped` collects what holds of the components of every URI that was read: each is
free of the characters that would have divided it, and a path, a body and a host only occur together
where they were read together.  Main statement: a URI that was read is shaped (`shaped_of_read`).
-/

namespace Switchboard.Uri

/-! ## Texts that a component can be -/

/-- A text that can stand as the host of a URI. -/
structure IsHostText (host : Text) : Prop where
  chars : ∀ c ∈ host, isControl c = false ∧ c ≠ '/' ∧ c ≠ '?' ∧ c ≠ '#' ∧ c ≠ '@'
  valid : hostFlaw? host = none

/-- A path that can follow an authority: nothing, or a path with a slash in front. -/
def Rooted (path : Text) : Prop := path = [] ∨ path.head? = some '/'

/-- A text without control characters. -/
def Clean (s : Text) : Prop := ∀ c ∈ s, isControl c = false

theorem clean_append {s t : Text} : Clean (s ++ t) ↔ Clean s ∧ Clean t :=
  List.forall_mem_append

theorem clean_cons {c : Char} {s : Text} : Clean (c :: s) ↔ isControl c = false ∧ Clean s :=
  List.forall_mem_cons

theorem clean_nil : Clean [] := fun _ h => absurd h List.not_mem_nil

theorem isHostText_nil : IsHostText [] where
  chars := by simp
  valid := rfl

theorem rooted_onFrom (s : Text) : Rooted (Text.onFrom '/' s) := by
  rcases Text.onFrom_eq_nil_or_cons '/' s with h | ⟨t, h⟩
  · exact .inl h
  · exact .inr (by rw [h]; rfl)

/-- A rooted path starts where the authority before it ends. -/
theorem upTo_append_of_rooted {authority path : Text} (h : '/' ∉ authority) (hpath : Rooted path) :
    Text.upTo '/' (authority ++ path) = authority := by
  rw [Text.upTo_append h]
  rcases hpath with rfl | hhead
  · simp
  · obtain ⟨rest, rfl⟩ := List.head?_eq_some_iff.1 hhead
    simp

theorem onFrom_append_of_rooted {authority path : Text} (h : '/' ∉ authority)
    (hpath : Rooted path) : Text.onFrom '/' (authority ++ path) = path := by
  rw [Text.onFrom_append h]
  rcases hpath with rfl | hhead
  · simp
  · obtain ⟨rest, rfl⟩ := List.head?_eq_some_iff.1 hhead
    simp

/-! ## The middle -/

/-- What the text between the scheme and the query stands for, in a URI whose other components are
those of `base`. -/
inductive Middle (base : Uri) : Text → Uri → Prop where
  /-- behind two slashes, an authority up to the next slash, and a path -/
  | authority (rest : Text)
      (valid : hostFlaw? (splitUser (Text.upTo '/' rest)).2 = none) :
      Middle base ('/' :: '/' :: rest)
        { base with
          user := (splitUser (Text.upTo '/' rest)).1
          host := (splitUser (Text.upTo '/' rest)).2
          path := Text.onFrom '/' rest }
  /-- a path with one slash in front -/
  | rooted (rest : Text) (single : rest.head? ≠ some '/') :
      Middle base ('/' :: rest) { base with path := '/' :: rest }
  /-- behind a scheme, anything else is a body -/
  | body (middle : Text) (slashless : middle.head? ≠ some '/') (scheme : base.scheme ≠ []) :
      Middle base middle { base with body := middle }
  /-- without a scheme, anything else is a path -/
  | relative (middle : Text) (slashless : middle.head? ≠ some '/') (scheme : base.scheme = [])
      (colonless : ':' ∉ Text.upTo '/' middle) :
      Middle base middle { base with path := middle }

theorem withMiddle_of_slashless {base : Uri} {middle : Text} (h : middle.head? ≠ some '/') :
    withMiddle base middle
      = if base.scheme ≠ [] then .ok { base with body := middle }
        else if ':' ∈ Text.upTo '/' middle then .error .colonInFirstSegment
        else .ok { base with path := middle } := by
  unfold withMiddle
  split
  · simp at h
  · simp at h
  · rfl

theorem withMiddle_of_single {base : Uri} {rest : Text} (h : rest.head? ≠ some '/') :
    withMiddle base ('/' :: rest) = .ok { base with path := '/' :: rest } := by
  unfold withMiddle
  split
  · rename_i heq
    obtain rfl := (List.cons.inj heq).2
    simp at h
  · rename_i heq
    rw [(List.cons.inj heq).2]
  · rename_i hno
    exact absurd rfl (hno rest)

/-- The middle of a URI is read exactly by the rules. -/
theorem withMiddle_eq_ok_iff {base u : Uri} {middle : Text} :
    withMiddle base middle = .ok u ↔ Middle base middle u := by
  constructor
  · intro h
    by_cases hhead : middle.head? = some '/'
    · obtain ⟨rest, rfl⟩ := List.head?_eq_some_iff.1 hhead
      by_cases hsecond : rest.head? = some '/'
      · obtain ⟨rest, rfl⟩ := List.head?_eq_some_iff.1 hsecond
        simp only [withMiddle] at h
        split at h
        · simp at h
        · rename_i hvalid
          rw [← Except.ok.inj h]
          exact .authority rest hvalid
      · rw [withMiddle_of_single hsecond] at h
        rw [← Except.ok.inj h]
        exact .rooted rest hsecond
    · rw [withMiddle_of_slashless hhead] at h
      split at h
      · rename_i hscheme
        rw [← Except.ok.inj h]
        exact .body middle hhead hscheme
      · rename_i hscheme
        split at h
        · simp at h
        · rename_i hcolon
          rw [← Except.ok.inj h]
          exact .relative middle hhead (not_not.1 hscheme) hcolon
  · intro h
    cases h with
    | authority rest valid => simp only [withMiddle, valid]
    | rooted rest single => exact withMiddle_of_single single
    | body middle slashless scheme => rw [withMiddle_of_slashless slashless, if_pos scheme]
    | relative middle slashless scheme colonless =>
      rw [withMiddle_of_slashless slashless, if_neg (not_not.2 scheme), if_neg colonless]

/-! ## The shape -/

/-- What holds of every URI that was read. -/
structure Shaped (u : Uri) : Prop where
  scheme : u.scheme ≠ [] → isSchemeName u.scheme = true ∧ u.scheme.map Char.toLower = u.scheme
  body : u.body ≠ [] →
    u.scheme ≠ [] ∧ u.user = none ∧ u.host = [] ∧ u.path = [] ∧ u.body.head? ≠ some '/'
  user : ∀ user, u.user = some user → '/' ∉ user
  host : IsHostText u.host
  path : Rooted u.path ∨
    u.scheme = [] ∧ u.user = none ∧ u.host = [] ∧ ':' ∉ Text.upTo '/' u.path
  forceQuery : u.forceQuery = true → u.query = []
  clean : Clean u.body ∧ (∀ user, u.user = some user → Clean user) ∧ Clean u.path ∧
    Clean u.query ∧ Clean u.fragment
  noQuestion : '?' ∉ u.body ∧ (∀ user, u.user = some user → '?' ∉ user) ∧ '?' ∉ u.path
  noNumber : '#' ∉ u.body ∧ (∀ user, u.user = some user → '#' ∉ user) ∧ '#' ∉ u.path ∧
    '#' ∉ u.query

/-- Every character of the user and of the host comes from the authority. -/
theorem mem_authority {authority : Text} {c : Char} :
    (∀ user, (splitUser authority).1 = some user → c ∈ user → c ∈ authority) ∧
      (c ∈ (splitUser authority).2 → c ∈ authority) := by
  obtain ⟨-, ⟨hnone, heq⟩ | ⟨user, hsome, heq⟩⟩ := splitUser_spec authority
  · refine ⟨?_, fun h => heq ▸ h⟩
    intro user h
    rw [hnone] at h
    cases h
  · refine ⟨?_, ?_⟩
    · intro user' h hc
      obtain rfl : user = user' := Option.some.inj (hsome.symm.trans h)
      rw [heq]
      exact List.mem_append_left _ hc
    · intro hc
      rw [heq]
      exact List.mem_append_right _ (List.mem_cons_of_mem _ hc)

theorem not_mem_authority {authority : Text} {c : Char} (h : c ∉ authority) :
    (∀ user, (splitUser authority).1 = some user → c ∉ user) ∧ c ∉ (splitUser authority).2 :=
  ⟨fun user hu hc => h (mem_authority.1 user hu hc), fun hc => h (mem_authority.2 hc)⟩

/-- The components that stand outside of the middle. -/
structure IsFrame (base : Uri) : Prop where
  blank : base.body = [] ∧ base.user = none ∧ base.host = [] ∧ base.path = []
  scheme : base.scheme ≠ [] →
    isSchemeName base.scheme = true ∧ base.scheme.map Char.toLower = base.scheme
  forceQuery : base.forceQuery = true → base.query = []
  clean : Clean base.query ∧ Clean base.fragment
  noNumber : '#' ∉ base.query

/-- Reading a middle into a frame gives a shaped URI. -/
theorem shaped_of_middle {base u : Uri} {middle : Text} (frame : IsFrame base)
    (hread : Middle base middle u) (hclean : Clean middle) (hquestion : '?' ∉ middle)
    (hnumber : '#' ∉ middle) : Shaped u := by
  obtain ⟨hbody, huser, hhost, hpath⟩ := frame.blank
  cases hread with
  | authority rest valid =>
    have hsub : ∀ c ∈ Text.upTo '/' rest, c ∈ rest := fun c hc => List.takeWhile_subset _ hc
    have hsubPath : ∀ c ∈ Text.onFrom '/' rest, c ∈ rest := fun c hc => List.dropWhile_subset _ hc
    have hin : ∀ c ∈ rest, c ∈ '/' :: '/' :: rest := fun c hc => by simp [hc]
    have hslash := not_mem_authority (Text.not_mem_upTo '/' rest)
    have hq := not_mem_authority fun hc => hquestion (hin _ (hsub '?' hc))
    have hn := not_mem_authority fun hc => hnumber (hin _ (hsub '#' hc))
    have hat := (splitUser_spec (Text.upTo '/' rest)).1
    exact
      { scheme := frame.scheme
        body := fun h => absurd hbody h
        user := hslash.1
        host :=
          { chars := fun c hc =>
              ⟨hclean c (hin c (hsub c (mem_authority.2 hc))),
                fun e => hslash.2 (e ▸ hc), fun e => hq.2 (e ▸ hc), fun e => hn.2 (e ▸ hc),
                fun e => hat (e ▸ hc)⟩
            valid := valid }
        path := .inl (rooted_onFrom rest)
        forceQuery := frame.forceQuery
        clean :=
          ⟨by simpa [hbody] using clean_nil,
            fun user hu c hc => hclean c (hin c (hsub c (mem_authority.1 user hu hc))),
            fun c hc => hclean c (hin c (hsubPath c hc)), frame.clean.1, frame.clean.2⟩
        noQuestion := ⟨by simp [hbody], hq.1, fun hc => hquestion (hin _ (hsubPath _ hc))⟩
        noNumber :=
          ⟨by simp [hbody], hn.1, fun hc => hnumber (hin _ (hsubPath _ hc)), frame.noNumber⟩ }
  | rooted rest single =>
    exact
      { scheme := frame.scheme
        body := fun h => absurd hbody h
        user := by simp [huser]
        host := by simpa [hhost] using isHostText_nil
        path := .inl (.inr rfl)
        forceQuery := frame.forceQuery
        clean :=
          ⟨by simpa [hbody] using clean_nil, by simp [huser], hclean, frame.clean.1, frame.clean.2⟩
        noQuestion := ⟨by simp [hbody], by simp [huser], hquestion⟩
        noNumber := ⟨by simp [hbody], by simp [huser], hnumber, frame.noNumber⟩ }
  | body middle slashless scheme =>
    exact
      { scheme := frame.scheme
        body := fun _ => ⟨scheme, huser, hhost, hpath, slashless⟩
        user := by simp [huser]
        host := by simpa [hhost] using isHostText_nil
        path := .inl (.inl hpath)
        forceQuery := frame.forceQuery
        clean :=
          ⟨hclean, by simp [huser], by simpa [hpath] using clean_nil, frame.clean.1,
            frame.clean.2⟩
        noQuestion := ⟨hquestion, by simp [huser], by simp [hpath]⟩
        noNumber := ⟨hnumber, by simp [huser], by simp [hpath], frame.noNumber⟩ }
  | relative middle slashless scheme colonless =>
    exact
      { scheme := frame.scheme
        body := fun h => absurd hbody h
        user := by simp [huser]
        host := by simpa [hhost] using isHostText_nil
        path := .inr ⟨scheme, huser, hhost, colonless⟩
        forceQuery := frame.forceQuery
        clean :=
          ⟨by simpa [hbody] using clean_nil, by simp [huser], hclean, frame.clean.1, frame.clean.2⟩
        noQuestion := ⟨by simp [hbody], by simp [huser], hquestion⟩
        noNumber := ⟨by simp [hbody], by simp [huser], hnumber, frame.noNumber⟩ }

/-! ## The whole text -/

/-- The components of a URI outside of its middle, as the stages of the reader leave them. -/
def frameOf (raw scheme rest : Text) : Uri :=
  { scheme := scheme
    query := (splitQuery rest).query
    forceQuery := (splitQuery rest).forceQuery
    fragment := (splitFragment raw).2 }

/-- A text is read if it has no control character, its scheme can be cut off, and its middle
follows a rule. -/
theorem read_eq_ok_iff {raw : Text} {u : Uri} :
    read raw = .ok u ↔
      Clean raw ∧ ∃ scheme rest, splitScheme (splitFragment raw).1 = .ok (scheme, rest) ∧
        Middle (frameOf raw scheme rest) (splitQuery rest).before u := by
  have hclean : Clean raw ↔ raw.any isControl = false := by simp [Clean, List.any_eq_false]
  rw [hclean]
  cases hany : raw.any isControl with
  | true => simp [read, hany]
  | false =>
    have hread : read raw = readClean raw := by simp [read, hany]
    rw [hread]
    cases hscheme : splitScheme (splitFragment raw).1 with
    | error flaw =>
      have hbad : readClean raw = .error flaw := by
        simp [readClean, hscheme, bind, Except.bind]
      simp [hbad]
    | ok pair =>
      obtain ⟨scheme, rest⟩ := pair
      have hgood : readClean raw
          = withMiddle (frameOf raw scheme rest) (splitQuery rest).before := by
        simp [readClean, hscheme, bind, Except.bind, frameOf]
      rw [hgood, withMiddle_eq_ok_iff]
      constructor
      · intro h
        exact ⟨rfl, scheme, rest, rfl, h⟩
      · rintro ⟨-, scheme', rest', heq, h⟩
        simp only [Except.ok.injEq, Prod.mk.injEq] at heq
        obtain ⟨rfl, rfl⟩ := heq
        exact h

/-- The pieces of a clean text make up a frame and a clean middle. -/
theorem isFrame_frameOf {raw scheme rest : Text} (hclean : Clean raw)
    (hscheme : splitScheme (splitFragment raw).1 = .ok (scheme, rest)) :
    IsFrame (frameOf raw scheme rest) ∧ Clean (splitQuery rest).before ∧
      '#' ∉ (splitQuery rest).before := by
  obtain ⟨hnumber, hraw⟩ := splitFragment_spec raw
  obtain ⟨-, hforce, hrest⟩ := splitQuery_spec rest
  have hsplit : Clean (splitFragment raw).1 ∧ Clean (splitFragment raw).2 := by
    rcases hraw with ⟨heq, hnil⟩ | heq
    · exact ⟨heq ▸ hclean, hnil ▸ clean_nil⟩
    · rw [heq, clean_append, clean_cons] at hclean
      exact ⟨hclean.1, hclean.2.2⟩
  have hparts : Clean rest ∧ '#' ∉ rest ∧
      (scheme ≠ [] → isSchemeName scheme = true ∧ scheme.map Char.toLower = scheme) := by
    rcases splitScheme_spec hscheme with ⟨name, hname, rfl, heq⟩ | ⟨rfl, rfl⟩
    · have hhead := hsplit.1
      rw [heq, clean_append, clean_cons] at hhead
      refine ⟨hhead.2.2, fun hc => hnumber (by rw [heq]; simp [hc]), fun _ => ?_⟩
      exact ⟨isSchemeName_map_toLower hname, by simp⟩
    · exact ⟨hsplit.1, hnumber, fun h => absurd rfl h⟩
  obtain ⟨hrestClean, hrestNumber, hname⟩ := hparts
  have hquery : Clean (splitQuery rest).before ∧ Clean (splitQuery rest).query ∧
      '#' ∉ (splitQuery rest).before ∧ '#' ∉ (splitQuery rest).query := by
    rcases hrest with ⟨heq, -, hnil⟩ | ⟨heq, -⟩
    · rw [hnil]
      exact ⟨heq ▸ hrestClean, clean_nil, heq ▸ hrestNumber, by simp⟩
    · rw [heq, clean_append, clean_cons] at hrestClean
      rw [heq] at hrestNumber
      simp only [List.mem_append, List.mem_cons, not_or] at hrestNumber
      exact ⟨hrestClean.1, hrestClean.2.2, hrestNumber.1, hrestNumber.2.2⟩
  refine ⟨?_, hquery.1, hquery.2.2.1⟩
  exact
    { blank := ⟨rfl, rfl, rfl, rfl⟩
      scheme := hname
      forceQuery := hforce
      clean := ⟨hquery.2.1, hsplit.2⟩
      noNumber := hquery.2.2.2 }

/-- A URI that was read is shaped. -/
theorem shaped_of_read {raw : Text} {u : Uri} (h : read raw = .ok u) : Shaped u := by
  obtain ⟨hclean, scheme, rest, hscheme, hmiddle⟩ := read_eq_ok_iff.1 h
  obtain ⟨hframe, hmiddleClean, hnumber⟩ := isFrame_frameOf hclean hscheme
  exact shaped_of_middle hframe hmiddle hmiddleClean (splitQuery_spec rest).1 hnumber

end Switchboard.Uri
