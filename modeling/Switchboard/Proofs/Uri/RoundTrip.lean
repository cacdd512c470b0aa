import Switchboard.Fault
import Switchboard.Proofs.Uri.Shape

set_option autoImplicit false

/-!
# Reading a printed URI

A shaped URI is read back from its text, unless it has nothing in front of a path with two slashes:
there the path would be taken for an authority (`read_print_iff`).  A URI that was read may be given
another host; it is read back from its text exactly as long as it stays shaped
(`parse_print_withHost_iff`).
-/

namespace Switchboard.Uri

/-! ## The printed middle -/

/-- The user with its at sign, and the host. -/
def authorityText (user : Option Text) (host : Text) : Text :=
  (match user with
    | some user => user ++ ['@']
    | none => []) ++ host

/-- The text of a URI between its scheme and its query. -/
def printMiddle (u : Uri) : Text :=
  if u.body = [] then u.printAuthority ++ u.printPath else u.body

theorem print_eq (u : Uri) :
    u.print = u.printScheme ++ (u.printMiddle ++ u.printQuery) ++ u.printFragment := by
  simp [print, printMiddle]

theorem splitUser_authorityText (user : Option Text) {host : Text} (h : '@' ∉ host) :
    splitUser (authorityText user host) = (user, host) := by
  cases user with
  | none => simpa [authorityText] using splitUser_of_not_mem h
  | some user => simpa [authorityText] using splitUser_append user h

theorem slash_not_mem_authorityText {user : Option Text} {host : Text}
    (huser : ∀ u, user = some u → '/' ∉ u) (hhost : '/' ∉ host) :
    '/' ∉ authorityText user host := by
  cases user with
  | none => simpa [authorityText] using hhost
  | some user => simpa [authorityText] using ⟨huser user rfl, hhost⟩

theorem printPath_of_rooted {u : Uri} (h : Rooted u.path) : u.printPath = u.path := by
  rw [printPath, if_neg, List.nil_append]
  rintro ⟨hne, hhead, -⟩
  exact h.elim hne hhead

/-- Whether a URI is written with an authority. -/
def HasAuthority (u : Uri) : Prop :=
  u.user ≠ none ∨ u.host ≠ [] ∨ u.scheme ≠ [] ∧ u.path ≠ []

theorem printMiddle_of_hasAuthority {u : Uri} (hbody : u.body = []) (h : HasAuthority u)
    (hpath : Rooted u.path) :
    u.printMiddle = '/' :: '/' :: (authorityText u.user u.host ++ u.path) := by
  have hany : ¬ (u.scheme = [] ∧ u.host = [] ∧ u.user = none) := by
    rintro ⟨hs, hh, hu⟩
    rcases h with h | h | ⟨h, -⟩
    · exact h hu
    · exact h hh
    · exact h hs
  have hslashes : ¬ (u.host = [] ∧ u.path = [] ∧ u.user = none) := by
    rintro ⟨hh, hp, hu⟩
    rcases h with h | h | ⟨-, h⟩
    · exact h hu
    · exact h hh
    · exact h hp
  rw [printMiddle, if_pos hbody, printPath_of_rooted hpath, printAuthority, if_neg hany,
    if_neg hslashes]
  cases u.user with
  | none => simp [authorityText]
  | some user => simp [authorityText]

theorem printMiddle_of_not_hasAuthority {u : Uri} (hbody : u.body = [])
    (h : ¬ HasAuthority u) : u.printMiddle = u.path := by
  simp only [HasAuthority, not_or, not_and, not_not] at h
  obtain ⟨huser, hhost, hpath⟩ := h
  have hnone : u.printAuthority = [] := by
    by_cases hs : u.scheme = []
    · exact if_pos ⟨hs, hhost, huser⟩
    · simp [printAuthority, hs, hhost, huser, hpath hs]
  have hplain : u.printPath = u.path := by simp [printPath, hhost]
  rw [printMiddle, if_pos hbody, hnone, hplain, List.nil_append]

/-- An authority and a path that were written one after the other are read as such. -/
theorem middle_authority (base : Uri) {user : Option Text} {host path : Text}
    (huser : ∀ u, user = some u → '/' ∉ u) (hhost : IsHostText host) (hpath : Rooted path) :
    Middle base ('/' :: '/' :: (authorityText user host ++ path))
      { base with user := user, host := host, path := path } := by
  have hat : '@' ∉ host := fun hc => (hhost.chars _ hc).2.2.2.2 rfl
  have hslash : '/' ∉ authorityText user host :=
    slash_not_mem_authorityText huser fun hc => (hhost.chars _ hc).2.1 rfl
  have hup : Text.upTo '/' (authorityText user host ++ path) = authorityText user host :=
    upTo_append_of_rooted hslash hpath
  have hsplit : splitUser (Text.upTo '/' (authorityText user host ++ path)) = (user, host) := by
    rw [hup, splitUser_authorityText user hat]
  have hvalid :
      hostFlaw? (splitUser (Text.upTo '/' (authorityText user host ++ path))).2 = none := by
    rw [hsplit]
    exact hhost.valid
  have hread : Middle base _ _ := .authority (authorityText user host ++ path) hvalid
  rwa [hsplit, onFrom_append_of_rooted hslash hpath] at hread

/-! ## Shaped URIs -/

/-- The components of a URI outside of its middle. -/
def frame (u : Uri) : Uri :=
  { scheme := u.scheme, query := u.query, forceQuery := u.forceQuery, fragment := u.fragment }

/-- A URI is its frame with the components of its middle. -/
theorem frame_with_middle {u : Uri} {body host path : Text} {user : Option Text}
    (hbody : u.body = body) (huser : u.user = user) (hhost : u.host = host)
    (hpath : u.path = path) :
    { u.frame with body := body, user := user, host := host, path := path } = u := by
  subst hbody huser hhost hpath
  rfl

/-- A path that would be taken for an authority, since nothing is written in front of it. -/
def StartsLikeAuthority (u : Uri) : Prop :=
  u.scheme = [] ∧ u.user = none ∧ u.host = [] ∧ ['/', '/'] <+: u.path

theorem rooted_of_hasAuthority {u : Uri} (hu : Shaped u) (h : HasAuthority u) : Rooted u.path := by
  rcases hu.path with hr | ⟨hs, huser, hhost, -⟩
  · exact hr
  · rcases h with h | h | ⟨h, -⟩
    · exact absurd huser h
    · exact absurd hhost h
    · exact absurd hs h

/-- The printed middle of a shaped URI is read as what it was printed from. -/
theorem middle_printMiddle {u : Uri} (hu : Shaped u) (h : ¬ StartsLikeAuthority u) :
    Middle u.frame u.printMiddle u := by
  by_cases hbody : u.body = []
  · by_cases hauth : HasAuthority u
    · have hpath := rooted_of_hasAuthority hu hauth
      rw [printMiddle_of_hasAuthority hbody hauth hpath]
      have hwhole : { u.frame with user := u.user, host := u.host, path := u.path } = u :=
        frame_with_middle hbody rfl rfl rfl
      have hread := middle_authority u.frame hu.user hu.host hpath
      rwa [hwhole] at hread
    · rw [printMiddle_of_not_hasAuthority hbody hauth]
      simp only [HasAuthority, not_or, not_and, not_not] at hauth
      obtain ⟨huser, hhost, hpath⟩ := hauth
      have hwhole : { u.frame with path := u.path } = u :=
        frame_with_middle hbody huser hhost rfl
      by_cases hs : u.scheme = []
      · by_cases hhead : u.path.head? = some '/'
        · obtain ⟨rest, hrest⟩ := List.head?_eq_some_iff.1 hhead
          have hsingle : rest.head? ≠ some '/' := by
            intro hsecond
            obtain ⟨tail, rfl⟩ := List.head?_eq_some_iff.1 hsecond
            exact h ⟨hs, huser, hhost, tail, by rw [hrest]; rfl⟩
          have hread : Middle u.frame _ _ := .rooted rest hsingle
          rwa [← hrest, hwhole] at hread
        · have hcolon : ':' ∉ Text.upTo '/' u.path := by
            rcases hu.path with (hnil | hslash) | ⟨-, -, -, hcolon⟩
            · simp [hnil]
            · exact absurd hslash hhead
            · exact hcolon
          have hread : Middle u.frame _ _ := .relative u.path hhead hs hcolon
          rwa [hwhole] at hread
      · have hnil := hpath hs
        have hread : Middle u.frame _ _ := .body [] (by simp) hs
        have hempty : { u.frame with body := [] } = u :=
          frame_with_middle hbody huser hhost hnil
        rwa [hempty, ← hnil] at hread
  · obtain ⟨hs, huser, hhost, hpath, hhead⟩ := hu.body hbody
    have hmiddle : u.printMiddle = u.body := if_neg hbody
    have hread : Middle u.frame _ _ := .body u.body hhead hs
    have hwhole : { u.frame with body := u.body } = u :=
      frame_with_middle rfl huser hhost hpath
    rwa [hwhole, ← hmiddle] at hread

theorem mem_authorityText {user : Option Text} {host : Text} {c : Char}
    (hc : c ∈ authorityText user host) :
    c = '@' ∨ (∃ u, user = some u ∧ c ∈ u) ∨ c ∈ host := by
  cases user with
  | none => exact .inr (.inr (by simpa [authorityText] using hc))
  | some user =>
    simp only [authorityText, List.mem_append, List.mem_singleton] at hc
    rcases hc with (hc | hc) | hc
    · exact .inr (.inl ⟨user, rfl, hc⟩)
    · exact .inl hc
    · exact .inr (.inr hc)

/-- What the printed middle of a shaped URI is made of. -/
theorem mem_printMiddle {u : Uri} (hu : Shaped u) {c : Char} (hc : c ∈ u.printMiddle) :
    c = '/' ∨ c = '@' ∨ c ∈ u.body ∨ (∃ user, u.user = some user ∧ c ∈ user) ∨ c ∈ u.host ∨
      c ∈ u.path := by
  by_cases hbody : u.body = []
  · by_cases hauth : HasAuthority u
    · rw [printMiddle_of_hasAuthority hbody hauth (rooted_of_hasAuthority hu hauth)] at hc
      simp only [List.mem_cons, List.mem_append] at hc
      rcases hc with hc | hc | hc | hc
      · exact .inl hc
      · exact .inl hc
      · rcases mem_authorityText hc with hc | hc | hc
        · exact .inr (.inl hc)
        · exact .inr (.inr (.inr (.inl hc)))
        · exact .inr (.inr (.inr (.inr (.inl hc))))
      · exact .inr (.inr (.inr (.inr (.inr hc))))
    · rw [printMiddle_of_not_hasAuthority hbody hauth] at hc
      exact .inr (.inr (.inr (.inr (.inr hc))))
  · have hmiddle : u.printMiddle = u.body := if_neg hbody
    exact .inr (.inr (.inl (hmiddle ▸ hc)))

/-- A character that stands in no component of the middle, and is no separator, is not in it. -/
theorem not_mem_printMiddle {u : Uri} (hu : Shaped u) {c : Char} (hslash : c ≠ '/')
    (hat : c ≠ '@') (hbody : c ∉ u.body) (huser : ∀ user, u.user = some user → c ∉ user)
    (hhost : c ∉ u.host) (hpath : c ∉ u.path) : c ∉ u.printMiddle := by
  intro hc
  rcases mem_printMiddle hu hc with h | h | h | ⟨user, h, hmem⟩ | h | h
  · exact hslash h
  · exact hat h
  · exact hbody h
  · exact huser user h hmem
  · exact hhost h
  · exact hpath h

theorem question_not_mem_printMiddle {u : Uri} (hu : Shaped u) : '?' ∉ u.printMiddle := by
  obtain ⟨hbody, huser, hpath⟩ := hu.noQuestion
  exact not_mem_printMiddle hu (by decide) (by decide) hbody huser
    (fun hc => (hu.host.chars _ hc).2.2.1 rfl) hpath

theorem number_not_mem_printMiddle {u : Uri} (hu : Shaped u) : '#' ∉ u.printMiddle := by
  obtain ⟨hbody, huser, hpath, -⟩ := hu.noNumber
  exact not_mem_printMiddle hu (by decide) (by decide) hbody huser
    (fun hc => (hu.host.chars _ hc).2.2.2.1 rfl) hpath

theorem clean_printMiddle {u : Uri} (hu : Shaped u) : Clean u.printMiddle := by
  obtain ⟨hbody, huser, hpath, -, -⟩ := hu.clean
  intro c hc
  rcases mem_printMiddle hu hc with rfl | rfl | h | ⟨user, h, hmem⟩ | h | h
  · decide
  · decide
  · exact hbody c h
  · exact huser user h c hmem
  · exact (hu.host.chars c h).1
  · exact hpath c h

/-- Without a scheme, no colon stands before the first slash of the printed middle. -/
theorem colon_not_mem_printMiddle {u : Uri} (hu : Shaped u) (hs : u.scheme = []) :
    ':' ∉ Text.upTo '/' u.printMiddle := by
  have hbody : u.body = [] := by
    by_contra hne
    exact (hu.body hne).1 hs
  by_cases hauth : HasAuthority u
  · rw [printMiddle_of_hasAuthority hbody hauth (rooted_of_hasAuthority hu hauth)]
    simp
  · rw [printMiddle_of_not_hasAuthority hbody hauth]
    rcases hu.path with (hnil | hhead) | ⟨-, -, -, hcolon⟩
    · simp [hnil]
    · obtain ⟨rest, hrest⟩ := List.head?_eq_some_iff.1 hhead
      simp [hrest]
    · exact hcolon

/-! ## The parts around the middle -/

theorem isControl_of_isAlphanum {c : Char} (h : c.isAlphanum = true) : isControl c = false := by
  obtain ⟨hlow, hhigh⟩ := Text.toNat_of_isAlphanum h
  simp [isControl]
  omega

theorem isControl_of_isSchemeChar {c : Char} (h : isSchemeChar c = true) : isControl c = false := by
  simp only [isSchemeChar, Bool.or_eq_true, beq_iff_eq] at h
  rcases h with ((h | rfl) | rfl) | rfl
  · exact isControl_of_isAlphanum h
  · rfl
  · rfl
  · rfl

theorem mem_printScheme {u : Uri} {c : Char} (hc : c ∈ u.printScheme) :
    c = ':' ∨ c ∈ u.scheme := by
  unfold printScheme at hc
  split at hc
  · simp at hc
  · simpa [or_comm] using hc

theorem mem_printQuery {u : Uri} {c : Char} (hc : c ∈ u.printQuery) : c = '?' ∨ c ∈ u.query := by
  unfold printQuery at hc
  split at hc
  · simpa using hc
  · simp at hc

theorem mem_printFragment {u : Uri} {c : Char} (hc : c ∈ u.printFragment) :
    c = '#' ∨ c ∈ u.fragment := by
  unfold printFragment at hc
  split at hc
  · simp at hc
  · simpa using hc

theorem isSchemeChar_of_mem_scheme {u : Uri} (hu : Shaped u) {c : Char} (hc : c ∈ u.scheme) :
    isSchemeChar c = true := by
  have hne : u.scheme ≠ [] := List.ne_nil_of_mem hc
  exact isSchemeChar_of_isSchemeName (hu.scheme hne).1 c hc

/-- A shaped URI is printed without control characters. -/
theorem clean_print {u : Uri} (hu : Shaped u) : Clean u.print := by
  obtain ⟨-, -, -, hquery, hfragment⟩ := hu.clean
  rw [print_eq, clean_append, clean_append, clean_append]
  refine ⟨⟨?_, clean_printMiddle hu, ?_⟩, ?_⟩
  · intro c hc
    rcases mem_printScheme hc with rfl | hc
    · decide
    · exact isControl_of_isSchemeChar (isSchemeChar_of_mem_scheme hu hc)
  · intro c hc
    rcases mem_printQuery hc with rfl | hc
    · decide
    · exact hquery c hc
  · intro c hc
    rcases mem_printFragment hc with rfl | hc
    · decide
    · exact hfragment c hc

/-- The number sign of the fragment is the first one of a printed URI. -/
theorem splitFragment_print {u : Uri} (hu : Shaped u) :
    splitFragment u.print = (u.printScheme ++ (u.printMiddle ++ u.printQuery), u.fragment) := by
  have hhead : '#' ∉ u.printScheme ++ (u.printMiddle ++ u.printQuery) := by
    simp only [List.mem_append, not_or]
    refine ⟨?_, number_not_mem_printMiddle hu, ?_⟩
    · intro hc
      rcases mem_printScheme hc with h | h
      · simp at h
      · exact absurd (isSchemeChar_of_mem_scheme hu h) Bool.false_ne_true
    · intro hc
      rcases mem_printQuery hc with h | h
      · simp at h
      · exact hu.noNumber.2.2.2 h
  rw [print_eq]
  exact splitFragment_append hhead u

/-- A colon behind the first slash, or behind the query's question mark, ends no scheme. -/
theorem splitScheme_of_colonless {middle : Text} (h : ':' ∉ Text.upTo '/' middle) (u : Uri) :
    splitScheme (middle ++ u.printQuery) = .ok ([], middle ++ u.printQuery) := by
  have hmiddle := Text.upTo_append_onFrom '/' middle
  rcases Text.onFrom_eq_nil_or_cons '/' middle with hnil | ⟨rest, hrest⟩
  · rw [hnil, List.append_nil] at hmiddle
    rw [hmiddle] at h
    unfold printQuery
    split
    · exact splitScheme_of_barrier h (by decide) (by decide) _
    · rw [List.append_nil]
      exact splitScheme_of_not_mem h
  · rw [hrest] at hmiddle
    rw [← hmiddle, List.append_assoc, List.cons_append]
    exact splitScheme_of_barrier h (by decide) (by decide) _

/-- The printed scheme of a shaped URI is found. -/
theorem splitScheme_print {u : Uri} (hu : Shaped u) :
    splitScheme (u.printScheme ++ (u.printMiddle ++ u.printQuery))
      = .ok (u.scheme, u.printMiddle ++ u.printQuery) := by
  by_cases hs : u.scheme = []
  · have hprint : u.printScheme = [] := if_pos hs
    rw [hprint, List.nil_append, hs]
    exact splitScheme_of_colonless (colon_not_mem_printMiddle hu hs) u
  · have hprint : u.printScheme = u.scheme ++ [':'] := if_neg hs
    obtain ⟨hname, hlower⟩ := hu.scheme hs
    rw [hprint, List.append_assoc]
    exact splitScheme_append hname hlower _

/-! ## Main statements -/

/-- What reading a printed URI comes to: its middle is read in its own frame. -/
theorem read_print_eq_ok_iff_middle {u v : Uri} (hu : Shaped u) :
    read u.print = .ok v ↔ Middle u.frame u.printMiddle v := by
  have hquery : splitQuery (u.printMiddle ++ u.printQuery)
      = { before := u.printMiddle, forceQuery := u.forceQuery, query := u.query } :=
    splitQuery_append (question_not_mem_printMiddle hu) hu.forceQuery
  have hframe : frameOf u.print u.scheme (u.printMiddle ++ u.printQuery) = u.frame := by
    rw [frameOf, splitFragment_print hu, hquery]
    rfl
  rw [read_eq_ok_iff, splitFragment_print hu]
  constructor
  · rintro ⟨-, scheme, rest, hscheme, hmiddle⟩
    rw [splitScheme_print hu] at hscheme
    simp only [Except.ok.injEq, Prod.mk.injEq] at hscheme
    obtain ⟨rfl, rfl⟩ := hscheme
    rwa [hframe, hquery] at hmiddle
  · intro hmiddle
    refine ⟨clean_print hu, u.scheme, u.printMiddle ++ u.printQuery, splitScheme_print hu, ?_⟩
    rwa [hframe, hquery]

/-- Behind two slashes the path begins at the next slash. -/
theorem path_of_middle_slashes {base v : Uri} {rest : Text}
    (h : Middle base ('/' :: '/' :: rest) v) : v.path = Text.onFrom '/' rest := by
  cases h with
  | authority rest valid => rfl
  | rooted rest single => exact absurd rfl single
  | body middle slashless scheme => exact absurd rfl slashless
  | relative middle slashless scheme colonless => exact absurd rfl slashless

/-- A path that starts like an authority is not read back: its slashes are taken off it. -/
theorem not_middle_of_startsLikeAuthority {u : Uri} (hu : Shaped u) (h : StartsLikeAuthority u) :
    ¬ Middle u.frame u.printMiddle u := by
  obtain ⟨hs, huser, hhost, rest, hrest⟩ := h
  have hbody : u.body = [] := by
    by_contra hne
    exact (hu.body hne).1 hs
  have hauth : ¬ HasAuthority u := by simp [HasAuthority, huser, hhost, hs]
  rw [printMiddle_of_not_hasAuthority hbody hauth]
  intro hread
  rw [← hrest] at hread
  have hpath : u.path = Text.onFrom '/' rest := path_of_middle_slashes hread
  have hshort : (Text.onFrom '/' rest).length ≤ rest.length := (List.dropWhile_suffix _).length_le
  have hlong : u.path.length = rest.length + 2 := by rw [← hrest]; simp
  rw [hpath] at hlong
  omega

/-- A shaped URI is read back from its text unless its path starts like an authority. -/
theorem read_print_iff {u : Uri} (hu : Shaped u) :
    read u.print = .ok u ↔ ¬ StartsLikeAuthority u := by
  rw [read_print_eq_ok_iff_middle hu]
  exact ⟨fun hread h => not_middle_of_startsLikeAuthority hu h hread, middle_printMiddle hu⟩

theorem parse_eq_ok_iff {raw : Text} {u : Uri} : parse raw = .ok u ↔ read raw = .ok u := by
  unfold parse
  cases read raw <;> simp [Except.mapError]

/-- Which hosts a shaped URI can be given without losing its shape. -/
theorem shaped_withHost_iff {u : Uri} (hu : Shaped u) (host : Text) :
    Shaped (u.withHost host) ↔
      u.body ≠ [] ∧ host = [] ∨ u.body = [] ∧ host = [] ∨
        u.body = [] ∧ host ≠ [] ∧ IsHostText host ∧ Rooted u.path := by
  constructor
  · intro h
    by_cases hbody : u.body = []
    · by_cases hhost : host = []
      · exact .inr (.inl ⟨hbody, hhost⟩)
      · refine .inr (.inr ⟨hbody, hhost, h.host, ?_⟩)
        exact h.path.resolve_right fun hrel => hhost hrel.2.2.1
    · exact .inl ⟨hbody, (h.body hbody).2.2.1⟩
  · intro h
    have hhost : IsHostText host := by
      rcases h with ⟨-, rfl⟩ | ⟨-, rfl⟩ | ⟨-, -, hvalid, -⟩
      · exact isHostText_nil
      · exact isHostText_nil
      · exact hvalid
    exact
      { scheme := hu.scheme
        body := fun hbody => by
          obtain ⟨hs, huser, -, hpath, hhead⟩ := hu.body hbody
          rcases h with ⟨-, hnil⟩ | ⟨hno, -⟩ | ⟨hno, -⟩
          · exact ⟨hs, huser, hnil, hpath, hhead⟩
          · exact absurd hno hbody
          · exact absurd hno hbody
        user := hu.user
        host := hhost
        path := by
          rcases h with ⟨-, hnil⟩ | ⟨-, hnil⟩ | ⟨-, -, -, hrooted⟩
          · exact hu.path.imp_right fun ⟨hs, huser, _, hcolon⟩ => ⟨hs, huser, hnil, hcolon⟩
          · exact hu.path.imp_right fun ⟨hs, huser, _, hcolon⟩ => ⟨hs, huser, hnil, hcolon⟩
          · exact .inl hrooted
        forceQuery := hu.forceQuery
        clean := hu.clean
        noQuestion := hu.noQuestion
        noNumber := hu.noNumber }

/-- A URI that was read, given another host, is read back from its text exactly if it has a body
and no host, or neither of them and no path that starts like an authority, or a valid host in front
of a rooted path.  So every URI that was read is read back from its text, except those with nothing
but a query or a fragment beside a path that starts like an authority. -/
theorem parse_print_withHost_iff {raw : Text} {u : Uri} (hread : parse raw = .ok u) (host : Text) :
    (parse (u.withHost host).print = .ok (u.withHost host) ↔
      u.body ≠ [] ∧ host = [] ∨
      u.body = [] ∧ host = [] ∧ ¬ (u.scheme = [] ∧ u.user = none ∧ ['/', '/'] <+: u.path) ∨
      u.body = [] ∧ host ≠ [] ∧ IsHostText host ∧ (u.path = [] ∨ u.path.head? = some '/')) ∧
    (parse u.print = .ok u ↔
      ¬ (u.scheme = [] ∧ u.user = none ∧ u.host = [] ∧ ['/', '/'] <+: u.path)) := by
  have hu : Shaped u := shaped_of_read (parse_eq_ok_iff.1 hread)
  refine ⟨?_, by rw [parse_eq_ok_iff, read_print_iff hu]; rfl⟩
  rw [parse_eq_ok_iff]
  constructor
  · intro hback
    have hw : Shaped (u.withHost host) := shaped_of_read hback
    have hstart : ¬ StartsLikeAuthority (u.withHost host) := (read_print_iff hw).1 hback
    rcases (shaped_withHost_iff hu host).1 hw with h | ⟨hbody, hnil⟩ | h
    · exact .inl h
    · exact .inr (.inl ⟨hbody, hnil, fun ⟨hs, huser, hp⟩ => hstart ⟨hs, huser, hnil, hp⟩⟩)
    · exact .inr (.inr h)
  · intro h
    have hw : Shaped (u.withHost host) := by
      refine (shaped_withHost_iff hu host).2 (h.imp_right (Or.imp_left ?_))
      exact fun ⟨hbody, hnil, _⟩ => ⟨hbody, hnil⟩
    refine (read_print_iff hw).2 ?_
    rintro ⟨hs, huser, hhost, hp⟩
    rcases h with ⟨hbody, -⟩ | ⟨-, -, hstart⟩ | ⟨-, hne, -⟩
    · exact (hu.body hbody).1 hs
    · exact hstart ⟨hs, huser, hp⟩
    · exact hne hhost

/-- A user with at signs, a bracketed host in place of a named one, a query and a fragment. -/
theorem parse_print_withHost_bracketed :
    parse "TCP+tls://a@b@h:http/p?q?#f#".toList
        = .ok { scheme := "tcp+tls".toList, user := some "a@b".toList, host := "h:http".toList,
                path := "/p".toList, query := "q?".toList, fragment := "f#".toList } ∧
      parse "tcp+tls://a@b@[::1]:80/p?q?#f#".toList
        = .ok { scheme := "tcp+tls".toList, user := some "a@b".toList, host := "[::1]:80".toList,
                path := "/p".toList, query := "q?".toList, fragment := "f#".toList } := by
  have hread : parse "TCP+tls://a@b@h:http/p?q?#f#".toList
      = .ok { scheme := "tcp+tls".toList, user := some "a@b".toList, host := "h:http".toList,
              path := "/p".toList, query := "q?".toList, fragment := "f#".toList } := rfl
  have hhost : IsHostText "[::1]:80".toList := ⟨by simp [isControl], rfl⟩
  exact ⟨hread, (parse_print_withHost_iff hread "[::1]:80".toList).1.2
    (.inr (.inr ⟨rfl, by decide, hhost, .inr rfl⟩))⟩

example : (read "////x".toList).map print = .ok "//x".toList := rfl

end Switchboard.Uri
