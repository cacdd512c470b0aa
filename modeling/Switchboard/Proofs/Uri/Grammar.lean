import Switchboard.Fault
import Switchboard.Proofs.Uri.Shape

set_option autoImplicit false

/-!
# The grammar of URIs

`Reads` says what every text stands for, as a URI or as a flaw, by rules that put texts together and
never search them: a text is a head and a fragment, a head is a scheme and a rest, a rest is a part
before its query and a query, and that part is a body, a path, or an authority and a path.  Main
statement: the reader follows these rules, and they leave it no choice (`parse_iff_reads`).

Each rule gets two lemmas: some case of it applies to every text, and where a case applies, the
stage of the reader gives what the case says.
-/

namespace Switchboard.Uri

/-! ## The rules -/

/-- A text divided at its first separator, which belongs to neither side.  Without one, nothing
comes after. -/
inductive Divided (c : Char) : (s before after : Text) → Prop where
  | undivided (s : Text) (absent : c ∉ s) : Divided c s s []
  | divided (before after : Text) (first : c ∉ before) :
      Divided c (before ++ c :: after) before after

/-- The scheme in lower case and the text behind its colon. -/
inductive SchemeOf : (head scheme rest : Text) → Prop where
  | named (name rest : Text) (name_of : isSchemeName name = true) :
      SchemeOf (name ++ ':' :: rest) (name.map Char.toLower) rest
  /-- what stands before the colon, if there is one, is not the name of a scheme -/
  | unnamed (head : Text) (colonless : head.head? ≠ some ':')
      (nameless : ∀ name rest, head = name ++ ':' :: rest → isSchemeName name = false) :
      SchemeOf head [] head

/-- A rest whose only question mark is its last character. -/
def ForcesQuery (rest : Text) : Prop := rest.count '?' = 1 ∧ rest.getLast? = some '?'

instance (rest : Text) : Decidable (ForcesQuery rest) :=
  inferInstanceAs (Decidable (rest.count '?' = 1 ∧ rest.getLast? = some '?'))

/-- The user before the last at sign of an authority, and the host behind it. -/
inductive UserOf : (authority : Text) → Option Text → (host : Text) → Prop where
  | absent (host : Text) (atless : '@' ∉ host) : UserOf host none host
  | present (user host : Text) (last : '@' ∉ host) : UserOf (user ++ '@' :: host) (some user) host

/-- A host without a flaw. -/
inductive ValidHost : Text → Prop where
  /-- brackets, and behind them nothing or a colon -/
  | bracketed (inner tail : Text) (first : ']' ∉ inner) (port : tail = [] ∨ tail.head? = some ':') :
      ValidHost ('[' :: inner ++ ']' :: tail)
  | plain (host : Text) (bracketless : host.head? ≠ some '[')
      (chars : ∀ c ∈ host, isForbiddenInHost c = false) : ValidHost host

/-- A host with a flaw, which names the host and the first character that is wrong with it. -/
inductive HostFlaw : Text → Flaw → Prop where
  | unclosed (inner : Text) (absent : ']' ∉ inner) :
      HostFlaw ('[' :: inner) (.missingBracket ('[' :: inner))
  | behind (inner tail : Text) (c : Char) (first : ']' ∉ inner) (wrong : c ≠ ':') :
      HostFlaw ('[' :: inner ++ ']' :: c :: tail)
        (.invalidHost ('[' :: inner ++ ']' :: c :: tail) c)
  | forbidden (before after : Text) (c : Char)
      (bracketless : (before ++ c :: after).head? ≠ some '[')
      (first : ∀ x ∈ before, isForbiddenInHost x = false) (wrong : isForbiddenInHost c = true) :
      HostFlaw (before ++ c :: after) (.invalidHost (before ++ c :: after) c)

/-- What the text between the scheme and the query stands for, where the other components are those
of `base`. -/
inductive MiddleOf (base : Uri) : Text → Except Flaw Uri → Prop where
  /-- behind a scheme, what does not start with a slash is a body, and nothing else is set -/
  | body (middle : Text) (slashless : middle.head? ≠ some '/') (scheme : base.scheme ≠ []) :
      MiddleOf base middle (.ok { base with body := middle })
  /-- without a scheme there is no colon before the first slash -/
  | colon (segment rest : Text) (slashless : (segment ++ ':' :: rest).head? ≠ some '/')
      (scheme : base.scheme = []) (first : '/' ∉ segment) :
      MiddleOf base (segment ++ ':' :: rest) (.error .colonInFirstSegment)
  | relative (middle : Text) (slashless : middle.head? ≠ some '/') (scheme : base.scheme = [])
      (colonless : ∀ segment rest, middle = segment ++ ':' :: rest → '/' ∈ segment) :
      MiddleOf base middle (.ok { base with path := middle })
  | rooted (rest : Text) (single : rest.head? ≠ some '/') :
      MiddleOf base ('/' :: rest) (.ok { base with path := '/' :: rest })
  /-- behind two slashes, an authority up to the next slash, and a path -/
  | authority (authority path host : Text) (user : Option Text) (slashless : '/' ∉ authority)
      (rooted : Rooted path) (user_of : UserOf authority user host)
      (valid : ValidHost host) :
      MiddleOf base ('/' :: '/' :: (authority ++ path))
        (.ok { base with user := user, host := host, path := path })
  | badHost (authority path host : Text) (user : Option Text) (flaw : Flaw)
      (slashless : '/' ∉ authority) (rooted : Rooted path)
      (user_of : UserOf authority user host) (flaw_of : HostFlaw host flaw) :
      MiddleOf base ('/' :: '/' :: (authority ++ path)) (.error flaw)

/-- What a text stands for. -/
inductive Reads (raw : Text) : Except Flaw Uri → Prop where
  /-- an ASCII control character anywhere comes before every other flaw -/
  | control (c : Char) (mem : c ∈ raw) (control : isControl c = true) :
      Reads raw (.error .controlCharacter)
  | missingScheme (after fragment : Text) (clean : ∀ c ∈ raw, isControl c = false)
      (head_of : Divided '#' raw (':' :: after) fragment) : Reads raw (.error .missingScheme)
  | parts (head fragment scheme rest before query : Text) (outcome : Except Flaw Uri)
      (clean : ∀ c ∈ raw, isControl c = false) (head_of : Divided '#' raw head fragment)
      (scheme_of : SchemeOf head scheme rest) (query_of : Divided '?' rest before query)
      (middle_of : MiddleOf
        { scheme := scheme, query := query, forceQuery := ForcesQuery rest, fragment := fragment }
        before outcome) :
      Reads raw outcome

/-! ## The head and the query -/

theorem exists_divided (c : Char) (s : Text) : ∃ before after, Divided c s before after := by
  cases hcut : Text.cut? c s with
  | none => exact ⟨s, [], .undivided s (Text.cut?_eq_none_iff.1 hcut)⟩
  | some sides =>
    obtain ⟨rfl, hfirst⟩ := Text.cut?_eq_some_iff.1 hcut
    exact ⟨sides.1, sides.2, .divided sides.1 sides.2 hfirst⟩

theorem splitFragment_of_divided {raw head fragment : Text} (h : Divided '#' raw head fragment) :
    splitFragment raw = (head, fragment) := by
  cases h with
  | undivided _ absent => exact splitFragment_of_not_mem absent
  | divided _ _ first => rw [splitFragment, Text.cut?_append_cons _ first]; rfl

/-- The query is forced if it is cut off with nothing in it. -/
theorem forcesQuery_append_iff {before query : Text} (h : '?' ∉ before) :
    ForcesQuery (before ++ '?' :: query) ↔ query = [] := by
  constructor
  · rintro ⟨hcount, hlast⟩
    have hquery : '?' ∉ query := by
      rw [← List.count_eq_zero]
      rw [List.count_append, List.count_cons_self, List.count_eq_zero.2 h] at hcount
      omega
    cases hsplit : query.getLast? with
    | none => exact List.getLast?_eq_none_iff.1 hsplit
    | some c =>
      have hc : c = '?' := by
        rw [List.getLast?_append, List.getLast?_cons, hsplit] at hlast
        simpa using hlast
      exact absurd (hc ▸ List.mem_of_getLast? hsplit) hquery
  · rintro rfl
    refine ⟨?_, by simp⟩
    rw [List.count_append, List.count_eq_zero.2 h]
    rfl

theorem splitQuery_of_divided {rest before query : Text} (h : Divided '?' rest before query) :
    splitQuery rest
      = { before := before, forceQuery := ForcesQuery rest, query := query } := by
  cases h with
  | undivided _ absent =>
    have hforce : ¬ ForcesQuery rest := fun hf => absent (List.mem_of_getLast? hf.2)
    rw [splitQuery, Text.cut?_eq_none_iff.2 absent]
    simp [hforce]
  | divided _ _ first =>
    rw [splitQuery, Text.cut?_append_cons _ first]
    cases query with
    | nil => simp [(forcesQuery_append_iff first).2 rfl]
    | cons c tail => simp [mt (forcesQuery_append_iff first).1 (List.cons_ne_nil c tail)]

/-! ## The scheme -/

theorem exists_schemeOf {head : Text} (h : head.head? ≠ some ':') :
    ∃ scheme rest, SchemeOf head scheme rest := by
  by_cases hname : ∃ name rest, head = name ++ ':' :: rest ∧ isSchemeName name = true
  · obtain ⟨name, rest, rfl, hname⟩ := hname
    exact ⟨_, rest, .named name rest hname⟩
  · refine ⟨[], head, .unnamed head h ?_⟩
    intro name rest heq
    exact Bool.eq_false_of_not_eq_true fun hn => hname ⟨name, rest, heq, hn⟩

theorem splitScheme_of_schemeOf {head scheme rest : Text} (h : SchemeOf head scheme rest) :
    splitScheme head = .ok (scheme, rest) := by
  cases h with
  | named name _ hname =>
    have hcolon : ':' ∉ name := not_mem_of_isSchemeName hname (by decide)
    rw [splitScheme, Text.cut?_append_cons _ hcolon]
    cases name with
    | nil => simp [isSchemeName] at hname
    | cons c tail => simp only [hname, if_true]
  | unnamed _ colonless nameless =>
    cases hcut : Text.cut? ':' head with
    | none => rw [splitScheme, hcut]
    | some sides =>
      obtain ⟨heq, -⟩ := Text.cut?_eq_some_iff.1 hcut
      have hname := nameless _ _ heq
      obtain ⟨name, rest⟩ := sides
      cases name with
      | nil => simp [heq] at colonless
      | cons c tail => simp [splitScheme, hcut, hname]

/-! ## The user and the host -/

theorem exists_userOf (authority : Text) : ∃ user host, UserOf authority user host := by
  cases hcut : Text.cutLast? '@' authority with
  | none => exact ⟨none, authority, .absent authority (Text.cutLast?_eq_none_iff.1 hcut)⟩
  | some sides =>
    obtain ⟨rfl, hlast⟩ := Text.cutLast?_eq_some_iff.1 hcut
    exact ⟨some sides.1, sides.2, .present sides.1 sides.2 hlast⟩

theorem splitUser_of_userOf {authority host : Text} {user : Option Text}
    (h : UserOf authority user host) : splitUser authority = (user, host) := by
  cases h with
  | absent _ atless => exact splitUser_of_not_mem atless
  | present user _ last => exact splitUser_append user last

theorem hostFlaw?_of_bracketed {inner tail : Text} (h : ']' ∉ inner) :
    hostFlaw? ('[' :: inner ++ ']' :: tail)
      = tail.head?.bind fun c =>
          if c = ':' then none else some (.invalidHost ('[' :: inner ++ ']' :: tail) c) := by
  rw [List.cons_append, hostFlaw?, Text.cut?_append_cons _ h]
  cases tail <;> rfl

theorem hostFlaw?_of_plain {host : Text} (h : host.head? ≠ some '[') :
    hostFlaw? host = (host.find? isForbiddenInHost).map (.invalidHost host) := by
  unfold hostFlaw?
  split
  · simp at h
  · rfl

theorem hostFlaw?_of_validHost {host : Text} (h : ValidHost host) : hostFlaw? host = none := by
  cases h with
  | bracketed inner tail first port =>
    rw [hostFlaw?_of_bracketed first]
    rcases port with rfl | hcolon
    · rfl
    · simp [hcolon]
  | plain _ bracketless chars =>
    rw [hostFlaw?_of_plain bracketless, List.find?_eq_none.2 fun c hc => by simp [chars c hc]]
    rfl

theorem hostFlaw?_of_hostFlaw {host : Text} {flaw : Flaw} (h : HostFlaw host flaw) :
    hostFlaw? host = some flaw := by
  cases h with
  | unclosed inner absent => rw [hostFlaw?, Text.cut?_eq_none_iff.2 absent]
  | behind inner tail c first wrong =>
    rw [hostFlaw?_of_bracketed first]
    simp [wrong]
  | forbidden before after c bracketless first wrong =>
    have hfind : (before ++ c :: after).find? isForbiddenInHost = some c := by
      rw [List.find?_append, List.find?_eq_none.2 fun x hx => by simp [first x hx]]
      simp [wrong]
    rw [hostFlaw?_of_plain bracketless, hfind]
    rfl

theorem validHost_or_hostFlaw (host : Text) : ValidHost host ∨ ∃ flaw, HostFlaw host flaw := by
  by_cases hbracket : host.head? = some '['
  · obtain ⟨inner, rfl⟩ := List.head?_eq_some_iff.1 hbracket
    cases hcut : Text.cut? ']' inner with
    | none => exact .inr ⟨_, .unclosed inner (Text.cut?_eq_none_iff.1 hcut)⟩
    | some sides =>
      obtain ⟨rfl, hfirst⟩ := Text.cut?_eq_some_iff.1 hcut
      obtain ⟨inner, tail⟩ := sides
      cases tail with
      | nil => exact .inl (.bracketed inner [] hfirst (.inl rfl))
      | cons c tail =>
        by_cases hc : c = ':'
        · exact .inl (.bracketed inner (c :: tail) hfirst (.inr (by simp [hc])))
        · exact .inr ⟨_, .behind inner tail c hfirst hc⟩
  · cases hfind : host.find? isForbiddenInHost with
    | none =>
      refine .inl (.plain host hbracket fun c hc => ?_)
      exact Bool.eq_false_of_not_eq_true (List.find?_eq_none.1 hfind c hc)
    | some c =>
      obtain ⟨hwrong, before, after, rfl, hbefore⟩ := List.find?_eq_some_iff_append.1 hfind
      refine .inr ⟨_, .forbidden before after c hbracket (fun x hx => ?_) hwrong⟩
      simpa using hbefore x hx

/-! ## The middle -/

theorem exists_authority (rest : Text) :
    ∃ authority path, rest = authority ++ path ∧ '/' ∉ authority ∧ Rooted path :=
  ⟨Text.upTo '/' rest, Text.onFrom '/' rest, (Text.upTo_append_onFrom '/' rest).symm,
    Text.not_mem_upTo '/' rest, rooted_onFrom rest⟩

theorem exists_middleOf (base : Uri) (middle : Text) : ∃ outcome, MiddleOf base middle outcome := by
  by_cases hhead : middle.head? = some '/'
  · obtain ⟨rest, rfl⟩ := List.head?_eq_some_iff.1 hhead
    by_cases hsecond : rest.head? = some '/'
    · obtain ⟨rest, rfl⟩ := List.head?_eq_some_iff.1 hsecond
      obtain ⟨authority, path, rfl, hslash, hrooted⟩ := exists_authority rest
      obtain ⟨user, host, huser⟩ := exists_userOf authority
      rcases validHost_or_hostFlaw host with hvalid | ⟨flaw, hflaw⟩
      · exact ⟨_, .authority authority path host user hslash hrooted huser hvalid⟩
      · exact ⟨_, .badHost authority path host user flaw hslash hrooted huser hflaw⟩
    · exact ⟨_, .rooted rest hsecond⟩
  · by_cases hscheme : base.scheme = []
    · by_cases hcolon : ∃ segment rest, middle = segment ++ ':' :: rest ∧ '/' ∉ segment
      · obtain ⟨segment, rest, rfl, hfirst⟩ := hcolon
        exact ⟨_, .colon segment rest hhead hscheme hfirst⟩
      · refine ⟨_, .relative middle hhead hscheme fun segment rest heq => ?_⟩
        exact Classical.not_not.1 fun hslash => hcolon ⟨segment, rest, heq, hslash⟩
    · exact ⟨_, .body middle hhead hscheme⟩

/-- A colon in the first segment stands before every slash. -/
theorem colon_mem_upTo_iff (middle : Text) :
    ':' ∈ Text.upTo '/' middle ↔
      ∃ segment rest, middle = segment ++ ':' :: rest ∧ '/' ∉ segment := by
  constructor
  · intro h
    obtain ⟨segment, rest, heq⟩ := List.append_of_mem h
    refine ⟨segment, rest ++ Text.onFrom '/' middle, ?_, ?_⟩
    · conv_lhs => rw [← Text.upTo_append_onFrom '/' middle, heq]
      simp
    · intro hslash
      exact Text.not_mem_upTo '/' middle (heq ▸ List.mem_append_left _ hslash)
  · rintro ⟨segment, rest, rfl, hslash⟩
    rw [Text.upTo_append hslash]
    simp [Text.upTo]

theorem withMiddle_of_authority {base : Uri} {authority path host : Text} {user : Option Text}
    (hslash : '/' ∉ authority) (hrooted : Rooted path) (huser : UserOf authority user host) :
    withMiddle base ('/' :: '/' :: (authority ++ path)) = match hostFlaw? host with
      | some flaw => .error flaw
      | none => .ok { base with user := user, host := host, path := path } := by
  cases hflaw : hostFlaw? host <;>
    simp only [withMiddle, upTo_append_of_rooted hslash hrooted,
      onFrom_append_of_rooted hslash hrooted, splitUser_of_userOf huser, hflaw]

theorem withMiddle_of_middleOf {base : Uri} {middle : Text} {outcome : Except Flaw Uri}
    (h : MiddleOf base middle outcome) : withMiddle base middle = outcome := by
  cases h with
  | body _ slashless scheme => rw [withMiddle_of_slashless slashless, if_pos scheme]
  | colon segment rest slashless scheme first =>
    rw [withMiddle_of_slashless slashless, if_neg (not_not.2 scheme),
      if_pos ((colon_mem_upTo_iff _).2 ⟨segment, rest, rfl, first⟩)]
  | relative _ slashless scheme colonless =>
    have hcolon : ':' ∉ Text.upTo '/' middle := by
      intro h
      obtain ⟨segment, rest, heq, hslash⟩ := (colon_mem_upTo_iff middle).1 h
      exact hslash (colonless segment rest heq)
    rw [withMiddle_of_slashless slashless, if_neg (not_not.2 scheme), if_neg hcolon]
  | rooted rest single => exact withMiddle_of_single single
  | authority authority path host user slashless rooted user_of valid =>
    rw [withMiddle_of_authority slashless rooted user_of, hostFlaw?_of_validHost valid]
  | badHost authority path host user flaw slashless rooted user_of flaw_of =>
    rw [withMiddle_of_authority slashless rooted user_of, hostFlaw?_of_hostFlaw flaw_of]

/-! ## The whole text -/

/-- Some rule applies to every text. -/
theorem exists_reads (raw : Text) : ∃ outcome, Reads raw outcome := by
  by_cases hcontrol : ∃ c ∈ raw, isControl c = true
  · obtain ⟨c, hmem, hc⟩ := hcontrol
    exact ⟨_, .control c hmem hc⟩
  · have hclean : ∀ c ∈ raw, isControl c = false := fun c hc =>
      Bool.eq_false_of_not_eq_true fun h => hcontrol ⟨c, hc, h⟩
    obtain ⟨head, fragment, hhead⟩ := exists_divided '#' raw
    by_cases hcolon : head.head? = some ':'
    · obtain ⟨after, rfl⟩ := List.head?_eq_some_iff.1 hcolon
      exact ⟨_, .missingScheme after fragment hclean hhead⟩
    · obtain ⟨scheme, rest, hscheme⟩ := exists_schemeOf hcolon
      obtain ⟨before, query, hquery⟩ := exists_divided '?' rest
      obtain ⟨outcome, hmiddle⟩ := exists_middleOf
        { scheme := scheme, query := query, forceQuery := ForcesQuery rest, fragment := fragment }
        before
      exact ⟨outcome, .parts head fragment scheme rest before query outcome hclean hhead hscheme
        hquery hmiddle⟩

theorem read_of_clean {raw : Text} (h : ∀ c ∈ raw, isControl c = false) :
    read raw = readClean raw := by
  have hany : raw.any isControl = false := by simpa [List.any_eq_false] using h
  simp [read, hany]

/-- The reader follows the rules. -/
theorem read_of_reads {raw : Text} {outcome : Except Flaw Uri} (h : Reads raw outcome) :
    read raw = outcome := by
  cases h with
  | control c mem control =>
    have hany : raw.any isControl = true := List.any_eq_true.2 ⟨c, mem, control⟩
    simp [read, hany]
  | missingScheme after fragment clean head_of =>
    rw [read_of_clean clean, readClean, splitFragment_of_divided head_of]
    rfl
  | parts head fragment scheme rest before query _ clean head_of scheme_of query_of middle_of =>
    rw [read_of_clean clean, readClean, splitFragment_of_divided head_of]
    simp only [splitScheme_of_schemeOf scheme_of, splitQuery_of_divided query_of, bind, Except.bind]
    exact withMiddle_of_middleOf middle_of

theorem mapError_injective {raw : Text} {a b : Except Flaw Uri}
    (h : a.mapError (Fault.parse raw) = b.mapError (Fault.parse raw)) : a = b := by
  cases a <;> cases b <;> simp_all

/-- A text is read as the rules say, with the components that they put together, and refused as
they say, with the flaw that they name; to every text exactly one outcome belongs by the rules. -/
theorem parse_iff_reads (raw : Text) (outcome : Except Flaw Uri) :
    parse raw = outcome.mapError (Fault.parse raw) ↔ Reads raw outcome := by
  constructor
  · intro h
    obtain ⟨ruled, hruled⟩ := exists_reads raw
    rw [parse, read_of_reads hruled] at h
    exact mapError_injective h ▸ hruled
  · intro h
    rw [parse, read_of_reads h]

end Switchboard.Uri
