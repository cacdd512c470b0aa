import Switchboard.Fault
import Switchboard.Proofs.Address.HostPortText
import Switchboard.Text.Octets

set_option autoImplicit false

/-!
# Host and port as they stand in a text

The host and the port of a text are parts of it, and can be had without a copy: by the positions of
its last colon and of its first closing bracket, counted in octets.  Such positions have to be used
with care, since a text cannot be cut inside a character.  `splitInPlace` divides a text in this
way.  Main statement: it never cuts where a text cannot be cut, and finds a host and a port where
the text is one of the two ways to write them; elsewhere its fault names the text
(`in_place_finds_what_is_written`).
-/

namespace Switchboard.HostPort

/-- The two ways to write a host and a port. -/
inductive Writes (host port : Text) : Text → Prop where
  /-- with a colon between them -/
  | plain (hostUnmarked : Unmarked host) (portUnmarked : Unmarked port) :
      Writes host port (host ++ ':' :: port)
  /-- with brackets around the host, which may then hold colons -/
  | bracketed (unopened : '[' ∉ host) (unclosed : ']' ∉ host) (portUnmarked : Unmarked port) :
      Writes host port ('[' :: host ++ ']' :: ':' :: port)

/-- The host of a text whose last colon is at a given position; and the positions from which on the
text must not hold an opening bracket and a closing bracket. -/
def hostInPlace (s : Text) (colon : Nat) : Option (Except Flaw (Text × Nat × Nat)) :=
  if s.head? = some '[' then
    match Text.position? ']' s with
    | none => some (.error .missingCloseBracket)
    | some close =>
      if close + 1 = Text.size s then some (.error .missingPort)
      else if close + 1 = colon then do
        let host ← Text.slice? s 1 close
        return .ok (host, 1, close + 1)
      else do
        let octet ← Text.octetAt? s (close + 1)
        return .error (if octet = 0x3A then .tooManyColons else .missingPort)
  else do
    let host ← Text.slice? s 0 colon
    return if ':' ∈ host then .error .tooManyColons else .ok (host, 0, 0)

/-- A host together with the port behind the colon, if no bracket stands where none may stand. -/
def portInPlace (s host : Text) (colon opened closed : Nat) :
    Option (Except Flaw (Text × Text)) := do
  let inner ← Text.sliceFrom? s opened
  if '[' ∈ inner then
    pure (.error .unexpectedOpenBracket)
  else
    let tail ← Text.sliceFrom? s closed
    if ']' ∈ tail then
      pure (.error .unexpectedCloseBracket)
    else
      let port ← Text.sliceFrom? s (colon + 1)
      pure (.ok (host, port))

/-- The host and the port of a text, cut out of it at positions in its octets; nothing if the text
was to be cut, or an octet to be looked at, where this cannot be done. -/
def splitInPlace (s : Text) : Option (Except Flaw (Text × Text)) :=
  match Text.lastPosition? ':' s with
  | none => some (.error .missingPort)
  | some colon => do
    match ← hostInPlace s colon with
    | .error flaw => pure (.error flaw)
    | .ok (host, opened, closed) => portInPlace s host colon opened closed

theorem split_eq_ok_iff_writes {s host port : Text} :
    split s = .ok (host, port) ↔ Writes host port s := by
  rw [split_eq_ok_iff]
  constructor
  · rintro (⟨hhost, hport, rfl⟩ | ⟨⟨hopen, hclose⟩, hport, rfl⟩)
    · exact .plain hhost hport
    · exact .bracketed hopen hclose hport
  · rintro (⟨hhost, hport⟩ | ⟨hopen, hclose, hport⟩)
    · exact .inl ⟨hhost, hport, rfl⟩
    · exact .inr ⟨⟨hopen, hclose⟩, hport, rfl⟩

/-! ## The steps -/

/-- The host of a text that does not start with a bracket is what stands before the colon. -/
theorem hostInPlace_plain {before after : Text}
    (h : (before ++ ':' :: after).head? ≠ some '[') :
    hostInPlace (before ++ ':' :: after) (Text.size before)
      = some (if ':' ∈ before then .error .tooManyColons else .ok (before, 0, 0)) := by
  have hhost := Text.slice?_append [] before (':' :: after)
  rw [Text.size_nil, Nat.zero_add, List.nil_append] at hhost
  rw [hostInPlace, if_neg h, hhost]
  rfl

theorem hostInPlace_unclosed {inner : Text} (h : ']' ∉ inner) (colon : Nat) :
    hostInPlace ('[' :: inner) colon = some (.error .missingCloseBracket) := by
  have hclose : Text.position? ']' ('[' :: inner) = none :=
    Text.position?_eq_none_iff.2 (by simpa using h)
  rw [hostInPlace, hclose]
  rfl

/-- The position behind the bracket that closes the host. -/
theorem size_closed (host : Text) :
    Text.size ('[' :: host ++ [']']) = Text.size ('[' :: host) + 1 := by
  rw [Text.size_append]
  rfl

theorem hostInPlace_closed {host : Text} (h : ']' ∉ host) (rest : Text) (colon : Nat) :
    hostInPlace ('[' :: host ++ ']' :: rest) colon =
      if rest = [] then some (.error .missingPort)
      else if Text.size ('[' :: host ++ [']']) = colon then
        some (.ok (host, 1, Text.size ('[' :: host ++ [']'])))
      else do
        let octet ← Text.octetAt? ('[' :: host ++ ']' :: rest) (Text.size ('[' :: host ++ [']']))
        return .error (if octet = 0x3A then .tooManyColons else .missingPort) := by
  have hclose : Text.position? ']' ('[' :: host ++ ']' :: rest) = some (Text.size ('[' :: host)) :=
    Text.position?_append_cons rest (by simpa using h)
  have hhost :
      Text.slice? ('[' :: host ++ ']' :: rest) 1 (Text.size ('[' :: host)) = some host := by
    have hslice := Text.slice?_append ['['] host (']' :: rest)
    rwa [← Text.size_append] at hslice
  have hend :
      Text.size ('[' :: host ++ [']']) = Text.size ('[' :: host ++ ']' :: rest) ↔ rest = [] := by
    rw [List.append_cons _ ']' rest, Text.size_append _ rest, eq_comm, Nat.add_eq_left,
      Text.size_eq_zero_iff]
  rw [hostInPlace, if_pos (by rfl), hclose]
  simp only [← size_closed, hend, hhost]
  rfl

/-- A host in brackets that are closed right before the last colon. -/
theorem hostInPlace_bracketed {host : Text} (h : ']' ∉ host) (port : Text) :
    hostInPlace ('[' :: host ++ ']' :: ':' :: port) (Text.size ('[' :: host ++ [']']))
      = some (.ok (host, 1, Text.size ('[' :: host ++ [']']))) := by
  rw [hostInPlace_closed h, if_neg (List.cons_ne_nil _ _), if_pos rfl]

/-- Where the last colon is not right behind the closing bracket, the next octet tells whether
another colon is. -/
theorem hostInPlace_of_other {host rest : Text} (h : ']' ∉ host) {colon : Nat}
    (hcolon : Text.lastPosition? ':' ('[' :: host ++ ']' :: rest) = some colon)
    (hrest : ¬ ∃ port, rest = ':' :: port ∧ ':' ∉ port) :
    hostInPlace ('[' :: host ++ ']' :: rest) colon
      = some (.error (if rest.head? = some ':' then .tooManyColons else .missingPort)) := by
  have hne : Text.size ('[' :: host ++ [']']) ≠ colon := by
    rintro rfl
    rw [List.append_cons] at hcolon
    exact hrest (Text.lastPosition?_append_iff.1 hcolon)
  rw [hostInPlace_closed h]
  cases rest with
  | nil => simp
  | cons c port =>
    have hencode : String.utf8EncodeChar ':' = [0x3A] := rfl
    obtain ⟨octet, hoctet, htells⟩ :=
      Text.exists_octetAt?_append_cons hencode ('[' :: host ++ [']']) c port
    rw [← List.append_cons] at hoctet
    rw [if_neg (List.cons_ne_nil c port), if_neg hne, hoctet]
    simp [htells]

/-- The port is what follows the colon, wherever the brackets are looked for. -/
theorem portInPlace_append {s before port outer inner shut tail : Text} (host : Text)
    (hport : s = before ++ ':' :: port) (hinner : s = outer ++ inner) (htail : s = shut ++ tail) :
    portInPlace s host (Text.size before) (Text.size outer) (Text.size shut)
      = some (if '[' ∈ inner then .error .unexpectedOpenBracket
          else if ']' ∈ tail then .error .unexpectedCloseBracket
          else .ok (host, port)) := by
  have hopened : Text.sliceFrom? s (Text.size outer) = some inner := by
    rw [hinner, Text.sliceFrom?_append]
  have hclosed : Text.sliceFrom? s (Text.size shut) = some tail := by
    rw [htail, Text.sliceFrom?_append]
  have hbehind : Text.sliceFrom? s (Text.size before + 1) = some port := by
    have hsize : Text.size before + 1 = Text.size (before ++ [':']) := by
      rw [Text.size_append]
      rfl
    rw [hport, hsize, List.append_cons, Text.sliceFrom?_append]
  rw [portInPlace, hopened, hclosed, hbehind]
  by_cases hopen : '[' ∈ inner
  · simp [hopen]
  · by_cases hclose : ']' ∈ tail
    · simp [hopen, hclose]
    · simp [hopen, hclose]

/-! ## The whole -/

theorem splitInPlace_plain {before port : Text} (hport : ':' ∉ port)
    (h : (before ++ ':' :: port).head? ≠ some '[') :
    splitInPlace (before ++ ':' :: port) = some (splitPlain (before ++ ':' :: port)) := by
  have hcolon : Text.lastPosition? ':' (before ++ ':' :: port) = some (Text.size before) :=
    Text.lastPosition?_append_iff.2 ⟨port, rfl, hport⟩
  have hbrackets := portInPlace_append (s := before ++ ':' :: port) before rfl
    (List.nil_append _).symm (List.nil_append _).symm
  rw [Text.size_nil] at hbrackets
  rw [splitInPlace, hcolon, splitPlain, Text.cutLast?_append_cons before hport]
  simp only [hostInPlace_plain h]
  split
  · rfl
  · exact hbrackets

theorem splitBracketed_of_port {host port : Text} (h : ']' ∉ host) (hport : ':' ∉ port) :
    splitBracketed (host ++ ']' :: ':' :: port) =
      if '[' ∈ host ++ ']' :: ':' :: port then .error .unexpectedOpenBracket
      else if ']' ∈ port then .error .unexpectedCloseBracket
      else .ok (host, port) := by
  rw [splitBracketed, Text.cut?_append_cons _ h]
  exact if_neg hport

theorem splitBracketed_of_other {host rest : Text} (h : ']' ∉ host)
    (hrest : ¬ ∃ port, rest = ':' :: port ∧ ':' ∉ port) :
    splitBracketed (host ++ ']' :: rest)
      = .error (if rest.head? = some ':' then .tooManyColons else .missingPort) := by
  rw [splitBracketed, Text.cut?_append_cons _ h]
  split
  · next heq => cases heq
  · next port heq =>
    obtain ⟨rfl, rfl⟩ := Prod.mk.inj (Option.some.inj heq)
    have hport : ':' ∈ port := Classical.not_not.1 fun hno => hrest ⟨port, rfl, hno⟩
    rw [if_pos hport]
    rfl
  · next hno heq =>
    have hhead : rest.head? ≠ some ':' := by
      intro hhead
      obtain ⟨port, rfl⟩ := List.head?_eq_some_iff.1 hhead
      exact hno host port (Option.some.inj heq).symm
    rw [if_neg hhead]

/-- The two brackets are looked for from behind the first and from behind the second of those that
the text has. -/
theorem splitInPlace_of_port {host port : Text} (h : ']' ∉ host) (hport : ':' ∉ port) :
    splitInPlace ('[' :: host ++ ']' :: ':' :: port)
      = some (splitBracketed (host ++ ']' :: ':' :: port)) := by
  have hsplit : '[' :: host ++ ']' :: ':' :: port = '[' :: host ++ [']'] ++ ':' :: port :=
    List.append_cons ..
  have hinner : '[' :: host ++ ']' :: ':' :: port = ['['] ++ (host ++ ']' :: ':' :: port) := rfl
  have hlast : Text.lastPosition? ':' ('[' :: host ++ ']' :: ':' :: port)
      = some (Text.size ('[' :: host ++ [']'])) := by
    rw [hsplit]
    exact Text.lastPosition?_append_iff.2 ⟨port, rfl, hport⟩
  rw [splitInPlace, hlast, splitBracketed_of_port h hport]
  simp only [hostInPlace_bracketed h port]
  refine (portInPlace_append host hsplit hinner hsplit).trans ?_
  simp

theorem splitInPlace_bracketed {inner : Text} (hcolon : ':' ∈ inner) :
    splitInPlace ('[' :: inner) = some (splitBracketed inner) := by
  obtain ⟨colon, hlast⟩ : ∃ colon, Text.lastPosition? ':' ('[' :: inner) = some colon := by
    refine Option.ne_none_iff_exists'.1 fun hnone => ?_
    exact Text.lastPosition?_eq_none_iff.1 hnone (List.mem_cons_of_mem _ hcolon)
  cases hcut : Text.cut? ']' inner with
  | none =>
    have hclose := Text.cut?_eq_none_iff.1 hcut
    simp [splitInPlace, hlast, hostInPlace_unclosed hclose, splitBracketed, hcut, hcolon]
  | some sides =>
    obtain ⟨host, rest⟩ := sides
    obtain ⟨rfl, hclose⟩ := Text.cut?_eq_some_iff.1 hcut
    by_cases hrest : ∃ port, rest = ':' :: port ∧ ':' ∉ port
    · obtain ⟨port, rfl, hport⟩ := hrest
      exact splitInPlace_of_port hclose hport
    · have hhost := hostInPlace_of_other hclose hlast hrest
      rw [List.cons_append] at hhost
      rw [splitBracketed_of_other hclose hrest, splitInPlace, hlast]
      simp only [hhost]
      rfl

/-- A text is divided in place as it is by its two sides, and no position is used wrongly. -/
theorem splitInPlace_eq (s : Text) : splitInPlace s = some (split s) := by
  by_cases hcolon : ':' ∈ s
  · by_cases hs : s.head? = some '['
    · obtain ⟨inner, rfl⟩ := List.head?_eq_some_iff.1 hs
      exact splitInPlace_bracketed (by simpa using hcolon)
    · cases hcut : Text.cutLast? ':' s with
      | none => exact absurd hcolon (Text.cutLast?_eq_none_iff.1 hcut)
      | some sides =>
        obtain ⟨rfl, hport⟩ := Text.cutLast?_eq_some_iff.1 hcut
        rw [split_of_head?_ne hs]
        exact splitInPlace_plain hport hs
  · rw [splitInPlace, Text.lastPosition?_eq_none_iff.2 hcolon, split_of_not_mem hcolon]

/-- A text is divided without a cut that cannot be made; it is divided into a host and a port
exactly if it is one of the two ways to write them; and if it is none of these for any host and
port, the fault names it. -/
theorem in_place_finds_what_is_written (s : Text) :
    splitInPlace s = some (split s) ∧
    (∀ host port, split s = .ok (host, port) ↔ Writes host port s) ∧
    ((∃ host port, Writes host port s) ∨
      ∃ flaw : Flaw,
        (split s).mapError (Fault.ofHostPort s) = .error (.badAddress s flaw.message)) := by
  refine ⟨splitInPlace_eq s, fun host port => split_eq_ok_iff_writes, ?_⟩
  cases hsplit : split s with
  | ok sides => exact .inl ⟨sides.1, sides.2, split_eq_ok_iff_writes.1 hsplit⟩
  | error flaw => exact .inr ⟨flaw, rfl⟩

end Switchboard.HostPort
