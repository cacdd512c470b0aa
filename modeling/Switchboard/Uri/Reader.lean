import Switchboard.Uri.Basic

set_option autoImplicit false

/-!
# Reading a URI

A text is divided from the outside in.  The fragment is cut off at the first number sign, the
scheme at the first colon if what stands before it is a scheme name, and the query at the first
question mark.  The middle is then a body (behind a scheme, with no slash in front), a path, or an
authority and a path; in an authority the user ends at the last at sign.

A host is kept as it stands, with the port that may follow it: the port can be the name of a
service.  A bracketed host must be closed and may be followed by nothing but a port; any other host
must be free of the characters that no host can hold.
-/

namespace Switchboard.Uri

/-- Why a text is not a URI. -/
inductive Flaw where
  /-- a colon with nothing in front of it -/
  | missingScheme
  /-- an ASCII control character anywhere -/
  | controlCharacter
  /-- without a scheme, a colon before the first slash -/
  | colonInFirstSegment
  /-- a bracketed host that is not closed -/
  | missingBracket (host : Text)
  /-- a character that the host cannot hold -/
  | invalidHost (host : Text) (found : Char)
  deriving DecidableEq, Repr, Inhabited

/-- Whether a character is an ASCII control character. -/
def isControl (c : Char) : Bool := c.toNat < 0x20 || c.toNat == 0x7F

/-- Whether a text is the name of a scheme: a letter, then letters, digits, plus signs, hyphens
and dots. -/
def isSchemeName : Text → Bool
  | [] => false
  | c :: rest =>
    c.isAlpha && rest.all fun x => x.isAlphanum || x == '+' || x == '-' || x == '.'

/-- The scheme in lower case, empty if there is none, and the text behind its colon. -/
def splitScheme (head : Text) : Except Flaw (Text × Text) :=
  match Text.cut? ':' head with
  | none => .ok ([], head)
  | some ([], _) => .error .missingScheme
  | some (name, rest) =>
    if isSchemeName name then .ok (name.map Char.toLower, rest) else .ok ([], head)

/-- What a text holds before its query, and the query. -/
structure Queried where
  before : Text
  forceQuery : Bool := false
  query : Text := []
  deriving DecidableEq, Repr

/-- The text before the first question mark, and the query behind it. -/
def splitQuery (s : Text) : Queried :=
  match Text.cut? '?' s with
  | none => { before := s }
  | some (before, []) => { before := before, forceQuery := true }
  | some (before, query) => { before := before, query := query }

/-- The text before the first number sign, and the fragment behind it. -/
def splitFragment (s : Text) : Text × Text := (Text.cut? '#' s).getD (s, [])

/-- The characters that no host can hold outside brackets. -/
def isForbiddenInHost (c : Char) : Bool :=
  c == ' ' || c == '[' || c == ']' || c == '<' || c == '>' || c == '\x22' || c == '\x7b'
    || c == '\x7d' || c == '|' || c == '\\' || c == '^' || c == '\x60'

/-- What is wrong with a host, if anything. -/
def hostFlaw? (host : Text) : Option Flaw :=
  match host with
  | '[' :: inner =>
    match Text.cut? ']' inner with
    | none => some (.missingBracket host)
    | some (_, []) => none
    | some (_, c :: _) => if c = ':' then none else some (.invalidHost host c)
  | _ => (host.find? isForbiddenInHost).map (.invalidHost host)

/-- The user, if there is one, and the host of an authority. -/
def splitUser (authority : Text) : Option Text × Text :=
  match Text.cutLast? '@' authority with
  | some (user, host) => (some user, host)
  | none => (none, authority)

/-- Fills in the part of a URI between its scheme and its query. -/
def withMiddle (u : Uri) : Text → Except Flaw Uri
  | '/' :: '/' :: rest =>
    let (user, host) := splitUser (Text.upTo '/' rest)
    match hostFlaw? host with
    | some flaw => .error flaw
    | none => .ok { u with user := user, host := host, path := Text.onFrom '/' rest }
  | '/' :: rest => .ok { u with path := '/' :: rest }
  | middle =>
    if u.scheme ≠ [] then .ok { u with body := middle }
    else if ':' ∈ Text.upTo '/' middle then .error .colonInFirstSegment
    else .ok { u with path := middle }

/-- The URI that a text without control characters stands for. -/
def readClean (raw : Text) : Except Flaw Uri := do
  let (head, fragment) := splitFragment raw
  let (scheme, rest) ← splitScheme head
  let queried := splitQuery rest
  withMiddle
    { scheme := scheme, query := queried.query, forceQuery := queried.forceQuery,
      fragment := fragment }
    queried.before

/-- The URI that a text stands for. -/
def read (raw : Text) : Except Flaw Uri :=
  if raw.any isControl then .error .controlCharacter else readClean raw

end Switchboard.Uri
