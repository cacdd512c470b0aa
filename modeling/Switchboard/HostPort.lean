import Switchboard.Text.Basic

set_option autoImplicit false

/-!
# Host and port in one text

A host and a port are written with a colon between them.  A host that itself holds colons, as an
IPv6 address does, stands in square brackets.  The port is any text: a number or the name of a
service.  `split` takes the two apart and says why a text is not of this form; `join` puts them
together.
-/

namespace Switchboard.HostPort

/-- Why a text is not a host and a port. -/
inductive Flaw where
  /-- no colon where the port should begin -/
  | missingPort
  /-- more colons than the one before the port, and no brackets around the host -/
  | tooManyColons
  /-- an opening bracket at the start that is never closed -/
  | missingCloseBracket
  /-- an opening bracket that does not start the text -/
  | unexpectedOpenBracket
  /-- a closing bracket that does not end the host -/
  | unexpectedCloseBracket
  deriving DecidableEq, Repr, Inhabited

/-- The wording of a flaw. -/
def Flaw.message : Flaw → String
  | .missingPort => "missing port in address"
  | .tooManyColons => "too many colons in address"
  | .missingCloseBracket => "missing ']' in address"
  | .unexpectedOpenBracket => "unexpected '[' in address"
  | .unexpectedCloseBracket => "unexpected ']' in address"

/-- The host and the port of a text whose first character is an opening bracket; `inner` is what
follows the bracket. -/
def splitBracketed (inner : Text) : Except Flaw (Text × Text) :=
  match Text.cut? ']' inner with
  | none => .error (if ':' ∈ inner then .missingCloseBracket else .missingPort)
  | some (host, ':' :: port) =>
    if ':' ∈ port then .error .tooManyColons
    else if '[' ∈ inner then .error .unexpectedOpenBracket
    else if ']' ∈ port then .error .unexpectedCloseBracket
    else .ok (host, port)
  | some _ => .error .missingPort

/-- The host and the port of a text that does not start with a bracket. -/
def splitPlain (s : Text) : Except Flaw (Text × Text) :=
  match Text.cutLast? ':' s with
  | none => .error .missingPort
  | some (host, port) =>
    if ':' ∈ host then .error .tooManyColons
    else if '[' ∈ s then .error .unexpectedOpenBracket
    else if ']' ∈ s then .error .unexpectedCloseBracket
    else .ok (host, port)

/-- The host and the port of a text, without the brackets of the host. -/
def split : Text → Except Flaw (Text × Text)
  | '[' :: inner => splitBracketed inner
  | s => splitPlain s

/-- A host and a port as one text; a host with a colon gets brackets. -/
def join (host port : Text) : Text :=
  if ':' ∈ host then '[' :: host ++ ']' :: ':' :: port else host ++ ':' :: port

theorem join_of_mem {host : Text} (h : ':' ∈ host) (port : Text) :
    join host port = '[' :: host ++ ']' :: ':' :: port := if_pos h

theorem join_of_not_mem {host : Text} (h : ':' ∉ host) (port : Text) :
    join host port = host ++ ':' :: port := if_neg h

theorem split_cons_bracket (inner : Text) : split ('[' :: inner) = splitBracketed inner := rfl

end Switchboard.HostPort
