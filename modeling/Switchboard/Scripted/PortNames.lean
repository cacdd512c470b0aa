import Switchboard.Text.Decimal

set_option autoImplicit false

/-!
# Names for ports

Which ports the sockets of a host have got is of no interest, so a text shows the name of the owner
in place of such a port; of several owners, the latest.  The address that a listener has for every
address of its host is shown by a name too, whichever of the two families it is of.
-/

namespace Switchboard

namespace Text

/-- A text in which each place of a pattern is replaced; the next `skip` characters belong to a
place that was replaced already. -/
def replaceFrom (pattern substitute : Text) : Nat → Text → Text
  | _, [] => []
  | skip + 1, _ :: rest => replaceFrom pattern substitute skip rest
  | 0, c :: rest =>
    if pattern.isPrefixOf (c :: rest) then
      substitute ++ replaceFrom pattern substitute (pattern.length - 1) rest
    else c :: replaceFrom pattern substitute 0 rest

/-- A text in which each place of a pattern is replaced, from left to right. -/
def replace (pattern substitute s : Text) : Text := replaceFrom pattern substitute 0 s

end Text

namespace Scripted

/-- A port of a socket, and who has it. -/
structure PortName where
  port : UInt16
  owner : String
  /-- whether the owner is a listener -/
  listening : Bool
  deriving DecidableEq, Repr

namespace PortName

/-- A port as it is written behind an address. -/
def written (n : PortName) : Text := ':' :: Decimal.digits n.port.toNat

/-- The name that is shown behind an address. -/
def shown (n : PortName) : Text := ":<".toList ++ n.owner.toList ++ ['>']

/-- What is replaced, and by what. -/
def replacements (n : PortName) : List (Text × Text) :=
  let every := "<any>".toList ++ n.shown
  (if n.listening then
    [("[::]".toList ++ n.written, every), ("0.0.0.0".toList ++ n.written, every)]
  else []) ++ [(n.written, n.shown)]

/-- A text with names in place of ports. -/
def conceal (names : List PortName) (s : Text) : Text :=
  (names.flatMap replacements).foldl (fun s r => Text.replace r.1 r.2 s) s

end PortName

end Scripted

end Switchboard
