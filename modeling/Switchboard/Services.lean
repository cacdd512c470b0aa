import Switchboard.Fault
import Switchboard.Text.Blank

set_option autoImplicit false

/-!
# Ports of services by name

A services database is a text with one entry a line: the name of a service, its port and protocol
with a slash between them, and further names of the same service.  A number sign starts a comment.
A line that is not of this form says nothing.  Names are compared without regard to the case of
ASCII letters; the name of a protocol is compared exactly.

A network asks for one protocol or for several in order.  The database is asked for each of them
before the built-in table is.
-/

namespace Switchboard

/-- The protocols that services run over. -/
inductive Protocol where
  | tcp
  | udp
  deriving DecidableEq, Repr, Inhabited

namespace Protocol

/-- The name of a protocol in a database. -/
def name : Protocol → Text
  | .tcp => ['t', 'c', 'p']
  | .udp => ['u', 'd', 'p']

/-- The protocols that a network stands for, in the order in which they are asked for; no name
stands for all of them. -/
def ofNetwork? (network : Text) : Option (List Protocol) :=
  if network ∈ [['t', 'c', 'p'], ['t', 'c', 'p', '4'], ['t', 'c', 'p', '6']] then some [.tcp]
  else if network ∈ [['u', 'd', 'p'], ['u', 'd', 'p', '4'], ['u', 'd', 'p', '6']] then some [.udp]
  else if network = [] then some [.tcp, .udp]
  else none

end Protocol

namespace Services

/-- A text with its ASCII letters in lower case. -/
def lower (s : Text) : Text := s.map Char.toLower

/-- One entry of a database. -/
structure Entry where
  names : List Text
  port : UInt16
  protocol : Text
  deriving DecidableEq, Repr

/-- The entry on a line, if there is one. -/
def Entry.ofLine? (line : Text) : Option Entry :=
  match Text.words (Text.upTo '#' line) with
  | name :: portAndProtocol :: aliases =>
    (Text.cut? '/' portAndProtocol).bind fun (port, protocol) =>
      (Decimal.readSigned? 65535 port).map fun n =>
        { names := name :: aliases, port := UInt16.ofNat n, protocol := protocol }
  | _ => none

/-- Whether an entry is for a service under a protocol. -/
def Entry.isFor (e : Entry) (protocol : Protocol) (service : Text) : Bool :=
  e.protocol == protocol.name && e.names.any fun name => lower name == lower service

/-- The entries of a database, in order.  A carriage return before the end of a line is a blank
and so belongs to no field. -/
def entries (database : Text) : List Entry :=
  (Text.pieces '\n' database).filterMap Entry.ofLine?

/-- The port of the first entry for a service under a protocol. -/
def find? (database : Text) (protocol : Protocol) (service : Text) : Option UInt16 :=
  ((entries database).find? (·.isFor protocol service)).map (·.port)

/-- The services that are known without a database. -/
def wellKnown : List (Protocol × String × UInt16) :=
  [(.tcp, "ftp", 21), (.tcp, "ftps", 990), (.tcp, "gopher", 70), (.tcp, "http", 80),
    (.tcp, "https", 443), (.tcp, "imap2", 143), (.tcp, "imap3", 220), (.tcp, "imaps", 993),
    (.tcp, "pop3", 110), (.tcp, "pop3s", 995), (.tcp, "smtp", 25), (.tcp, "submissions", 465),
    (.tcp, "ssh", 22), (.tcp, "telnet", 23), (.udp, "domain", 53)]

/-- The port of a well-known service, whose name is in lower case. -/
def wellKnown? (protocol : Protocol) (service : Text) : Option UInt16 :=
  (wellKnown.find? fun (p, name, _) => p == protocol && name.toList == service).map (·.2.2)

/-- The port of a service on a network.  The database may be missing.  No service is port zero. -/
def lookupPort (database : Option Text) (network service : Text) : Except IoFault UInt16 :=
  match Protocol.ofNetwork? network with
  | none => .error (.unknownNetwork network)
  | some protocols =>
    if service = [] then .ok 0
    else
      let service := lower service
      let listed := database.bind fun text => protocols.findSome? (find? text · service)
      match listed.or (protocols.findSome? (wellKnown? · service)) with
      | some port => .ok port
      | none => .error (.unknownPort network service)

/-- The text of a database, if its octets are UTF-8. -/
def ofOctets? (octets : List UInt8) : Option Text :=
  (String.fromUTF8? ⟨octets.toArray⟩).map String.toList

/-- The entries of two databases joined by a line break are the entries of the one and then those
of the other. -/
theorem entries_append (a b : Text) : entries (a ++ '\n' :: b) = entries a ++ entries b := by
  simp [entries, Text.pieces_append_cons]

theorem find?_append (a b : Text) (protocol : Protocol) (service : Text) :
    find? (a ++ '\n' :: b) protocol service
      = (find? a protocol service).or (find? b protocol service) := by
  simp only [find?, entries_append, List.find?_append]
  cases (entries a).find? (·.isFor protocol service) <;> simp

end Services

end Switchboard
