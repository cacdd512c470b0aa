import Switchboard.Address.SocketAddr
import Switchboard.HostPort

set_option autoImplicit false

/-!
# Compound URIs

A URI names what to connect to, and its scheme names how:
`transport[+security][.discovery]`.  What follows the last dot of the scheme is the discovery
mechanism; what follows the first plus sign of the rest is the security layer; the remainder is
the transport.  These three are read off the scheme whenever they are needed, so they cannot
disagree with it.

A URI is canonical when it needs no further lookup: it names no discovery mechanism, and its host
is empty or is an IP address with a port in digits.
-/

namespace Switchboard

namespace Scheme

/-- The scheme without its discovery part, and the discovery part. -/
def splitDiscovery (scheme : Text) : Text × Text :=
  (Text.cutLast? '.' scheme).getD (scheme, [])

/-- The part of a scheme before its first plus sign, and the part behind it. -/
def splitSecurity (stack : Text) : Text × Text :=
  (Text.cut? '+' stack).getD (stack, [])

/-- The transport that a scheme names. -/
def transport (scheme : Text) : Text := (splitSecurity (splitDiscovery scheme).1).1

/-- The security layer that a scheme names, or nothing. -/
def security (scheme : Text) : Text := (splitSecurity (splitDiscovery scheme).1).2

/-- The discovery mechanism that a scheme names, or nothing. -/
def discovery (scheme : Text) : Text := (splitDiscovery scheme).2

/-- The scheme made of a transport, a security layer and a discovery mechanism; a part that is
empty is left out together with its separator. -/
def join (transport security discovery : Text) : Text :=
  transport ++ (if security = [] then [] else '+' :: security)
    ++ (if discovery = [] then [] else '.' :: discovery)

end Scheme

/-- The components of a URI.  `body` is the text of a URI that has a scheme and no path or host;
`forceQuery` tells a question mark with nothing behind it from no question mark. -/
structure Uri where
  scheme : Text := []
  body : Text := []
  user : Option Text := none
  host : Text := []
  path : Text := []
  query : Text := []
  forceQuery : Bool := false
  fragment : Text := []
  deriving DecidableEq, Repr, Inhabited

namespace Uri

/-- The transport that the scheme names. -/
def transport (u : Uri) : Text := Scheme.transport u.scheme

/-- The security layer that the scheme names, or nothing. -/
def security (u : Uri) : Text := Scheme.security u.scheme

/-- The discovery mechanism that the scheme names, or nothing. -/
def discovery (u : Uri) : Text := Scheme.discovery u.scheme

/-- The same URI with another host. -/
def withHost (u : Uri) (host : Text) : Uri := { u with host := host }

/-- The URI of a socket address. -/
def ofSocketAddr (scheme : Text) (addr : SocketAddr) : Uri :=
  { scheme := scheme, host := addr.print }

/-- Whether a host with its port is an IP address with a port number. -/
def isLiteralHost (host : Text) : Bool :=
  match HostPort.split host with
  | .ok (address, port) => (SocketAddr.readPort? port).isSome && (Ip.read? address).isSome
  | .error _ => false

/-- Whether a URI can be dialled or listened on without a lookup. -/
def isCanonical (u : Uri) : Bool :=
  u.discovery.isEmpty && (u.host.isEmpty || isLiteralHost u.host)

@[simp] theorem withHost_host (u : Uri) : u.withHost u.host = u := rfl

@[simp] theorem host_withHost (u : Uri) (h : Text) : (u.withHost h).host = h := rfl

@[simp] theorem scheme_withHost (u : Uri) (h : Text) : (u.withHost h).scheme = u.scheme := rfl

theorem isLiteralHost_iff {host : Text} :
    isLiteralHost host = true ↔ ∃ address port ip n, HostPort.split host = .ok (address, port) ∧
      Ip.read? address = some ip ∧ SocketAddr.readPort? port = some n := by
  unfold isLiteralHost
  cases HostPort.split host with
  | error flaw => simp
  | ok sides =>
    rw [Bool.and_eq_true, Option.isSome_iff_exists, Option.isSome_iff_exists]
    constructor
    · rintro ⟨⟨n, hport⟩, ip, hip⟩
      exact ⟨sides.1, sides.2, ip, n, rfl, hip, hport⟩
    · rintro ⟨_, _, ip, n, heq, hip, hport⟩
      obtain rfl := Except.ok.inj heq
      exact ⟨⟨n, hport⟩, ip, hip⟩

theorem isCanonical_iff {u : Uri} :
    u.isCanonical = true ↔ u.discovery = [] ∧ (u.host = [] ∨ isLiteralHost u.host = true) := by
  simp [isCanonical, List.isEmpty_iff]

theorem not_isCanonical_of_discovery {u : Uri} (h : u.discovery ≠ []) :
    u.isCanonical = false := by
  simp [isCanonical, List.isEmpty_iff, h]

end Uri

end Switchboard
