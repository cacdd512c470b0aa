import Switchboard.Fault
import Switchboard.Tcp.Settings

set_option autoImplicit false

/-!
# Addresses of the TCP transport

The host of a URI is read as a socket address; no host stands for every IPv4 address, with a port
of the kernel's choice.  A local address that stands for every address of the host follows the
family of the target.
-/

namespace Switchboard

namespace SocketAddr

/-- Whether an address stands for every address of its host. -/
def isUnspecified : SocketAddr → Bool
  | .v4 ip _ => ip == .unspecified
  | .v6 ip .. => ip == .unspecified

@[simp] theorem isUnspecified_unspecified (port : UInt16) (f : Family) :
    (unspecified port f).isUnspecified = true := by
  cases f <;> simp [unspecified, isUnspecified]

end SocketAddr

namespace Tcp

/-- The socket address that the host of a URI stands for. -/
def hostAddr (host : Text) : Except IoFault SocketAddr :=
  if host = [] then .ok (.unspecified 0 .v4)
  else
    match SocketAddr.read? host with
    | some addr => .ok addr
    | none => .error (.notLiteralAddress host)

/-- The local address to use towards a target. -/
def localFor (wanted target : SocketAddr) : SocketAddr :=
  if wanted.isUnspecified && wanted.family != target.family then
    .unspecified wanted.port target.family
  else wanted

/-- The name of the network of a family. -/
def networkName : Family → Text
  | .v4 => ['t', 'c', 'p', '4']
  | .v6 => ['t', 'c', 'p', '6']

/-- The URI of a socket address. -/
def addrUri (addr : SocketAddr) : Uri := .ofSocketAddr transportName addr

theorem family_localFor_of_unspecified {wanted : SocketAddr} (h : wanted.isUnspecified = true)
    (target : SocketAddr) : (localFor wanted target).family = target.family := by
  by_cases hf : wanted.family = target.family <;> simp [localFor, h, hf]

end Tcp

end Switchboard
