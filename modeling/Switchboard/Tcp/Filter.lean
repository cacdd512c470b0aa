import Switchboard.Call.Plan
import Switchboard.Tcp.Address
import Switchboard.Uri.Printer

set_option autoImplicit false

/-!
# What the TCP transport makes of a dial option

A local address is given as a URI.  The transport turns it down unless the URI is canonical and of
this transport, and else finds the socket address that its host stands for, in place of one that
the option came with.  Every other option is left as it is.
-/

namespace Switchboard.Tcp

/-- The socket address that the URI of a local address stands for. -/
def localAddrOf (uri : Uri) : Except Fault SocketAddr :=
  if !uri.isCanonical then .error (.notCanonical uri.print)
  else if uri.transport ≠ transportName then
    .error (.unknownTransport uri.print uri.transport)
  else (hostAddr uri.host).mapError .io

/-- What is made of one option. -/
def settle {Hook : Type} : DialOption Hook → Except Fault (DialOption Hook)
  | .localAddr wanted =>
    (localAddrOf wanted.uri).map fun addr => .localAddr { wanted with addr := some addr }
  | option => .ok option

/-- The filter of the transport; it needs no state. -/
def filter {n : Type → Type} [Monad n] {Hook : Type} : Filter n (DialOption Hook) :=
  fun option => pure (settle option)

end Switchboard.Tcp
