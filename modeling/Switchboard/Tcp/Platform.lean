import Switchboard.Mechanism
import Switchboard.Tcp.Wait

set_option autoImplicit false

/-!
# What the TCP transport asks of its host

Sockets are made, set up and connected by the host, in a monad `m`.  Nothing is assumed here of
how it does that.
-/

namespace Switchboard.Tcp

/-- What accepts and closes of one listener share: the native listener, until a close takes it,
and whether a close was announced. -/
structure Gate where
  native : Option Socket
  closing : Bool := false
  deriving DecidableEq, Repr, Inhabited

/-- The operations of a host on its sockets.  Every operation may fail. -/
structure Platform (m : Type → Type) where
  /-- what can be seen of the outside now -/
  moment : m Moment
  /-- how many looks there are at an operation under a context, if it does not end before -/
  looks : Context → Nat
  /-- what can be seen of the outside at the look of a given number; the first has number zero -/
  sight : Context → Nat → m Sight
  /-- an operation that never ends -/
  never : m Empty
  /-- a new stream socket of a family -/
  create : Family → m (Except IoFault Socket)
  /-- lets a socket be bound where an old connection is still winding down -/
  reuseAddress : Socket → m (Except IoFault Unit)
  /-- lets a socket for every IPv6 address stand for every IPv4 address too -/
  bothFamilies : Socket → m (Except IoFault Unit)
  /-- leaves an idle connection alone -/
  stopProbing : Socket → m (Except IoFault Unit)
  /-- probes an idle connection after some milliseconds -/
  probeAfter : Socket → Nat → m (Except IoFault Unit)
  /-- whether small writes are sent at once -/
  noDelay : Socket → Bool → m (Except IoFault Unit)
  bind : Socket → SocketAddr → m (Except IoFault Unit)
  /-- lets no operation on a socket hold its caller up -/
  nonBlocking : Socket → m (Except IoFault Unit)
  /-- starts to queue connections from outside -/
  listen : Socket → m (Except IoFault Unit)
  /-- asks to be told when something happens at a listening socket -/
  register : Socket → m (Except IoFault Unit)
  /-- looks at a connection attempt -/
  connect : Socket → SocketAddr → m (Progress (Except IoFault Unit))
  localAddr : Socket → m (Except IoFault SocketAddr)
  /-- looks for a queued connection: its socket, and the address of the other end -/
  takeQueued : Socket → m (Progress (Except IoFault (Socket × SocketAddr)))
  /-- the stream over a connected socket -/
  link : Socket → Link m
  /-- holds a socket once more -/
  hold : Socket → m Unit
  /-- lets go of a socket, which is given up when nobody holds it any more -/
  release : Socket → m Unit
  /-- the gate of a listener -/
  gate : Socket → m Gate
  /-- changes the gate of a listener -/
  setGate : Socket → Gate → m Unit

namespace Platform

variable {m : Type → Type} [Monad m] {α : Type}

/-- What never comes to a result. -/
def hang (p : Platform m) : m α := do
  nomatch ← p.never

/-- The result of something under way, which never comes if it is not done. -/
def finish (p : Platform m) (outcome : m (Progress α)) : m α := do
  match ← outcome with
  | .done result => pure result
  | .waiting => p.hang

end Platform

end Switchboard.Tcp
