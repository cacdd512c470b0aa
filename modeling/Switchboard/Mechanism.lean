import Switchboard.Call.Context
import Switchboard.Call.Plan
import Switchboard.Circuit
import Switchboard.Config

set_option autoImplicit false

/-!
# Mechanisms

A mechanism knows how to dial and to listen.  A transport does so on its own; a security layer does
so on top of a layer below it, which it is given.  A discovery mechanism turns a URI into others
that need no further discovery.

What mechanisms do, they do in a monad `m`.
-/

namespace Switchboard

/-- A socket of the host. -/
structure Socket where
  number : Nat
  deriving DecidableEq, Repr, Inhabited

/-- What a caller has done to a socket before it is used: it is given the network and the address
that the socket is for. -/
structure Hook (m : Type → Type) where
  run : (network address : Text) → Socket → m (Except IoFault Unit)

/-- A request for a connection. -/
structure DialRequest (m : Type → Type) where
  context : Context
  config : Config
  uri : Uri
  options : List (DialOption (Hook m))

/-- A request for a listener. -/
structure ListenRequest (m : Type → Type) where
  context : Context
  config : Config
  uri : Uri
  options : List (ListenOption (Hook m))

/-- Something that is waited for: it is looked at until it is there, or its caller leaves off. -/
structure Waiting (m : Type → Type) (α : Type) where
  look : m (Progress α)
  leave : m Unit

/-- What waits for connections from outside.  Its address never changes.  Whoever joins those who
wait gets something to look at until a connection or a fault is there. -/
structure Listener (m : Type → Type) where
  addr : Uri
  join : m (Except Fault (Waiting m (Except Fault (Circuit m))))
  close : m (Except Fault Unit)

/-- Waits for a connection, looking at most `patience` times, and then leaves off. -/
def Listener.accept {m : Type → Type} [Monad m] (listener : Listener m) (patience : Nat) :
    m (Progress (Except Fault (Circuit m))) := do
  match ← listener.join with
  | .error fault => pure (.done (.error fault))
  | .ok waiting =>
    match ← Progress.await waiting.look patience with
    | .done result => pure (.done result)
    | .waiting => do
      waiting.leave
      pure .waiting

/-- What can dial and listen without anything below it. -/
structure Layer (m : Type → Type) where
  dial : DialRequest m → m (Except Fault (Circuit m))
  listen : ListenRequest m → m (Except Fault (Listener m))

/-- What can dial and listen, on top of a layer if it is given one. -/
structure Mechanism (m : Type → Type) where
  label : String
  dial : Option (Layer m) → DialRequest m → m (Except Fault (Circuit m))
  listen : Option (Layer m) → ListenRequest m → m (Except Fault (Listener m))

/-- A mechanism with nothing below it. -/
def Mechanism.toLayer {m : Type → Type} (mechanism : Mechanism m) : Layer m where
  dial := mechanism.dial none
  listen := mechanism.listen none

/-- What turns a URI into others. -/
structure Discovery (m : Type → Type) where
  label : String
  discover : Context → Uri → m (Except Fault (List Uri))

/-- What knows the addresses of hosts and the ports of services. -/
structure Resolver (m : Type → Type) where
  lookupIp : (host : Text) → m (Except IoFault (List Ip))
  lookupPort : (network service : Text) → m (Except IoFault UInt16)

end Switchboard
