import Switchboard.Tcp.Listener

set_option autoImplicit false

/-!
# Listening over TCP

A context that has ended is found first, then settings that cannot be read, then a host that is no
socket address.  Whatever hooks the caller gave, the socket is seen by one hook alone, which lets
the address be used again.  Without a host the socket stands for every address of the host in both
families, or for every IPv4 address where there is no IPv6.
-/

namespace Switchboard.Tcp

variable {m : Type → Type} [Monad m]

/-- What the opening of a listener is called in faults. -/
def binding : String := "tcp bind"

/-- The hook that lets an address be used again. -/
def reuseHook (p : Platform m) : Hook m := ⟨fun _ _ socket => p.reuseAddress socket⟩

/-- A socket for every IPv6 address, which stands for every IPv4 address too. -/
def createForBoth (p : Platform m) : m (Except IoFault Socket) := do
  match ← p.create .v6 with
  | .error fault => pure (.error fault)
  | .ok socket =>
    match ← p.bothFamilies socket with
    | .ok () => pure (.ok socket)
    | .error fault => do
      p.release socket
      pure (.error fault)

/-- A socket for the host of a URI, and the address that it is to be bound to. -/
def createFor (p : Platform m) (host : Text) : m (Except IoFault (Socket × SocketAddr)) := do
  if host = [] then
    match ← createForBoth p with
    | .ok socket => pure (.ok (socket, .unspecified 0 .v6))
    | .error _ => return (← p.create .v4).map (·, .unspecified 0 .v4)
  else
    match hostAddr host with
    | .error fault => pure (.error fault)
    | .ok addr => return (← p.create addr.family).map (·, addr)

/-- Binds a socket and starts to queue connections: the address that it was bound to. -/
def occupy (p : Platform m) (control : Option (Hook m)) (addr : SocketAddr) (socket : Socket) :
    m (Except Fault SocketAddr) := ExceptT.run do
  onSocket (callHook control addr socket)
  onSocket (p.bind socket addr)
  onSocket (p.listen socket)
  onSocket (p.nonBlocking socket)
  onSocket (p.register socket)
  onSocket (p.localAddr socket)

/-- The settings and the plan of a listen that may be begun. -/
def prepareListen (p : Platform m) (moment : Moment) (request : ListenRequest m) :
    Except Fault (Settings × ListenPlan (Hook m)) := do
  request.context.check moment binding
  let settings ← Settings.ofConfig request.config
  let options := request.options ++ [.control (reuseHook p)]
  let plan ← ListenPlan.ofOptions (n := Id) none options
  return (settings, plan)

/-- Opens a listener. -/
def openPost (p : Platform m) (request : ListenRequest m) : m (Except Fault Post) := do
  match prepareListen p (← p.moment) request with
  | .error fault => pure (.error fault)
  | .ok (settings, plan) =>
    match ← createFor p request.uri.host with
    | .error fault => pure (.error (.io fault))
    | .ok (socket, addr) =>
      match ← occupy p plan.control addr socket with
      | .error fault => do
        p.release socket
        pure (.error fault)
      | .ok bound => do
        p.setGate socket { native := some socket }
        pure (.ok
          { socket := socket, addr := addrUri bound, keepAlive := plan.keepAlive,
            noDelay := settings.noDelay })

/-- The TCP transport on a host.  It is no security layer: what it is given below it is not
looked at. -/
def mechanism (p : Platform m) : Mechanism m where
  label := "TcpMechanism"
  dial _ request := dial p request
  listen _ request := do return (← openPost p request).map (·.listener p)

end Switchboard.Tcp
