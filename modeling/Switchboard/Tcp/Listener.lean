import Switchboard.Tcp.Dial

set_option autoImplicit false

/-!
# Listeners of the TCP transport

Accepts and closes of one listener may run at the same time.  An accept first takes a share of the
native listener, and fails if a close took that away; then it looks again and again, and finds a
close that it has heard of before it finds a connection.  A close takes the native listener away,
then announces itself, and then lets go of what it took.  The native listener is given up when
nobody has a share of it any more.
-/

namespace Switchboard.Tcp

namespace Gate

/-- The fault of an accept on a listener that was closed. -/
def closedFault (addr : Uri) : Fault := .listenerClosed addr.print

/-- The share of the native listener that an accept begins with. -/
def share (g : Gate) (addr : Uri) : Except Fault Socket :=
  match g.native with
  | some native => .ok native
  | none => .error (closedFault addr)

/-- The gate once a close has taken the native listener away. -/
def taken (g : Gate) : Gate := { g with native := none }

/-- The gate once a close has announced itself. -/
def announced (g : Gate) : Gate := { g with closing := true }

@[simp] theorem native_taken (g : Gate) : g.taken.native = none := rfl

end Gate

/-- A connection from outside: its socket, and the address of the other end. -/
structure Arrival where
  socket : Socket
  peer : SocketAddr
  deriving DecidableEq, Repr

/-- What is known of a listener when it is opened. -/
structure Post where
  /-- the native listener; the gate is kept under it -/
  socket : Socket
  addr : Uri
  keepAlive : Option Nat
  noDelay : Bool

namespace Post

variable {m : Type → Type} [Monad m]

/-! ## Accepting -/

/-- Begins an accept: its share of the native listener. -/
def enter (p : Platform m) (post : Post) : m (Except Fault Socket) := do
  match (← p.gate post.socket).share post.addr with
  | .error fault => pure (.error fault)
  | .ok native => do
    p.hold native
    pure (.ok native)

/-- What an accept finds when it looks: a close that it has heard of, and else the next connection
in the queue of the native listener. -/
def find (p : Platform m) (post : Post) (native : Socket) (heard : Bool) :
    m (Progress (Except Fault Arrival)) := do
  if heard then pure (.done (.error (Gate.closedFault post.addr)))
  else
    match ← p.takeQueued native with
    | .waiting => pure .waiting
    | .done (.error fault) => pure (.done (.error (.io fault)))
    | .done (.ok (socket, peer)) => pure (.done (.ok { socket := socket, peer := peer }))

/-- Sets a connection from outside up. -/
def furnish (p : Platform m) (post : Post) (socket : Socket) : m (Except Fault Unit) :=
  ExceptT.run do
    onSocket (setKeepAlive p post.keepAlive socket)
    onSocket (p.noDelay socket post.noDelay)

/-- Takes a connection from outside in; one that cannot be set up is given up. -/
def receive (p : Platform m) (post : Post) (arrival : Arrival) : m (Except Fault Arrival) := do
  match ← furnish p post arrival.socket with
  | .error fault => do
    p.release arrival.socket
    pure (.error fault)
  | .ok () => pure (.ok arrival)

/-- One look of an accept that has a share of the native listener, and that has heard of a close or
not.  Once it has found something it lets go of its share. -/
def look (p : Platform m) (post : Post) (native : Socket) (heard : Bool) :
    m (Progress (Except Fault Arrival)) := do
  match ← find p post native heard with
  | .waiting => pure .waiting
  | .done (.error fault) => do
    p.release native
    pure (.done (.error fault))
  | .done (.ok arrival) => do
    p.release native
    return .done (← receive p post arrival)

/-- The circuit over a connection from outside. -/
def circuit (p : Platform m) (post : Post) (arrival : Arrival) : Circuit m :=
  .passive post.addr (addrUri arrival.peer) (p.link arrival.socket)

/-- One look of an accept that hears of every close that was announced. -/
def watch (p : Platform m) (post : Post) (native : Socket) :
    m (Progress (Except Fault (Circuit m))) := do
  let found ← look p post native (← p.gate post.socket).closing
  return found.map fun result => result.map (circuit p post)

/-- Ends an accept whose caller leaves off waiting. -/
def forsake (p : Platform m) (native : Socket) : m Unit := p.release native

/-- Begins an accept. -/
def join (p : Platform m) (post : Post) :
    m (Except Fault (Waiting m (Except Fault (Circuit m)))) := do
  return (← enter p post).map fun native =>
    { look := watch p post native, leave := forsake p native }

/-! ## Closing -/

/-- Takes the native listener away: what there was to take. -/
def takeNative (p : Platform m) (post : Post) : m (Option Socket) := do
  let gate ← p.gate post.socket
  p.setGate post.socket gate.taken
  return gate.native

/-- Announces a close to the accepts that are under way. -/
def announce (p : Platform m) (post : Post) : m Unit := do
  let gate ← p.gate post.socket
  p.setGate post.socket gate.announced

/-- Ends a close, which lets go of the native listener if it took it. -/
def depart (p : Platform m) : Option Socket → m (Except Fault Unit)
  | some native => do
    p.release native
    pure (.ok ())
  | none => pure (.ok ())

/-- Closes a listener; to close it again does nothing. -/
def close (p : Platform m) (post : Post) : m (Except Fault Unit) := do
  let native ← takeNative p post
  announce p post
  depart p native

/-- The listener as callers see it. -/
def listener (p : Platform m) (post : Post) : Listener m where
  addr := post.addr
  join := post.join p
  close := post.close p

end Post

end Switchboard.Tcp
