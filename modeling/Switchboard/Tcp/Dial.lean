import Switchboard.Tcp.Filter
import Switchboard.Tcp.Platform

set_option autoImplicit false

/-!
# Dialling over TCP

A dial is prepared before anything is done: the settings, the options and the target are read in
this order, then the context is looked at, and the first that is at fault ends the dial.  Only then
is a socket made; the caller's hook sees it first, and it is set up, bound and connected.  If any of
these fails the socket is given up.
-/

namespace Switchboard.Tcp

variable {m : Type → Type}

/-- What a connection attempt is called in faults. -/
def connecting : String := "tcp connect"

/-- What a dial is to do. -/
structure Preparation (m : Type → Type) where
  settings : Settings
  plan : DialPlan (Hook m)
  target : SocketAddr

/-- Prepares a dial. -/
def prepare (request : DialRequest m) : Except Fault (Preparation m) := do
  let settings ← Settings.ofConfig request.config
  let plan ← DialPlan.ofOptions (n := Id) (some filter) request.options
  let target ← (hostAddr request.uri.host).mapError Fault.io
  return { settings := settings, plan := plan, target := target }

variable [Monad m]

/-- The context of a dial, with the limit that the settings put on a connection attempt. -/
def limited (p : Platform m) (settings : Settings) (context : Context) : m Context := do
  match settings.connectTimeout with
  | some timeout => return context.tighten (.after (← p.moment).now timeout)
  | none => pure context

/-- Lets a hook see a socket that is meant for an address. -/
def callHook (control : Option (Hook m)) (addr : SocketAddr) (socket : Socket) :
    m (Except IoFault Unit) :=
  match control with
  | some hook => hook.run (networkName addr.family) addr.print socket
  | none => pure (.ok ())

/-- Sets the keep-alive of a socket, if a period was asked for; one of zero turns it off. -/
def setKeepAlive (p : Platform m) (period : Option Nat) (socket : Socket) :
    m (Except IoFault Unit) :=
  match period with
  | some period => if period = 0 then p.stopProbing socket else p.probeAfter socket period
  | none => pure (.ok ())

/-- Binds a socket to the local address that was asked for, if there is one. -/
def bindLocal (p : Platform m) (wanted : Option SocketAddr) (target : SocketAddr)
    (socket : Socket) : m (Except IoFault Unit) :=
  match wanted with
  | some addr => p.bind socket (localFor addr target)
  | none => pure (.ok ())

/-- An operation on a socket as a step of something that can fail in other ways too. -/
def onSocket {α : Type} (operation : m (Except IoFault α)) : ExceptT Fault m α :=
  ExceptT.mk (return (← operation).mapError Fault.io)

/-- Waits for a connection attempt to end. -/
def awaitConnected (p : Platform m) (context : Context) (target : SocketAddr) (socket : Socket) :
    m (Except Fault Unit) := do
  let moment ← p.moment
  let sights := (List.range (p.looks context)).map (p.sight context)
  p.finish (Wait.run context moment connecting (p.connect socket target) sights)

/-- Sets a socket up and connects it under a context: the local address of the connection. -/
def connect (p : Platform m) (prep : Preparation m) (context : Context) (socket : Socket) :
    m (Except Fault SocketAddr) := ExceptT.run do
  onSocket (callHook prep.plan.control prep.target socket)
  onSocket (setKeepAlive p prep.plan.keepAlive socket)
  onSocket (bindLocal p prep.plan.localAddr prep.target socket)
  onSocket (p.nonBlocking socket)
  ExceptT.mk (awaitConnected p context prep.target socket)
  onSocket (p.noDelay socket prep.settings.noDelay)
  onSocket (p.localAddr socket)

/-- Carries out what was prepared, under a context: a connected socket and its own address. -/
def carryOut (p : Platform m) (prep : Preparation m) (context : Context) :
    m (Except Fault (Socket × SocketAddr)) := do
  match ← p.create prep.target.family with
  | .error fault => pure (.error (.io fault))
  | .ok socket =>
    match ← connect p prep context socket with
    | .error fault => do
      p.release socket
      pure (.error fault)
    | .ok addr => pure (.ok (socket, addr))

/-- The circuit over a connected socket with a given address of its own. -/
def circuitOver (p : Platform m) (uri : Uri) (ends : Socket × SocketAddr) : Circuit m :=
  .active (addrUri ends.2) uri (p.link ends.1)

/-- Dials.  The limit of the settings counts from one look at the time, and the context is looked at
after that. -/
def dial (p : Platform m) (request : DialRequest m) : m (Except Fault (Circuit m)) := do
  match prepare request with
  | .error fault => pure (.error fault)
  | .ok prep =>
    let context ← limited p prep.settings request.context
    match context.check (← p.moment) connecting with
    | .error fault => pure (.error fault)
    | .ok () => return (← carryOut p prep context).map (circuitOver p request.uri)

end Switchboard.Tcp
