import Switchboard.Tcp.Listen
import Switchboard.Tcp.Loopback

set_option autoImplicit false

/-!
# A world to try mechanisms in

A world holds everything outside of the library that a trial of it can touch: the time, the tokens
that were issued, the sockets of one host, and notes of what was called.  Nothing happens in it but
what a trial does, except that time passes while an operation is waited for.  An operation in the
world may never end.
-/

namespace Switchboard.Scripted

/-! ## Notes -/

/-- A call of a hook. -/
structure HookCall where
  label : String
  network : Text
  address : Text
  deriving DecidableEq, Repr

/-- What a hook did when it was tried. -/
structure HookReport where
  calls : List HookCall
  result : Except IoFault Unit

/-- What a plan of a dial says; its hook was tried. -/
structure DialReport where
  keepAlive : Option Nat
  control : Option HookReport
  localAddr : Option SocketAddr

/-- What a plan of a listen says; its hook was tried. -/
structure ListenReport where
  keepAlive : Option Nat
  control : Option HookReport

/-- What a mechanism is asked for. -/
inductive Verb where
  | dial
  | listen
  deriving DecidableEq, Repr

/-- A call of a mechanism. -/
structure Called where
  verb : Verb
  label : String
  uri : Text
  /-- whether there was a layer below -/
  lower : Bool
  /-- the number of options -/
  options : Nat
  cancelled : Bool
  expired : Bool
  /-- the names in the section of the URI's transport, if there is one -/
  transportKeys : Option (List Text)
  /-- the names in the section of the URI's security layer, if there is one -/
  securityKeys : Option (List Text)
  deriving DecidableEq, Repr

/-- Something that was called. -/
inductive Note where
  | lookedUpHost (host : Text)
  | lookedUpPort (network service : Text)
  | called (call : Called)
  | dialPlan (report : DialReport)
  | listenPlan (report : ListenReport)
  | discovered (label : String) (uri : Text) (cancelled : Bool)
  | hook (call : HookCall)

/-! ## Worlds -/

/-- Everything outside of the library. -/
structure World where
  /-- oldest first -/
  notes : List Note := []
  now : Int := 0
  tokens : Tokens := {}
  /-- tokens that will be cancelled, each at its instant -/
  cancelling : List (Int × Token) := []
  host : Tcp.Loopback := {}
  /-- a socket that a hook has kept -/
  kept : Option Socket := none

/-- What runs in a world and may never end. -/
abbrev Run (α : Type) : Type := OptionT (StateM World) α

namespace World

/-- A world in which nothing has happened yet, on a host whose network is up or down. -/
def start (up : Bool) : World := { host := { up := up } }

/-- Makes a note. -/
def note (n : Note) : Run Unit := modify fun w => { w with notes := w.notes ++ [n] }

/-- Runs something and takes away the notes of it. -/
def record {α : Type} (act : Run α) : Run (α × List Note) := do
  let before := (← get).notes
  modify fun w => { w with notes := [] }
  let a ← act
  let during := (← get).notes
  modify fun w => { w with notes := before }
  return (a, during)

/-- What can be seen of the outside now. -/
def moment (w : World) : Moment := { now := w.now, tokens := w.tokens }

/-- Lets time pass up to an instant. -/
def passUntil (instant : Int) (w : World) : World :=
  let due := w.cancelling.filter fun e => e.1 ≤ instant
  { w with
    now := max w.now instant
    tokens := due.foldl (fun ts e => (ts.cancel e.2).2) w.tokens
    cancelling := w.cancelling.filter fun e => !(e.1 ≤ instant) }

/-- The next instant at which something changes for those who wait under a context. -/
def nextInstant? (w : World) (c : Context) : Option Int :=
  ((c.deadline.instant.toList ++ w.cancelling.map (·.1)).filter fun i => w.now < i).min?

/-- What can be seen under a context now. -/
def sightOf (w : World) (c : Context) : Tcp.Sight :=
  { cancelled := c.isCancelled w.moment, timeUp := c.isExpired w.moment }

/-- What can be seen under a context now. -/
def sight (c : Context) : Run Tcp.Sight := return (← get).sightOf c

/-- What can be seen under a context once something has changed. -/
def laterSight (c : Context) : Run Tcp.Sight := do
  let w ← get
  match w.nextInstant? c with
  | some instant => set (w.passUntil instant)
  | none => pure ()
  sight c

/-- An operation on the sockets of the host. -/
def onHost {α : Type} (act : Tcp.Loopback.Act α) : Run α :=
  modifyGet fun w =>
    let (a, host) := act.run w.host
    (a, { w with host := host })

/-- The stream over a socket of the host. -/
def link (s : Socket) : Link Run where
  read count := onHost (Tcp.Loopback.read s count)
  write octets := onHost (Tcp.Loopback.write s octets)
  flush := pure (.done (.ok ()))
  shutdown := onHost (Tcp.Loopback.shutdown s)
  release := onHost (Tcp.Loopback.release s)

/-- The host as the TCP transport sees it.  Something changes at most twice for those who wait:
they are cancelled, or their time is up. -/
def platform : Tcp.Platform Run where
  moment := return (← get).moment
  looks _ := 3
  sight c number := if number = 0 then sight c else laterSight c
  never := failure
  create family := onHost (Tcp.Loopback.create family)
  reuseAddress s := onHost (Tcp.Loopback.reuseAddress s)
  bothFamilies _ := pure (.ok ())
  stopProbing s := onHost (Tcp.Loopback.stopProbing s)
  probeAfter s period := onHost (Tcp.Loopback.probeAfter s period)
  noDelay _ _ := pure (.ok ())
  bind s addr := onHost (Tcp.Loopback.bind s addr)
  nonBlocking _ := pure (.ok ())
  listen s := onHost (Tcp.Loopback.listen s)
  register _ := pure (.ok ())
  connect s addr := onHost (Tcp.Loopback.connect s addr)
  localAddr s := onHost (Tcp.Loopback.localAddr s)
  takeQueued s := onHost (Tcp.Loopback.takeQueued s)
  link := link
  hold s := onHost (Tcp.Loopback.hold s)
  release s := onHost (Tcp.Loopback.release s)
  gate s := onHost (Tcp.Loopback.gate s)
  setGate s g := onHost (Tcp.Loopback.setGate s g)

/-- Lets go of the socket that a hook has kept. -/
def letGo : Run Unit := do
  match (← get).kept with
  | some s => onHost (Tcp.Loopback.release s)
  | none => pure ()
  modify fun w => { w with kept := none }

/-- Keeps a socket in place of the one that was kept before. -/
def keep (s : Socket) : Run Unit := do
  onHost (Tcp.Loopback.hold s)
  letGo
  modify fun w => { w with kept := some s }

/-! ## Contexts -/

/-- The deadlines that a trial gives. -/
inductive Limit where
  | never
  /-- the present instant -/
  | present
  /-- a day ahead -/
  | tomorrow
  deriving DecidableEq, Repr

/-- The milliseconds of a day. -/
def day : Nat := 86400000

/-- The deadline of a limit. -/
def deadlineOf (now : Int) : Limit → Deadline
  | .never => .never
  | .present => .ofInstant now
  | .tomorrow => .after now day

/-- A context with a token of its own, perhaps one that was cancelled at once. -/
def newContext (cancelled : Bool) (limit : Limit) : Run Context :=
  modifyGet fun w =>
    let (token, tokens) := w.tokens.issue
    let tokens := if cancelled then (tokens.cancel token).2 else tokens
    ({ token := token, deadline := deadlineOf w.now limit }, { w with tokens := tokens })

end World

end Switchboard.Scripted
