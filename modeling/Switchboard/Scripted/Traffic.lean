import Switchboard.Scripted.PortNames
import Switchboard.Scripted.Session

set_option autoImplicit false

/-!
# Connections over the sockets of one host

Listeners and circuits of the TCP transport under names, and the steps that are taken on them:
through an exchange that knows this transport alone, or past it.  A step on a name that stands for
nothing ends everything.
-/

namespace Switchboard.Scripted

namespace Traffic

/-- What is dialled or listened on. -/
inductive Goal where
  | uri (uri : Except Fault Uri)
  /-- the address of a listener, or the same port at another host -/
  | listener (name : String) (host : Option Text)
  /-- an address of the host that never answers -/
  | silence

/-- What a dial or a listen is asked with. -/
structure Request where
  goal : Goal
  config : Except Fault Config := .ok {}
  choices : List Choice := []
  context : ContextChoice := {}
  /-- whether the exchange is passed by -/
  direct : Bool := false

/-- A step. -/
inductive Step where
  | listen (name : String) (request : Request) (reuse : Bool)
  /-- a dial; perhaps it is taken back while it is under way -/
  | dial (name : String) (request : Request) (takenBack : Bool)
  | accept (name source : String)
  /-- an accept that waits when the listener is closed -/
  | acceptWhileClosing (source : String)
  | closeListener (name : String)
  | addr (name : String)
  | write (name : String) (octets : List UInt8)
  | read (name : String) (count : Nat)
  | shutdown (name : String)
  | close (name : String)
  | inspect (name : String)
  /-- the keep-alive of the socket that a hook has kept -/
  | keepAlive
  /-- lets go of that socket -/
  | letGo

/-- What a step is answered with. -/
inductive Answer where
  | done
  | listener (addr : Uri)
  | circuit (c : Circuit Run)
  | fault (f : Fault)
  | ioFault (f : IoFault)
  | text (s : Text)
  | octets (data : List UInt8)
  /-- whether an idle connection is probed, and after how many seconds -/
  | keepAlive (probing : Bool) (idleSeconds : Nat)
  | never

end Traffic

/-- The listeners and circuits under their names, and the ports that they have. -/
structure Traffic where
  listeners : List (String × Listener Run) := []
  circuits : List (String × Circuit Run) := []
  ports : List PortName := []

namespace Traffic

/-- What a step needed and did not find. -/
inductive Missing where
  | listener
  | circuit
  /-- a socket that a hook has kept -/
  | socket
  deriving DecidableEq, Repr

/-- What runs in a world and may miss something. -/
abbrev Try (α : Type) : Type := ExceptT Missing (OptionT (StateM World)) α

/-- The listener with a name. -/
def listener (t : Traffic) (name : String) : Try (Listener Run) :=
  match t.listeners.lookup name with
  | some l => pure l
  | none => throw .listener

/-- The circuit with a name. -/
def circuit (t : Traffic) (name : String) : Try (Circuit Run) :=
  match t.circuits.lookup name with
  | some c => pure c
  | none => throw .circuit

/-- The circuits with one of them changed. -/
def setCircuit (t : Traffic) (name : String) (c : Circuit Run) : Traffic :=
  { t with circuits := (name, c) :: t.circuits }

/-- Names a new circuit; one that had the name before is let go. -/
def nameCircuit (t : Traffic) (name : String) (c : Circuit Run) : Run Traffic := do
  match t.circuits.lookup name with
  | some old => old.letGo
  | none => pure ()
  return t.setCircuit name c

/-- Names a new listener; one that had the name before is let go. -/
def nameListener (t : Traffic) (name : String) (l : Listener Run) : Run Traffic := do
  match t.listeners.lookup name with
  | some old => discard old.close
  | none => pure ()
  return { t with listeners := (name, l) :: t.listeners }

/-- The ports with that of an address, which has got a new owner. -/
def namePort (t : Traffic) (owner : String) (listening : Bool) (uri : Uri) : Traffic :=
  match SocketAddr.read? uri.host with
  | some addr =>
    { t with ports := { port := addr.port, owner := owner, listening := listening } :: t.ports }
  | none => t

/-- The exchange that knows the TCP transport. -/
def exchange : Exchange Run :=
  { directory :=
      ((Directory.empty).enterTransport Tcp.transportName (Tcp.mechanism World.platform)).1
    resolver := AddressBook.resolver {} }

/-- The TCP transport by itself. -/
def transport : Layer Run := (Tcp.mechanism World.platform).toLayer

/-! ## Dialling and listening -/

/-- The URI of a listener, or the one with its port behind another host.  The host is taken as it is
written, so an IPv6 address has to have its brackets. -/
def uriAt (l : Listener Run) : Option Text → Uri
  | some host =>
    match Text.cutLast? ':' l.addr.host with
    | some (_, port) => l.addr.withHost (host ++ ':' :: port)
    | none => l.addr
  | none => l.addr

/-- An address of the host that never answers. -/
def newSilence : Run SocketAddr := World.onHost do
  let addr := SocketAddr.ofIp (← Tcp.Loopback.freshPort) (Tcp.Loopback.ownIp .v4)
  modify fun net => { net with silent := addr :: net.silent }
  return addr

/-- The URI that is meant. -/
def resolve (t : Traffic) : Goal → Try (Except Fault Uri)
  | .uri uri => pure uri
  | .listener name host => do return .ok (uriAt (← t.listener name) host)
  | .silence => do return .ok (Tcp.addrUri (← liftM newSilence))

/-- How long a dial is under way when it is taken back. -/
def takeBackAfter : Int := 10

/-- Builds the context of a dial. -/
def dialContext (c : ContextChoice) (takenBack : Bool) : Run Context := do
  let context ← c.build
  if takenBack then
    modify fun w =>
      { w with cancelling := (w.now + takeBackAfter, context.token) :: w.cancelling }
  return context

/-- Dials; the configuration is looked at first, then the target, then the options. -/
def dial (t : Traffic) (r : Request) (takenBack : Bool) : Try (Except Fault (Circuit Run)) := do
  match r.config with
  | .error fault => return .error fault
  | .ok config =>
    match ← t.resolve r.goal, dialOptions r.choices with
    | .error fault, _ => return .error fault
    | .ok _, .error fault => return .error fault
    | .ok uri, .ok options =>
      let request : DialRequest Run :=
        { context := ← liftM (dialContext r.context takenBack), config := config, uri := uri,
          options := options }
      liftM (if r.direct then transport.dial request else exchange.dial request)

/-- Listens; what is written down is looked at as for a dial. -/
def listen (t : Traffic) (r : Request) (reuse : Bool) : Try (Except Fault (Listener Run)) := do
  match r.config with
  | .error fault => return .error fault
  | .ok config =>
    match ← t.resolve r.goal with
    | .error fault => return .error fault
    | .ok uri =>
      let again := if reuse then [.control (Tcp.reuseHook World.platform)] else []
      let request : ListenRequest Run :=
        { context := ← liftM r.context.build, config := config, uri := uri,
          options := listenOptions r.choices ++ again }
      liftM (if r.direct then transport.listen request else exchange.listen request)

/-! ## Transfers -/

/-- The result of an operation that is looked at once; never, if it is not done then. -/
def now {α : Type} (look : Run (Progress α)) : Run α := do
  match ← look with
  | .done a => return a
  | .waiting => failure

/-- Writes octets until they have all been taken. -/
def writeAll (c : Circuit Run) : Nat → List UInt8 → Run (Except IoFault Unit)
  | 0, _ => return .ok ()
  | fuel + 1, octets =>
    if octets.isEmpty then return .ok ()
    else do
      match ← now (c.write octets) with
      | .error fault => return .error fault
      | .ok 0 => return .error (.system .writeZero)
      | .ok count => writeAll c fuel (octets.drop count)

/-- Reads until `count` octets have come in or nothing more does. -/
def readUpTo (c : Circuit Run) (sofar : List UInt8) :
    Nat → Nat → Run (Except IoFault (List UInt8))
  | 0, _ | _, 0 => return .ok sofar
  | fuel + 1, count => do
    match ← now (c.read count) with
    | .error fault => return .error fault
    | .ok [] => return .ok sofar
    | .ok octets => readUpTo c (sofar ++ octets) fuel (count - octets.length)

/-- An accept that has joined those who wait when the listener is closed. -/
def acceptWhileClosing (l : Listener Run) : Run (Except Fault (Circuit Run)) := do
  match ← l.join with
  | .error fault => return .error fault
  | .ok waiting =>
    match ← waiting.look with
    | .done result => return result
    | .waiting =>
      match ← l.close with
      | .error fault => return .error fault
      | .ok () => now waiting.look

/-! ## Steps -/

/-- How the end of a transfer is answered. -/
def ended : Except IoFault Unit → Answer
  | .ok () => .done
  | .error fault => .ioFault fault

/-- One step. -/
def step (t : Traffic) : Step → Try (Traffic × Answer)
  | .listen name request reuse => do
    match ← t.listen request reuse with
    | .error fault => return (t, .fault fault)
    | .ok l =>
      let t := t.namePort name true l.addr
      return (← liftM (t.nameListener name l), .listener l.addr)
  | .dial name request takenBack => do
    match ← t.dial request takenBack with
    | .error fault => return (t, .fault fault)
    | .ok c =>
      let t := t.namePort name false c.localUri
      return (← liftM (t.nameCircuit name c), .circuit c)
  | .accept name source => do
    match ← liftM (now ((← t.listener source).accept 1)) with
    | .error fault => return (t, .fault fault)
    | .ok c => return (← liftM (t.nameCircuit name c), .circuit c)
  | .acceptWhileClosing source => do
    match ← liftM (acceptWhileClosing (← t.listener source)) with
    | .error fault => return (t, .fault fault)
    | .ok c => do
      liftM c.letGo
      return (t, .circuit c)
  | .closeListener name => do
    match ← liftM (← t.listener name).close with
    | .error fault => return (t, .fault fault)
    | .ok () => return (t, .done)
  | .addr name => do return (t, .text (← t.listener name).addr.print)
  | .write name octets => do
    let c ← t.circuit name
    return (t, ended (← liftM (writeAll c (octets.length + 1) octets)))
  | .read name count => do
    let c ← t.circuit name
    match ← liftM (readUpTo c [] count count) with
    | .error fault => return (t, .ioFault fault)
    | .ok octets => return (t, .octets octets)
  | .shutdown name => do
    let c ← t.circuit name
    return (t, ended (← liftM (now c.shutdown)))
  | .close name => do
    let (c, result) ← liftM ((← t.circuit name).close 1)
    let t := t.setCircuit name c
    match result with
    | .done (.error fault) => return (t, .ioFault fault)
    | _ => return (t, .circuit c)
  | .inspect name => do return (t, .circuit (← t.circuit name))
  | .keepAlive => do
    let w ← get
    match w.kept with
    | none => throw .socket
    | some s =>
      let e := w.host.endpoint s
      return (t, .keepAlive e.probing e.idleSeconds)
  | .letGo => do
    liftM World.letGo
    return (t, .done)

/-- What is known of a step when it has ended: its answer, the hooks that were called, and the ports
that have a name by then. -/
structure Report where
  answer : Answer
  calls : List HookCall
  ports : List PortName

/-- One step with the report of it.  A step that never ends changes nothing else. -/
def reported (t : Traffic) (step : Step) :
    StateM World (Except Missing (Traffic × Report)) := do
  modify fun w => { w with notes := [] }
  let outcome ← ((t.step step).run).run
  let calls := hookCalls (← get).notes
  match outcome with
  | none => return .ok (t, { answer := .never, calls := calls, ports := t.ports })
  | some (.error missing) => return .error missing
  | some (.ok (t, answer)) => return .ok (t, { answer := answer, calls := calls, ports := t.ports })

/-- The reports of the steps. -/
def run (t : Traffic) (w : World) : List Step → Except Missing (List Report)
  | [] => .ok []
  | step :: rest =>
    match (t.reported step).run w with
    | (.error missing, _) => .error missing
    | (.ok (t, report), w) => (run t w rest).map (report :: ·)

end Traffic

end Switchboard.Scripted
