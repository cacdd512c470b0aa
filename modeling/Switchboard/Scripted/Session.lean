import Switchboard.Scripted.Stub

set_option autoImplicit false

/-!
# Sessions with an exchange

A session enters mechanisms into a directory and asks the exchange over it to dial, to listen and
to make URIs canonical.  The exchange may be kept as it is, while the directory goes on to change.
Every step is answered together with the notes of what was called.  A circuit or a listener that
comes of a step is let go at once.
-/

namespace Switchboard.Scripted

/-- The domains of a directory. -/
inductive Domain where
  | transport
  | security
  | discovery
  deriving DecidableEq, Repr

/-- A context as it is written down. -/
structure ContextChoice where
  cancelled : Bool := false
  limit : World.Limit := .never
  deriving DecidableEq, Repr

/-- The context that is written down. -/
def ContextChoice.build (c : ContextChoice) : Run Context := World.newContext c.cancelled c.limit

/-- What is dialled or listened on. -/
inductive Target where
  | text (raw : Text)
  | uri (uri : Except Fault Uri)

/-- What a dial or a listen is asked with. -/
structure Ask where
  config : Except Fault Config := .ok {}
  choices : List Choice := []
  target : Target
  context : ContextChoice := {}

namespace Session

/-- A step of a session.  A step of the exchange may go to the one that was kept. -/
inductive Step where
  | enter (domain : Domain) (name : Text) (stub : Stub)
  | enterTcp
  | lookup (domain : Domain) (name : Text)
  | describe
  | describeExchange (kept : Bool)
  | keep
  | describeKept
  | canonicalize (kept : Bool) (uri : Except Fault Uri) (context : ContextChoice)
  | dial (kept : Bool) (ask : Ask)
  | listen (kept : Bool) (ask : Ask)

/-- What a step is answered with. -/
inductive Answer where
  | done
  /-- the label of the mechanism that was replaced -/
  | displaced (label : Option String)
  /-- the label of the mechanism that was found -/
  | found (label : Option String)
  | text (s : Text)
  | uris (result : Except Fault (List Uri))
  | circuit (result : Except Fault (Circuit Run))
  | listener (result : Except Fault (Listener Run))
  | never

end Session

/-- The directory of a session, and the exchange that was kept. -/
structure Session where
  book : AddressBook
  directory : Directory Run := {}
  kept : Option (Exchange Run) := none

namespace Session

/-- The exchange over the present directory. -/
def present (s : Session) : Exchange Run :=
  { directory := s.directory, resolver := s.book.resolver }

/-- The exchange that a step goes to. -/
def exchange (s : Session) (kept : Bool) : Exchange Run :=
  if kept then s.kept.getD s.present else s.present

/-- The session with a mechanism entered, and the label of the one that it replaces. -/
def entered {α : Type} (s : Session) (label : α → String) (r : Directory Run × Option α) :
    Session × Answer :=
  ({ s with directory := r.1 }, .displaced (r.2.map label))

/-- Enters a stub. -/
def enter (s : Session) (name : Text) (stub : Stub) : Domain → Session × Answer
  | .transport => s.entered (·.label) (s.directory.enterTransport name stub.mechanism)
  | .security => s.entered (·.label) (s.directory.enterSecurity name stub.mechanism)
  | .discovery => s.entered (·.label) (s.directory.enterDiscovery name stub.discovery)

/-- The label of a mechanism. -/
def label? (s : Session) (name : Text) : Domain → Option String
  | .transport => (s.directory.transport? name).map (·.label)
  | .security => (s.directory.security? name).map (·.label)
  | .discovery => (s.directory.discovery? name).map (·.label)

/-- Dials; of what is written down the configuration is looked at first, then the options, then
the target. -/
def dial (x : Exchange Run) (ask : Ask) : Run (Except Fault (Circuit Run)) := do
  match ask.config, dialOptions ask.choices, ask.target with
  | .error fault, _, _ => return .error fault
  | .ok _, .error fault, _ => return .error fault
  | .ok _, .ok _, .uri (.error fault) => return .error fault
  | .ok config, .ok options, .uri (.ok uri) => do
    x.dial { context := ← ask.context.build, config := config, uri := uri, options := options }
  | .ok config, .ok options, .text raw => do
    x.dialText (← ask.context.build) config raw options

/-- Listens; what is written down is looked at as for a dial. -/
def listen (x : Exchange Run) (ask : Ask) : Run (Except Fault (Listener Run)) := do
  let options := listenOptions ask.choices
  match ask.config, ask.target with
  | .error fault, _ => return .error fault
  | .ok _, .uri (.error fault) => return .error fault
  | .ok config, .uri (.ok uri) => do
    x.listen { context := ← ask.context.build, config := config, uri := uri, options := options }
  | .ok config, .text raw => do
    x.listenText (← ask.context.build) config raw options

/-- A dial whose circuit is let go. -/
def dialBriefly (x : Exchange Run) (ask : Ask) : Run (Except Fault (Circuit Run)) := do
  let result ← dial x ask
  match result with
  | .ok c => c.letGo
  | .error _ => pure ()
  return result

/-- A listen whose listener is let go. -/
def listenBriefly (x : Exchange Run) (ask : Ask) : Run (Except Fault (Listener Run)) := do
  let result ← listen x ask
  match result with
  | .ok l => discard l.close
  | .error _ => pure ()
  return result

/-- One step. -/
def step (s : Session) : Step → Run (Session × Answer)
  | .enter domain name stub => return s.enter name stub domain
  | .enterTcp =>
    return s.entered (·.label)
      (s.directory.enterTransport Tcp.transportName (Tcp.mechanism World.platform))
  | .lookup domain name => return (s, .found (s.label? name domain))
  | .describe => return (s, .text s.directory.describe)
  | .describeExchange kept => return (s, .text (s.exchange kept).describe)
  | .keep => return ({ s with kept := some s.present }, .done)
  | .describeKept => return (s, .text (s.exchange true).directory.describe)
  | .canonicalize kept uri context => do
    match uri with
    | .error fault => return (s, .uris (.error fault))
    | .ok uri => do
      return (s, .uris (← (s.exchange kept).canonicalize (← context.build) uri))
  | .dial kept ask => do return (s, .circuit (← dialBriefly (s.exchange kept) ask))
  | .listen kept ask => do return (s, .listener (← listenBriefly (s.exchange kept) ask))

/-- One step with the notes of what was called.  A step that never ends changes nothing else. -/
def noted (s : Session) (step : Step) : StateM World (Session × Answer × List Note) := do
  modify fun w => { w with notes := [] }
  let outcome ← (s.step step).run
  let (s, answer) := outcome.getD (s, .never)
  return (s, answer, (← get).notes)

/-- The answers to the steps of a session. -/
def run (s : Session) (w : World) : List Step → List (Answer × List Note)
  | [] => []
  | step :: rest =>
    let ((s, answer), w) := (s.noted step).run w
    answer :: run s w rest

end Session

end Switchboard.Scripted
