import Switchboard.Exchange
import Switchboard.Scripted.Choice
import Switchboard.Services

set_option autoImplicit false

/-!
# Mechanisms and resolvers that are written down

A stub is a mechanism that notes how it was called and then does what it is told to: it succeeds
without a connection, fails, or leaves the work to the layer below it.  An address book is a
resolver that notes what it was asked and answers from a list.
-/

namespace Switchboard.Scripted

open World (note)

/-! ## Mechanisms -/

/-- What a stub does. -/
inductive Behavior where
  | succeed
  /-- the layer below does the work -/
  | wrap
  | fail (wording : String)
  | failIo (fault : IoFault)
  deriving Repr

/-- A mechanism that is written down. -/
structure Stub where
  label : String
  behavior : Behavior
  filter : FilterChoice := .none
  /-- what it discovers -/
  uris : List (Except Fault Uri) := []

namespace Stub

/-- The names in a section, in ascending order. -/
def sectionKeys (table : Toml.Table) : List Text := (NameMap.ofList table).names

/-- Notes a call. -/
def noteCall (stub : Stub) (verb : Verb) (lower : Bool) (context : Context) (config : Config)
    (uri : Uri) (options : Nat) : Run Unit := do
  let moment := (← get).moment
  note (.called
    { verb := verb, label := stub.label, uri := uri.print, lower := lower, options := options,
      cancelled := context.isCancelled moment, expired := context.isExpired moment,
      transportKeys := (config.forTransport uri.transport).map sectionKeys,
      securityKeys := (config.forSecurity uri.security).map sectionKeys })

/-- Leaves the label of a stub in a circuit that passed through it. -/
def sign (stub : Stub) (c : Circuit Run) : Circuit Run :=
  { c with
    security := { c.security with principal := c.security.principal ++ stub.label.toList } }

/-- The fault of a stub that has nothing below it. -/
def noLower (stub : Stub) : Fault := .mechanism stub.label "no lower"

/-- Dials. -/
def dial (stub : Stub) (lower : Option (Layer Run)) (r : DialRequest Run) :
    Run (Except Fault (Circuit Run)) := do
  stub.noteCall .dial lower.isSome r.context r.config r.uri r.options.length
  match stub.behavior, lower with
  | .fail wording, _ => return .error (.mechanism stub.label wording)
  | .failIo fault, _ => return .error (.io fault)
  | .wrap, none => return .error stub.noLower
  | .wrap, some layer => return (← layer.dial r).map stub.sign
  | .succeed, _ =>
    match (planDial stub.filter r.options).1 with
    | .error fault => return .error fault
    | .ok plan =>
      note (.dialPlan (← reportDial plan))
      return .ok (stub.sign (.active {} r.uri .idle))

/-- A listener that never has a connection. -/
def idleListener (addr : Uri) : Listener Run where
  addr := addr
  join := return .ok { look := return .waiting, leave := return () }
  close := return .ok ()

/-- Listens. -/
def listen (stub : Stub) (lower : Option (Layer Run)) (r : ListenRequest Run) :
    Run (Except Fault (Listener Run)) := do
  stub.noteCall .listen lower.isSome r.context r.config r.uri r.options.length
  match stub.behavior, lower with
  | .fail wording, _ => return .error (.mechanism stub.label wording)
  | .failIo fault, _ => return .error (.io fault)
  | .wrap, none => return .error stub.noLower
  | .wrap, some layer => layer.listen r
  | .succeed, _ =>
    match (planListen .none r.options).1 with
    | .error fault => return .error fault
    | .ok plan =>
      note (.listenPlan (← reportListen plan))
      return .ok (idleListener r.uri)

/-- Discovers. -/
def discover (stub : Stub) (context : Context) (uri : Uri) : Run (Except Fault (List Uri)) := do
  let moment := (← get).moment
  note (.discovered stub.label uri.print (context.isCancelled moment))
  match stub.behavior with
  | .fail wording => return .error (.mechanism stub.label wording)
  | .failIo fault => return .error (.io fault)
  | _ => return stub.uris.mapM id

/-- A stub as a mechanism. -/
def mechanism (stub : Stub) : Mechanism Run where
  label := stub.label
  dial := stub.dial
  listen := stub.listen

/-- A stub as a discovery mechanism. -/
def discovery (stub : Stub) : Discovery Run where
  label := stub.label
  discover := stub.discover

end Stub

/-! ## Resolvers -/

/-- A resolver that is written down. -/
structure AddressBook where
  /-- the addresses of hosts, or the wording of a failure -/
  hosts : List (Text × Except String (List Ip)) := []
  /-- the ports of services, under the network and the service with a slash between them -/
  ports : List (Text × UInt16) := []
  /-- a services database to use in place of the list -/
  services : Option (Option Text) := none

namespace AddressBook

/-- The addresses of a host. -/
def addresses (book : AddressBook) (host : Text) : Except IoFault (List Ip) :=
  match book.hosts.lookup host with
  | some (.ok ips) => .ok ips
  | some (.error wording) => .error { kind := .other, message := some wording }
  | none => .error { kind := .notFound, message := some "no such host" }

/-- The port of a service. -/
def port (book : AddressBook) (network service : Text) : Except IoFault UInt16 :=
  match book.services with
  | some database => Services.lookupPort database network service
  | none =>
    match book.ports.lookup (network ++ '/' :: service) with
    | some port => .ok port
    | none => .error { kind := .notFound, message := some "unknown service" }

/-- An address book as a resolver. -/
def resolver (book : AddressBook) : Resolver Run where
  lookupIp host := do
    note (.lookedUpHost host)
    return book.addresses host
  lookupPort network service := do
    note (.lookedUpPort network service)
    return book.port network service

end AddressBook

end Switchboard.Scripted
