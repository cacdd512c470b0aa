import Switchboard.Text.Quoted
import Switchboard.Uri.Reader

set_option autoImplicit false

/-!
# Faults

A connection can fail to come about for a dozen reasons.  Each has a stable code of the form
`conduit.area.reason`, and a wording made of the texts that it carries.  Faults of sockets and
name lookups are a type of their own, since they also arise where nothing is being established.
-/

namespace Switchboard

/-- A text as a string. -/
def Text.string (s : Text) : String := String.ofList s

/-- The kinds of faults of sockets, streams and lookups. -/
inductive IoKind where
  | notFound
  | permissionDenied
  | connectionRefused
  | connectionReset
  | hostUnreachable
  | networkUnreachable
  | connectionAborted
  | notConnected
  | addrInUse
  | addrNotAvailable
  | networkDown
  | brokenPipe
  | alreadyExists
  | wouldBlock
  | invalidInput
  | invalidData
  | timedOut
  | writeZero
  | interrupted
  | unsupported
  | unexpectedEof
  | outOfMemory
  | other
  | uncategorized
  deriving DecidableEq, Repr, Inhabited

namespace IoKind

/-- The name of a kind. -/
def name : IoKind → String
  | .notFound => "NotFound"
  | .permissionDenied => "PermissionDenied"
  | .connectionRefused => "ConnectionRefused"
  | .connectionReset => "ConnectionReset"
  | .hostUnreachable => "HostUnreachable"
  | .networkUnreachable => "NetworkUnreachable"
  | .connectionAborted => "ConnectionAborted"
  | .notConnected => "NotConnected"
  | .addrInUse => "AddrInUse"
  | .addrNotAvailable => "AddrNotAvailable"
  | .networkDown => "NetworkDown"
  | .brokenPipe => "BrokenPipe"
  | .alreadyExists => "AlreadyExists"
  | .wouldBlock => "WouldBlock"
  | .invalidInput => "InvalidInput"
  | .invalidData => "InvalidData"
  | .timedOut => "TimedOut"
  | .writeZero => "WriteZero"
  | .interrupted => "Interrupted"
  | .unsupported => "Unsupported"
  | .unexpectedEof => "UnexpectedEof"
  | .outOfMemory => "OutOfMemory"
  | .other => "Other"
  | .uncategorized => "Uncategorized"

/-- Every kind. -/
def all : List IoKind :=
  [.notFound, .permissionDenied, .connectionRefused, .connectionReset, .hostUnreachable,
    .networkUnreachable, .connectionAborted, .notConnected, .addrInUse, .addrNotAvailable,
    .networkDown, .brokenPipe, .alreadyExists, .wouldBlock, .invalidInput, .invalidData, .timedOut,
    .writeZero, .interrupted, .unsupported, .unexpectedEof, .outOfMemory, .other, .uncategorized]

/-- The kind with a given name. -/
def ofName? (name : String) : Option IoKind := all.find? fun kind => kind.name == name

end IoKind

/-- A fault of a socket, a stream or a lookup.  A fault that the operating system reports has a
kind and no wording of ours. -/
structure IoFault where
  kind : IoKind
  message : Option String := none
  deriving DecidableEq, Repr, Inhabited

namespace IoFault

/-- A fault that the operating system reports. -/
def system (kind : IoKind) : IoFault := { kind := kind }

/-- A host that had to be a socket address and is not. -/
def notLiteralAddress (host : Text) : IoFault :=
  { kind := .invalidInput, message := some (host.string ++ ": not a literal tcp address") }

/-- A name of a network that has no services. -/
def unknownNetwork (network : Text) : IoFault :=
  { kind := .invalidInput, message := some ("unknown network " ++ network.string) }

/-- A service that no database has for a network. -/
def unknownPort (network service : Text) : IoFault :=
  { kind := .notFound,
    message := some ("unknown port " ++ network.string ++ "/" ++ service.string) }

/-- A transfer over a connection whose link was given up. -/
def closed : IoFault := { kind := .notConnected, message := some "conduit is closed" }

end IoFault

/-- The wording of what is wrong with the text of a URI. -/
def Uri.Flaw.message : Uri.Flaw → String
  | .missingScheme => "missing protocol scheme"
  | .controlCharacter => "invalid control character in URL"
  | .colonInFirstSegment => "first path segment in URL cannot contain colon"
  | .missingBracket host => "missing ']' in host " ++ (Quoted.text host).string
  | .invalidHost host found =>
    "invalid character " ++ (Quoted.char found).string ++ " in host " ++ (Quoted.text host).string

/-- Why a connection or a listener did not come about. -/
inductive Fault where
  /-- a text that is not a URI -/
  | parse (raw : Text) (flaw : Uri.Flaw)
  /-- a host that cannot be divided into a host and a port -/
  | badAddress (address : Text) (reason : String)
  /-- a URI that needs a lookup, where none is made -/
  | notCanonical (uri : Text)
  /-- a transport that no mechanism is known for -/
  | unknownTransport (uri name : Text)
  /-- a security layer that no mechanism is known for -/
  | unknownSecurity (uri name : Text)
  /-- a discovery mechanism that is not known -/
  | unknownDiscovery (name : Text)
  /-- an operation whose caller took it back -/
  | cancelled (operation : String)
  /-- an operation that passed its deadline -/
  | timedOut (operation : String)
  /-- an accept on a listener that was closed -/
  | listenerClosed (uri : Text)
  /-- a part of the configuration that does not say what its reader needs -/
  | config (part : Text) (message : String)
  /-- a fault of a mechanism's own -/
  | mechanism (name cause : String)
  /-- a fault of a socket or a lookup, passed on as it is -/
  | io (fault : IoFault)
  deriving DecidableEq, Repr, Inhabited

namespace Fault

/-- The stable code of a fault. -/
def code : Fault → String
  | .parse .. => "conduit.uri.parse_failed"
  | .badAddress .. => "conduit.uri.bad_address"
  | .notCanonical _ => "conduit.uri.not_canonical"
  | .unknownTransport .. => "conduit.registry.unknown_transport"
  | .unknownSecurity .. => "conduit.registry.unknown_security"
  | .unknownDiscovery _ => "conduit.registry.unknown_discovery"
  | .cancelled _ => "conduit.context.cancelled"
  | .timedOut _ => "conduit.context.timeout"
  | .listenerClosed _ => "conduit.listener.closed"
  | .config .. => "conduit.config.invalid"
  | .mechanism .. => "conduit.mechanism.failed"
  | .io _ => "conduit.io.failed"

/-- The wording of the fault that a fault wraps, if it wraps one. -/
def cause? : Fault → Option String
  | .parse _ flaw => some flaw.message
  | .mechanism _ cause => some cause
  | _ => none

/-- The wording of a fault. -/
def message : Fault → String
  | .parse raw flaw => "parse " ++ (Quoted.text raw).string ++ ": " ++ flaw.message
  | .badAddress address reason => "address " ++ address.string ++ ": " ++ reason
  | .notCanonical uri => uri.string ++ ": URI is not canonical"
  | .unknownTransport uri name =>
    uri.string ++ ": " ++ (Quoted.text name).string ++ ": unknown transport"
  | .unknownSecurity uri name =>
    uri.string ++ ": " ++ (Quoted.text name).string ++ ": unknown security layer"
  | .unknownDiscovery name => (Quoted.text name).string ++ ": unknown discovery mechanism"
  | .cancelled operation => operation ++ " cancelled"
  | .timedOut operation => operation ++ " timed out"
  | .listenerClosed uri => uri.string ++ ": listener closed"
  | .config part message => "config section " ++ (Quoted.text part).string ++ ": " ++ message
  | .mechanism name cause => name ++ ": " ++ cause
  | .io fault => fault.message.getD fault.kind.name

/-- The fault of an address that is not a host and a port. -/
def ofHostPort (address : Text) (flaw : HostPort.Flaw) : Fault :=
  .badAddress address flaw.message

end Fault

/-! ## One check after another -/

theorem bind_eq_ok_iff {ε α β : Type} {x : Except ε α} {f : α → Except ε β} {b : β} :
    x >>= f = .ok b ↔ ∃ a, x = .ok a ∧ f a = .ok b := by
  cases x <;> simp [bind, Except.bind]

/-- What fails is a check itself, or what comes after it. -/
theorem bind_eq_error_iff {ε α β : Type} {x : Except ε α} {f : α → Except ε β} {e : ε} :
    x >>= f = .error e ↔ x = .error e ∨ ∃ a, x = .ok a ∧ f a = .error e := by
  cases x <;> simp [bind, Except.bind]

@[simp] theorem mapError_ok {ε δ α : Type} (f : ε → δ) (a : α) :
    (Except.ok a : Except ε α).mapError f = .ok a := rfl

@[simp] theorem mapError_error {ε δ α : Type} (f : ε → δ) (e : ε) :
    (Except.error e : Except ε α).mapError f = .error (f e) := rfl

/-- The URI that a text stands for, or the fault that names the text. -/
def Uri.parse (raw : Text) : Except Fault Uri :=
  (Uri.read raw).mapError (Fault.parse raw)

end Switchboard
