import Switchboard.Directory

set_option autoImplicit false

/-!
# The exchange

An exchange takes requests for connections and listeners and hands each to the mechanism that its
URI names.  It only takes canonical URIs; `canonicalize` makes them, with the discovery mechanism
that a URI names, or with one lookup of the host and one of the port where they are not literal.
-/

namespace Switchboard

/-- What requests are handed to: the mechanisms that are known, and who is asked for names. -/
structure Exchange (m : Type → Type) where
  directory : Directory m
  resolver : Resolver m

namespace Exchange

variable {m : Type → Type} [Monad m]

/-! ## Choosing a mechanism -/

/-- The fault of a transport that is not known. -/
def noTransport (uri : Uri) : Fault := .unknownTransport uri.print uri.transport

/-- The mechanism for a URI, and the layer that it is to use. -/
def select (x : Exchange m) (uri : Uri) : Except Fault (Mechanism m × Option (Layer m)) :=
  if !uri.isCanonical then .error (.notCanonical uri.print)
  else if uri.transport = [] then .error (noTransport uri)
  else if uri.security = [] then
    match x.directory.transport? uri.transport with
    | none => .error (noTransport uri)
    | some transport => .ok (transport, none)
  else
    match x.directory.security? uri.security with
    | none => .error (.unknownSecurity uri.print uri.security)
    | some security =>
      match x.directory.transport? uri.transport with
      | none => .error (noTransport uri)
      | some transport => .ok (security, some transport.toLayer)

/-- Establishes a connection. -/
def dial (x : Exchange m) (request : DialRequest m) : m (Except Fault (Circuit m)) :=
  match x.select request.uri with
  | .error fault => pure (.error fault)
  | .ok (mechanism, lower) => mechanism.dial lower request

/-- Opens a listener. -/
def listen (x : Exchange m) (request : ListenRequest m) : m (Except Fault (Listener m)) :=
  match x.select request.uri with
  | .error fault => pure (.error fault)
  | .ok (mechanism, lower) => mechanism.listen lower request

/-- Establishes a connection to the URI that a text stands for. -/
def dialText (x : Exchange m) (context : Context) (config : Config) (raw : Text)
    (options : List (DialOption (Hook m))) : m (Except Fault (Circuit m)) :=
  match Uri.parse raw with
  | .error fault => pure (.error fault)
  | .ok uri => x.dial { context := context, config := config, uri := uri, options := options }

/-- Opens a listener at the URI that a text stands for. -/
def listenText (x : Exchange m) (context : Context) (config : Config) (raw : Text)
    (options : List (ListenOption (Hook m))) : m (Except Fault (Listener m)) :=
  match Uri.parse raw with
  | .error fault => pure (.error fault)
  | .ok uri => x.listen { context := context, config := config, uri := uri, options := options }

/-! ## Canonical URIs -/

/-- The addresses of a host: itself, if it is an address, and else what the resolver answers. -/
def addresses (x : Exchange m) (host : Text) : m (Except IoFault (List Ip)) :=
  match Ip.read? host with
  | some ip => pure (.ok [ip])
  | none => x.resolver.lookupIp host

/-- The digits of a port: the text itself, if it is a port number, and else those of what the
resolver answers. -/
def portDigits (x : Exchange m) (network port : Text) : m (Except IoFault Text) :=
  match SocketAddr.readPort? port with
  | some _ => pure (.ok port)
  | none => do
    match ← x.resolver.lookupPort network port with
    | .error fault => pure (.error fault)
    | .ok n => pure (.ok (Decimal.digits n.toNat))

/-- A URI with one of its addresses and the digits of its port as its host. -/
def atAddress (uri : Uri) (port : Text) (ip : Ip) : Uri :=
  uri.withHost (HostPort.join ip.print port)

/-- The canonical URIs of a URI whose host was divided into a host and a port. -/
def resolve (x : Exchange m) (uri : Uri) (host port : Text) : m (Except Fault (List Uri)) := do
  match ← x.addresses host with
  | .error fault => pure (.error (.io fault))
  | .ok ips =>
    match ← x.portDigits uri.transport port with
    | .error fault => pure (.error (.io fault))
    | .ok digits => pure (.ok (ips.map (atAddress uri digits)))

/-- The canonical URIs that a URI stands for. -/
def canonicalize (x : Exchange m) (context : Context) (uri : Uri) :
    m (Except Fault (List Uri)) :=
  if uri.discovery ≠ [] then
    match x.directory.discovery? uri.discovery with
    | none => pure (.error (.unknownDiscovery uri.discovery))
    | some discovery => discovery.discover context uri
  else if uri.host = [] then pure (.ok [uri])
  else
    match HostPort.split uri.host with
    | .error flaw => pure (.error (.ofHostPort uri.host flaw))
    | .ok (host, port) => x.resolve uri host port

/-- The description of an exchange. -/
def describe (x : Exchange m) : Text :=
  "Dispatcher \x7b registry: ".toList ++ x.directory.describe ++ ", .. \x7d".toList

end Exchange

end Switchboard
