import Switchboard.Tcp.Platform

set_option autoImplicit false

/-!
# The sockets of one host

A host whose sockets connect to one another and to nothing else: the addresses of the host are
127.0.0.0/8, ::1, and those that stand for all of them.  An attempt to connect to a listener
succeeds at once and waits in its queue; an attempt elsewhere on the host is refused, and one to
another address finds no network.  There may be addresses that never answer.

A host whose network is down has no address, and no way even to itself.  A socket may still be bound
there: to any IPv4 address, as none can be told to be another host's, and to the IPv6 address that
stands for all.

Octets that one end writes are at the other end at once.
-/

namespace Switchboard.Tcp

/-- What a socket is used for. -/
inductive Role where
  | unused
  /-- it queues connections, oldest first -/
  | listening (queue : List Socket)
  /-- it is one end of a connection -/
  | connected (other : Socket)
  | released
  deriving DecidableEq, Repr, Inhabited

/-- A socket. -/
structure Endpoint where
  family : Family := .v4
  addr : Option SocketAddr := none
  /-- whether its address may be used again -/
  reuse : Bool := false
  /-- whether an idle connection is probed -/
  probing : Bool := false
  /-- the seconds after which it is -/
  idleSeconds : Nat := 7200
  role : Role := .unused
  /-- how many hold the socket -/
  holders : Nat := 1
  incoming : List UInt8 := []
  /-- whether the other end sends no more -/
  ended : Bool := false
  /-- whether this end sends no more -/
  finished : Bool := false
  deriving Repr, Inhabited

/-- The first of the ports that a host gives out: one among those kept for this purpose, 32768 to
60999, that nobody is likely to ask for by its number. -/
def firstPort : Nat := 41873

/-- The sockets of a host, by their numbers. -/
structure Loopback where
  /-- whether the network of the host is up -/
  up : Bool := true
  /-- addresses that never answer -/
  silent : List SocketAddr := []
  endpoints : List Endpoint := []
  nextPort : Nat := firstPort
  gates : List (Socket × Gate) := []
  deriving Repr, Inhabited

namespace Loopback

/-! ## Addresses -/

/-- An address of the host itself in each family. -/
def ownIp : Family → Ip
  | .v4 => .v4 .loopback
  | .v6 => .v6 .loopback

/-- An IPv4 address as it appears among IPv6 addresses. -/
def mapIp : Ip → Ip
  | .v4 ip => .v6 (Ipv6.ofMapped ip)
  | ip => ip

/-- The IPv4 address that an address stands for, if there is one, and else the address. -/
def plainIp : Ip → Ip
  | .v6 ip => (ip.mapped?.map .v4).getD (.v6 ip)
  | ip => ip

/-- Whether an address is an IPv4 address, or stands for one. -/
def isPlainV4 (ip : Ip) : Bool :=
  match plainIp ip with
  | .v4 _ => true
  | .v6 _ => false

/-- Whether an address stands for every IPv4 address of the host. -/
def isAnyV4 (ip : Ip) : Bool := plainIp ip == .v4 .unspecified

/-- Whether an address is one of the host, or stands for all of them. -/
def isOwn (ip : Ip) : Bool :=
  match plainIp ip with
  | .v4 ip => ip == .unspecified || ip.isLoopback
  | .v6 ip => ip == .unspecified || ip == .loopback

/-- The address that is reached when something connects to an address. -/
def reached (addr : SocketAddr) : SocketAddr :=
  if addr.ip == .v6 .unspecified then .ofIp addr.port (ownIp .v6)
  else if isAnyV4 addr.ip then
    .ofIp addr.port (if addr.family = .v6 then mapIp (ownIp .v4) else ownIp .v4)
  else addr

/-- Whether a socket at an address receives what is sent to another one. -/
def receives (here target : SocketAddr) : Bool :=
  here.port == target.port
    && (here.ip == .v6 .unspecified || plainIp here.ip == plainIp target.ip
      || (isAnyV4 here.ip && isPlainV4 target.ip))

/-- Whether an address stands for a group of IPv6 hosts. -/
def isMulticastV6 : Ip → Bool
  | .v4 _ => false
  | .v6 ip => ip.isMulticast

/-- The zone of an address that has its meaning on one link only. -/
def linkZone? : SocketAddr → Option UInt32
  | .v4 .. => none
  | .v6 ip _ zone => if ip.isLinkLocal then some zone else none

/-- Whether two sockets cannot both be bound to their addresses. -/
def overlap (a b : SocketAddr) : Bool := receives a b || receives b a

/-- An address as a socket of a family shows it. -/
def shownTo (family : Family) (addr : SocketAddr) : SocketAddr :=
  match family, addr with
  | .v6, .v4 .. => .ofIp addr.port (mapIp addr.ip)
  | _, _ => addr

/-! ## Looking up and changing sockets -/

/-- An operation on the sockets of a host. -/
abbrev Act (α : Type) : Type := StateM Loopback α

/-- The socket with a number; one that was never made is like one that was given up. -/
def endpoint (net : Loopback) (s : Socket) : Endpoint :=
  (net.endpoints[s.number]?).getD { role := .released }

/-- Changes a socket. -/
def change (s : Socket) (f : Endpoint → Endpoint) : Act Unit :=
  modify fun net => { net with endpoints := net.endpoints.modify s.number f }

/-- Adds a socket. -/
def add (e : Endpoint) : Act Socket := do
  let net ← get
  set { net with endpoints := net.endpoints ++ [e] }
  return { number := net.endpoints.length }

/-- The addresses in use. -/
def addressesInUse (net : Loopback) : List SocketAddr :=
  (net.endpoints.filter fun e => e.role != .released).filterMap (·.addr)

/-- A port that no socket uses. -/
def freshPort : Act UInt16 := do
  let net ← get
  let used := (addressesInUse net).map fun addr => addr.port.toNat
  let candidates := (List.range (used.length + 1)).map (net.nextPort + ·)
  let port := (candidates.find? fun n => !used.contains n).getD net.nextPort
  set { net with nextPort := port + 1 }
  return UInt16.ofNat port

/-- The port that is asked for; zero asks for any. -/
def portFor (wanted : UInt16) : Act UInt16 :=
  if wanted = 0 then freshPort else pure wanted

/-! ## Setting a socket up -/

/-- Makes a socket. -/
def create (family : Family) : Act (Except IoFault Socket) := do
  return .ok (← add { family := family })

/-- Lets the address of a socket be used again. -/
def reuseAddress (s : Socket) : Act (Except IoFault Unit) := do
  change s fun e => { e with reuse := true }
  return .ok ()

/-- Leaves an idle connection alone. -/
def stopProbing (s : Socket) : Act (Except IoFault Unit) := do
  change s fun e => { e with probing := false }
  return .ok ()

/-- Probes an idle connection after some milliseconds.  The host counts whole seconds, from 1 to
32767. -/
def probeAfter (s : Socket) (period : Nat) : Act (Except IoFault Unit) := do
  change s fun e => { e with probing := true }
  let seconds := period / 1000
  if 1 ≤ seconds ∧ seconds ≤ 32767 then
    change s fun e => { e with idleSeconds := seconds }
    return .ok ()
  else return .error (.system .invalidInput)

/-- Whether a socket keeps others from its address. -/
def blocks (e : Endpoint) (reuse : Bool) (addr : SocketAddr) : Bool :=
  let listening := match e.role with
    | .listening _ => true
    | _ => false
  e.role != .released && !(reuse && e.reuse && !listening)
    && e.addr.any fun other => overlap other addr

/-- The zone of the link that a host has to itself. -/
def ownZone : UInt32 := 1

/-- What is wrong with the zone of an address that a socket is to be bound to. -/
def zoneFault? (zone : UInt32) : Option IoFault :=
  if zone = 0 then some (.system .invalidInput)
  else if zone = ownZone then none
  else some (.system .uncategorized)

/-- Whether a socket may be bound to an IP address. -/
def hasIp (net : Loopback) (ip : Ip) : Bool :=
  match plainIp ip with
  | .v4 ip => !net.up || ip == .unspecified || ip.isLoopback || ip.isMulticast || ip == .broadcast
  | .v6 ip => ip == .unspecified || (net.up && ip == .loopback)

/-- Why no socket of a host can be bound to an address.  A group of IPv6 hosts is no end of a
stream. -/
def placeFault? (net : Loopback) (addr : SocketAddr) : Option IoFault :=
  if isMulticastV6 addr.ip then some (.system .invalidInput)
  else if net.hasIp addr.ip then none
  else ((linkZone? addr).bind zoneFault?).or (some (.system .addrNotAvailable))

/-- What keeps a socket from an address. -/
def bindFault? (net : Loopback) (e : Endpoint) (addr : SocketAddr) : Option IoFault :=
  if e.addr.isSome then some (.system .invalidInput)
  else if e.family = .v4 ∧ addr.family = .v6 then some (.system .uncategorized)
  else if e.family = .v6 ∧ addr.family = .v4 then some (.system .invalidInput)
  else
    (net.placeFault? addr).or
      (if addr.port ≠ 0 ∧ net.endpoints.any (blocks · e.reuse addr) then
        some (.system .addrInUse)
      else none)

/-- Binds a socket. -/
def bind (s : Socket) (addr : SocketAddr) : Act (Except IoFault Unit) := do
  let net ← get
  match bindFault? net (net.endpoint s) addr with
  | some fault => return .error fault
  | none =>
    let port ← portFor addr.port
    change s fun e => { e with addr := some (addr.withPort port) }
    return .ok ()

/-- Starts to queue connections. -/
def listen (s : Socket) : Act (Except IoFault Unit) := do
  change s fun e => { e with role := .listening [] }
  return .ok ()

/-- The address of a socket. -/
def localAddr (s : Socket) : Act (Except IoFault SocketAddr) := do
  let e := (← get).endpoint s
  return .ok (e.addr.getD (.unspecified 0 e.family))

/-! ## Connecting -/

/-- The listener that an address reaches, and the connections that it has queued. -/
def listenerAt? (net : Loopback) (target : SocketAddr) : Option (Socket × List Socket) :=
  net.endpoints.zipIdx.findSome? fun (e, i) =>
    match e.role, e.addr with
    | .listening queue, some addr =>
      if receives addr target then some ({ number := i }, queue) else none
    | _, _ => none

/-- The address that a socket connects from. -/
def sourceAddr (e : Endpoint) : Act SocketAddr := do
  match e.addr with
  | some addr => return reached addr
  | none => return .ofIp (← freshPort) (ownIp e.family)

/-- Joins a socket to a listener. -/
def join (s listener : Socket) (queue : List Socket) (target : SocketAddr) : Act Unit := do
  let net ← get
  let family := (net.endpoint listener).family
  let source ← sourceAddr (net.endpoint s)
  let other ← add
    { family := family, addr := some (shownTo family target), role := .connected s }
  change s fun e => { e with addr := some source, role := .connected other }
  change listener fun e => { e with role := .listening (queue ++ [other]) }

/-- Why there is no way to an address.  Where the network is down there is no IPv6 address to come
from. -/
def wayFault? (net : Loopback) (target : SocketAddr) : Option IoFault :=
  if linkZone? target = some 0 then some (.system .invalidInput)
  else if net.up && isOwn target.ip then none
  else if net.up || isMulticastV6 target.ip || isPlainV4 target.ip then
    some (.system .networkUnreachable)
  else some (.system .addrNotAvailable)

/-- Looks at an attempt to connect. -/
def connect (s : Socket) (target : SocketAddr) : Act (Progress (Except IoFault Unit)) := do
  let net ← get
  let target := reached target
  if net.up && net.silent.contains target then return .waiting
  else
    match net.wayFault? target, net.listenerAt? target with
    | some fault, _ => return .done (.error fault)
    | none, none => return .done (.error (.system .connectionRefused))
    | none, some (listener, queue) =>
      join s listener queue target
      return .done (.ok ())

/-- The address of the other end of a connection, as this end shows it. -/
def peerAddr (net : Loopback) (e : Endpoint) : SocketAddr :=
  match e.role with
  | .connected other =>
    shownTo e.family (((net.endpoint other).addr).getD (.unspecified 0 e.family))
  | _ => .unspecified 0 e.family

/-- Looks for a queued connection. -/
def takeQueued (s : Socket) : Act (Progress (Except IoFault (Socket × SocketAddr))) := do
  let net ← get
  match (net.endpoint s).role with
  | .listening (first :: rest) =>
    change s fun e => { e with role := .listening rest }
    return .done (.ok (first, peerAddr net (net.endpoint first)))
  | .listening [] => return .waiting
  | _ => return .done (.error (.system .invalidInput))

/-! ## Transfers -/

/-- Ends what one end of a connection sends. -/
def endSending (other : Socket) : Act Unit := change other fun e => { e with ended := true }

/-- Reads what has come in, at most `count` octets of it. -/
def read (s : Socket) (count : Nat) : Act (Progress (Except IoFault (List UInt8))) := do
  let e := (← get).endpoint s
  match e.role with
  | .connected _ =>
    if e.incoming.isEmpty && !e.ended && count != 0 then return .waiting
    else
      change s fun e => { e with incoming := e.incoming.drop count }
      return .done (.ok (e.incoming.take count))
  | _ => return .done (.error (.system .notConnected))

/-- Sends octets to the other end. -/
def write (s : Socket) (octets : List UInt8) : Act (Progress (Except IoFault Nat)) := do
  let net ← get
  match (net.endpoint s).role with
  | .connected other =>
    if (net.endpoint s).finished || (net.endpoint other).role == .released then
      return .done (.error (.system .brokenPipe))
    else
      change other fun e => { e with incoming := e.incoming ++ octets }
      return .done (.ok octets.length)
  | _ => return .done (.error (.system .notConnected))

/-- Ends the sending side. -/
def shutdown (s : Socket) : Act (Progress (Except IoFault Unit)) := do
  match ((← get).endpoint s).role with
  | .connected other =>
    endSending other
    change s fun e => { e with finished := true }
    return .done (.ok ())
  | _ => return .done (.error (.system .notConnected))

/-- Marks a socket as given up, and ends what it sends. -/
def retire (s : Socket) : Act Unit := do
  match ((← get).endpoint s).role with
  | .connected other => endSending other
  | _ => pure ()
  change s fun e => { e with role := .released }

/-- Gives a socket up, together with the connections that it has queued. -/
def giveUp (s : Socket) : Act Unit := do
  match ((← get).endpoint s).role with
  | .listening queue => queue.forM retire
  | _ => pure ()
  retire s

/-- Holds a socket once more. -/
def hold (s : Socket) : Act Unit := change s fun e => { e with holders := e.holders + 1 }

/-- Lets go of a socket, which is given up when nobody holds it any more. -/
def release (s : Socket) : Act Unit := do
  if 1 < ((← get).endpoint s).holders then
    change s fun e => { e with holders := e.holders - 1 }
  else giveUp s

/-! ## Gates -/

/-- The gate of a listener. -/
def gate (s : Socket) : Act Gate := do
  return ((← get).gates.lookup s).getD { native := none }

/-- Changes the gate of a listener. -/
def setGate (s : Socket) (g : Gate) : Act Unit :=
  modify fun net => { net with gates := (s, g) :: net.gates }

end Loopback

end Switchboard.Tcp
