import Switchboard.Address.Ip

set_option autoImplicit false

/-!
# Socket addresses and their text

A socket address is an IP address with a port; an IPv6 address may also name a zone of the host, as
a number, where zero is no zone.  The text of the IPv6 form has the address, and the zone after a
percent sign, in square brackets.  Reading accepts leading zeros in the port and in the zone.
-/

namespace Switchboard

/-- The two families of addresses. -/
inductive Family where
  | v4
  | v6
  deriving DecidableEq, Repr, Inhabited

/-- A socket address of either family. -/
inductive SocketAddr where
  | v4 (ip : Ipv4) (port : UInt16)
  | v6 (ip : Ipv6) (port : UInt16) (zone : UInt32)
  deriving DecidableEq, Repr

namespace SocketAddr

/-- The family of an address. -/
def family : SocketAddr → Family
  | .v4 .. => .v4
  | .v6 .. => .v6

/-- The IP address of a socket address, without a zone. -/
def ip : SocketAddr → Ip
  | .v4 ip _ => .v4 ip
  | .v6 ip .. => .v6 ip

/-- The port of a socket address. -/
def port : SocketAddr → UInt16
  | .v4 _ port => port
  | .v6 _ port _ => port

/-- The same address with another port. -/
def withPort (port : UInt16) : SocketAddr → SocketAddr
  | .v4 ip _ => .v4 ip port
  | .v6 ip _ zone => .v6 ip port zone

/-- A socket address without a zone. -/
def ofIp (port : UInt16) : Ip → SocketAddr
  | .v4 ip => .v4 ip port
  | .v6 ip => .v6 ip port 0

/-- The address of a family that stands for every address of the host. -/
def unspecified (port : UInt16) : Family → SocketAddr
  | .v4 => .v4 .unspecified port
  | .v6 => .v6 .unspecified port 0

/-- The zone as it stands behind an IPv6 address; zero is not written. -/
def printZone (zone : UInt32) : Text :=
  if zone = 0 then [] else '%' :: Decimal.digits zone.toNat

/-- The text of a socket address. -/
def print : SocketAddr → Text
  | .v4 ip port => ip.print ++ ':' :: Decimal.digits port.toNat
  | .v6 ip port zone =>
    '[' :: ip.print ++ printZone zone ++ ']' :: ':' :: Decimal.digits port.toNat

/-- A port number in decimal digits. -/
def readPort? (s : Text) : Option UInt16 := (Decimal.read? 65535 s).map UInt16.ofNat

/-- A zone number in decimal digits. -/
def readZone? (s : Text) : Option UInt32 := (Decimal.read? 4294967295 s).map UInt32.ofNat

/-- The IPv6 address and the zone between the brackets. -/
def readZoned? (s : Text) : Option (Ipv6 × UInt32) :=
  match Text.cut? '%' s with
  | none => (Ipv6.read? s).map (·, 0)
  | some (address, zone) =>
    (Ipv6.read? address).bind fun ip => (readZone? zone).map (ip, ·)

/-- The socket address that a text stands for. -/
def read? : Text → Option SocketAddr
  | '[' :: inner =>
    match Text.cut? ']' inner with
    | some (zoned, ':' :: port) =>
      (readZoned? zoned).bind fun (ip, zone) => (readPort? port).map (.v6 ip · zone)
    | _ => none
  | s =>
    match Text.cut? ':' s with
    | some (address, port) =>
      (Ipv4.read? address).bind fun ip => (readPort? port).map (.v4 ip ·)
    | none => none

@[simp] theorem ip_withPort (port : UInt16) (addr : SocketAddr) :
    (addr.withPort port).ip = addr.ip := by cases addr <;> rfl

@[simp] theorem port_withPort (port : UInt16) (addr : SocketAddr) :
    (addr.withPort port).port = port := by cases addr <;> rfl

@[simp] theorem family_unspecified (port : UInt16) (f : Family) :
    (unspecified port f).family = f := by cases f <;> rfl

end SocketAddr

end Switchboard
