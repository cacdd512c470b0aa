set_option autoImplicit false

/-!
# Packet headers

A packet on an established circuit starts with a header of four octets, and an extension of the
protocol with an extension header of four octets.

    header      octet 0: version (upper four bits), reply 0x08, error 0x04, two reserved bits
    extension   octet 0: ignore 0x80, close 0x40, hop by hop 0x20, five reserved bits
    both        octet 1: protocol     octets 2 and 3: length, upper octet first

Reserved bits are written as zero and not looked at.  Reading looks at the number of octets before
it looks at the version; writing looks at the version before it looks at the room.
-/

namespace Switchboard.Packet

/-- Octets in the order in which they are sent. -/
abbrev Octets : Type := List UInt8

/-- The octets of a header. -/
def headerSize : Nat := 4

/-- The octets of an extension header. -/
def extensionSize : Nat := 4

/-- The latest version that is understood. -/
def maxVersion : UInt8 := 0

/-- Why a header cannot be read or written. -/
inductive Flaw where
  /-- fewer octets than a header has -/
  | shortInput
  /-- less room than a header takes -/
  | shortOutput
  /-- a version after the latest one -/
  | versionExceeded (version : UInt8)
  deriving DecidableEq, Repr, Inhabited

/-- The wording of a flaw. -/
def Flaw.message : Flaw → String
  | .shortInput => "short input buffer"
  | .shortOutput => "short output buffer"
  | .versionExceeded version => toString version.toNat ++ ": maximum version exceeded"

/-- One bit, set or not. -/
def flag (bit : UInt8) (set : Bool) : UInt8 := if set then bit else 0

/-- The upper and the lower octet of a length. -/
def lengthOctets (n : UInt16) : UInt8 × UInt8 := ((n >>> 8).toUInt8, n.toUInt8)

/-- The length with a given upper and lower octet. -/
def lengthOf (upper lower : UInt8) : UInt16 := upper.toUInt16 <<< 8 ||| lower.toUInt16

/-- Puts octets in the place of the first ones of a buffer that has room for them. -/
def overwrite (octets buffer : Octets) : Except Flaw Octets :=
  if buffer.length < octets.length then .error .shortOutput
  else .ok (octets ++ buffer.drop octets.length)

/-! ## Headers -/

/-- What the header of a packet says. -/
structure Header where
  version : UInt8 := 0
  reply : Bool := false
  error : Bool := false
  protocol : UInt8 := 0
  length : UInt16 := 0
  deriving DecidableEq, Repr, Inhabited

namespace Header

/-- The first octet of a header. -/
def firstOctet (h : Header) : UInt8 :=
  ((h.version <<< 4) &&& 0xF0) ||| flag 0x08 h.reply ||| flag 0x04 h.error

/-- The four octets of a header, if its version is understood. -/
def octets (h : Header) : Except Flaw Octets :=
  if maxVersion < h.version then .error (.versionExceeded h.version)
  else
    .ok [h.firstOctet, h.protocol, (lengthOctets h.length).1, (lengthOctets h.length).2]

/-- The buffer with the header in its first four octets. -/
def encode (h : Header) (buffer : Octets) : Except Flaw Octets := do
  overwrite (← h.octets) buffer

/-- The header at the front of some octets, and how many of them it takes. -/
def decode : Octets → Except Flaw (Header × Nat)
  | first :: protocol :: upper :: lower :: _ =>
    let version := (first &&& 0xF0) >>> 4
    if maxVersion < version then .error (.versionExceeded version)
    else
      .ok
        ({ version := version, reply := first &&& 0x08 ≠ 0, error := first &&& 0x04 ≠ 0,
           protocol := protocol, length := lengthOf upper lower }, headerSize)
  | _ => .error .shortInput

end Header

/-! ## Extension headers -/

/-- What an extension header says. -/
structure Extension where
  ignore : Bool := false
  close : Bool := false
  hopByHop : Bool := false
  protocol : UInt8 := 0
  length : UInt16 := 0
  deriving DecidableEq, Repr, Inhabited

namespace Extension

/-- The first octet of an extension header. -/
def firstOctet (e : Extension) : UInt8 :=
  flag 0x80 e.ignore ||| flag 0x40 e.close ||| flag 0x20 e.hopByHop

/-- The four octets of an extension header. -/
def octets (e : Extension) : Octets :=
  [e.firstOctet, e.protocol, (lengthOctets e.length).1, (lengthOctets e.length).2]

/-- The buffer with the extension header in its first four octets. -/
def encode (e : Extension) (buffer : Octets) : Except Flaw Octets := overwrite e.octets buffer

/-- The extension header at the front of some octets, and how many of them it takes. -/
def decode : Octets → Except Flaw (Extension × Nat)
  | first :: protocol :: upper :: lower :: _ =>
    .ok
      ({ ignore := first &&& 0x80 ≠ 0, close := first &&& 0x40 ≠ 0,
         hopByHop := first &&& 0x20 ≠ 0, protocol := protocol,
         length := lengthOf upper lower }, extensionSize)
  | _ => .error .shortInput

end Extension

end Switchboard.Packet
