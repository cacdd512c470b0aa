import Switchboard.Text.Decimal

set_option autoImplicit false

/-!
# IP addresses and their text

An IPv4 address is four octets, written in decimal with dots between them and without leading
zeros.  An IPv6 address is eight groups of sixteen bits, written in hexadecimal with colons
between them; a double colon stands for the run of zero groups that is left out.

Writing has one form for each address: lower-case digits, the longest run of two or more zero
groups (the first of equally long ones) left out, and the dotted form for the last two groups of an
address that holds an IPv4 address (`::ffff:a.b.c.d`).  Reading accepts every text of the grammar:
one to four digits a group in either case, a double colon for at least one group, and the dotted
form of the last two groups wherever they are not left out.
-/

namespace Switchboard

/-- An IPv4 address, octet by octet. -/
structure Ipv4 where
  a : UInt8
  b : UInt8
  c : UInt8
  d : UInt8
  deriving DecidableEq, Repr, Inhabited

/-- An IPv6 address: eight groups of sixteen bits. -/
structure Ipv6 where
  groups : List UInt16
  length_groups : groups.length = 8 := by decide
  deriving DecidableEq, Repr

/-- An IP address of either family. -/
inductive Ip where
  | v4 (address : Ipv4)
  | v6 (address : Ipv6)
  deriving DecidableEq, Repr

namespace Ipv4

/-- The address that stands for every address of the host. -/
def unspecified : Ipv4 := ⟨0, 0, 0, 0⟩

/-- The address of the host itself. -/
def loopback : Ipv4 := ⟨127, 0, 0, 1⟩

/-- Whether an address is one of the host itself. -/
def isLoopback (ip : Ipv4) : Bool := ip.a == 127

/-- The address that stands for every host of the network. -/
def broadcast : Ipv4 := ⟨255, 255, 255, 255⟩

/-- Whether an address stands for a group of hosts. -/
def isMulticast (ip : Ipv4) : Bool := 224 ≤ ip.a.toNat && ip.a.toNat < 240

/-- An address in dotted decimal form. -/
def print (ip : Ipv4) : Text :=
  Decimal.digits ip.a.toNat ++ '.' :: (Decimal.digits ip.b.toNat ++ '.' ::
    (Decimal.digits ip.c.toNat ++ '.' :: Decimal.digits ip.d.toNat))

/-- One octet: one to three decimal digits, no leading zero, at most 255. -/
def readOctet? (s : Text) : Option UInt8 :=
  match s with
  | '0' :: _ :: _ => none
  | _ => if s.length ≤ 3 then (Decimal.read? 255 s).map UInt8.ofNat else none

/-- The address that a text in dotted decimal form stands for. -/
def read? (s : Text) : Option Ipv4 :=
  match (Text.pieces '.' s).map readOctet? with
  | [some a, some b, some c, some d] => some ⟨a, b, c, d⟩
  | _ => none

end Ipv4

namespace Ipv6

/-- The address that stands for every address of the host. -/
def unspecified : Ipv6 where groups := [0, 0, 0, 0, 0, 0, 0, 0]

/-- The address of the host itself. -/
def loopback : Ipv6 where groups := [0, 0, 0, 0, 0, 0, 0, 1]

instance : Inhabited Ipv6 := ⟨unspecified⟩

/-- The first group of an address. -/
def firstGroup (ip : Ipv6) : UInt16 := ip.groups.headD 0

/-- Whether an address stands for a group of hosts. -/
def isMulticast (ip : Ipv6) : Bool := ip.firstGroup &&& 0xff00 == 0xff00

/-- Whether an address has its meaning on one link only, which a zone tells. -/
def isLinkLocal (ip : Ipv6) : Bool := ip.firstGroup &&& 0xffc0 == 0xfe80

/-! ## Writing -/

/-- The number of zero groups at the front. -/
def leadingZeros (groups : List UInt16) : Nat := (groups.takeWhile (· = 0)).length

/-- Start and length of the longest run of zero groups, the first of equally long ones, in a list
whose first group has position `start`; `best` is the longest run before it. -/
def longestZeros (start : Nat) (best : Nat × Nat) : List UInt16 → Nat × Nat
  | [] => best
  | g :: rest =>
    let here := leadingZeros (g :: rest)
    longestZeros (start + 1) (if best.2 < here then (start, here) else best) rest

/-- A group in hexadecimal digits. -/
def printGroup (g : UInt16) : Text := Nat.toDigits 16 g.toNat

/-- Groups in hexadecimal digits with colons between them. -/
def printGroups : List UInt16 → Text
  | [] => []
  | [g] => printGroup g
  | g :: rest => printGroup g ++ ':' :: printGroups rest

/-- The upper and the lower octet of a group. -/
def octetsOf (g : UInt16) : UInt8 × UInt8 := ((g >>> 8).toUInt8, g.toUInt8)

/-- The two groups that hold an IPv4 address. -/
def groupsOf (ip : Ipv4) : List UInt16 :=
  [ip.a.toUInt16 <<< 8 ||| ip.b.toUInt16, ip.c.toUInt16 <<< 8 ||| ip.d.toUInt16]

/-- The IPv4 address inside an address that maps one. -/
def mapped? (ip : Ipv6) : Option Ipv4 :=
  match ip.groups with
  | [0, 0, 0, 0, 0, 0xffff, g, h] =>
    some ⟨(octetsOf g).1, (octetsOf g).2, (octetsOf h).1, (octetsOf h).2⟩
  | _ => none

/-- The address that maps an IPv4 address. -/
def ofMapped (ip : Ipv4) : Ipv6 where
  groups := 0 :: 0 :: 0 :: 0 :: 0 :: 0xffff :: groupsOf ip
  length_groups := rfl

/-- An address with its longest run of zero groups left out. -/
def printPlain (groups : List UInt16) : Text :=
  let (start, count) := longestZeros 0 (0, 0) groups
  if 1 < count then
    printGroups (groups.take start) ++ ':' :: ':' :: printGroups (groups.drop (start + count))
  else printGroups groups

/-- The text of an address. -/
def print (ip : Ipv6) : Text :=
  match ip.mapped? with
  | some inner => [':', ':', 'f', 'f', 'f', 'f', ':'] ++ inner.print
  | none => printPlain ip.groups

/-! ## Reading -/

/-- The value of a hexadecimal digit in either case. -/
def hexDigit? (c : Char) : Option Nat :=
  if c.isDigit then some (c.toNat - 48)
  else if 'a' ≤ c ∧ c ≤ 'f' then some (c.toNat - 87)
  else if 'A' ≤ c ∧ c ≤ 'F' then some (c.toNat - 55)
  else none

/-- The value of a run of hexadecimal digits, with the value so far in front. -/
def hexValue? (sofar : Nat) : Text → Option Nat
  | [] => some sofar
  | c :: rest => (hexDigit? c).bind fun d => hexValue? (16 * sofar + d) rest

/-- One group: one to four hexadecimal digits. -/
def readGroup? (s : Text) : Option UInt16 :=
  if s.isEmpty || 4 < s.length then none else (hexValue? 0 s).map UInt16.ofNat

/-- Groups between colons; the last piece may be an IPv4 address when `dotted` allows it. -/
def readPieces? (dotted : Bool) : List Text → Option (List UInt16)
  | [] => some []
  | [piece] =>
    match readGroup? piece with
    | some g => some [g]
    | none => if dotted then (Ipv4.read? piece).map groupsOf else none
  | piece :: rest =>
    (readGroup? piece).bind fun g => (readPieces? dotted rest).map (g :: ·)

/-- The groups on one side of a double colon, where no text is no groups. -/
def readSide? (dotted : Bool) (s : Text) : Option (List UInt16) :=
  if s.isEmpty then some [] else readPieces? dotted (Text.pieces ':' s)

/-- The text before the first double colon and the text after it. -/
def cutDouble? : Text → Option (Text × Text)
  | [] => none
  | [_] => none
  | x :: y :: rest =>
    if x = ':' ∧ y = ':' then some ([], rest)
    else (cutDouble? (y :: rest)).map fun sides => (x :: sides.1, sides.2)

/-- The address of eight groups, if there are eight. -/
def ofGroups? (groups : List UInt16) : Option Ipv6 :=
  if h : groups.length = 8 then some ⟨groups, h⟩ else none

/-- The address that a text stands for. -/
def read? (s : Text) : Option Ipv6 :=
  match cutDouble? s with
  | none => (readSide? true s).bind ofGroups?
  | some (front, back) =>
    (readSide? false front).bind fun head =>
      (readSide? true back).bind fun tail =>
        if head.length + tail.length ≤ 7 then
          ofGroups? (head ++ List.replicate (8 - head.length - tail.length) 0 ++ tail)
        else none

end Ipv6

namespace Ip

/-- The text of an address. -/
def print : Ip → Text
  | .v4 ip => ip.print
  | .v6 ip => ip.print

/-- The address that a text stands for, of the family whose grammar it follows. -/
def read? (s : Text) : Option Ip :=
  match Ipv4.read? s with
  | some ip => some (.v4 ip)
  | none => (Ipv6.read? s).map .v6

end Ip

end Switchboard
