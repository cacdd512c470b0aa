import Mathlib.Data.Nat.Bitwise
import Switchboard.Proofs.Packet.StreamLaw

set_option autoImplicit false

/-!
# What the octets of an item say

The first four octets of an item hold thirty-two bits, and all but the reserved ones at the lower
end of the first octet stand for something (`Kind.Meant`).  `Reads` says what reading comes to: too
few octets are turned down before a later version is, and whatever is read is written again as the
same four octets with the reserved bits unset.  Main statement: reading follows these rules, and two
sequences of octets that are read are read as the same item exactly if they agree in the bits that
stand for something (`decode_goes_by_meant_bits`).

The second half needs no look at the layouts: what is read determines the octets that it is written
in, and these determine what is read (`Item.decode_octets`).
-/

namespace Switchboard.Packet

/-! ## The rules -/

/-- The number of reserved bits at the lower end of the first octet. -/
def Kind.reserved : Kind → Nat
  | .header => 2
  | .extension => 5

/-- A bit of the first four octets that stands for something; bit zero is the lowest of its
octet. -/
structure Kind.Meant (kind : Kind) (place bit : Nat) : Prop where
  place_lt : place < 4
  bit_lt : bit < 8
  unreserved : place = 0 → kind.reserved ≤ bit

/-- The octet at a place; behind the end, zero. -/
def octetAt (data : Octets) (place : Nat) : UInt8 := data.getD place 0

/-- A bit of the octet at a place. -/
def bitAt (data : Octets) (place bit : Nat) : Bool := (octetAt data place).toNat.testBit bit

/-- Two sequences of octets have the same bits wherever a bit stands for something. -/
def Agree (kind : Kind) (a b : Octets) : Prop :=
  ∀ place bit, kind.Meant place bit → bitAt a place bit = bitAt b place bit

/-- Four octets are the first four of some data with the reserved bits unset. -/
structure Cleared (kind : Kind) (data octets : Octets) : Prop where
  four : octets.length = 4
  agree : Agree kind octets data
  unset : ∀ bit, bit < kind.reserved → bitAt octets 0 bit = false

/-- What reading an item of a kind from the front of some data comes to. -/
inductive Reads (kind : Kind) (data : Octets) : Except Flaw (Item × Nat) → Prop where
  | short (h : data.length < 4) : Reads kind data (.error .shortInput)
  /-- a header names its version in the upper half of its first octet -/
  | late (version : UInt8) (header : kind = .header) (room : 4 ≤ data.length)
      (nibble : version.toNat = (octetAt data 0).toNat / 16) (h : maxVersion < version) :
      Reads kind data (.error (.versionExceeded version))
  | item (item : Item) (octets : Octets) (same : item.kind = kind) (room : 4 ≤ data.length)
      (written : item.octets = .ok octets) (cleared : Cleared kind data octets) :
      Reads kind data (.ok (item, 4))

/-! ## Bits of an octet -/

theorem eq_of_testBit_eq {x y : UInt8}
    (h : ∀ bit < 8, x.toNat.testBit bit = y.toNat.testBit bit) : x = y := by
  refine UInt8.toNat_inj.1 (Nat.eq_of_testBit_eq fun bit => ?_)
  by_cases hbit : bit < 8
  · exact h bit hbit
  · have hpow : 2 ^ 8 ≤ 2 ^ bit := Nat.pow_le_pow_right (by decide) (Nat.not_lt.1 hbit)
    rw [Nat.testBit_lt_two_pow (Nat.lt_of_lt_of_le x.toNat_lt hpow),
      Nat.testBit_lt_two_pow (Nat.lt_of_lt_of_le y.toNat_lt hpow)]

theorem and_or_and (x a b : UInt8) : x &&& a ||| x &&& b = x &&& (a ||| b) := by
  apply UInt8.toNat_inj.1
  simp only [UInt8.toNat_or, UInt8.toNat_and, Nat.and_or_distrib_left]

/-- A flag that was read from a single bit is written as that bit. -/
theorem flag_and (mask : UInt8) (k : Nat) (hmask : mask.toNat = 2 ^ k) (x : UInt8) :
    flag mask (decide (x &&& mask ≠ 0)) = x &&& mask := by
  have hand : (x &&& mask).toNat = (x.toNat.testBit k).toNat * 2 ^ k := by
    rw [UInt8.toNat_and, hmask, Nat.and_two_pow]
  unfold flag
  cases hbit : x.toNat.testBit k with
  | false =>
    have hzero : x &&& mask = 0 := UInt8.toNat_inj.1 (by simp [hand, hbit])
    simp [hzero]
  | true =>
    have hwhole : x &&& mask = mask := UInt8.toNat_inj.1 (by simp [hand, hbit, hmask])
    have hne : mask ≠ 0 := by
      rintro rfl
      exact absurd hmask.symm (Nat.pos_iff_ne_zero.1 (Nat.two_pow_pos k))
    simp [hwhole, hne]

/-- The upper half of an octet as a number. -/
theorem toNat_upperHalf (x : UInt8) : ((x &&& 0xF0) >>> 4).toNat = x.toNat / 16 := by
  have hall : ∀ n < 256, (n &&& 0xF0) >>> 4 = n / 16 := by decide +kernel
  simpa using hall x.toNat x.toNat_lt

/-- A number that was read from the upper half of an octet is written in that half. -/
theorem upperHalf_shiftLeft (x : UInt8) : ((x &&& 0xF0) >>> 4) <<< 4 &&& 0xF0 = x &&& 0xF0 := by
  have hall : ∀ n < 256, ((n &&& 0xF0) >>> 4) <<< 4 % 256 &&& 0xF0 = n &&& 0xF0 := by decide +kernel
  apply UInt8.toNat_inj.1
  simpa using hall x.toNat x.toNat_lt

/-! ## Octets with the reserved bits unset -/

/-- The bits of the first octet that stand for something. -/
def Kind.mask : Kind → UInt8
  | .header => 0xFC
  | .extension => 0xE0

/-- The first four octets with the reserved bits unset. -/
def Kind.clear (kind : Kind) : Octets → Octets
  | [] => []
  | first :: others => (first &&& kind.mask) :: others.take 3

theorem testBit_mask (kind : Kind) :
    ∀ bit < 8, kind.mask.toNat.testBit bit = decide (kind.reserved ≤ bit) := by
  cases kind <;> decide

theorem exists_four {data : Octets} (room : 4 ≤ data.length) :
    ∃ first protocol upper lower rest, data = first :: protocol :: upper :: lower :: rest := by
  match data, room with
  | first :: protocol :: upper :: lower :: rest, _ =>
    exact ⟨first, protocol, upper, lower, rest, rfl⟩

theorem cleared_clear (kind : Kind) {data : Octets} (room : 4 ≤ data.length) :
    Cleared kind data (kind.clear data) := by
  obtain ⟨first, protocol, upper, lower, rest, rfl⟩ := exists_four room
  have hfirst : ∀ bit < 8, (first &&& kind.mask).toNat.testBit bit
      = (first.toNat.testBit bit && decide (kind.reserved ≤ bit)) := by
    intro bit hbit
    rw [UInt8.toNat_and, Nat.testBit_and, testBit_mask kind bit hbit]
  refine ⟨rfl, ?_, ?_⟩
  · rintro place bit ⟨hplace, hbit, hmeant⟩
    match place with
    | 0 => exact (hfirst bit hbit).trans (by simp [hmeant rfl, bitAt, octetAt])
    | 1 | 2 | 3 => rfl
  · intro bit hreserved
    have hbit : bit < 8 := by
      cases kind <;> exact Nat.lt_trans hreserved (by decide)
    exact (hfirst bit hbit).trans (by simp [hreserved])

/-- Octets that agree in the bits that stand for something are the same once the others are
unset. -/
theorem Cleared.unique {kind : Kind} {a b octets other : Octets} (h : Cleared kind a octets)
    (h' : Cleared kind b other) (same : Agree kind a b) : octets = other := by
  refine List.ext_getElem (h.four.trans h'.four.symm) fun place hleft hright => ?_
  have hplace : place < 4 := h.four ▸ hleft
  refine eq_of_testBit_eq fun bit hbit => ?_
  have hbits : bitAt octets place bit = bitAt other place bit := by
    by_cases hmeant : place = 0 → kind.reserved ≤ bit
    · have meant : kind.Meant place bit := ⟨hplace, hbit, hmeant⟩
      exact (h.agree place bit meant).trans
        ((same place bit meant).trans (h'.agree place bit meant).symm)
    · obtain ⟨rfl, hreserved⟩ := Classical.not_imp.1 hmeant
      rw [h.unset bit (Nat.not_le.1 hreserved), h'.unset bit (Nat.not_le.1 hreserved)]
  simpa [bitAt, octetAt, List.getD_eq_getElem?_getD, hleft, hright] using hbits

theorem cleared_iff {kind : Kind} {data octets : Octets} (room : 4 ≤ data.length) :
    Cleared kind data octets ↔ octets = kind.clear data := by
  constructor
  · intro h
    exact h.unique (cleared_clear kind room) fun _ _ _ => rfl
  · rintro rfl
    exact cleared_clear kind room

/-! ## Reading and writing again -/

/-- The version that the first octet of a header names. -/
def versionOf (first : UInt8) : UInt8 := (first &&& 0xF0) >>> 4

theorem lengthOctets_lengthOf (upper lower : UInt8) :
    lengthOctets (lengthOf upper lower) = (upper, lower) := by
  unfold lengthOctets lengthOf
  rw [upper_join, lower_join]

theorem Item.decode_of_short (kind : Kind) {data : Octets} (h : data.length < 4) :
    Item.decode kind data = .error .shortInput := by
  match data, h with
  | [], _ | [_], _ | [_, _], _ | [_, _, _], _ => cases kind <;> rfl

theorem Item.decode_of_late {first : UInt8} (late : maxVersion < versionOf first)
    (protocol upper lower : UInt8) (rest : Octets) :
    Item.decode .header (first :: protocol :: upper :: lower :: rest)
      = .error (.versionExceeded (versionOf first)) := by
  have hheader : Header.decode (first :: protocol :: upper :: lower :: rest)
      = .error (.versionExceeded (versionOf first)) := if_pos late
  simp only [Item.decode, hheader]
  rfl

/-- A header that can be read is written as the octets it was read from, the reserved bits unset. -/
theorem Header.exists_decode {first : UInt8} (h : ¬ maxVersion < versionOf first)
    (protocol upper lower : UInt8) (rest : Octets) :
    ∃ header, Header.decode (first :: protocol :: upper :: lower :: rest) = .ok (header, 4) ∧
      header.octets = .ok [first &&& 0xFC, protocol, upper, lower] := by
  refine ⟨_, if_neg h, ?_⟩
  rw [Header.octets_of_not_late h, lengthOctets_lengthOf, Header.firstOctet, upperHalf_shiftLeft,
    flag_and 0x08 3 rfl, flag_and 0x04 2 rfl, and_or_and, and_or_and]
  rfl

/-- An extension header is written as the octets it was read from, the reserved bits unset. -/
theorem Extension.exists_decode (first protocol upper lower : UInt8) (rest : Octets) :
    ∃ extension, Extension.decode (first :: protocol :: upper :: lower :: rest)
        = .ok (extension, 4) ∧
      extension.octets = [first &&& 0xE0, protocol, upper, lower] := by
  refine ⟨_, rfl, ?_⟩
  rw [Extension.octets, lengthOctets_lengthOf, Extension.firstOctet, flag_and 0x80 7 rfl,
    flag_and 0x40 6 rfl, flag_and 0x20 5 rfl, and_or_and, and_or_and]
  rfl

/-- Four octets are read, and written again with the reserved bits unset, unless they are those of a
header of a later version. -/
theorem Item.exists_decode (kind : Kind) {data : Octets} (room : 4 ≤ data.length) :
    (kind = .header ∧ maxVersion < versionOf (octetAt data 0) ∧
        Item.decode kind data = .error (.versionExceeded (versionOf (octetAt data 0)))) ∨
      ∃ item, Item.decode kind data = .ok (item, 4) ∧ item.kind = kind ∧
        item.octets = .ok (kind.clear data) := by
  obtain ⟨first, protocol, upper, lower, rest, rfl⟩ := exists_four room
  cases kind with
  | header =>
    by_cases late : maxVersion < versionOf first
    · exact .inl ⟨rfl, late, Item.decode_of_late late protocol upper lower rest⟩
    · obtain ⟨header, hdecode, hoctets⟩ := Header.exists_decode late protocol upper lower rest
      refine .inr ⟨.header header, ?_, rfl, hoctets⟩
      simp only [Item.decode, hdecode]
      rfl
  | extension =>
    obtain ⟨extension, hdecode, hoctets⟩ := Extension.exists_decode first protocol upper lower rest
    refine .inr ⟨.extension extension, ?_, rfl, congrArg Except.ok hoctets⟩
    simp only [Item.decode, hdecode]
    rfl

/-- Reserved bits and what stands behind the first four octets are not looked at. -/
theorem Item.decode_clear (kind : Kind) {data : Octets} (room : 4 ≤ data.length) :
    Item.decode kind (kind.clear data) = Item.decode kind data := by
  obtain ⟨first, protocol, upper, lower, rest, rfl⟩ := exists_four room
  have hmasked : ∀ mask, kind.mask &&& mask = mask →
      first &&& kind.mask &&& mask = first &&& mask := fun mask h => by rw [UInt8.and_assoc, h]
  cases kind with
  | header =>
    have hsame : Header.decode (Kind.header.clear (first :: protocol :: upper :: lower :: rest))
        = Header.decode (first :: protocol :: upper :: lower :: rest) := by
      simp only [Kind.clear, List.take, Header.decode, hmasked 0xF0 rfl, hmasked 0x08 rfl,
        hmasked 0x04 rfl]
    rw [Item.decode, Item.decode, hsame]
  | extension =>
    have hsame :
        Extension.decode (Kind.extension.clear (first :: protocol :: upper :: lower :: rest))
          = Extension.decode (first :: protocol :: upper :: lower :: rest) := by
      simp only [Kind.clear, List.take, Extension.decode, hmasked 0x80 rfl, hmasked 0x40 rfl,
        hmasked 0x20 rfl]
    rw [Item.decode, Item.decode, hsame]

/-! ## Main statement -/

theorem reads_decode (kind : Kind) (data : Octets) : Reads kind data (Item.decode kind data) := by
  by_cases short : data.length < 4
  · rw [Item.decode_of_short kind short]
    exact .short short
  have room : 4 ≤ data.length := Nat.not_lt.1 short
  rcases Item.exists_decode kind room with ⟨header, late, hdecode⟩ | ⟨item, hdecode, same, written⟩
  · rw [hdecode]
    exact .late _ header room (toNat_upperHalf _) late
  · rw [hdecode]
    exact .item item _ same room written (cleared_clear kind room)

theorem decode_of_reads {kind : Kind} {data : Octets} {result : Except Flaw (Item × Nat)}
    (h : Reads kind data result) : Item.decode kind data = result := by
  cases h with
  | short h => exact Item.decode_of_short kind h
  | late version header room nibble h =>
    subst header
    obtain ⟨first, protocol, upper, lower, rest, rfl⟩ := exists_four room
    obtain rfl : versionOf first = version :=
      UInt8.toNat_inj.1 ((toNat_upperHalf first).trans nibble.symm)
    exact Item.decode_of_late h protocol upper lower rest
  | item item octets same room written cleared =>
    obtain rfl := (cleared_iff room).1 cleared
    have hread := Item.decode_octets written []
    rwa [List.append_nil, same, Item.decode_clear kind room] at hread

/-- What was read says which octets it is written in. -/
theorem octets_of_decode {kind : Kind} {data : Octets} {item : Item} {used : Nat}
    (h : Item.decode kind data = .ok (item, used)) :
    item.kind = kind ∧ item.octets = .ok (kind.clear data) ∧
      Cleared kind data (kind.clear data) := by
  cases h ▸ reads_decode kind data with
  | item _ octets same room written cleared =>
    obtain rfl := (cleared_iff room).1 cleared
    exact ⟨same, written, cleared⟩

/-- Two items of a kind that are written alike are the same. -/
theorem Item.eq_of_octets {x y : Item} {octets : Octets} (same : x.kind = y.kind)
    (hx : x.octets = .ok octets) (hy : y.octets = .ok octets) : x = y := by
  have hread := Item.decode_octets hx []
  rw [same, Item.decode_octets hy []] at hread
  exact (congrArg Prod.fst (Except.ok.inj hread)).symm

/-- Reading follows the rules, and they leave it no choice.  Two sequences of octets that are read
as items of one kind are read as the same item exactly if they agree in the bits that stand for
something. -/
theorem decode_goes_by_meant_bits (kind : Kind) :
    (∀ data result, Item.decode kind data = result ↔ Reads kind data result) ∧
    ∀ a b x y m n, Item.decode kind a = .ok (x, m) → Item.decode kind b = .ok (y, n) →
      (x = y ↔ Agree kind a b) := by
  refine ⟨fun data result => ⟨?_, decode_of_reads⟩, ?_⟩
  · rintro rfl
    exact reads_decode kind data
  intro a b x y m n hx hy
  obtain ⟨xkind, xwritten, xcleared⟩ := octets_of_decode hx
  obtain ⟨ykind, ywritten, ycleared⟩ := octets_of_decode hy
  constructor
  · rintro rfl
    have hsame : kind.clear a = kind.clear b := Except.ok.inj (xwritten.symm.trans ywritten)
    intro place bit meant
    rw [← xcleared.agree place bit meant, hsame, ycleared.agree place bit meant]
  · intro agree
    rw [xcleared.unique ycleared agree] at xwritten
    exact Item.eq_of_octets (xkind.trans ykind.symm) xwritten ywritten

/-- Two headers that differ in a reserved bit and in what stands behind them are read as the
same. -/
theorem decode_goes_by_meant_bits_of_reserved :
    let a : Octets := [0x0B, 0x07, 0x12, 0x34, 0xFF]
    let b : Octets := [0x08, 0x07, 0x12, 0x34]
    let read : Item := .header { reply := true, protocol := 7, length := 0x1234 }
    Item.decode .header a = .ok (read, 4) ∧ Item.decode .header b = .ok (read, 4) ∧
      Agree .header a b := by
  intro a b read
  have ha : Item.decode .header a = .ok (read, 4) := rfl
  have hb : Item.decode .header b = .ok (read, 4) := rfl
  exact ⟨ha, hb, ((decode_goes_by_meant_bits .header).2 a b read read 4 4 ha hb).1 rfl⟩

end Switchboard.Packet
