set_option autoImplicit false

/-!
# Words and their octets
-/

namespace Switchboard

/-- The number of a word that is put together from two octets. -/
theorem toNat_join (upper lower : UInt8) :
    (upper.toUInt16 <<< 8 ||| lower.toUInt16).toNat = upper.toNat * 256 + lower.toNat := by
  have hupper : upper.toNat < 256 := upper.toNat_lt
  have hlower : lower.toNat < 2 ^ 8 := lower.toNat_lt
  have hfits : upper.toNat <<< 8 % 2 ^ 16 = upper.toNat <<< 8 := by
    refine Nat.mod_eq_of_lt ?_
    rw [Nat.shiftLeft_eq]
    omega
  rw [UInt16.toNat_or, UInt16.toNat_shiftLeft, UInt8.toNat_toUInt16, UInt8.toNat_toUInt16]
  show upper.toNat <<< 8 % 2 ^ 16 ||| lower.toNat = _
  rw [hfits, ← Nat.shiftLeft_add_eq_or_of_lt hlower, Nat.shiftLeft_eq]

/-- A word of sixteen bits is its upper and its lower octet put together again. -/
theorem join_halves (n : UInt16) : (n >>> 8).toUInt8.toUInt16 <<< 8 ||| n.toUInt8.toUInt16 = n := by
  have hbound : n.toNat < 65536 := n.toNat_lt
  have hupper : (n >>> 8).toUInt8.toNat = n.toNat / 256 := by
    simp [Nat.shiftRight_eq_div_pow]
    omega
  have hlower : n.toUInt8.toNat = n.toNat % 256 := by simp
  apply UInt16.toNat_inj.1
  rw [toNat_join, hupper, hlower]
  omega

/-- Two octets put together are the upper and the lower octet of the word. -/
theorem upper_join (upper lower : UInt8) :
    ((upper.toUInt16 <<< 8 ||| lower.toUInt16) >>> 8).toUInt8 = upper := by
  have hupper : upper.toNat < 256 := upper.toNat_lt
  have hlower : lower.toNat < 256 := lower.toNat_lt
  apply UInt8.toNat_inj.1
  rw [UInt16.toNat_toUInt8, UInt16.toNat_shiftRight, toNat_join]
  show (upper.toNat * 256 + lower.toNat) >>> 8 % 256 = upper.toNat
  rw [Nat.shiftRight_eq_div_pow]
  omega

theorem lower_join (upper lower : UInt8) :
    (upper.toUInt16 <<< 8 ||| lower.toUInt16).toUInt8 = lower := by
  have hlower : lower.toNat < 256 := lower.toNat_lt
  apply UInt8.toNat_inj.1
  rw [UInt16.toNat_toUInt8, toNat_join]
  omega

end Switchboard
