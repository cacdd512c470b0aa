import Switchboard.Address.Ip

set_option autoImplicit false

/-!
# The text of an IPv4 address

An address is read back from its text (`Ipv4.read?_print`), since the digits of an octet are at most
three and do not start with a zero.  Every text of an address is made of digits and dots.
-/

namespace Switchboard

namespace Decimal

theorem isDigit_of_mem_digits {n : Nat} {c : Char} (h : c ∈ digits n) : c.isDigit = true :=
  Nat.isDigit_of_mem_toDigits (by decide) (by decide) h

theorem isDigit_of_isNumeral {s : Text} (h : isNumeral s = true) {c : Char} (hc : c ∈ s) :
    c.isDigit = true := by
  simp only [isNumeral, Bool.and_eq_true] at h
  exact List.all_eq_true.1 h.2 c hc

/-- No further digit stands behind a zero at the front. -/
theorem digits_ne_zero_cons (n : Nat) (c : Char) (rest : Text) : digits n ≠ '0' :: c :: rest := by
  induction n using Nat.strongRecOn generalizing c rest with
  | ind n ih =>
    intro h
    have hsplit := Nat.toDigits_eq_if (b := 10) (n := n) (by decide)
    by_cases hsmall : n < 10
    · rw [if_pos hsmall] at hsplit
      rw [digits, hsplit] at h
      simp at h
    · rw [if_neg hsmall] at hsplit
      rw [digits, hsplit] at h
      cases hfront : digits (n / 10) with
      | nil => exact Nat.toDigits_ne_nil hfront
      | cons x front =>
        rw [← digits, hfront] at h
        simp only [List.cons_append, List.cons.injEq] at h
        obtain ⟨rfl, hrest⟩ := h
        cases front with
        | nil =>
          -- a quotient written as zero is zero
          have hzero : n / 10 = 0 := by
            rw [← value_digits (n / 10), hfront]
            rfl
          omega
        | cons y front => exact ih (n / 10) (by omega) y front hfront

end Decimal

namespace Ipv4

theorem readOctet?_digits (o : UInt8) : readOctet? (Decimal.digits o.toNat) = some o := by
  have hbound : o.toNat < 256 := o.toNat_lt
  have hlength : (Decimal.digits o.toNat).length ≤ 3 :=
    (Nat.length_toDigits_le_iff (by decide) (by decide)).2 (by omega)
  have hread : Decimal.read? 255 (Decimal.digits o.toNat) = some o.toNat :=
    Decimal.read?_digits (by omega)
  unfold readOctet?
  split
  · next c rest h => exact absurd h (Decimal.digits_ne_zero_cons o.toNat c rest)
  · rw [if_pos hlength, hread, Option.map_some, UInt8.ofNat_toNat]

theorem isDigit_of_readOctet? {s : Text} {o : UInt8} (h : readOctet? s = some o) {c : Char}
    (hc : c ∈ s) : c.isDigit = true := by
  unfold readOctet? at h
  split at h
  · simp at h
  · split at h
    · obtain ⟨n, hn, -⟩ := Option.map_eq_some_iff.1 h
      exact Decimal.isDigit_of_isNumeral (Decimal.read?_eq_some_iff.1 hn).1 hc
    · simp at h

/-- A text of an address is made of digits and dots. -/
theorem isDigit_or_dot_of_read? {s : Text} {ip : Ipv4} (h : read? s = some ip) {c : Char}
    (hc : c ∈ s) : c.isDigit = true ∨ c = '.' := by
  rcases Text.mem_pieces '.' hc with hdot | ⟨piece, hpiece, hmem⟩
  · exact .inr hdot
  · unfold read? at h
    split at h
    · next a b c d hoctets =>
      have hoctet : readOctet? piece ∈ [some a, some b, some c, some d] :=
        hoctets ▸ List.mem_map_of_mem hpiece
      obtain ⟨o, ho⟩ : ∃ o, readOctet? piece = some o := by
        simp only [List.mem_cons, List.not_mem_nil, or_false] at hoctet
        rcases hoctet with ho | ho | ho | ho <;> exact ⟨_, ho⟩
      exact .inl (isDigit_of_readOctet? ho hmem)
    · simp at h

theorem colon_not_mem_of_read? {s : Text} {ip : Ipv4} (h : read? s = some ip) : ':' ∉ s := by
  intro hc
  rcases isDigit_or_dot_of_read? h hc with hdigit | hdot
  · exact Bool.false_ne_true hdigit
  · simp at hdot

theorem pieces_print (ip : Ipv4) : Text.pieces '.' ip.print
    = [Decimal.digits ip.a.toNat, Decimal.digits ip.b.toNat, Decimal.digits ip.c.toNat,
        Decimal.digits ip.d.toNat] := by
  have hpiece : ∀ n, Text.pieces '.' (Decimal.digits n) = [Decimal.digits n] := by
    intro n
    refine Text.pieces_of_not_mem ?_
    exact Text.not_mem_of_forall (fun c hc => Decimal.isDigit_of_mem_digits hc) rfl
  simp only [print, Text.pieces_append_cons, hpiece, List.cons_append, List.nil_append]

/-- An address is read back from its text. -/
theorem read?_print (ip : Ipv4) : read? ip.print = some ip := by
  simp only [read?, pieces_print, List.map_cons, List.map_nil, readOctet?_digits]

end Ipv4

end Switchboard
