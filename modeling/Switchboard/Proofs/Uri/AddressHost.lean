import Switchboard.Proofs.Address.SocketText
import Switchboard.Proofs.Uri.RoundTrip
import Switchboard.Tcp.Address

set_option autoImplicit false

/-!
# Hosts that are addresses

An IP address and a port number, put together, are a host that every reader takes for the same
thing: it is valid in a URI (`isHostText_join`), it makes a URI canonical (`isLiteralHost_join`),
and the TCP transport reads the socket address off it (`Tcp.hostAddr_join`).
-/

namespace Switchboard

namespace Uri

/-! ## Characters -/

theorem isAlphanum_of_isSome_hexDigit? {c : Char} (h : (Ipv6.hexDigit? c).isSome = true) :
    c.isAlphanum = true := by
  unfold Ipv6.hexDigit? at h
  split at h
  · next hdigit => simp [Char.isAlphanum, hdigit]
  · split at h
    · next hlower =>
      have hle : c ≤ 'z' := Char.le_trans hlower.2 (by decide)
      have hlower : c.isLower = true := by
        simpa [Char.isLower, Char.le_def] using ⟨hlower.1, hle⟩
      simp [Char.isAlphanum, Char.isAlpha, hlower]
    · split at h
      · next hupper =>
        have hle : c ≤ 'Z' := Char.le_trans hupper.2 (by decide)
        have hupper : c.isUpper = true := by
          simpa [Char.isUpper, Char.le_def] using ⟨hupper.1, hle⟩
        simp [Char.isAlphanum, Char.isAlpha, hupper]
      · simp at h

theorem isAlphanum_of_isAddressChar {c : Char} (h : Ip.isAddressChar c = true) :
    c.isAlphanum = true ∨ c = ':' ∨ c = '.' := by
  simp only [Ip.isAddressChar, Bool.or_eq_true, beq_iff_eq] at h
  rcases h with (h | h) | h
  · exact .inl (isAlphanum_of_isSome_hexDigit? h)
  · exact .inr (.inl h)
  · exact .inr (.inr h)

/-- No letter and no digit is forbidden in a host. -/
theorem isForbiddenInHost_of_isAlphanum {c : Char} (h : c.isAlphanum = true) :
    isForbiddenInHost c = false := by
  cases hc : isForbiddenInHost c with
  | false => rfl
  | true =>
    exfalso
    simp only [isForbiddenInHost, Bool.or_eq_true, beq_iff_eq] at hc
    rcases hc with ((((((((((hc | hc) | hc) | hc) | hc) | hc) | hc) | hc) | hc) | hc) | hc) | hc <;>
      · subst hc
        exact absurd h (by decide)

/-- No letter and no digit ends a host, wherever it stands in a URI. -/
theorem harmless_of_isAlphanum {c : Char} (h : c.isAlphanum = true) :
    isControl c = false ∧ c ≠ '/' ∧ c ≠ '?' ∧ c ≠ '#' ∧ c ≠ '@' := by
  refine ⟨isControl_of_isAlphanum h, ?_, ?_, ?_, ?_⟩ <;>
    · rintro rfl
      exact absurd h (by decide)

/-! ## A host made of an address and a port -/

section

variable {address port : Text} {ip : Ip} {n : UInt16}

theorem char_join (hip : Ip.read? address = some ip) (hport : SocketAddr.readPort? port = some n)
    {c : Char} (hc : c ∈ HostPort.join address port) :
    c.isAlphanum = true ∨ c = ':' ∨ c = '.' ∨ c = '[' ∨ c = ']' := by
  have haddress : c ∈ address → c.isAlphanum = true ∨ c = ':' ∨ c = '.' := by
    intro hmem
    exact isAlphanum_of_isAddressChar (Ip.isAddressChar_of_read? hip hmem)
  have hdigits : c ∈ port → c.isAlphanum = true := by
    intro hmem
    simp [Char.isAlphanum, SocketAddr.isDigit_of_readPort? hport hmem]
  unfold HostPort.join at hc
  split at hc
  · simp only [List.cons_append, List.mem_cons, List.mem_append] at hc
    tauto
  · simp only [List.mem_cons, List.mem_append] at hc
    tauto

theorem hostFlaw?_of_bracketless {host : Text} (hopen : '[' ∉ host)
    (h : ∀ c ∈ host, isForbiddenInHost c = false) : hostFlaw? host = none := by
  unfold hostFlaw?
  split
  · simp at hopen
  · rw [Option.map_eq_none_iff, List.find?_eq_none]
    intro c hc
    rw [h c hc]
    exact Bool.false_ne_true

theorem hostFlaw?_join (hip : Ip.read? address = some ip)
    (hport : SocketAddr.readPort? port = some n) :
    hostFlaw? (HostPort.join address port) = none := by
  have hopen : '[' ∉ address := Ip.not_mem_of_read? hip rfl
  have hclose : ']' ∉ address := Ip.not_mem_of_read? hip rfl
  by_cases hcolon : ':' ∈ address
  · have hcut : Text.cut? ']' (address ++ ']' :: ':' :: port) = some (address, ':' :: port) :=
      Text.cut?_append_cons (':' :: port) hclose
    rw [HostPort.join_of_mem hcolon, List.cons_append, hostFlaw?, hcut]
    rfl
  · have hportless : '[' ∉ port := SocketAddr.not_mem_of_readPort? hport rfl
    have hcloseless : ']' ∉ port := SocketAddr.not_mem_of_readPort? hport rfl
    have hjoin : HostPort.join address port = address ++ ':' :: port :=
      HostPort.join_of_not_mem hcolon port
    have hplain : '[' ∉ HostPort.join address port := by simp [hjoin, hopen, hportless]
    refine hostFlaw?_of_bracketless hplain ?_
    intro c hc
    rcases char_join hip hport hc with h | rfl | rfl | rfl | rfl
    · exact isForbiddenInHost_of_isAlphanum h
    · rfl
    · rfl
    · exact absurd hc hplain
    · simp [hjoin, hclose, hcloseless] at hc

/-- A URI can have it as its host. -/
theorem isHostText_join (hip : Ip.read? address = some ip)
    (hport : SocketAddr.readPort? port = some n) : IsHostText (HostPort.join address port) where
  chars := by
    intro c hc
    rcases char_join hip hport hc with h | rfl | rfl | rfl | rfl
    · exact harmless_of_isAlphanum h
    · decide
    · decide
    · decide
    · decide
  valid := hostFlaw?_join hip hport

/-- No lookup is needed for it. -/
theorem isLiteralHost_join (hip : Ip.read? address = some ip)
    (hport : SocketAddr.readPort? port = some n) :
    isLiteralHost (HostPort.join address port) = true := by
  rw [isLiteralHost, SocketAddr.split_join_of_read? hip hport]
  simp [hip, hport]

end

end Uri

/-- The TCP transport reads the socket address off it. -/
theorem Tcp.hostAddr_join {address port : Text} {ip : Ip} {n : UInt16}
    (hip : Ip.read? address = some ip) (hport : SocketAddr.readPort? port = some n) :
    Tcp.hostAddr (HostPort.join address port) = .ok (.ofIp n ip) := by
  rw [Tcp.hostAddr, if_neg (HostPort.join_ne_nil address port), SocketAddr.read?_join hip hport]

/-- The TCP transport reads every socket address off its own text. -/
theorem Tcp.hostAddr_print (addr : SocketAddr) : Tcp.hostAddr addr.print = .ok addr := by
  rw [Tcp.hostAddr, if_neg addr.print_ne_nil, SocketAddr.read?_print]

end Switchboard
