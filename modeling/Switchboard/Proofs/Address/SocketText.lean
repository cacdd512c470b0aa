import Switchboard.Address.SocketAddr
import Switchboard.HostPort
import Switchboard.Proofs.Address.Ipv6Text

set_option autoImplicit false

/-!
# An address and a port in one text

The readers of an IP address, of a host with a port, and of a socket address agree: whatever text
stands for an IP address, with a port number behind it, is divided into the two again
(`HostPort.split_join`), and is read as the socket address that they make up
(`SocketAddr.read?_join`).  Leading zeros of the port make no difference to either.  A socket
address is read back from its text, with its zone if it has one (`SocketAddr.read?_print`).
-/

namespace Switchboard

namespace HostPort

theorem split_of_bracketless {s : Text} (h : '[' ∉ s) : split s = splitPlain s := by
  unfold split
  split
  · simp at h
  · rfl

/-- A host and a port are taken apart as they were put together. -/
theorem split_join {host port : Text} (hopen : '[' ∉ host ++ port) (hclose : ']' ∉ host ++ port)
    (hcolon : ':' ∉ port) : split (join host port) = .ok (host, port) := by
  simp only [List.mem_append, not_or] at hopen hclose
  by_cases hhost : ':' ∈ host
  · have hcut : Text.cut? ']' (host ++ ']' :: ':' :: port) = some (host, ':' :: port) :=
      Text.cut?_append_cons (':' :: port) hclose.1
    rw [join_of_mem hhost, List.cons_append, split_cons_bracket, splitBracketed, hcut]
    simp [hopen, hclose, hcolon]
  · have hplain : '[' ∉ host ++ ':' :: port := by simp [hopen]
    rw [join_of_not_mem hhost, split_of_bracketless hplain, splitPlain,
      Text.cutLast?_append_cons host hcolon]
    simp [hopen, hclose, hhost]

theorem join_ne_nil (host port : Text) : join host port ≠ [] := by
  unfold join
  split
  · simp
  · simp

end HostPort

namespace Ip

/-- The characters of addresses. -/
def isAddressChar (c : Char) : Bool := (Ipv6.hexDigit? c).isSome || c == ':' || c == '.'

theorem isAddressChar_of_read? {s : Text} {ip : Ip} (h : read? s = some ip) {c : Char}
    (hc : c ∈ s) : isAddressChar c = true := by
  unfold read? at h
  split at h
  · next inner hinner =>
    rcases Ipv4.isDigit_or_dot_of_read? hinner hc with hdigit | rfl
    · simp [isAddressChar, Ipv6.isSome_hexDigit?_of_isDigit hdigit]
    · rfl
  · obtain ⟨inner, hinner, -⟩ := Option.map_eq_some_iff.1 h
    rcases Ipv6.char_of_read? hinner hc with hhex | rfl | rfl
    · simp [isAddressChar, hhex]
    · rfl
    · rfl

theorem not_mem_of_read? {s : Text} {ip : Ip} (h : read? s = some ip) {c : Char}
    (hc : isAddressChar c = false) : c ∉ s :=
  Text.not_mem_of_forall (fun _ hmem => isAddressChar_of_read? h hmem) hc

/-- No text with a colon is that of an IPv4 address. -/
theorem read?_ipv4_eq_none {s : Text} (h : ':' ∈ s) : Ipv4.read? s = none := by
  cases hread : Ipv4.read? s with
  | none => rfl
  | some inner => exact absurd h (Ipv4.colon_not_mem_of_read? hread)

theorem read?_eq_v4_iff {s : Text} {inner : Ipv4} :
    read? s = some (.v4 inner) ↔ Ipv4.read? s = some inner := by
  unfold read?
  cases Ipv4.read? s with
  | none => simp
  | some other => simp

theorem read?_eq_v6_iff {s : Text} {inner : Ipv6} :
    read? s = some (.v6 inner) ↔ Ipv6.read? s = some inner := by
  unfold read?
  constructor
  · intro h
    split at h
    · simp at h
    · simpa using h
  · intro h
    rw [read?_ipv4_eq_none (Ipv6.colon_mem_of_read? h), h]
    rfl

/-- An address is read back from its text, as one of its own family. -/
theorem read?_print (ip : Ip) : read? ip.print = some ip := by
  cases ip with
  | v4 inner => exact read?_eq_v4_iff.2 (Ipv4.read?_print inner)
  | v6 inner => exact read?_eq_v6_iff.2 (Ipv6.read?_print inner)

end Ip

namespace SocketAddr

/-- A port number is a numeral of its value, with or without leading zeros. -/
theorem readPort?_eq_some_iff {port : Text} {n : UInt16} :
    readPort? port = some n ↔ Decimal.isNumeral port = true ∧ Decimal.value port = n.toNat := by
  have hbound : n.toNat < 65536 := n.toNat_lt
  constructor
  · intro h
    obtain ⟨k, hk, rfl⟩ := Option.map_eq_some_iff.1 h
    obtain ⟨hnumeral, rfl, hle⟩ := Decimal.read?_eq_some_iff.1 hk
    refine ⟨hnumeral, ?_⟩
    rw [UInt16.toNat_ofNat', Nat.mod_eq_of_lt (by omega)]
  · rintro ⟨hnumeral, hvalue⟩
    have hread : Decimal.read? 65535 port = some n.toNat :=
      Decimal.read?_eq_some_iff.2 ⟨hnumeral, hvalue, by omega⟩
    rw [readPort?, hread, Option.map_some, UInt16.ofNat_toNat]

theorem readPort?_digits (n : UInt16) : readPort? (Decimal.digits n.toNat) = some n :=
  readPort?_eq_some_iff.2 ⟨Decimal.isNumeral_digits _, Decimal.value_digits _⟩

theorem isDigit_of_readPort? {port : Text} {n : UInt16} (h : readPort? port = some n) {c : Char}
    (hc : c ∈ port) : c.isDigit = true :=
  Decimal.isDigit_of_isNumeral (readPort?_eq_some_iff.1 h).1 hc

theorem not_mem_of_readPort? {port : Text} {n : UInt16} (h : readPort? port = some n) {c : Char}
    (hc : c.isDigit = false) : c ∉ port :=
  Text.not_mem_of_forall (fun _ hmem => isDigit_of_readPort? h hmem) hc

theorem read?_of_bracketless {address port : Text} (hopen : '[' ∉ address)
    (hcolon : ':' ∉ address) : read? (address ++ ':' :: port)
      = (Ipv4.read? address).bind fun ip => (readPort? port).map (.v4 ip ·) := by
  unfold read?
  split
  · next inner hinner =>
    cases address with
    | nil => simp at hinner
    | cons c rest =>
      simp only [List.cons_append, List.cons.injEq] at hinner
      simp [hinner.1] at hopen
  · rw [Text.cut?_append_cons port hcolon]

theorem read?_bracketed {address : Text} (hclose : ']' ∉ address) (hzone : '%' ∉ address)
    (port : Text) : read? ('[' :: address ++ ']' :: ':' :: port)
      = (Ipv6.read? address).bind fun ip => (readPort? port).map (.v6 ip · 0) := by
  have hcut : Text.cut? ']' (address ++ ']' :: ':' :: port) = some (address, ':' :: port) :=
    Text.cut?_append_cons (':' :: port) hclose
  have hzoneless : Text.cut? '%' address = none := Text.cut?_eq_none_iff.2 hzone
  rw [List.cons_append, read?, hcut]
  show (readZoned? address).bind _ = _
  rw [readZoned?, hzoneless]
  cases Ipv6.read? address <;> rfl

/-- A text of an address and a port number, put together, are taken apart again. -/
theorem split_join_of_read? {address port : Text} {ip : Ip} {n : UInt16}
    (hip : Ip.read? address = some ip) (hport : readPort? port = some n) :
    HostPort.split (HostPort.join address port) = .ok (address, port) := by
  refine HostPort.split_join ?_ ?_ (not_mem_of_readPort? hport rfl)
  · rw [List.mem_append, not_or]
    exact ⟨Ip.not_mem_of_read? hip rfl, not_mem_of_readPort? hport rfl⟩
  · rw [List.mem_append, not_or]
    exact ⟨Ip.not_mem_of_read? hip rfl, not_mem_of_readPort? hport rfl⟩

/-- A text of an address and a port number, put together, are read as a socket address. -/
theorem read?_join {address port : Text} {ip : Ip} {n : UInt16} (hip : Ip.read? address = some ip)
    (hport : readPort? port = some n) :
    read? (HostPort.join address port) = some (ofIp n ip) := by
  cases ip with
  | v4 inner =>
    have hinner : Ipv4.read? address = some inner := Ip.read?_eq_v4_iff.1 hip
    have hcolon : ':' ∉ address := Ipv4.colon_not_mem_of_read? hinner
    have hopen : '[' ∉ address := Ip.not_mem_of_read? hip rfl
    rw [HostPort.join_of_not_mem hcolon, read?_of_bracketless hopen hcolon, hinner, hport]
    rfl
  | v6 inner =>
    have hinner : Ipv6.read? address = some inner := Ip.read?_eq_v6_iff.1 hip
    have hcolon : ':' ∈ address := Ipv6.colon_mem_of_read? hinner
    have hclose : ']' ∉ address := Ip.not_mem_of_read? hip rfl
    have hzone : '%' ∉ address := Ip.not_mem_of_read? hip rfl
    rw [HostPort.join_of_mem hcolon, read?_bracketed hclose hzone, hinner, hport]
    rfl

/-! ## Zones -/

theorem readZone?_digits (zone : UInt32) : readZone? (Decimal.digits zone.toNat) = some zone := by
  have hbound : zone.toNat < 4294967296 := zone.toNat_lt
  rw [readZone?, Decimal.read?_digits (by omega), Option.map_some, UInt32.ofNat_toNat]

theorem char_of_mem_printZone {zone : UInt32} {c : Char} (hc : c ∈ printZone zone) :
    c = '%' ∨ c.isDigit = true := by
  unfold printZone at hc
  split at hc
  · simp at hc
  · refine (List.mem_cons.1 hc).imp_right ?_
    exact Decimal.isDigit_of_isNumeral (Decimal.isNumeral_digits _)

/-- Between the brackets of an IPv6 address there is no bracket. -/
theorem bracketless_zoned (ip : Ipv6) (zone : UInt32) :
    '[' ∉ ip.print ++ printZone zone ∧ ']' ∉ ip.print ++ printZone zone := by
  have hip : Ip.read? ip.print = some (.v6 ip) := Ip.read?_print (.v6 ip)
  have hzone : ∀ c, c ≠ '%' → c.isDigit = false → c ∉ printZone zone := by
    intro c hpercent hdigit hc
    rcases char_of_mem_printZone hc with h | h
    · exact hpercent h
    · rw [hdigit] at h
      exact Bool.false_ne_true h
  rw [List.mem_append, List.mem_append, not_or, not_or]
  exact ⟨⟨Ip.not_mem_of_read? hip rfl, hzone '[' (by decide) rfl⟩,
    Ip.not_mem_of_read? hip rfl, hzone ']' (by decide) rfl⟩

theorem readZoned?_zoned (ip : Ipv6) (zone : UInt32) :
    readZoned? (ip.print ++ printZone zone) = some (ip, zone) := by
  have hpercent : '%' ∉ ip.print := Ip.not_mem_of_read? (Ip.read?_print (.v6 ip)) rfl
  by_cases hzone : zone = 0
  · rw [printZone, if_pos hzone, List.append_nil, readZoned?, Text.cut?_eq_none_iff.2 hpercent]
    simp [Ipv6.read?_print, hzone]
  · rw [printZone, if_neg hzone, readZoned?, Text.cut?_append_cons _ hpercent]
    simp [Ipv6.read?_print, readZone?_digits]

theorem print_ne_nil (addr : SocketAddr) : addr.print ≠ [] := by
  cases addr <;> simp [print]

theorem print_v4_eq_join (ip : Ipv4) (port : UInt16) :
    (v4 ip port).print = HostPort.join ip.print (Decimal.digits port.toNat) := by
  have hip : Ip.read? ip.print = some (.v4 ip) := Ip.read?_print (.v4 ip)
  have hcolon : ':' ∉ ip.print := Ipv4.colon_not_mem_of_read? (Ip.read?_eq_v4_iff.1 hip)
  rw [HostPort.join_of_not_mem hcolon, print]

/-- A socket address is read back from its text. -/
theorem read?_print (addr : SocketAddr) : read? addr.print = some addr := by
  cases addr with
  | v4 ip port =>
    rw [print_v4_eq_join]
    exact read?_join (Ip.read?_print (.v4 ip)) (readPort?_digits port)
  | v6 ip port zone =>
    have hcut := Text.cut?_append_cons (':' :: Decimal.digits port.toNat)
      (bracketless_zoned ip zone).2
    rw [print, List.cons_append, List.cons_append, read?, hcut]
    simp [readZoned?_zoned, readPort?_digits]

end SocketAddr

end Switchboard
