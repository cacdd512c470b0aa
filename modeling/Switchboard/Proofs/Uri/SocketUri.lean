import Switchboard.Proofs.Uri.AddressHost

set_option autoImplicit false

/-!
# URIs of socket addresses

The text of a socket address is a valid host, with a zone or without one (`isHostText_print`).  So
the URI that is made of a scheme and a socket address is read back from its text exactly if its
scheme can be read, and the TCP transport reads the socket address off its host in any case.  Main
statement: `parse_print_ofSocketAddr_iff`.
-/

namespace Switchboard.Uri

/-! ## Schemes in small letters -/

/-- A character that can stand in the name of a scheme, and is no capital. -/
def IsSmallSchemeChar (c : Char) : Prop :=
  c.isLower = true ∨ c.isDigit = true ∨ c = '+' ∨ c = '-' ∨ c = '.'

/-- A small letter, and then small letters, digits, plus signs, hyphens and dots. -/
def IsSmallName (scheme : Text) : Prop :=
  ∃ first rest, scheme = first :: rest ∧ first.isLower = true ∧ ∀ c ∈ rest, IsSmallSchemeChar c

theorem isUpper_eq_false_of_small {c : Char} (h : c.isLower = true ∨ c.isDigit = true) :
    c.isUpper = false := by
  simp only [Char.isLower, Char.isDigit, Char.isUpper, Bool.and_eq_true, decide_eq_true_eq,
    ge_iff_le, UInt32.le_iff_toNat_le] at h ⊢
  simp at h ⊢
  omega

theorem isLower_iff {c : Char} : c.isLower = true ↔ c.isAlpha = true ∧ c.isUpper = false := by
  constructor
  · intro h
    exact ⟨by simp [Char.isAlpha, h], isUpper_eq_false_of_small (.inl h)⟩
  · rintro ⟨halpha, hupper⟩
    simpa [Char.isAlpha, hupper] using halpha

theorem isSmallSchemeChar_iff {c : Char} :
    IsSmallSchemeChar c ↔ isSchemeChar c = true ∧ c.isUpper = false := by
  constructor
  · rintro (h | h | rfl | rfl | rfl)
    · exact ⟨by simp [isSchemeChar, Char.isAlphanum, (isLower_iff.1 h).1],
        isUpper_eq_false_of_small (.inl h)⟩
    · exact ⟨by simp [isSchemeChar, Char.isAlphanum, h], isUpper_eq_false_of_small (.inr h)⟩
    · exact ⟨rfl, rfl⟩
    · exact ⟨rfl, rfl⟩
    · exact ⟨rfl, rfl⟩
  · rintro ⟨hscheme, hupper⟩
    simp only [isSchemeChar, Char.isAlphanum, Bool.or_eq_true, beq_iff_eq] at hscheme
    rcases hscheme with (((halpha | hdigit) | h) | h) | h
    · exact .inl (isLower_iff.2 ⟨halpha, hupper⟩)
    · exact .inr (.inl hdigit)
    · exact .inr (.inr (.inl h))
    · exact .inr (.inr (.inr (.inl h)))
    · exact .inr (.inr (.inr (.inr h)))

theorem toLower_eq_iff {c : Char} : c.toLower = c ↔ c.isUpper = false := by
  constructor
  · intro h
    rw [← h]
    exact Char.isUpper_toLower_eq_false c
  · intro h
    exact Char.toLower_eq_of_not_isUpper (by simp [h])

theorem map_toLower_eq_iff {s : Text} :
    s.map Char.toLower = s ↔ ∀ c ∈ s, c.isUpper = false := by
  nth_rewrite 2 [← List.map_id s]
  simp only [List.map_eq_map_iff, id, toLower_eq_iff]

/-- They are the names that are left as they are when they are read. -/
theorem isSmallName_iff {scheme : Text} :
    IsSmallName scheme ↔ isSchemeName scheme = true ∧ scheme.map Char.toLower = scheme := by
  cases scheme with
  | nil => simp [IsSmallName, isSchemeName]
  | cons first rest =>
    have hname : isSchemeName (first :: rest) = true ↔
        first.isAlpha = true ∧ ∀ c ∈ rest, isSchemeChar c = true := by
      rw [isSchemeName, Bool.and_eq_true, List.all_eq_true]
      rfl
    rw [hname, List.map_cons, List.cons.injEq, toLower_eq_iff, map_toLower_eq_iff]
    constructor
    · rintro ⟨_, _, heq, hfirst, hrest⟩
      obtain ⟨rfl, rfl⟩ := List.cons.inj heq
      have hfirst := isLower_iff.1 hfirst
      have hrest := fun c hc => isSmallSchemeChar_iff.1 (hrest c hc)
      exact ⟨⟨hfirst.1, fun c hc => (hrest c hc).1⟩, hfirst.2, fun c hc => (hrest c hc).2⟩
    · rintro ⟨⟨halpha, hchars⟩, hupper, huppers⟩
      refine ⟨first, rest, rfl, isLower_iff.2 ⟨halpha, hupper⟩, ?_⟩
      intro c hc
      exact isSmallSchemeChar_iff.2 ⟨hchars c hc, huppers c hc⟩

/-! ## Socket addresses as hosts -/

theorem hostFlaw?_bracketed {inner : Text} (hclose : ']' ∉ inner) (port : Text) :
    hostFlaw? ('[' :: inner ++ ']' :: ':' :: port) = none := by
  rw [List.cons_append, hostFlaw?, Text.cut?_append_cons (':' :: port) hclose]
  rfl

/-- A URI can have the text of a socket address as its host. -/
theorem isHostText_print (addr : SocketAddr) : IsHostText addr.print := by
  cases addr with
  | v4 ip port =>
    rw [SocketAddr.print_v4_eq_join]
    exact isHostText_join (Ip.read?_print (.v4 ip)) (SocketAddr.readPort?_digits port)
  | v6 ip port zone =>
    have hip : Ip.read? ip.print = some (.v6 ip) := Ip.read?_print (.v6 ip)
    have hdigit : ∀ c : Char, c.isDigit = true → c.isAlphanum = true := by
      intro c hc
      simp [Char.isAlphanum, hc]
    refine ⟨?_, ?_⟩
    · intro c hc
      simp only [SocketAddr.print, List.mem_append, List.mem_cons] at hc
      rcases hc with ((rfl | hc) | hc) | rfl | rfl | hc
      · decide
      · rcases isAlphanum_of_isAddressChar (Ip.isAddressChar_of_read? hip hc) with h | rfl | rfl
        · exact harmless_of_isAlphanum h
        · decide
        · decide
      · rcases SocketAddr.char_of_mem_printZone hc with rfl | h
        · decide
        · exact harmless_of_isAlphanum (hdigit c h)
      · decide
      · decide
      · have hport := SocketAddr.readPort?_digits port
        exact harmless_of_isAlphanum (hdigit c (SocketAddr.isDigit_of_readPort? hport hc))
    · exact hostFlaw?_bracketed (SocketAddr.bracketless_zoned ip zone).2 _

/-! ## The URI of a socket address -/

theorem shaped_ofSocketAddr_iff (scheme : Text) (addr : SocketAddr) :
    Shaped (ofSocketAddr scheme addr) ↔ scheme = [] ∨ IsSmallName scheme := by
  constructor
  · intro h
    by_cases hs : scheme = []
    · exact .inl hs
    · exact .inr (isSmallName_iff.2 (h.scheme hs))
  · intro h
    exact
      { scheme := fun hs => isSmallName_iff.1 (h.resolve_left hs)
        body := fun hbody => absurd rfl hbody
        user := by simp [ofSocketAddr]
        host := isHostText_print addr
        path := .inl (.inl rfl)
        forceQuery := by simp [ofSocketAddr]
        clean := by simp [ofSocketAddr, Clean]
        noQuestion := by simp [ofSocketAddr]
        noNumber := by simp [ofSocketAddr] }

/-- The URI of a socket address is read back from its text, with every component, exactly if its
scheme is empty or a name in small letters; whatever the scheme is, the TCP transport reads the same
socket address off its host again. -/
theorem parse_print_ofSocketAddr_iff (scheme : Text) (addr : SocketAddr) :
    (parse (ofSocketAddr scheme addr).print = .ok (ofSocketAddr scheme addr) ↔
      scheme = [] ∨ IsSmallName scheme) ∧
    Tcp.hostAddr (ofSocketAddr scheme addr).host = .ok addr := by
  have hhost : (ofSocketAddr scheme addr).host ≠ [] := addr.print_ne_nil
  refine ⟨?_, Tcp.hostAddr_print addr⟩
  rw [parse_eq_ok_iff, ← shaped_ofSocketAddr_iff scheme addr]
  constructor
  · exact shaped_of_read
  · intro hshaped
    exact (read_print_iff hshaped).2 fun hstart => hhost hstart.2.2.1

/-- A zone, an address that holds an IPv4 address, and a scheme of all parts. -/
example :
    let u := ofSocketAddr "tcp+tls.dns".toList (.v6 (.ofMapped ⟨1, 2, 3, 4⟩) 80 7)
    u.print = "tcp+tls.dns://[::ffff:1.2.3.4%7]:80".toList ∧ parse u.print = .ok u := by
  exact ⟨rfl, rfl⟩

end Switchboard.Uri
