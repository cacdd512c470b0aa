import Switchboard.Proofs.Uri.SocketUri

set_option autoImplicit false

/-!
# Who has the text of a socket address

Many URIs name one socket address: a port may have zeros in front, an IPv6 address may be written in
several ways, and a user, a path, a query or a fragment may be there too.  Their texts are all
different.  Of the URIs that a caller can get, only one has the text that is printed for a socket
address, and that is the one that is made of it (`print_eq_ofSocketAddr_iff`).
-/

namespace Switchboard.Uri

/-- The ways to get a URI. -/
inductive Obtained : Uri → Prop where
  | blank : Obtained {}
  | parsed (raw : Text) (u : Uri) (h : parse raw = .ok u) : Obtained u
  | ofSocketAddr (scheme : Text) (addr : SocketAddr) : Obtained (ofSocketAddr scheme addr)
  | withHost (u : Uri) (h : Obtained u) (host : Text) : Obtained (u.withHost host)

/-- What stands behind the scheme is a body that does not start with a slash, or a path that can
follow an authority, or, where there is no scheme, a path that cannot be taken for one. -/
structure WellPlaced (u : Uri) : Prop where
  body : u.body ≠ [] → isSchemeName u.scheme = true ∧ u.body.head? ≠ some '/'
  path : Rooted u.path ∨ u.scheme = [] ∧ ':' ∉ Text.upTo '/' u.path

/-- No other host changes that. -/
theorem Obtained.wellPlaced {u : Uri} (h : Obtained u) : WellPlaced u := by
  induction h with
  | blank => exact ⟨fun hbody => absurd rfl hbody, .inl (.inl rfl)⟩
  | parsed raw u h =>
    have hshaped := shaped_of_read (parse_eq_ok_iff.1 h)
    refine ⟨?_, hshaped.path.imp_right fun ⟨hscheme, _, _, hcolon⟩ => ⟨hscheme, hcolon⟩⟩
    intro hbody
    obtain ⟨hscheme, -, -, -, hhead⟩ := hshaped.body hbody
    exact ⟨(hshaped.scheme hscheme).1, hhead⟩
  | ofSocketAddr scheme addr => exact ⟨fun hbody => absurd rfl hbody, .inl (.inl rfl)⟩
  | withHost u h host ih => exact ⟨ih.body, ih.path⟩

/-! ## The text of a socket address -/

theorem print_ofSocketAddr {scheme : Text} (hscheme : scheme ≠ []) (addr : SocketAddr) :
    (ofSocketAddr scheme addr).print = scheme ++ ':' :: '/' :: '/' :: addr.print := by
  have hhost := addr.print_ne_nil
  simp [print, printScheme, printAuthority, printPath, printQuery, printFragment, ofSocketAddr,
    hscheme, hhost]

/-- A socket address ends in a digit of its port. -/
theorem getLast?_print_ne_colon (addr : SocketAddr) : addr.print.getLast? ≠ some ':' := by
  obtain ⟨before, hprint⟩ :
      ∃ before, addr.print = before ++ Decimal.digits addr.port.toNat := by
    cases addr with
    | v4 ip port => exact ⟨ip.print ++ [':'], by simp [SocketAddr.print, SocketAddr.port]⟩
    | v6 ip port zone =>
      exact ⟨'[' :: ip.print ++ SocketAddr.printZone zone ++ [']', ':'], by
        simp [SocketAddr.print, SocketAddr.port]⟩
  have hdigits : Decimal.digits addr.port.toNat ≠ [] := Nat.toDigits_ne_nil
  rw [hprint, List.getLast?_append_of_ne_nil _ hdigits]
  intro hlast
  have hport := SocketAddr.readPort?_digits addr.port
  exact SocketAddr.not_mem_of_readPort? hport rfl (List.mem_of_getLast? hlast)

/-! ## Nobody else has it -/

section

variable {u : Uri} {scheme : Text} {addr : SocketAddr}

theorem not_mem_print (addr : SocketAddr) :
    '/' ∉ addr.print ∧ '?' ∉ addr.print ∧ '#' ∉ addr.print ∧ '@' ∉ addr.print := by
  have hchars := (isHostText_print addr).chars
  exact ⟨fun hc => (hchars _ hc).2.1 rfl, fun hc => (hchars _ hc).2.2.1 rfl,
    fun hc => (hchars _ hc).2.2.2.1 rfl, fun hc => (hchars _ hc).2.2.2.2 rfl⟩

/-- A URI with its text has no query and no fragment. -/
theorem no_query_of_print_eq (hname : isSchemeName scheme = true)
    (heq : u.print = scheme ++ ':' :: '/' :: '/' :: addr.print) :
    u.query = [] ∧ u.forceQuery = false ∧ u.fragment = [] ∧
      u.printScheme ++ u.printMiddle = scheme ++ ':' :: '/' :: '/' :: addr.print := by
  obtain ⟨-, hquestion, hnumber, -⟩ := not_mem_print addr
  have hfragment : u.fragment = [] := by
    by_contra hne
    have hmem : '#' ∈ u.print := by simp [print_eq, printFragment, hne]
    simp [heq, not_mem_of_isSchemeName hname, hnumber, isSchemeChar] at hmem
  have hquery : ¬ (u.forceQuery = true ∨ u.query ≠ []) := by
    intro hmarked
    have hmem : '?' ∈ u.print := by simp [print_eq, printQuery, hmarked]
    simp [heq, not_mem_of_isSchemeName hname, hquestion, isSchemeChar] at hmem
  rw [print_eq, printQuery, if_neg hquery, printFragment, if_pos hfragment, List.append_nil,
    List.append_nil] at heq
  rw [not_or, Bool.not_eq_true, not_not] at hquery
  exact ⟨hquery.2, hquery.1, hfragment, heq⟩

/-- What stands behind its scheme is no body. -/
theorem body_of_middle_eq (hu : WellPlaced u) (hname : isSchemeName scheme = true)
    (heq : u.printScheme ++ u.printMiddle = scheme ++ ':' :: '/' :: '/' :: addr.print) :
    u.body = [] := by
  by_contra hbody
  obtain ⟨hother, hhead⟩ := hu.body hbody
  have hscheme : u.scheme ≠ [] := by
    intro hs
    simp [hs, isSchemeName] at hother
  rw [printScheme, if_neg hscheme, printMiddle, if_neg hbody, List.append_assoc,
    List.singleton_append] at heq
  have hcut := congrArg (Text.cut? ':') heq
  rw [Text.cut?_append_cons _ (not_mem_of_isSchemeName hother rfl),
    Text.cut?_append_cons _ (not_mem_of_isSchemeName hname rfl)] at hcut
  obtain ⟨-, hrest⟩ := Prod.mk.inj (Option.some.inj hcut)
  simp [hrest] at hhead

/-- It has a scheme of its own: without one there are slashes in front, or a path that has no colon
before its first slash. -/
theorem scheme_of_middle_eq (hu : WellPlaced u) (hname : isSchemeName scheme = true)
    (hbody : u.body = [])
    (heq : u.printScheme ++ u.printMiddle = scheme ++ ':' :: '/' :: '/' :: addr.print) :
    u.scheme ≠ [] := by
  intro hs
  have hslash : '/' ∉ scheme := not_mem_of_isSchemeName hname rfl
  have hnone : u.printScheme = [] := if_pos hs
  rw [hnone, List.nil_append] at heq
  have hhead : u.printMiddle.head? ≠ some '/' := by
    rw [heq]
    cases scheme with
    | nil => simp
    | cons first rest =>
      simp only [List.mem_cons, not_or] at hslash
      simpa using Ne.symm hslash.1
  by_cases hauth : HasAuthority u
  · have hany : ¬ (u.host = [] ∧ u.user = none) := by
      rintro ⟨hhost, huser⟩
      simp [HasAuthority, hhost, huser, hs] at hauth
    have hslashes : ¬ (u.host = [] ∧ u.path = [] ∧ u.user = none) := fun h => hany ⟨h.1, h.2.2⟩
    simp [printMiddle, hbody, printAuthority, hs, hany, hslashes] at hhead
  · rw [printMiddle_of_not_hasAuthority hbody hauth] at heq hhead
    rcases hu.path with (hnil | hrooted) | ⟨-, hcolon⟩
    · simp [hnil] at heq
    · exact hhead hrooted
    · have hup : Text.upTo '/' u.path = scheme ++ [':'] := by
        rw [heq, ← List.singleton_append, ← List.append_assoc]
        have hbefore : '/' ∉ scheme ++ [':'] := by simp [hslash]
        rw [Text.upTo_append hbefore, Text.upTo_cons_self, List.append_nil]
      simp [hup] at hcolon

/-- The two slashes that part the authority from the scheme are the only ones. -/
theorem parts_of_middle_eq (hpath : Rooted u.path) (hs : u.scheme ≠ []) (hslash : '/' ∉ scheme)
    (hbody : u.body = [])
    (heq : u.printScheme ++ u.printMiddle = scheme ++ ':' :: '/' :: '/' :: addr.print) :
    u.scheme = scheme ∧ u.user = none ∧ u.host = addr.print ∧ u.path = [] := by
  obtain ⟨haddr, -, -, hat⟩ := not_mem_print addr
  have hscheme : u.printScheme = u.scheme ++ [':'] := if_neg hs
  rw [hscheme] at heq
  by_cases hauth : HasAuthority u
  · rw [printMiddle_of_hasAuthority hbody hauth hpath, List.append_assoc,
      List.singleton_append] at heq
    have hcount := congrArg (List.count '/') heq
    simp only [List.count_append, List.count_cons, List.count_eq_zero.2 hslash,
      List.count_eq_zero.2 haddr] at hcount
    have hfree : '/' ∉ u.scheme := List.count_eq_zero.1 (by omega)
    have hpathless : u.path = [] := by
      rcases hpath with hnil | hhead
      · exact hnil
      · have hmem : 0 < u.path.count '/' := List.count_pos_iff.2 (List.mem_of_head? hhead)
        omega
    have hcut : Text.cut? '/' ((u.scheme ++ [':']) ++ '/' :: '/' :: authorityText u.user u.host)
        = Text.cut? '/' ((scheme ++ [':']) ++ '/' :: '/' :: addr.print) := by
      rw [hpathless, List.append_nil] at heq
      simp [heq]
    rw [Text.cut?_append_cons _ (by simp [hfree]), Text.cut?_append_cons _ (by simp [hslash])]
      at hcut
    obtain ⟨hbefore, hafter⟩ := Prod.mk.inj (Option.some.inj hcut)
    have htext : authorityText u.user u.host = addr.print := (List.cons.inj hafter).2
    have huser : u.user = none := by
      cases huser : u.user with
      | none => rfl
      | some user => simp [← htext, huser, authorityText] at hat
    exact ⟨List.append_cancel_right hbefore, huser, by simpa [huser, authorityText] using htext,
      hpathless⟩
  · -- nothing stands behind the colon then, and a socket address ends in a digit
    have hmiddle := printMiddle_of_not_hasAuthority hbody hauth
    have hnil : u.path = [] := by
      simp only [HasAuthority, not_or, not_and, not_not] at hauth
      exact hauth.2.2 hs
    have hsplit : u.scheme ++ [':'] = (scheme ++ [':', '/', '/']) ++ addr.print := by
      simpa [hmiddle, hnil] using heq
    have hlast := congrArg List.getLast? hsplit
    rw [List.getLast?_concat, List.getLast?_append_of_ne_nil _ addr.print_ne_nil] at hlast
    exact absurd hlast.symm (getLast?_print_ne_colon addr)

end

/-- Of all URIs that a caller can get, only the one that is made of a socket address has its
text. -/
theorem print_eq_ofSocketAddr_iff {u : Uri} (h : Obtained u) {scheme : Text}
    (hname : isSchemeName scheme = true) (addr : SocketAddr) :
    u.print = (ofSocketAddr scheme addr).print ↔ u = ofSocketAddr scheme addr := by
  constructor
  · intro heq
    have hne : scheme ≠ [] := by
      rintro rfl
      simp [isSchemeName] at hname
    rw [print_ofSocketAddr hne] at heq
    obtain ⟨hquery, hforce, hfragment, hmiddle⟩ := no_query_of_print_eq hname heq
    have hbody := body_of_middle_eq h.wellPlaced hname hmiddle
    have hs := scheme_of_middle_eq h.wellPlaced hname hbody hmiddle
    have hpath : Rooted u.path := h.wellPlaced.path.resolve_right fun hrelative => hs hrelative.1
    obtain ⟨hscheme, huser, hhost, hpathless⟩ :=
      parts_of_middle_eq hpath hs (not_mem_of_isSchemeName hname rfl) hbody hmiddle
    rw [← frame_with_middle hbody huser hhost hpathless, frame, hscheme, hquery, hforce, hfragment]
    rfl
  · rintro rfl
    rfl

end Switchboard.Uri
