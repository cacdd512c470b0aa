import Switchboard.Proofs.Address.Ipv4Text
import Switchboard.Proofs.Octets

set_option autoImplicit false

/-!
# The text of an IPv6 address

An address is read back from its text (`Ipv6.read?_print`), whichever of its forms is written: all
eight groups, a run of zero groups left out, or the dotted form of an address that maps an IPv4
address.  What is left out is a run of zero groups wherever `longestZeros` finds it; that it is the
longest one makes no difference to the reader.

Every text of an address, written by `print` or not, is made of hexadecimal digits, colons and dots,
and has a colon.
-/

namespace Switchboard

namespace Ipv6

/-! ## One group -/

theorem hexDigit?_digitChar {d : Nat} (h : d < 16) : hexDigit? d.digitChar = some d := by
  have hall : ∀ d : Fin 16, hexDigit? d.val.digitChar = some d.val := by decide
  exact hall ⟨d, h⟩

theorem hexValue?_append (sofar : Nat) (a b : Text) :
    hexValue? sofar (a ++ b) = (hexValue? sofar a).bind fun n => hexValue? n b := by
  induction a generalizing sofar with
  | nil => rfl
  | cons c rest ih =>
    cases hc : hexDigit? c with
    | none => simp [hexValue?, hc]
    | some d => simp [hexValue?, hc, ih]

theorem hexValue?_digitChar (sofar : Nat) {d : Nat} (h : d < 16) :
    hexValue? sofar [d.digitChar] = some (16 * sofar + d) := by
  simp [hexValue?, hexDigit?_digitChar h]

theorem hexValue?_toDigits (n : Nat) : hexValue? 0 (Nat.toDigits 16 n) = some n := by
  induction n using Nat.strongRecOn with
  | ind n ih =>
    rw [Nat.toDigits_eq_if (by decide)]
    by_cases hsmall : n < 16
    · rw [if_pos hsmall, hexValue?_digitChar 0 hsmall, Nat.mul_zero, Nat.zero_add]
    · rw [if_neg hsmall, hexValue?_append, ih (n / 16) (by omega), Option.bind_some,
        hexValue?_digitChar _ (Nat.mod_lt n (by decide)), Nat.div_add_mod]

theorem isSome_hexDigit?_of_hexValue? {sofar n : Nat} {s : Text} (h : hexValue? sofar s = some n)
    {c : Char} (hc : c ∈ s) : (hexDigit? c).isSome = true := by
  induction s generalizing sofar with
  | nil => simp at hc
  | cons x rest ih =>
    obtain ⟨d, hd, hrest⟩ := Option.bind_eq_some_iff.1 h
    rcases List.mem_cons.1 hc with rfl | hmem
    · simp [hd]
    · exact ih hrest hmem

theorem isSome_hexDigit?_of_readGroup? {s : Text} {g : UInt16} (h : readGroup? s = some g)
    {c : Char} (hc : c ∈ s) : (hexDigit? c).isSome = true := by
  unfold readGroup? at h
  split at h
  · simp at h
  · obtain ⟨n, hn, -⟩ := Option.map_eq_some_iff.1 h
    exact isSome_hexDigit?_of_hexValue? hn hc

theorem readGroup?_printGroup (g : UInt16) : readGroup? (printGroup g) = some g := by
  have hbound : g.toNat < 65536 := g.toNat_lt
  have hlength : (printGroup g).length ≤ 4 :=
    (Nat.length_toDigits_le_iff (by decide) (by decide)).2 (by omega)
  have hfull : printGroup g ≠ [] := Nat.toDigits_ne_nil
  have hshape : ((printGroup g).isEmpty || decide (4 < (printGroup g).length)) = false := by
    simp [hfull, hlength]
  have hvalue : hexValue? 0 (printGroup g) = some g.toNat := hexValue?_toDigits g.toNat
  rw [readGroup?, hshape, hvalue]
  simp

theorem colon_not_mem_printGroup (g : UInt16) : ':' ∉ printGroup g := by
  intro hc
  have hhex := isSome_hexDigit?_of_readGroup? (readGroup?_printGroup g) hc
  exact Bool.false_ne_true hhex

/-- The text of a group starts with something other than a colon. -/
theorem printGroup_eq_cons (g : UInt16) : ∃ x rest, printGroup g = x :: rest ∧ x ≠ ':' := by
  cases hg : printGroup g with
  | nil => exact absurd hg Nat.toDigits_ne_nil
  | cons x rest =>
    refine ⟨x, rest, rfl, ?_⟩
    rintro rfl
    exact colon_not_mem_printGroup g (by simp [hg])

/-! ## Groups between colons -/

theorem printGroups_cons_cons (g h : UInt16) (rest : List UInt16) :
    printGroups (g :: h :: rest) = printGroup g ++ ':' :: printGroups (h :: rest) := rfl

theorem printGroups_eq_cons (g : UInt16) (rest : List UInt16) :
    ∃ x tail, printGroups (g :: rest) = x :: tail ∧ x ≠ ':' := by
  obtain ⟨x, tail, hg, hx⟩ := printGroup_eq_cons g
  cases rest with
  | nil => exact ⟨x, tail, hg, hx⟩
  | cons h rest =>
    exact ⟨x, tail ++ ':' :: printGroups (h :: rest), by rw [printGroups_cons_cons, hg]; rfl, hx⟩

theorem pieces_printGroups (g : UInt16) (rest : List UInt16) :
    Text.pieces ':' (printGroups (g :: rest)) = (g :: rest).map printGroup := by
  induction rest generalizing g with
  | nil => exact Text.pieces_of_not_mem (colon_not_mem_printGroup g)
  | cons h rest ih =>
    rw [printGroups_cons_cons, Text.pieces_append_cons, ih h,
      Text.pieces_of_not_mem (colon_not_mem_printGroup g)]
    rfl

theorem readPieces?_cons_cons (dotted : Bool) (first second : Text) (rest : List Text) :
    readPieces? dotted (first :: second :: rest)
      = (readGroup? first).bind fun g => (readPieces? dotted (second :: rest)).map (g :: ·) := rfl

theorem readPieces?_printGroup (dotted : Bool) (groups : List UInt16) :
    readPieces? dotted (groups.map printGroup) = some groups := by
  induction groups with
  | nil => rfl
  | cons g rest ih =>
    cases rest with
    | nil => simp [readPieces?, readGroup?_printGroup]
    | cons h rest =>
      rw [List.map_cons, List.map_cons, readPieces?_cons_cons, readGroup?_printGroup,
        Option.bind_some, ← List.map_cons, ih]
      rfl

theorem readSide?_printGroups (dotted : Bool) (groups : List UInt16) :
    readSide? dotted (printGroups groups) = some groups := by
  cases groups with
  | nil => rfl
  | cons g rest =>
    obtain ⟨x, tail, hcons, -⟩ := printGroups_eq_cons g rest
    have hfull : (printGroups (g :: rest)).isEmpty = false := by simp [hcons]
    rw [readSide?, hfull, if_neg Bool.false_ne_true, pieces_printGroups, readPieces?_printGroup]

/-! ## The double colon -/

theorem cutDouble?_cons_of_ne {x : Char} (hx : x ≠ ':') (s : Text) :
    cutDouble? (x :: s) = (cutDouble? s).map fun sides => (x :: sides.1, sides.2) := by
  cases s with
  | nil => rfl
  | cons y rest => simp [cutDouble?, hx]

theorem cutDouble?_colon_of_ne {y : Char} (hy : y ≠ ':') (s : Text) :
    cutDouble? (':' :: y :: s)
      = (cutDouble? (y :: s)).map fun sides => (':' :: sides.1, sides.2) := by
  simp [cutDouble?, hy]

theorem eq_of_cutDouble? {s front back : Text} (h : cutDouble? s = some (front, back)) :
    s = front ++ ':' :: ':' :: back := by
  induction s generalizing front with
  | nil => simp [cutDouble?] at h
  | cons x rest ih =>
    cases rest with
    | nil => simp [cutDouble?] at h
    | cons y rest =>
      unfold cutDouble? at h
      split at h
      · next hxy =>
        obtain ⟨rfl, rfl⟩ := hxy
        simp only [Option.some.injEq, Prod.mk.injEq] at h
        obtain ⟨rfl, rfl⟩ := h
        rfl
      · obtain ⟨sides, hsides, hpair⟩ := Option.map_eq_some_iff.1 h
        simp only [Prod.mk.injEq] at hpair
        obtain ⟨rfl, rfl⟩ := hpair
        rw [ih hsides]
        rfl

/-- A double colon is the first one if there is none before its second colon. -/
theorem cutDouble?_append {front : Text} (h : cutDouble? (front ++ [':']) = none) (back : Text) :
    cutDouble? (front ++ ':' :: ':' :: back) = some (front, back) := by
  induction front with
  | nil => simp [cutDouble?]
  | cons x rest ih =>
    cases rest with
    | nil =>
      have hx : x ≠ ':' := by
        rintro rfl
        simp [cutDouble?] at h
      rw [List.singleton_append, cutDouble?_cons_of_ne hx]
      simp [cutDouble?]
    | cons y rest =>
      simp only [List.cons_append, cutDouble?] at h ⊢
      split at h
      · simp at h
      · next hxy =>
        rw [if_neg hxy]
        rw [Option.map_eq_none_iff] at h
        have hback := ih h
        rw [List.cons_append] at hback
        rw [hback, Option.map_some]

theorem cutDouble?_eq_none_of_append {a b : Text} (h : cutDouble? (a ++ b) = none) :
    cutDouble? a = none := by
  induction a with
  | nil => rfl
  | cons x rest ih =>
    cases rest with
    | nil => rfl
    | cons y rest =>
      simp only [List.cons_append, cutDouble?] at h ⊢
      split at h
      · simp at h
      · next hxy =>
        rw [if_neg hxy, Option.map_eq_none_iff]
        exact ih (Option.map_eq_none_iff.1 h)

theorem cutDouble?_append_eq_none {a b : Text} (ha : ':' ∉ a) (hb : cutDouble? b = none) :
    cutDouble? (a ++ b) = none := by
  induction a with
  | nil => exact hb
  | cons x rest ih =>
    simp only [List.mem_cons, not_or] at ha
    rw [List.cons_append, cutDouble?_cons_of_ne (Ne.symm ha.1), ih ha.2, Option.map_none]

/-- The text of groups has no double colon, nor does one arise when a colon is put behind it. -/
theorem cutDouble?_printGroups_colon (groups : List UInt16) :
    cutDouble? (printGroups groups ++ [':']) = none := by
  induction groups with
  | nil => rfl
  | cons g rest ih =>
    cases rest with
    | nil => exact cutDouble?_append_eq_none (colon_not_mem_printGroup g) rfl
    | cons h rest =>
      obtain ⟨x, tail, hcons, hx⟩ := printGroups_eq_cons h rest
      rw [hcons, List.cons_append] at ih
      rw [printGroups_cons_cons, List.append_assoc, hcons]
      refine cutDouble?_append_eq_none (colon_not_mem_printGroup g) ?_
      rw [List.cons_append, List.cons_append, cutDouble?_colon_of_ne hx, ih, Option.map_none]

theorem cutDouble?_printGroups (groups : List UInt16) : cutDouble? (printGroups groups) = none :=
  cutDouble?_eq_none_of_append (cutDouble?_printGroups_colon groups)

/-! ## The run of zero groups -/

/-- Whether a start and a length are those of a run of zero groups. -/
def ZeroRun (groups : List UInt16) (run : Nat × Nat) : Prop :=
  groups = groups.take run.1 ++ List.replicate run.2 0 ++ groups.drop (run.1 + run.2)

theorem replicate_leadingZeros_append (groups : List UInt16) :
    List.replicate (leadingZeros groups) 0 ++ groups.drop (leadingZeros groups) = groups := by
  induction groups with
  | nil => rfl
  | cons g rest ih =>
    by_cases hg : g = 0
    · subst hg
      have hone : leadingZeros (0 :: rest) = leadingZeros rest + 1 := by simp [leadingZeros]
      rw [hone, List.replicate_succ, List.drop_succ_cons, List.cons_append, ih]
    · have hnone : leadingZeros (g :: rest) = 0 := by simp [leadingZeros, hg]
      rw [hnone]
      rfl

theorem zeroRun_leadingZeros (before rest : List UInt16) :
    ZeroRun (before ++ rest) (before.length, leadingZeros rest) := by
  have hdrop : (before ++ rest).drop (before.length + leadingZeros rest)
      = rest.drop (leadingZeros rest) := List.drop_length_add_append _
  unfold ZeroRun
  rw [List.take_left, hdrop, List.append_assoc, replicate_leadingZeros_append]

/-- What is found is a run of zero groups, if what was found before is one. -/
theorem zeroRun_longestZeros (before rest : List UInt16) {best : Nat × Nat}
    (h : ZeroRun (before ++ rest) best) :
    ZeroRun (before ++ rest) (longestZeros before.length best rest) := by
  induction rest generalizing before best with
  | nil => exact h
  | cons g rest ih =>
    have hnext : before ++ g :: rest = (before ++ [g]) ++ rest := by simp
    have hlength : before.length + 1 = (before ++ [g]).length := by simp
    rw [longestZeros, hlength, hnext]
    refine ih (before ++ [g]) ?_
    rw [← hnext]
    split
    · exact zeroRun_leadingZeros before (g :: rest)
    · exact h

/-! ## Reading what was written -/

theorem ofGroups?_groups (ip : Ipv6) : ofGroups? ip.groups = some ip := dif_pos ip.length_groups

theorem read?_printGroups (ip : Ipv6) : read? (printGroups ip.groups) = some ip := by
  rw [read?, cutDouble?_printGroups]
  show (readSide? true (printGroups ip.groups)).bind ofGroups? = some ip
  rw [readSide?_printGroups, Option.bind_some, ofGroups?_groups]

/-- Groups around a double colon are read with a run of zero groups between them. -/
theorem read?_double {ip : Ipv6} {front back : List UInt16} {count : Nat} (hcount : 0 < count)
    (h : ip.groups = front ++ List.replicate count 0 ++ back) :
    read? (printGroups front ++ ':' :: ':' :: printGroups back) = some ip := by
  have height : front.length + count + back.length = 8 := by
    rw [← ip.length_groups, h]
    simp only [List.length_append, List.length_replicate]
  have hleft : 8 - front.length - back.length = count := by omega
  rw [read?, cutDouble?_append (cutDouble?_printGroups_colon front)]
  show (readSide? false (printGroups front)).bind _ = some ip
  rw [readSide?_printGroups, Option.bind_some, readSide?_printGroups, Option.bind_some,
    if_pos (by omega), hleft, ← h, ofGroups?_groups]

theorem read?_printPlain (ip : Ipv6) : read? (printPlain ip.groups) = some ip := by
  have hrun : ZeroRun ip.groups (longestZeros 0 (0, 0) ip.groups) :=
    zeroRun_longestZeros [] ip.groups rfl
  unfold printPlain
  revert hrun
  obtain ⟨start, count⟩ := longestZeros 0 (0, 0) ip.groups
  intro hrun
  by_cases hcount : 1 < count
  · simp only [if_pos hcount]
    exact read?_double (by omega) hrun
  · simp only [if_neg hcount]
    exact read?_printGroups ip

/-- A group is its two octets put together again. -/
theorem join_octetsOf (g : UInt16) :
    (octetsOf g).1.toUInt16 <<< 8 ||| (octetsOf g).2.toUInt16 = g := join_halves g

theorem groupsOf_octets (g h : UInt16) :
    groupsOf ⟨(octetsOf g).1, (octetsOf g).2, (octetsOf h).1, (octetsOf h).2⟩ = [g, h] := by
  rw [groupsOf, join_octetsOf, join_octetsOf]

theorem ofMapped_of_mapped? {ip : Ipv6} {inner : Ipv4} (h : ip.mapped? = some inner) :
    ofMapped inner = ip := by
  obtain ⟨groups, hlength⟩ := ip
  unfold mapped? at h
  split at h
  · next g k hgroups =>
    simp only [Option.some.injEq] at h
    subst h
    simp only at hgroups
    simp only [ofMapped, groupsOf_octets, hgroups]
  · simp at h

/-- A text with a dot is not that of a group. -/
theorem readGroup?_print_ipv4 (inner : Ipv4) : readGroup? inner.print = none := by
  cases hread : readGroup? inner.print with
  | none => rfl
  | some g =>
    have hdot : '.' ∈ inner.print := by simp [Ipv4.print]
    have hhex := isSome_hexDigit?_of_readGroup? hread hdot
    exact absurd hhex Bool.false_ne_true

/-- The dotted form of the last two groups is read as these two groups. -/
theorem read?_mapped (inner : Ipv4) :
    read? ([':', ':', 'f', 'f', 'f', 'f', ':'] ++ inner.print) = some (ofMapped inner) := by
  have hcolonless : ':' ∉ inner.print := Ipv4.colon_not_mem_of_read? (Ipv4.read?_print inner)
  have hpieces : Text.pieces ':' (['f', 'f', 'f', 'f'] ++ ':' :: inner.print)
      = [['f', 'f', 'f', 'f'], inner.print] := by
    rw [Text.pieces_append_cons, Text.pieces_of_not_mem hcolonless]
    rfl
  have hcut : cutDouble? ([':', ':', 'f', 'f', 'f', 'f', ':'] ++ inner.print)
      = some ([], ['f', 'f', 'f', 'f'] ++ ':' :: inner.print) := rfl
  have hlast : readPieces? true [inner.print] = some (groupsOf inner) := by
    simp [readPieces?, readGroup?_print_ipv4, Ipv4.read?_print]
  have hback : readSide? true (['f', 'f', 'f', 'f'] ++ ':' :: inner.print)
      = some (0xffff :: groupsOf inner) := by
    show readPieces? true (Text.pieces ':' _) = _
    rw [hpieces, readPieces?_cons_cons, hlast]
    rfl
  rw [read?, hcut]
  show (readSide? true _).bind _ = _
  rw [hback]
  rfl

/-- An address is read back from its text. -/
theorem read?_print (ip : Ipv6) : read? ip.print = some ip := by
  unfold print
  cases hmapped : ip.mapped? with
  | none => exact read?_printPlain ip
  | some inner =>
    rw [← ofMapped_of_mapped? hmapped]
    exact read?_mapped inner

/-! ## What a text of an address is made of -/

theorem isSome_hexDigit?_of_isDigit {c : Char} (h : c.isDigit = true) :
    (hexDigit? c).isSome = true := by
  simp [hexDigit?, h]

/-- A piece between the colons is the text of a group, or that of an IPv4 address. -/
theorem read_of_mem_pieces {dotted : Bool} {pieces : List Text} {groups : List UInt16}
    (h : readPieces? dotted pieces = some groups) {piece : Text} (hpiece : piece ∈ pieces) :
    (∃ g, readGroup? piece = some g) ∨ ∃ inner, Ipv4.read? piece = some inner := by
  induction pieces generalizing groups with
  | nil => simp at hpiece
  | cons first rest ih =>
    cases hfirst : readGroup? first with
    | none =>
      cases rest with
      | nil =>
        simp only [readPieces?, hfirst] at h
        obtain rfl := List.mem_singleton.1 hpiece
        split at h
        · obtain ⟨inner, hinner, -⟩ := Option.map_eq_some_iff.1 h
          exact .inr ⟨inner, hinner⟩
        · simp at h
      | cons second rest =>
        rw [readPieces?_cons_cons, hfirst] at h
        simp at h
    | some g =>
      rcases List.mem_cons.1 hpiece with rfl | hmem
      · exact .inl ⟨g, hfirst⟩
      · cases rest with
        | nil => simp at hmem
        | cons second rest =>
          rw [readPieces?_cons_cons, hfirst, Option.bind_some] at h
          obtain ⟨more, hmore, -⟩ := Option.map_eq_some_iff.1 h
          exact ih hmore hmem

theorem char_of_readSide? {dotted : Bool} {s : Text} {groups : List UInt16}
    (h : readSide? dotted s = some groups) {c : Char} (hc : c ∈ s) :
    (hexDigit? c).isSome = true ∨ c = ':' ∨ c = '.' := by
  have hfull : s.isEmpty = false := by
    rw [List.isEmpty_eq_false_iff]
    exact List.ne_nil_of_mem hc
  rw [readSide?, hfull, if_neg Bool.false_ne_true] at h
  rcases Text.mem_pieces ':' hc with hcolon | ⟨piece, hpiece, hmem⟩
  · exact .inr (.inl hcolon)
  · rcases read_of_mem_pieces h hpiece with ⟨g, hg⟩ | ⟨inner, hinner⟩
    · exact .inl (isSome_hexDigit?_of_readGroup? hg hmem)
    · rcases Ipv4.isDigit_or_dot_of_read? hinner hmem with hdigit | hdot
      · exact .inl (isSome_hexDigit?_of_isDigit hdigit)
      · exact .inr (.inr hdot)

/-- The sides of the double colon, or the whole text where there is none. -/
theorem sides_of_read? {s : Text} {ip : Ipv6} (h : read? s = some ip) :
    (∃ front back head tail, s = front ++ ':' :: ':' :: back ∧
        readSide? false front = some head ∧ readSide? true back = some tail) ∨
      readSide? true s = some ip.groups := by
  unfold read? at h
  split at h
  · obtain ⟨groups, hgroups, hip⟩ := Option.bind_eq_some_iff.1 h
    unfold ofGroups? at hip
    split at hip
    · simp only [Option.some.injEq] at hip
      subst hip
      exact .inr hgroups
    · simp at hip
  · next front back hcut =>
    obtain ⟨head, hhead, h⟩ := Option.bind_eq_some_iff.1 h
    obtain ⟨tail, htail, -⟩ := Option.bind_eq_some_iff.1 h
    exact .inl ⟨front, back, head, tail, eq_of_cutDouble? hcut, hhead, htail⟩

theorem char_of_read? {s : Text} {ip : Ipv6} (h : read? s = some ip) {c : Char} (hc : c ∈ s) :
    (hexDigit? c).isSome = true ∨ c = ':' ∨ c = '.' := by
  rcases sides_of_read? h with ⟨front, back, head, tail, rfl, hhead, htail⟩ | hwhole
  · simp only [List.mem_append, List.mem_cons] at hc
    rcases hc with hc | rfl | rfl | hc
    · exact char_of_readSide? hhead hc
    · exact .inr (.inl rfl)
    · exact .inr (.inl rfl)
    · exact char_of_readSide? htail hc
  · exact char_of_readSide? hwhole hc

/-- Without a colon there is one piece, so there are at most two groups. -/
theorem length_le_two_of_colonless {dotted : Bool} {s : Text} {groups : List UInt16}
    (h : readSide? dotted s = some groups) (hcolon : ':' ∉ s) : groups.length ≤ 2 := by
  unfold readSide? at h
  split at h
  · simp only [Option.some.injEq] at h
    simp [← h]
  · rw [Text.pieces_of_not_mem hcolon] at h
    cases hgroup : readGroup? s with
    | some g =>
      simp only [readPieces?, hgroup, Option.some.injEq] at h
      simp [← h]
    | none =>
      simp only [readPieces?, hgroup] at h
      split at h
      · obtain ⟨inner, -, rfl⟩ := Option.map_eq_some_iff.1 h
        simp [groupsOf]
      · simp at h

theorem colon_mem_of_read? {s : Text} {ip : Ipv6} (h : read? s = some ip) : ':' ∈ s := by
  rcases sides_of_read? h with ⟨front, back, head, tail, rfl, -, -⟩ | hwhole
  · simp
  · refine Classical.not_not.1 ?_
    intro hcolon
    have hshort := length_le_two_of_colonless hwhole hcolon
    rw [ip.length_groups] at hshort
    omega

end Ipv6

end Switchboard
