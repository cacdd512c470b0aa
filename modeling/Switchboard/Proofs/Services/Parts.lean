import Switchboard.Proofs.Services.PortLookup

set_option autoImplicit false

/-!
# Databases one after another

A database is scanned line by line, under the name of any protocol (`scan?`); the lookup of a port
does this for the two protocols that it knows.  Main statement: a database that is joined from two
by a line break answers as the first does, and where that has no answer as the second does; lines
that cannot match may be put in, left out and moved, and any of the line ends may be written with a
carriage return (`parts_are_asked_in_order`).

Lines themselves are not joined from the lines of the parts, since a part may end in a break and a
carriage return may stand before one.  What the proofs go by are the pieces between the breaks: the
scan finds the same in them (`scan?_eq`), because a carriage return at the end of a line is a blank
and an empty line matches nothing.
-/

namespace Switchboard.Services

/-! ## Lines -/

/-- A text without the carriage return at its end. -/
def chomp (line : Text) : Text := if line.getLast? = some '\r' then line.dropLast else line

/-- The lines of a text.  A line ends in a line feed, and a carriage return before it belongs to the
end; what stands behind the last line feed is a line if it is not empty. -/
def lines (text : Text) : List Text :=
  (Text.pieces '\n' text).dropLast.map chomp
    ++ ((Text.pieces '\n' text).getLast?.filter fun rest => rest ≠ []).toList

/-- The port that a line has for a service under the name of a protocol. -/
def portOn? (protocol service line : Text) : Option UInt16 :=
  ((Entry.ofLine? line).filter fun e =>
    e.protocol == protocol && e.names.any fun name => lower name == lower service).map (·.port)

/-- The port on the first line of a database that has one for a service under the name of a
protocol. -/
def scan? (database protocol service : Text) : Option UInt16 :=
  (lines database).findSome? (portOn? protocol service)

/-- A line cannot match: if it is an entry at all, with a name, a port and the protocol behind it,
and further names, then for another service. -/
def Idle (protocol service line : Text) : Prop :=
  ∀ name numeral aliases port, fields line = name :: (numeral ++ '/' :: protocol) :: aliases →
    '/' ∉ numeral → IsPort numeral port → ∀ other ∈ name :: aliases, ¬ SameName other service

/-- Lines that become the same lines once those that cannot match are left out. -/
inductive SameButIdle (protocol service : Text) : List Text → List Text → Prop
  | nil : SameButIdle protocol service [] []
  | both {a b : List Text} (line : Text) (rest : SameButIdle protocol service a b) :
      SameButIdle protocol service (line :: a) (line :: b)
  | left {a b : List Text} (line : Text) (idle : Idle protocol service line)
      (rest : SameButIdle protocol service a b) : SameButIdle protocol service (line :: a) b
  | right {a b : List Text} (line : Text) (idle : Idle protocol service line)
      (rest : SameButIdle protocol service a b) : SameButIdle protocol service a (line :: b)

/-- A text with a carriage return put before some of its line feeds. -/
inductive Returned : Text → Text → Prop
  | nil : Returned [] []
  | same {a b : Text} (c : Char) (rest : Returned a b) : Returned (c :: a) (c :: b)
  | broken {a b : Text} (rest : Returned a b) : Returned ('\n' :: a) ('\r' :: '\n' :: b)

/-! ## One line -/

/-- A carriage return at the end of a line belongs to no field. -/
theorem fields_concat_return (line : Text) : fields (line ++ ['\r']) = fields line := by
  unfold fields
  by_cases hcomment : '#' ∈ line
  · obtain ⟨before, after, rfl, hplain⟩ := List.eq_append_cons_of_mem hcomment
    rw [List.append_assoc, List.cons_append, Text.upTo_append hplain, Text.upTo_append hplain,
      Text.upTo_cons_self, Text.upTo_cons_self]
  · have hwhole : Text.upTo '#' line = line := by
      simpa using Text.upTo_append hcomment []
    have hreturn : Text.upTo '#' ['\r'] = ['\r'] := by decide
    have hblank : Text.isBlank '\r' = true := by decide
    rw [Text.upTo_append hcomment, hwhole, hreturn, Text.words_append_cons hblank]
    exact List.append_nil _

theorem portOn?_congr {line other : Text} (h : fields line = fields other)
    (protocol service : Text) : portOn? protocol service line = portOn? protocol service other := by
  have hentry : Entry.ofLine? line = Entry.ofLine? other := by
    unfold fields at h
    rw [Entry.ofLine?, Entry.ofLine?, h]
  rw [portOn?, portOn?, hentry]

theorem portOn?_concat_return (protocol service line : Text) :
    portOn? protocol service (line ++ ['\r']) = portOn? protocol service line :=
  portOn?_congr (fields_concat_return line) protocol service

theorem portOn?_chomp (protocol service line : Text) :
    portOn? protocol service (chomp line) = portOn? protocol service line := by
  unfold chomp
  split
  · next hreturn =>
    have hline : line.dropLast ++ ['\r'] = line := List.dropLast_append_getLast? '\r' hreturn
    rw [← portOn?_concat_return, hline]
  · rfl

theorem portOn?_eq_some_iff {protocol service line : Text} {port : UInt16} :
    portOn? protocol service line = some port ↔ ∃ name numeral aliases,
      fields line = name :: (numeral ++ '/' :: protocol) :: aliases ∧ '/' ∉ numeral ∧
        IsPort numeral port ∧ ∃ other ∈ name :: aliases, SameName other service := by
  rw [portOn?, Option.map_eq_some_iff]
  constructor
  · rintro ⟨e, hfilter, rfl⟩
    obtain ⟨hentry, hfor⟩ := Option.filter_eq_some_iff.1 hfilter
    obtain ⟨name, numeral, aliases, form, divided, number, hnames⟩ := ofLine?_eq_some_iff.1 hentry
    simp only [Bool.and_eq_true, beq_iff_eq, List.any_eq_true, hnames] at hfor
    obtain ⟨rfl, named⟩ := hfor
    exact ⟨name, numeral, aliases, form, divided, number, named⟩
  · rintro ⟨name, numeral, aliases, form, divided, number, other, hother, hsame⟩
    have hentry : Entry.ofLine? line = some ⟨name :: aliases, port, protocol⟩ :=
      ofLine?_eq_some_iff.2 ⟨name, numeral, aliases, form, divided, number, rfl⟩
    refine ⟨_, Option.filter_eq_some_iff.2 ⟨hentry, ?_⟩, rfl⟩
    simp only [Bool.and_eq_true, beq_iff_eq, List.any_eq_true, true_and]
    exact ⟨other, hother, hsame⟩

theorem idle_iff {protocol service line : Text} :
    Idle protocol service line ↔ portOn? protocol service line = none := by
  rw [Option.eq_none_iff_forall_ne_some]
  constructor
  · intro idle port h
    obtain ⟨name, numeral, aliases, form, divided, number, other, hother, hsame⟩ :=
      portOn?_eq_some_iff.1 h
    exact idle name numeral aliases port form divided number other hother hsame
  · intro h name numeral aliases port form divided number other hother hsame
    exact h port (portOn?_eq_some_iff.2
      ⟨name, numeral, aliases, form, divided, number, other, hother, hsame⟩)

/-! ## The pieces between the breaks -/

theorem scan?_eq (database protocol service : Text) :
    scan? database protocol service
      = (Text.pieces '\n' database).findSome? (portOn? protocol service) := by
  obtain ⟨before, rest, hsplit⟩ : ∃ before rest, Text.pieces '\n' database = before ++ [rest] :=
    (List.eq_nil_or_concat' _).resolve_left (Text.piecesBy_ne_nil _ database)
  have hbefore : (before.map chomp).findSome? (portOn? protocol service)
      = before.findSome? (portOn? protocol service) := by
    rw [List.findSome?_map]
    exact congrArg (List.findSome? · before) (funext (portOn?_chomp protocol service))
  have hempty : portOn? protocol service [] = none := rfl
  rw [scan?, lines, hsplit, List.dropLast_concat, List.getLast?_concat, List.findSome?_append,
    List.findSome?_append, hbefore]
  by_cases hrest : rest = []
  · simp [Option.filter, hrest, hempty]
  · simp [Option.filter, hrest]

theorem find?_eq_scan? (database : Text) (protocol : Protocol) (service : Text) :
    find? database protocol service = scan? database protocol.name service := by
  rw [find?_eq_findSome?, scan?_eq]
  rfl

theorem scan?_append (a b protocol service : Text) :
    scan? (a ++ '\n' :: b) protocol service
      = (scan? a protocol service).or (scan? b protocol service) := by
  rw [scan?_eq, scan?_eq, scan?_eq, Text.pieces_append_cons, List.findSome?_append]

/-! ## Lines that cannot match -/

theorem SameButIdle.findSome?_eq {protocol service : Text} {a b : List Text}
    (h : SameButIdle protocol service a b) :
    a.findSome? (portOn? protocol service) = b.findSome? (portOn? protocol service) := by
  induction h with
  | nil => rfl
  | both line _ ih => rw [List.findSome?_cons, List.findSome?_cons, ih]
  | left line idle _ ih => rw [List.findSome?_cons, idle_iff.1 idle, ih]
  | right line idle _ ih => rw [List.findSome?_cons, idle_iff.1 idle, ih]

/-! ## Carriage returns -/

/-- A piece, and the same with a carriage return at its end. -/
def Ended (piece other : Text) : Prop := other = piece ∨ other = piece ++ ['\r']

theorem pieces_cons_of_ne {sep c : Char} (h : c ≠ sep) (s : Text) :
    ∃ piece more, Text.pieces sep s = piece :: more ∧
      Text.pieces sep (c :: s) = (c :: piece) :: more := by
  obtain ⟨piece, more, hs⟩ := List.exists_cons_of_ne_nil (Text.piecesBy_ne_nil (· == sep) s)
  refine ⟨piece, more, hs, ?_⟩
  rw [Text.pieces, Text.piecesBy, if_neg (by simpa using h), hs]

theorem Returned.pieces {a b : Text} (h : Returned a b) :
    List.Forall₂ Ended (Text.pieces '\n' a) (Text.pieces '\n' b) := by
  induction h with
  | nil => exact .cons (.inl rfl) .nil
  | @same a b c _ ih =>
    by_cases hbreak : c = '\n'
    · subst hbreak
      have hcons := fun s => Text.pieces_append_cons '\n' [] s
      simp only [List.nil_append] at hcons
      rw [hcons, hcons]
      exact .cons (.inl rfl) ih
    · obtain ⟨piece, more, ha, hca⟩ := pieces_cons_of_ne hbreak a
      obtain ⟨other, others, hb, hcb⟩ := pieces_cons_of_ne hbreak b
      rw [ha, hb] at ih
      rw [hca, hcb]
      cases ih with
      | cons hfirst hmore =>
        refine .cons ?_ hmore
        rcases hfirst with rfl | rfl
        · exact .inl rfl
        · exact .inr rfl
  | broken _ ih => exact .cons (.inr rfl) ih

theorem Returned.behind {a b : Text} (h : Returned a b) (s : Text) :
    Returned (s ++ a) (s ++ b) := by
  induction s with
  | nil => exact h
  | cons c s ih => exact .same c ih

theorem findSome?_of_ended {protocol service : Text} {pieces others : List Text}
    (h : List.Forall₂ Ended pieces others) :
    others.findSome? (portOn? protocol service) = pieces.findSome? (portOn? protocol service) := by
  induction h with
  | nil => rfl
  | @cons piece other _ _ hfirst _ ih =>
    have hsame : portOn? protocol service other = portOn? protocol service piece := by
      rcases hfirst with rfl | rfl
      · rfl
      · exact portOn?_concat_return protocol service piece
    rw [List.findSome?_cons, List.findSome?_cons, hsame, ih]

/-! ## Main statement -/

/-- A database that is joined from two answers as the first does, and where that has no answer as
the second does, so that an answer of the first stands whatever comes behind it.  Lines that cannot
match may be put in, left out and moved, and any line end may be written with a carriage return.
The scan under the name of a protocol is what a lookup does for the protocols that it knows. -/
theorem parts_are_asked_in_order (protocol service : Text) :
    (∀ a b, scan? (a ++ '\n' :: b) protocol service
      = (scan? a protocol service).or (scan? b protocol service)) ∧
    (∀ a b port, scan? a protocol service = some port →
      scan? (a ++ '\n' :: b) protocol service = some port) ∧
    (∀ a b, SameButIdle protocol service (lines a) (lines b) →
      scan? a protocol service = scan? b protocol service) ∧
    (∀ a b, Returned a b → scan? b protocol service = scan? a protocol service) ∧
    ∀ known : Protocol, protocol = known.name → ∀ database,
      find? database known service = scan? database protocol service := by
  refine ⟨fun a b => scan?_append a b protocol service, ?_, ?_, ?_, ?_⟩
  · intro a b port h
    rw [scan?_append, h, Option.some_or]
  · intro a b h
    exact h.findSome?_eq
  · intro a b h
    rw [scan?_eq, scan?_eq]
    exact findSome?_of_ended h.pieces
  · rintro known rfl database
    exact find?_eq_scan? database known service

/-- An entry among a comment, an empty line, a line with a single field, one with a port that is
none and one for another protocol, which stand elsewhere in the other text. -/
theorem parts_are_asked_in_order_of_moved_lines :
    let tcp := Protocol.tcp.name
    let service := "wWw".toList
    let entry := "http 0080/tcp www # web".toList
    let wrong := "www 70000/tcp".toList
    let foreign := "www 81/udp".toList
    let a := joined [wrong, entry, [], foreign]
    let b := joined ["# www 82/tcp".toList, foreign, entry, "www".toList]
    let broken := wrong ++ '\r' :: '\n' :: joined [entry, [], foreign]
    let later := "www 83/tcp".toList
    (scan? a tcp service = some 80 ∧ scan? (a ++ '\n' :: later) tcp service = some 80) ∧
      (SameButIdle tcp service (lines a) (lines b) ∧ scan? a tcp service = scan? b tcp service) ∧
      (Returned a broken ∧ scan? broken tcp service = scan? a tcp service) ∧
      tcp = Protocol.tcp.name ∧ find? a .tcp service = scan? a tcp service := by
  intro tcp service entry wrong foreign a b broken later
  obtain ⟨-, hlater, hidle, hreturned, hfind⟩ := parts_are_asked_in_order tcp service
  have hentry : scan? a tcp service = some 80 := by decide
  have hsame : SameButIdle tcp service (lines a) (lines b) :=
    .left wrong (idle_iff.2 (by decide)) <| .right _ (idle_iff.2 (by decide)) <|
      .right foreign (idle_iff.2 (by decide)) <| .both entry <|
      .left [] (idle_iff.2 (by decide)) <| .left foreign (idle_iff.2 (by decide)) <|
      .right _ (idle_iff.2 (by decide)) .nil
  have hbroken : Returned a broken := by
    have htail := Returned.behind .nil (joined [entry, [], foreign])
    rw [List.append_nil] at htail
    exact (Returned.broken htail).behind wrong
  exact ⟨⟨hentry, hlater a later 80 hentry⟩, ⟨hsame, hidle a b hsame⟩,
    ⟨hbroken, hreturned a broken hbroken⟩, rfl, hfind .tcp rfl a⟩

end Switchboard.Services
