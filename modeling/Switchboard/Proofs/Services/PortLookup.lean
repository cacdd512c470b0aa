import Mathlib
import Switchboard.Services

set_option autoImplicit false

/-!
# What the lookup of a port goes by

A line of a services database says that a service has a port under a protocol (`Lists`), or it says
nothing about the two, for one of five reasons (`Silent`).  `Answers` lists what a lookup can come
to, in the order of trial: the network, the lines of the database for one protocol after another,
and then the built-in table.  Main statement: a lookup answers by these rules, and a line that says
nothing can be left out of a database (`lookupPort_goes_by_lines`).
-/

namespace Switchboard.Services

/-! ## Names and ports -/

/-- A numeral for a port: digits, perhaps behind a plus sign, for a number that a port can be. -/
def IsPort (numeral : Text) (port : UInt16) : Prop :=
  ∃ digits, (numeral = digits ∨ numeral = '+' :: digits) ∧ Decimal.isNumeral digits = true ∧
    Decimal.value digits = port.toNat

/-- Names that differ in the case of ASCII letters at most. -/
def SameName (a b : Text) : Prop := lower a = lower b

theorem lower_lower (s : Text) : lower (lower s) = lower s := by
  simp [lower, Char.toLower_toLower_eq_toLower]

theorem readSigned?_eq_some_iff {bound n : Nat} {numeral : Text} :
    Decimal.readSigned? bound numeral = some n ↔
      ∃ digits, (numeral = digits ∨ numeral = '+' :: digits) ∧ Decimal.isNumeral digits = true ∧
        Decimal.value digits = n ∧ n ≤ bound := by
  unfold Decimal.readSigned?
  split
  · next digits =>
    rw [Decimal.read?_eq_some_iff]
    constructor
    · intro h
      exact ⟨digits, .inr rfl, h⟩
    · rintro ⟨other, rfl | heq, hnumeral, hvalue⟩
      · simp [Decimal.isNumeral] at hnumeral
      · obtain rfl := (List.cons.inj heq).2
        exact ⟨hnumeral, hvalue⟩
  · next hplain =>
    rw [Decimal.read?_eq_some_iff]
    constructor
    · intro h
      exact ⟨numeral, .inl rfl, h⟩
    · rintro ⟨digits, rfl | rfl, h⟩
      · exact h
      · exact absurd rfl (hplain digits)

/-- The ports that are read are those that the numerals stand for. -/
theorem readPort_iff {numeral : Text} {port : UInt16} :
    (Decimal.readSigned? 65535 numeral).map UInt16.ofNat = some port ↔ IsPort numeral port := by
  rw [Option.map_eq_some_iff]
  constructor
  · rintro ⟨n, hread, rfl⟩
    obtain ⟨digits, hform, hnumeral, hvalue, hle⟩ := readSigned?_eq_some_iff.1 hread
    have hfits : n < UInt16.size := Nat.lt_succ_of_le hle
    exact ⟨digits, hform, hnumeral, by rw [hvalue, UInt16.toNat_ofNat_of_lt' hfits]⟩
  · rintro ⟨digits, hform, hnumeral, hvalue⟩
    have hfits : port.toNat ≤ 65535 := Nat.le_of_lt_succ port.toNat_lt
    exact ⟨port.toNat, readSigned?_eq_some_iff.2 ⟨digits, hform, hnumeral, hvalue, hfits⟩,
      UInt16.ofNat_toNat⟩

/-! ## What a line says -/

/-- The fields of a line: the words before its comment. -/
def fields (line : Text) : List Text := Text.words (Text.upTo '#' line)

/-- A line says that a service has a port under a protocol: its fields are a name, the port and the
protocol with a slash between them, and further names, and one of the names is that of the
service. -/
inductive Lists (line : Text) (protocol : Protocol) (service : Text) (port : UInt16) : Prop where
  | entry (name numeral : Text) (aliases : List Text)
      (form : fields line = name :: (numeral ++ '/' :: protocol.name) :: aliases)
      (divided : '/' ∉ numeral) (number : IsPort numeral port)
      (named : ∃ other ∈ name :: aliases, SameName other service)

/-- Why a line says nothing about a service under a protocol. -/
inductive Silent (line : Text) (protocol : Protocol) (service : Text) : Prop where
  /-- it has a single field, or none -/
  | short (h : (fields line).length < 2)
  /-- its second field has no slash -/
  | undivided (name field : Text) (aliases : List Text)
      (form : fields line = name :: field :: aliases) (h : '/' ∉ field)
  /-- what stands before the first slash is no port -/
  | portless (name numeral other : Text) (aliases : List Text)
      (form : fields line = name :: (numeral ++ '/' :: other) :: aliases)
      (divided : '/' ∉ numeral) (h : ∀ port, ¬ IsPort numeral port)
  /-- what stands behind it is not the name of the protocol -/
  | foreign (name numeral other : Text) (aliases : List Text)
      (form : fields line = name :: (numeral ++ '/' :: other) :: aliases)
      (divided : '/' ∉ numeral) (h : other ≠ protocol.name)
  /-- it has other names -/
  | unnamed (name field : Text) (aliases : List Text)
      (form : fields line = name :: field :: aliases)
      (h : ∀ other ∈ name :: aliases, ¬ SameName other service)

/-- A line has room for one entry. -/
theorem Lists.agrees {line : Text} {protocol : Protocol} {service name numeral other : Text}
    {aliases : List Text} {port : UInt16} (h : Lists line protocol service port)
    (form : fields line = name :: (numeral ++ '/' :: other) :: aliases) (divided : '/' ∉ numeral) :
    other = protocol.name ∧ IsPort numeral port ∧
      ∃ own ∈ name :: aliases, SameName own service := by
  obtain ⟨name', numeral', aliases', form', divided', number, named⟩ := h
  rw [form] at form'
  obtain ⟨rfl, hfields⟩ := List.cons.inj form'
  obtain ⟨hfield, rfl⟩ := List.cons.inj hfields
  have hcut := Text.cut?_append_cons other divided
  rw [hfield, Text.cut?_append_cons protocol.name divided'] at hcut
  obtain ⟨rfl, rfl⟩ := Prod.mk.inj (Option.some.inj hcut)
  exact ⟨rfl, number, named⟩

theorem Silent.not_lists {line : Text} {protocol : Protocol} {service : Text}
    (h : Silent line protocol service) (port : UInt16) : ¬ Lists line protocol service port := by
  intro hlists
  cases h with
  | short h =>
    obtain ⟨name, numeral, aliases, form, -, -, -⟩ := hlists
    simp [form] at h
  | undivided name field aliases form h =>
    obtain ⟨name', numeral, aliases', form', -, -, -⟩ := hlists
    rw [form] at form'
    obtain rfl := (List.cons.inj (List.cons.inj form').2).1
    simp at h
  | portless name numeral other aliases form divided h =>
    exact h port (hlists.agrees form divided).2.1
  | foreign name numeral other aliases form divided h =>
    exact h (hlists.agrees form divided).1
  | unnamed name field aliases form h =>
    obtain ⟨name', numeral, aliases', form', -, -, other, hother, hsame⟩ := hlists
    rw [form] at form'
    obtain ⟨rfl, hfields⟩ := List.cons.inj form'
    obtain rfl := (List.cons.inj hfields).2
    exact h other hother hsame

/-- A line says nothing about a service under a protocol, or it has a port for them. -/
theorem silent_or_lists (line : Text) (protocol : Protocol) (service : Text) :
    Silent line protocol service ∨ ∃ port, Lists line protocol service port := by
  match form : fields line with
  | [] => exact .inl (.short (by simp [form]))
  | [_] => exact .inl (.short (by simp [form]))
  | name :: field :: aliases =>
    by_cases hslash : '/' ∉ field
    · exact .inl (.undivided name field aliases form hslash)
    obtain ⟨⟨numeral, other⟩, hcut⟩ :=
      Option.ne_none_iff_exists'.1 (mt Text.cut?_eq_none_iff.1 hslash)
    obtain ⟨rfl, divided⟩ := Text.cut?_eq_some_iff.1 hcut
    by_cases hport : ∀ port, ¬ IsPort numeral port
    · exact .inl (.portless name numeral other aliases form divided hport)
    by_cases hprotocol : other ≠ protocol.name
    · exact .inl (.foreign name numeral other aliases form divided hprotocol)
    by_cases hnames : ∀ own ∈ name :: aliases, ¬ SameName own service
    · exact .inl (.unnamed name _ aliases form hnames)
    push Not at hport hprotocol hnames
    obtain ⟨port, number⟩ := hport
    subst hprotocol
    exact .inr ⟨port, .entry name numeral aliases form divided number hnames⟩

theorem silent_iff {line : Text} {protocol : Protocol} {service : Text} :
    Silent line protocol service ↔ ∀ port, ¬ Lists line protocol service port := by
  constructor
  · exact Silent.not_lists
  · intro h
    exact (silent_or_lists line protocol service).resolve_right (not_exists.2 h)

/-! ## What the reader of lines finds -/

theorem ofLine?_eq_some_iff {line : Text} {e : Entry} :
    Entry.ofLine? line = some e ↔ ∃ name numeral aliases,
      fields line = name :: (numeral ++ '/' :: e.protocol) :: aliases ∧ '/' ∉ numeral ∧
        IsPort numeral e.port ∧ e.names = name :: aliases := by
  unfold Entry.ofLine?
  constructor
  · intro h
    split at h
    · next name field aliases form =>
      obtain ⟨⟨numeral, protocol⟩, hcut, hmap⟩ := Option.bind_eq_some_iff.1 h
      obtain ⟨n, hread, rfl⟩ := Option.map_eq_some_iff.1 hmap
      obtain ⟨rfl, divided⟩ := Text.cut?_eq_some_iff.1 hcut
      exact ⟨name, numeral, aliases, form, divided, readPort_iff.1 (by rw [hread]; rfl), rfl⟩
    · simp at h
  · rintro ⟨name, numeral, aliases, form, divided, number, hnames⟩
    obtain ⟨n, hread, hport⟩ := Option.map_eq_some_iff.1 (readPort_iff.2 number)
    obtain ⟨names, port, protocol⟩ := e
    obtain rfl : names = name :: aliases := hnames
    obtain rfl : UInt16.ofNat n = port := hport
    rw [show Text.words (Text.upTo '#' line) = name :: (numeral ++ '/' :: protocol) :: aliases
      from form]
    simp [Text.cut?_append_cons protocol divided, hread]

theorem isFor_iff {e : Entry} {protocol : Protocol} {service : Text} :
    e.isFor protocol service = true ↔
      e.protocol = protocol.name ∧ ∃ other ∈ e.names, SameName other service := by
  simp [Entry.isFor, SameName]

/-- The port that a line has for a service under a protocol. -/
def listed? (protocol : Protocol) (service line : Text) : Option UInt16 :=
  ((Entry.ofLine? line).filter (·.isFor protocol service)).map (·.port)

theorem listed?_eq_some_iff {line : Text} {protocol : Protocol} {service : Text} {port : UInt16} :
    listed? protocol service line = some port ↔ Lists line protocol service port := by
  constructor
  · intro h
    obtain ⟨e, hfilter, rfl⟩ := Option.map_eq_some_iff.1 h
    obtain ⟨hentry, hfor⟩ := Option.filter_eq_some_iff.1 hfilter
    obtain ⟨name, numeral, aliases, form, divided, number, hnames⟩ := ofLine?_eq_some_iff.1 hentry
    obtain ⟨hprotocol, hnamed⟩ := isFor_iff.1 hfor
    rw [hprotocol] at form
    rw [hnames] at hnamed
    exact .entry name numeral aliases form divided number hnamed
  · rintro ⟨name, numeral, aliases, form, divided, number, named⟩
    have hentry : Entry.ofLine? line = some ⟨name :: aliases, port, protocol.name⟩ :=
      ofLine?_eq_some_iff.2 ⟨name, numeral, aliases, form, divided, number, rfl⟩
    have hfor : Entry.isFor ⟨name :: aliases, port, protocol.name⟩ protocol service = true :=
      isFor_iff.2 ⟨rfl, named⟩
    simp [listed?, hentry, Option.filter, hfor]

theorem listed?_eq_none_iff {line : Text} {protocol : Protocol} {service : Text} :
    listed? protocol service line = none ↔ Silent line protocol service := by
  simp only [Option.eq_none_iff_forall_ne_some, ne_eq, listed?_eq_some_iff, silent_iff]

/-- Of the lines of a database the first counts that has a port. -/
theorem find?_eq_findSome? (database : Text) (protocol : Protocol) (service : Text) :
    find? database protocol service
      = (Text.pieces '\n' database).findSome? (listed? protocol service) := by
  rw [find?, entries]
  induction Text.pieces '\n' database with
  | nil => rfl
  | cons line rest ih =>
    rw [List.findSome?_cons, ← ih]
    cases hentry : Entry.ofLine? line with
    | none => rw [List.filterMap_cons_none hentry, listed?, hentry]; rfl
    | some e =>
      rw [List.filterMap_cons_some hentry, listed?, hentry]
      cases hfor : e.isFor protocol service <;> simp [hfor, Option.filter]

/-- The first line of a database that has a port for a service under a protocol. -/
inductive FirstListed (database : Text) (protocol : Protocol) (service : Text) (port : UInt16) :
    Prop where
  | line (before after : List Text) (line : Text)
      (split : Text.pieces '\n' database = before ++ line :: after)
      (earlier : ∀ l ∈ before, Silent l protocol service)
      (h : Lists line protocol service port)

/-- No line of a database has a port for a service under a protocol. -/
def Unlisted (database : Text) (protocol : Protocol) (service : Text) : Prop :=
  ∀ line ∈ Text.pieces '\n' database, Silent line protocol service

theorem find?_eq_some_iff {database : Text} {protocol : Protocol} {service : Text}
    {port : UInt16} :
    find? database protocol service = some port ↔ FirstListed database protocol service port := by
  rw [find?_eq_findSome?, List.findSome?_eq_some_iff]
  simp only [listed?_eq_some_iff, listed?_eq_none_iff]
  constructor
  · rintro ⟨before, line, after, split, h, earlier⟩
    exact .line before after line split earlier h
  · rintro ⟨before, after, line, split, earlier, h⟩
    exact ⟨before, line, after, split, h, earlier⟩

theorem find?_eq_none_iff {database : Text} {protocol : Protocol} {service : Text} :
    find? database protocol service = none ↔ Unlisted database protocol service := by
  simp only [find?_eq_findSome?, List.findSome?_eq_none_iff, listed?_eq_none_iff, Unlisted]

/-- A database is asked for a service in small letters, which is the same to it. -/
theorem find?_lower (database : Text) (protocol : Protocol) (service : Text) :
    find? database protocol (lower service) = find? database protocol service := by
  have hfor : ∀ e : Entry, e.isFor protocol (lower service) = e.isFor protocol service := by
    intro e
    simp only [Entry.isFor, lower_lower]
  simp only [find?, hfor]

/-! ## The built-in table -/

/-- The built-in table has a port for a service under a protocol. -/
def WellKnown (protocol : Protocol) (service : Text) (port : UInt16) : Prop :=
  ∃ name, (protocol, name, port) ∈ wellKnown ∧ SameName name.toList service

/-- The names of the table are in small letters, and each has one port under a protocol. -/
theorem wellKnown_distinct :
    (∀ e ∈ wellKnown, lower e.2.1.toList = e.2.1.toList) ∧
      (wellKnown.map fun e => (e.1, e.2.1)).Nodup := by
  decide

theorem wellKnown_of_wellKnown? {protocol : Protocol} {service : Text} {port : UInt16}
    (h : wellKnown? protocol (lower service) = some port) : WellKnown protocol service port := by
  rw [wellKnown?, Option.map_eq_some_iff] at h
  obtain ⟨⟨other, name, _⟩, hfind, rfl⟩ := h
  have hmem := List.mem_of_find?_eq_some hfind
  have hfound := List.find?_some hfind
  simp only [Bool.and_eq_true, beq_iff_eq] at hfound
  obtain ⟨rfl, hname⟩ := hfound
  exact ⟨name, hmem, (wellKnown_distinct.1 _ hmem).trans hname⟩

theorem wellKnown?_eq_some_iff {protocol : Protocol} {service : Text} {port : UInt16} :
    wellKnown? protocol (lower service) = some port ↔ WellKnown protocol service port := by
  refine ⟨wellKnown_of_wellKnown?, ?_⟩
  rintro ⟨name, hmem, hsame⟩
  obtain ⟨hsmall, hdistinct⟩ := wellKnown_distinct
  have hname : name.toList = lower service := (hsmall _ hmem).symm.trans hsame
  cases hfind : wellKnown? protocol (lower service) with
  | none =>
    rw [wellKnown?, Option.map_eq_none_iff] at hfind
    exact absurd (List.find?_eq_none.1 hfind _ hmem) (by simp [hname])
  | some found =>
    obtain ⟨other, hother, hothersame⟩ := wellKnown_of_wellKnown? hfind
    have hothername : other.toList = lower service := (hsmall _ hother).symm.trans hothersame
    obtain rfl : other = name := String.toList_inj.1 (hothername.trans hname.symm)
    have heq := List.inj_on_of_nodup_map hdistinct hother hmem rfl
    simp only [Prod.mk.injEq, true_and] at heq
    rw [heq]

theorem wellKnown?_eq_none_iff {protocol : Protocol} {service : Text} :
    wellKnown? protocol (lower service) = none ↔ ∀ port, ¬ WellKnown protocol service port := by
  simp only [Option.eq_none_iff_forall_ne_some, ne_eq, wellKnown?_eq_some_iff]

/-! ## The answers -/

/-- The protocols of a network, in the order in which they are asked for. -/
inductive Carries : (network : Text) → List Protocol → Prop where
  | tcp : Carries "tcp".toList [.tcp]
  | tcp4 : Carries "tcp4".toList [.tcp]
  | tcp6 : Carries "tcp6".toList [.tcp]
  | udp : Carries "udp".toList [.udp]
  | udp4 : Carries "udp4".toList [.udp]
  | udp6 : Carries "udp6".toList [.udp]
  /-- no name stands for both, and the first is preferred -/
  | any : Carries [] [.tcp, .udp]

/-- A file holds a text: its octets are the text in UTF-8. -/
def Holds (file : Option (List UInt8)) (text : Text) : Prop :=
  ∃ octets, file = some octets ∧ (⟨octets.toArray⟩ : ByteArray) = text.utf8Encode

/-- No text that a file holds has a port for a service under a protocol; so it is if there is no
file, or if it is not in UTF-8. -/
def UnlistedIn (file : Option (List UInt8)) (protocol : Protocol) (service : Text) : Prop :=
  ∀ text, Holds file text → Unlisted text protocol service

/-- What a lookup of a service on a network answers, where the database is a file. -/
inductive Answers (file : Option (List UInt8)) (network service : Text) :
    Except IoFault UInt16 → Prop where
  /-- a network that has no services -/
  | unknownNetwork (h : ∀ protocols, ¬ Carries network protocols) :
      Answers file network service
        (.error { kind := .invalidInput, message := some ("unknown network " ++ network.string) })
  /-- no service is port zero -/
  | nameless (protocols : List Protocol) (known : Carries network protocols) (h : service = []) :
      Answers file network service (.ok 0)
  /-- the first line for the first of the protocols that has one -/
  | listed (before after : List Protocol) (protocol : Protocol)
      (known : Carries network (before ++ protocol :: after)) (named : service ≠ [])
      (preferred : ∀ other ∈ before, UnlistedIn file other service)
      (text : Text) (read : Holds file text)
      (port : UInt16) (h : FirstListed text protocol service port) :
      Answers file network service (.ok port)
  /-- without a line for any of them, the table, for the first of the protocols that it has -/
  | wellKnown (before after : List Protocol) (protocol : Protocol)
      (known : Carries network (before ++ protocol :: after)) (named : service ≠ [])
      (unlisted : ∀ other ∈ before ++ protocol :: after, UnlistedIn file other service)
      (preferred : ∀ other ∈ before, ∀ port, ¬ WellKnown other service port)
      (port : UInt16) (h : WellKnown protocol service port) :
      Answers file network service (.ok port)
  /-- neither a line nor the table -/
  | unknownPort (protocols : List Protocol) (known : Carries network protocols)
      (named : service ≠ [])
      (unlisted : ∀ protocol ∈ protocols, UnlistedIn file protocol service)
      (h : ∀ protocol ∈ protocols, ∀ port, ¬ WellKnown protocol service port) :
      Answers file network service
        (.error
          { kind := .notFound
            message := some ("unknown port " ++ network.string ++ "/" ++ (lower service).string) })

theorem carries_iff {network : Text} {protocols : List Protocol} :
    Carries network protocols ↔ Protocol.ofNetwork? network = some protocols := by
  constructor
  · rintro ⟨⟩ <;> rfl
  · intro h
    unfold Protocol.ofNetwork? at h
    split at h
    · next htcp =>
      obtain rfl := Option.some.inj h
      simp only [List.mem_cons, List.not_mem_nil, or_false] at htcp
      rcases htcp with rfl | rfl | rfl
      exacts [.tcp, .tcp4, .tcp6]
    · split at h
      · next hudp =>
        obtain rfl := Option.some.inj h
        simp only [List.mem_cons, List.not_mem_nil, or_false] at hudp
        rcases hudp with rfl | rfl | rfl
        exacts [.udp, .udp4, .udp6]
      · split at h
        · next hnone =>
          obtain rfl := Option.some.inj h
          rw [hnone]
          exact .any
        · simp at h

theorem ofOctets?_eq_some_iff {octets : List UInt8} {text : Text} :
    ofOctets? octets = some text ↔ (⟨octets.toArray⟩ : ByteArray) = text.utf8Encode := by
  rw [ofOctets?, String.fromUTF8?]
  constructor
  · intro h
    split at h
    · obtain rfl := Option.some.inj h
      rw [← String.toByteArray_ofList, String.ofList_toList]
      rfl
    · simp at h
  · intro h
    have hvalid : (⟨octets.toArray⟩ : ByteArray).IsValidUTF8 := .intro text h
    have hstring : String.fromUTF8 ⟨octets.toArray⟩ hvalid = String.ofList text := by
      rw [← String.toByteArray_inj, String.toByteArray_ofList]
      exact h
    rw [dif_pos hvalid, hstring]
    simp

theorem holds_iff {file : Option (List UInt8)} {text : Text} :
    file.bind ofOctets? = some text ↔ Holds file text := by
  simp only [Option.bind_eq_some_iff, ofOctets?_eq_some_iff, Holds]

/-! ## A lookup follows the rules -/

section

variable {file : Option (List UInt8)} {network service : Text}

/-- The port that a file has for a service under the first of some protocols that it has one for. -/
def listedIn? (file : Option (List UInt8)) (protocols : List Protocol) (service : Text) :
    Option UInt16 :=
  (file.bind ofOctets?).bind fun text => protocols.findSome? (find? text · service)

theorem listedIn?_eq_some_iff {protocols : List Protocol} {port : UInt16} :
    listedIn? file protocols service = some port ↔
      ∃ before protocol after text, protocols = before ++ protocol :: after ∧
        (∀ other ∈ before, UnlistedIn file other service) ∧ Holds file text ∧
        FirstListed text protocol service port := by
  rw [listedIn?, Option.bind_eq_some_iff]
  simp only [holds_iff, List.findSome?_eq_some_iff, find?_eq_some_iff, find?_eq_none_iff]
  constructor
  · rintro ⟨text, read, before, protocol, after, split, h, preferred⟩
    refine ⟨before, protocol, after, text, split, ?_, read, h⟩
    intro other hother text' read'
    obtain rfl := Option.some.inj ((holds_iff.2 read).symm.trans (holds_iff.2 read'))
    exact preferred other hother
  · rintro ⟨before, protocol, after, text, split, preferred, read, h⟩
    exact ⟨text, read, before, protocol, after, split, h,
      fun other hother => preferred other hother text read⟩

theorem listedIn?_eq_none_iff {protocols : List Protocol} :
    listedIn? file protocols service = none ↔
      ∀ protocol ∈ protocols, UnlistedIn file protocol service := by
  rw [listedIn?, Option.bind_eq_none_iff]
  simp only [holds_iff, List.findSome?_eq_none_iff, find?_eq_none_iff]
  exact ⟨fun h protocol hmem text read => h text read protocol hmem,
    fun h text read protocol hmem => h protocol hmem text read⟩

theorem lookupPort_of_unknown (h : ∀ protocols, ¬ Carries network protocols)
    (database : Option Text) :
    lookupPort database network service = .error (.unknownNetwork network) := by
  have hnone : Protocol.ofNetwork? network = none :=
    Option.eq_none_iff_forall_ne_some.2 fun protocols => mt carries_iff.2 (h protocols)
  rw [lookupPort, hnone]

theorem lookupPort_of_nameless {protocols : List Protocol} (known : Carries network protocols)
    (database : Option Text) : lookupPort database network [] = .ok 0 := by
  rw [lookupPort, carries_iff.1 known]
  rfl

/-- What is left of a lookup once the network and the name are known to be sound. -/
theorem lookupPort_of_named {protocols : List Protocol} (known : Carries network protocols)
    (named : service ≠ []) :
    lookupPort (file.bind ofOctets?) network service
      = ((listedIn? file protocols service).or
          (protocols.findSome? (wellKnown? · (lower service)))).elim
        (.error (.unknownPort network (lower service))) .ok := by
  rw [lookupPort, carries_iff.1 known]
  simp only [named, if_false, find?_lower, listedIn?]
  split
  · next port hfound => rw [hfound, Option.elim_some]
  · next hnone => rw [hnone, Option.elim_none]

theorem lookupPort_of_answers {answer : Except IoFault UInt16}
    (h : Answers file network service answer) :
    lookupPort (file.bind ofOctets?) network service = answer := by
  cases h with
  | unknownNetwork h => exact lookupPort_of_unknown h _
  | nameless protocols known h =>
    subst h
    exact lookupPort_of_nameless known _
  | listed before after protocol known named preferred text read port h =>
    rw [lookupPort_of_named known named,
      listedIn?_eq_some_iff.2 ⟨before, protocol, after, text, rfl, preferred, read, h⟩]
    rfl
  | wellKnown before after protocol known named unlisted preferred port h =>
    have htable : (before ++ protocol :: after).findSome? (wellKnown? · (lower service))
        = some port :=
      List.findSome?_eq_some_iff.2 ⟨before, protocol, after, rfl, wellKnown?_eq_some_iff.2 h,
        fun other hother => wellKnown?_eq_none_iff.2 (preferred other hother)⟩
    rw [lookupPort_of_named known named, listedIn?_eq_none_iff.2 unlisted, htable]
    rfl
  | unknownPort protocols known named unlisted h =>
    have htable : protocols.findSome? (wellKnown? · (lower service)) = none :=
      List.findSome?_eq_none_iff.2 fun protocol hmem => wellKnown?_eq_none_iff.2 (h protocol hmem)
    rw [lookupPort_of_named known named, listedIn?_eq_none_iff.2 unlisted, htable]
    rfl

/-- Some rule applies to every lookup. -/
theorem exists_answers (file : Option (List UInt8)) (network service : Text) :
    ∃ answer, Answers file network service answer := by
  by_cases known : ∀ protocols, ¬ Carries network protocols
  · exact ⟨_, .unknownNetwork known⟩
  obtain ⟨protocols, known⟩ := not_forall_not.1 known
  by_cases named : service = []
  · exact ⟨_, .nameless protocols known named⟩
  cases hlisted : listedIn? file protocols service with
  | some port =>
    obtain ⟨before, protocol, after, text, rfl, preferred, read, h⟩ :=
      listedIn?_eq_some_iff.1 hlisted
    exact ⟨_, .listed before after protocol known named preferred text read port h⟩
  | none =>
    have unlisted := listedIn?_eq_none_iff.1 hlisted
    cases htable : protocols.findSome? (wellKnown? · (lower service)) with
    | some port =>
      obtain ⟨before, protocol, after, rfl, h, preferred⟩ := List.findSome?_eq_some_iff.1 htable
      exact ⟨_, .wellKnown before after protocol known named unlisted
        (fun other hother => wellKnown?_eq_none_iff.1 (preferred other hother)) port
        (wellKnown?_eq_some_iff.1 h)⟩
    | none =>
      have h := List.findSome?_eq_none_iff.1 htable
      exact ⟨_, .unknownPort protocols known named unlisted
        fun protocol hmem => wellKnown?_eq_none_iff.1 (h protocol hmem)⟩

end

/-! ## Lines that are left out -/

/-- A database made of lines, with breaks between them. -/
def joined (lines : List Text) : Text := ['\n'].intercalate lines

theorem find?_joined (lines : List Text) (protocol : Protocol) (service : Text) :
    find? (joined lines) protocol service = lines.findSome? (find? · protocol service) := by
  induction lines with
  | nil => rfl
  | cons line rest ih =>
    cases rest with
    | nil =>
      rw [joined, List.intercalate_singleton, List.findSome?_cons]
      cases find? line protocol service <;> rfl
    | cons next rest =>
      have hjoined : joined (line :: next :: rest) = line ++ '\n' :: joined (next :: rest) := by
        simp [joined]
      rw [hjoined, find?_append, ih]
      cases hline : find? line protocol service <;> simp [List.findSome?_cons, hline]

theorem find?_of_silent {line : Text} {protocol : Protocol} {service : Text} (h : '\n' ∉ line)
    (silent : Silent line protocol service) : find? line protocol service = none := by
  rw [find?_eq_none_iff, Unlisted, Text.pieces_of_not_mem h]
  simpa using silent

theorem find?_joined_of_silent {line : Text} {protocol : Protocol} {service : Text}
    (h : '\n' ∉ line) (silent : Silent line protocol service) (before after : List Text) :
    find? (joined (before ++ line :: after)) protocol service
      = find? (joined (before ++ after)) protocol service := by
  simp only [find?_joined, List.findSome?_append, List.findSome?_cons, find?_of_silent h silent]

theorem lookupPort_congr {network service a b : Text}
    (h : ∀ protocols, Carries network protocols → ∀ protocol ∈ protocols,
      find? a protocol service = find? b protocol service) :
    lookupPort (some a) network service = lookupPort (some b) network service := by
  cases hknown : Protocol.ofNetwork? network with
  | none => simp only [lookupPort, hknown]
  | some protocols =>
    have hfind : protocols.map (find? a · service) = protocols.map (find? b · service) :=
      List.map_congr_left (h protocols (carries_iff.2 hknown))
    have hfirst := congrArg (List.findSome? id) hfind
    simp only [List.findSome?_map, Function.id_comp] at hfirst
    simp only [lookupPort, hknown, Option.bind_some, find?_lower, hfirst]

/-- A lookup answers by the rules, whatever the file is; a line that says nothing of the service
under the protocols of the network can be left out, wherever it stands. -/
theorem lookupPort_goes_by_lines (file : Option (List UInt8)) (network service : Text) :
    (∀ answer, lookupPort (file.bind ofOctets?) network service = answer ↔
      Answers file network service answer) ∧
    ∀ before line after, '\n' ∉ line →
      (∀ protocols, Carries network protocols → ∀ protocol ∈ protocols,
        Silent line protocol service) →
      lookupPort (some (joined (before ++ line :: after))) network service
        = lookupPort (some (joined (before ++ after))) network service := by
  refine ⟨fun answer => ⟨?_, lookupPort_of_answers⟩, ?_⟩
  · rintro rfl
    obtain ⟨answer, h⟩ := exists_answers file network service
    exact (lookupPort_of_answers h).symm ▸ h
  · intro before line after hline silent
    exact lookupPort_congr fun protocols known protocol hmem =>
      find?_joined_of_silent hline (silent protocols known protocol hmem) before after

/-- A line with a port that is none between one for the protocol that is asked for last and one
with the service among its further names. -/
theorem lookupPort_goes_by_lines_of_wrong_port :
    let service := "wWw".toList
    let before := ["www 81/udp".toList]
    let wrong := "www http/tcp".toList
    let after := ["http +0080/tcp web Www # 82".toList, "www 83/tcp".toList]
    let octets := (joined (before ++ wrong :: after)).utf8Encode.data.toList
    Answers (some octets) [] service (.ok 80) ∧ '\n' ∉ wrong ∧
      (∀ protocols, Carries [] protocols → ∀ protocol ∈ protocols, Silent wrong protocol service) ∧
      lookupPort (some (joined (before ++ wrong :: after))) [] service
        = lookupPort (some (joined (before ++ after))) [] service := by
  intro service before wrong after octets
  obtain ⟨hrules, hleft⟩ := lookupPort_goes_by_lines (some octets) [] service
  have hread : (some octets).bind ofOctets? = some (joined (before ++ wrong :: after)) :=
    holds_iff.2 ⟨octets, rfl, rfl⟩
  have hanswer : lookupPort (some (joined (before ++ wrong :: after))) [] service = .ok 80 := by
    decide
  have hbreak : '\n' ∉ wrong := by decide
  have silent : ∀ protocols, Carries [] protocols → ∀ protocol ∈ protocols,
      Silent wrong protocol service := by
    intro protocols _ protocol _
    cases protocol <;> exact listed?_eq_none_iff.1 (by decide)
  refine ⟨(hrules _).1 ?_, hbreak, silent, hleft before wrong after hbreak silent⟩
  rw [hread, hanswer]

end Switchboard.Services
