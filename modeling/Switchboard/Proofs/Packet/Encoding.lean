import Switchboard.Proofs.Packet.StreamLaw

set_option autoImplicit false

/-!
# Writing an item into a buffer

A buffer may be of any length and hold anything.  `Writes` says how writing an item into it ends and
what it holds afterwards: a header of a later version is turned down before anything else, then a
buffer without room for four octets, and neither of them leaves a trace.  Otherwise the first four
octets are those of the item and the others are what they were.  Main statement: writing follows
these rules, and they leave it no choice (`encode_iff_writes`).
-/

namespace Switchboard.Packet

/-! ## The rules -/

/-- The bits of the first octet that stand for nothing. -/
def Item.reserved : Item → UInt8
  | .header _ => 0x03
  | .extension _ => 0x1F

/-- What the octets of an item are: four, with the reserved bits unset, the same that come to the
end of any stream, and read as this item with four octets used, whatever stands behind them. -/
structure Encoding (item : Item) (octets : Octets) : Prop where
  four : octets.length = 4
  unset : ∃ first others, octets = first :: others ∧ first &&& item.reserved = 0
  appended : ∀ stream, step stream (.append item)
    = (stream ++ octets, .appended (.ok ()) (stream ++ octets))
  decoded : ∀ stream rest, step stream (.decode item.kind (octets ++ rest))
    = (stream, .decoded (.ok (item, 4)))

/-- How writing an item into a buffer ends, and what is in the buffer afterwards. -/
inductive Writes : Item → (buffer : Octets) → Except Flaw Nat → (after : Octets) → Prop where
  | late (h : Header) (buffer : Octets) (late : maxVersion < h.version) :
      Writes (.header h) buffer (.error (.versionExceeded h.version)) buffer
  | short (item : Item) (buffer : Octets) (understood : item.understood = true)
      (short : buffer.length < 4) : Writes item buffer (.error .shortOutput) buffer
  | written (item : Item) (octets old rest : Octets) (understood : item.understood = true)
      (encoding : Encoding item octets) (four : old.length = 4) :
      Writes item (old ++ rest) (.ok 4) (octets ++ rest)

/-! ## The octets of an item -/

theorem Header.firstOctet_reserved (h : Header) (hversion : h.version = 0) :
    h.firstOctet &&& 0x03 = 0 := by
  unfold firstOctet
  rw [hversion]
  cases h.reply <;> cases h.error <;> decide

theorem Extension.firstOctet_reserved (e : Extension) : e.firstOctet &&& 0x1F = 0 := by
  unfold firstOctet
  cases e.ignore <;> cases e.close <;> cases e.hopByHop <;> decide

theorem Item.understood_or_late (item : Item) :
    item.understood = true ∨ ∃ h, item = .header h ∧ maxVersion < h.version := by
  cases item with
  | header h =>
    by_cases late : maxVersion < h.version
    · exact .inr ⟨h, rfl, late⟩
    · exact .inl (decide_eq_true (UInt8.not_lt.1 late))
  | extension e => exact .inl rfl

theorem Item.octets_unset {item : Item} {octets : Octets} (written : item.octets = .ok octets) :
    ∃ first others, octets = first :: others ∧ first &&& item.reserved = 0 := by
  cases item with
  | header h =>
    by_cases late : maxVersion < h.version
    · have hrefused : h.octets = .ok octets := written
      rw [Header.octets_of_late late] at hrefused
      simp at hrefused
    · obtain rfl := Except.ok.inj ((Header.octets_of_not_late late).symm.trans written)
      exact ⟨_, _, rfl, h.firstOctet_reserved (version_eq_zero late)⟩
  | extension e =>
    obtain rfl := Except.ok.inj written
    exact ⟨_, _, rfl, e.firstOctet_reserved⟩

/-- The octets that an item is written in are its encoding, and it has no other. -/
theorem encoding_iff {item : Item} (understood : item.understood = true) {octets : Octets} :
    Encoding item octets ↔ item.octets = .ok octets := by
  obtain ⟨own, hown, four⟩ := Item.exists_octets understood
  have hencoding : Encoding item own :=
    { four := four
      unset := Item.octets_unset hown
      appended := fun stream => by simp only [step, append_octets hown stream]
      decoded := fun stream rest => by simp only [step, Item.decode_octets hown rest] }
  constructor
  · intro h
    have hsame := (h.appended []).symm.trans (hencoding.appended [])
    rw [hown]
    exact congrArg Except.ok (congrArg Prod.fst hsame).symm
  · intro h
    obtain rfl := Except.ok.inj (hown.symm.trans h)
    exact hencoding

/-! ## The buffer -/

theorem overwrite_of_short {octets buffer : Octets} (h : buffer.length < octets.length) :
    overwrite octets buffer = .error .shortOutput := if_pos h

theorem overwrite_append {octets old : Octets} (h : old.length = octets.length) (rest : Octets) :
    overwrite octets (old ++ rest) = .ok (octets ++ rest) := by
  have hroom : ¬ (old ++ rest).length < octets.length := by
    rw [List.length_append]
    omega
  rw [overwrite, if_neg hroom, ← h, List.drop_left]

theorem Item.encode_of_octets {item : Item} {octets : Octets} (written : item.octets = .ok octets)
    (buffer : Octets) : item.encode buffer = overwrite octets buffer := by
  cases item with
  | header h =>
    have hwritten : h.octets = .ok octets := written
    simp only [Item.encode, Header.encode, hwritten]
    rfl
  | extension e =>
    obtain rfl := Except.ok.inj written
    rfl

/-! ## Main statement -/

/-- An item is written as the rules say. -/
theorem step_of_writes {item : Item} {buffer after : Octets} {result : Except Flaw Nat}
    (h : Writes item buffer result after) (stream : Octets) :
    step stream (.encode item buffer) = (stream, .encoded result after) := by
  cases h with
  | late header buffer late =>
    have hrefused : Item.encode (.header header) buffer
        = .error (.versionExceeded header.version) := by
      simp only [Item.encode, Header.encode, Header.octets_of_late late]
      rfl
    simp only [step, hrefused]
  | short item buffer understood short =>
    obtain ⟨octets, written, four⟩ := Item.exists_octets understood
    have hrefused : item.encode buffer = .error .shortOutput := by
      rw [Item.encode_of_octets written, overwrite_of_short (four ▸ short)]
    simp only [step, hrefused]
  | written item octets old rest understood encoding four =>
    have written : item.octets = .ok octets := (encoding_iff understood).1 encoding
    have hwritten : item.encode (old ++ rest) = .ok (octets ++ rest) := by
      rw [Item.encode_of_octets written, overwrite_append (four.trans encoding.four.symm)]
    have hsize : item.size = 4 := by cases item <;> rfl
    simp only [step, hwritten, hsize]

/-- Some rule applies to every item and every buffer. -/
theorem exists_writes (item : Item) (buffer : Octets) :
    ∃ result after, Writes item buffer result after := by
  rcases item.understood_or_late with understood | ⟨h, rfl, late⟩
  · by_cases short : buffer.length < 4
    · exact ⟨_, _, .short item buffer understood short⟩
    · obtain ⟨octets, written, -⟩ := Item.exists_octets understood
      have hencoding : Encoding item octets := (encoding_iff understood).2 written
      have hfour : (buffer.take 4).length = 4 := by
        rw [List.length_take]
        omega
      have hwrites := Writes.written item octets (buffer.take 4) (buffer.drop 4) understood
        hencoding hfour
      rw [List.take_append_drop] at hwrites
      exact ⟨_, _, hwrites⟩
  · exact ⟨_, _, .late h buffer late⟩

/-- Writing an item into a buffer leaves the stream alone and ends as the rules say. -/
theorem encode_iff_writes (stream : Octets) (item : Item) (buffer : Octets)
    (result : Except Flaw Nat) (after : Octets) :
    step stream (.encode item buffer) = (stream, .encoded result after) ↔
      Writes item buffer result after := by
  constructor
  · intro h
    obtain ⟨result', after', hwrites⟩ := exists_writes item buffer
    have hsame := (step_of_writes hwrites stream).symm.trans h
    simp only [Prod.mk.injEq, true_and, Answer.encoded.injEq] at hsame
    obtain ⟨rfl, rfl⟩ := hsame
    exact hwrites
  · intro h
    exact step_of_writes h stream

example : step [] (.encode (.header { reply := true, protocol := 7, length := 0x1234 })
      [0xFF, 0xFF, 0xFF, 0xFF, 0xFF])
    = ([], .encoded (.ok 4) [0x08, 0x07, 0x12, 0x34, 0xFF]) := rfl

end Switchboard.Packet
