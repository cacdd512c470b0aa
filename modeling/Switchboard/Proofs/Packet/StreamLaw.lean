import Switchboard.Packet.Stream
import Switchboard.Proofs.Octets

set_option autoImplicit false

/-!
# A stream is a queue of items

Whoever puts items at the end of a stream and takes them from its front need not think of octets.
What was put in and not yet taken out is a queue, and the stream holds exactly the octets of what is
in the queue.  Main statement: in a run that asks at each take for the kind of the oldest item,
every step is answered as the queue demands (`run_serves_queue`).

The step lemma is `serves_step`.  It rests on one fact about single items: the octets of an item,
with anything behind them, are read as this item and no more octets than its own are used
(`decode_octets`).
-/

namespace Switchboard.Packet

/-! ## The queue -/

/-- Whether an item can be written: a header only if its version is understood. -/
def Item.understood : Item → Bool
  | .header h => h.version ≤ maxVersion
  | .extension _ => true

/-- The queue after a step. -/
def Step.leaves (pending : List Item) : Step → List Item
  | .append item => if item.understood then pending ++ [item] else pending
  | .take _ => pending.tail
  | _ => pending

/-- Whether a step asks for the kind of the oldest item, if it takes one. -/
def Step.suits (pending : List Item) : Step → Bool
  | .take kind => pending.head?.all fun item => item.kind = kind
  | _ => true

/-- Whether every step of a run asks for the kind of the item that is then the oldest. -/
def suited (pending : List Item) : List Step → Bool
  | [] => true
  | s :: rest => s.suits pending && suited (s.leaves pending) rest

/-- Whether octets are those of some items, four for each, one item after another. -/
inductive Encodes : List Item → Octets → Prop where
  | nil : Encodes [] []
  | cons {item : Item} {items : List Item} {octets rest : Octets}
      (written : item.octets = .ok octets) (four : octets.length = 4)
      (others : Encodes items rest) : Encodes (item :: items) (octets ++ rest)

/-- What a queue demands of a step over a stream: the stream afterwards, and the answer. -/
inductive Serves (pending : List Item) (stream : Octets) : Step → Octets → Answer → Prop where
  /-- an item that can be written comes to the end -/
  | appended (item : Item) (octets : Octets) (understood : item.understood = true)
      (written : item.octets = .ok octets) (four : octets.length = 4) :
      Serves pending stream (.append item) (stream ++ octets)
        (.appended (.ok ()) (stream ++ octets))
  /-- a header of a later version is turned down, by its version, and leaves no trace -/
  | refused (h : Header) (late : maxVersion < h.version) :
      Serves pending stream (.append (.header h)) stream
        (.appended (.error (.versionExceeded h.version)) stream)
  /-- the oldest item comes out as it went in, and its four octets are gone -/
  | taken (item : Item) (others : List Item) (octets rest : Octets)
      (oldest : pending = item :: others) (written : item.octets = .ok octets)
      (four : octets.length = 4) (front : stream = octets ++ rest) :
      Serves pending stream (.take item.kind) rest (.taken (.ok (item, 4)) rest)
  /-- there is nothing to take -/
  | short (kind : Kind) (none : pending = []) :
      Serves pending stream (.take kind) stream (.taken (.error .shortInput) stream)
  /-- other octets are read, or another buffer is written -/
  | aside (s : Step) (answer : Answer) (noAppend : ∀ item, s ≠ .append item)
      (noTake : ∀ kind, s ≠ .take kind) : Serves pending stream s stream answer

/-- What a queue demands of a run over a stream: before each step and at the end the stream holds
what is in the queue, and the steps are answered one after another. -/
inductive ServesAll : List Item → Octets → List Step → List Answer → Prop where
  | nil {pending : List Item} {stream : Octets} (holds : Encodes pending stream) :
      ServesAll pending stream [] []
  | cons {pending : List Item} {stream next : Octets} {s : Step} {steps : List Step}
      {answer : Answer} {answers : List Answer} (holds : Encodes pending stream)
      (served : Serves pending stream s next answer)
      (rest : ServesAll (s.leaves pending) next steps answers) :
      ServesAll pending stream (s :: steps) (answer :: answers)

/-! ## One item -/

theorem lengthOf_lengthOctets (n : UInt16) :
    lengthOf (lengthOctets n).1 (lengthOctets n).2 = n := join_halves n

/-- The only version that is understood is the first one. -/
theorem version_eq_zero {version : UInt8} (h : ¬ maxVersion < version) : version = 0 :=
  UInt8.le_zero_iff.1 (UInt8.not_lt.1 h)

/-- The first octet of a header of the first version has room for the version and both flags. -/
theorem Header.firstOctet_spec (h : Header) (hversion : h.version = 0) :
    (h.firstOctet &&& 0xF0) >>> 4 = 0 ∧ decide (h.firstOctet &&& 0x08 ≠ 0) = h.reply ∧
      decide (h.firstOctet &&& 0x04 ≠ 0) = h.error := by
  unfold firstOctet
  rw [hversion]
  cases h.reply <;> cases h.error <;> decide

/-- The first octet of an extension header has room for its three flags. -/
theorem Extension.firstOctet_spec (e : Extension) :
    decide (e.firstOctet &&& 0x80 ≠ 0) = e.ignore ∧ decide (e.firstOctet &&& 0x40 ≠ 0) = e.close ∧
      decide (e.firstOctet &&& 0x20 ≠ 0) = e.hopByHop := by
  unfold firstOctet
  cases e.ignore <;> cases e.close <;> cases e.hopByHop <;> decide

theorem Header.octets_of_late {h : Header} (late : maxVersion < h.version) :
    h.octets = .error (.versionExceeded h.version) := if_pos late

theorem Header.octets_of_not_late {h : Header} (hversion : ¬ maxVersion < h.version) :
    h.octets
      = .ok [h.firstOctet, h.protocol, (lengthOctets h.length).1, (lengthOctets h.length).2] :=
  if_neg hversion

theorem Header.decode_octets (h : Header) (hversion : ¬ maxVersion < h.version) (rest : Octets) :
    Header.decode
        ([h.firstOctet, h.protocol, (lengthOctets h.length).1, (lengthOctets h.length).2] ++ rest)
      = .ok (h, 4) := by
  have hzero : h.version = 0 := version_eq_zero hversion
  obtain ⟨hnibble, hreply, herror⟩ := h.firstOctet_spec hzero
  simp only [List.cons_append, Header.decode, hnibble, hreply, herror, lengthOf_lengthOctets]
  rw [← hzero]
  exact if_neg hversion

theorem Extension.decode_octets (e : Extension) (rest : Octets) :
    Extension.decode (e.octets ++ rest) = .ok (e, 4) := by
  obtain ⟨hignore, hclose, hhop⟩ := e.firstOctet_spec
  simp only [Extension.octets, List.cons_append, Extension.decode, hignore, hclose, hhop,
    lengthOf_lengthOctets]
  rfl

/-- An item that can be written is written in four octets, which are read as that item, whatever
stands behind them. -/
theorem Item.exists_octets {item : Item} (h : item.understood = true) :
    ∃ octets, item.octets = .ok octets ∧ octets.length = 4 := by
  cases item with
  | header header =>
    have hversion : ¬ maxVersion < header.version := UInt8.not_lt.2 (of_decide_eq_true h)
    exact ⟨_, Header.octets_of_not_late hversion, rfl⟩
  | extension extension => exact ⟨_, rfl, rfl⟩

theorem Item.decode_octets {item : Item} {octets : Octets} (written : item.octets = .ok octets)
    (rest : Octets) : Item.decode item.kind (octets ++ rest) = .ok (item, 4) := by
  cases item with
  | header header =>
    by_cases late : maxVersion < header.version
    · have hrefused : header.octets = .ok octets := written
      rw [Header.octets_of_late late] at hrefused
      simp at hrefused
    · obtain rfl := Except.ok.inj ((Header.octets_of_not_late late).symm.trans written)
      simp only [Item.kind, Item.decode, Header.decode_octets header late rest]
      rfl
  | extension extension =>
    obtain rfl := Except.ok.inj written
    simp only [Item.kind, Item.decode, Extension.decode_octets]
    rfl

theorem append_octets {item : Item} {octets : Octets} (written : item.octets = .ok octets)
    (stream : Octets) : append stream item = .ok (stream ++ octets) := by
  rw [append, written]
  rfl

/-! ## One step -/

theorem Encodes.concat {items : List Item} {stream : Octets} (holds : Encodes items stream)
    {item : Item} {octets : Octets} (written : item.octets = .ok octets)
    (four : octets.length = 4) : Encodes (items ++ [item]) (stream ++ octets) := by
  induction holds with
  | nil => simpa using Encodes.cons written four .nil
  | cons first length _ ih =>
    rw [List.cons_append, List.append_assoc]
    exact .cons first length ih

theorem take_nil (kind : Kind) : take kind [] = .error .shortInput := by cases kind <;> rfl

/-- The oldest item is at the front of the stream. -/
theorem take_octets {item : Item} {octets : Octets} (written : item.octets = .ok octets)
    (four : octets.length = 4) (rest : Octets) :
    take item.kind (octets ++ rest) = .ok (item, rest) := by
  refine take_eq_ok_iff.2 ⟨4, Item.decode_octets written rest, ?_⟩
  rw [← four, List.drop_left]

/-- A step over a stream that holds what is in the queue is answered as the queue demands, and the
stream then holds what is left in it. -/
theorem serves_step {pending : List Item} {stream : Octets} (holds : Encodes pending stream)
    {s : Step} (h : s.suits pending = true) :
    Serves pending stream s (step stream s).1 (step stream s).2 ∧
      Encodes (s.leaves pending) (step stream s).1 := by
  cases s with
  | append item =>
    cases hunderstood : item.understood with
    | true =>
      obtain ⟨octets, written, four⟩ := Item.exists_octets hunderstood
      simp only [step, append_octets written, Step.leaves, hunderstood, if_true]
      exact ⟨.appended item octets hunderstood written four, holds.concat written four⟩
    | false =>
      cases item with
      | extension extension => simp [Item.understood] at hunderstood
      | header header =>
        have late : maxVersion < header.version :=
          UInt8.not_le.1 (of_decide_eq_false hunderstood)
        have happend :
            append stream (.header header) = .error (.versionExceeded header.version) := by
          rw [append, Item.octets, Header.octets_of_late late]
          rfl
        simp only [step, happend, Step.leaves, hunderstood, Bool.false_eq_true, if_false]
        exact ⟨.refused header late, holds⟩
  | take kind =>
    cases holds with
    | nil =>
      simp only [step, take_nil, Step.leaves]
      exact ⟨.short kind rfl, .nil⟩
    | @cons item items octets rest written four others =>
      obtain rfl : item.kind = kind := by simpa [Step.suits] using h
      simp only [step, take_octets written four, Step.leaves, List.tail_cons]
      refine ⟨?_, others⟩
      have hsize : item.size = 4 := by cases item <;> rfl
      rw [hsize]
      exact .taken item items octets rest rfl written four rfl
  | decode kind data => exact ⟨.aside _ _ (by simp) (by simp), holds⟩
  | constants => exact ⟨.aside _ _ (by simp) (by simp), holds⟩
  | encode item buffer =>
    have hstream : (step stream (.encode item buffer)).1 = stream := by
      simp only [step]
      split <;> rfl
    rw [hstream]
    exact ⟨.aside _ _ (by simp) (by simp), holds⟩

/-! ## Runs -/

theorem servesAll_run {pending : List Item} {stream : Octets} (holds : Encodes pending stream)
    {steps : List Step} (h : suited pending steps = true) :
    ServesAll pending stream steps (run stream steps) := by
  induction steps generalizing pending stream with
  | nil => exact .nil holds
  | cons s steps ih =>
    obtain ⟨hfirst, hrest⟩ := Bool.and_eq_true_iff.1 h
    obtain ⟨hserves, hleft⟩ := serves_step holds hfirst
    exact .cons holds hserves (ih hleft hrest)

/-- From an empty stream, every run that asks at each take for the kind of the oldest item is
answered as the queue of the items demands. -/
theorem run_serves_queue (steps : List Step) (h : suited [] steps = true) :
    ServesAll [] [] steps (run [] steps) := servesAll_run .nil h

/-- Two items of different kinds, a header of a later version between them, and one take too
many. -/
theorem run_serves_queue_of_both_kinds :
    let steps : List Step :=
      [.append (.header { reply := true, protocol := 7, length := 0x1234 }),
        .append (.header { version := 2 }),
        .append (.extension { close := true, length := 0xFF00 }),
        .take .header, .take .extension, .take .header]
    suited [] steps = true ∧ ServesAll [] [] steps (run [] steps) :=
  ⟨rfl, run_serves_queue _ rfl⟩

end Switchboard.Packet
