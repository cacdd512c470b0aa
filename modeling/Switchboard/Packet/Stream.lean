import Switchboard.Packet.Header

set_option autoImplicit false

/-!
# Headers in a stream

A stream of octets grows at its end by the encodings of headers and extension headers and is read
from its front.  Which of the two kinds stands at the front is for the reader to know: the octets
do not say it.  A step that fails leaves the stream as it was.
-/

namespace Switchboard.Packet

/-- The two kinds of items in a stream. -/
inductive Kind where
  | header
  | extension
  deriving DecidableEq, Repr, Inhabited

/-- An item of a stream. -/
inductive Item where
  | header (h : Header)
  | extension (e : Extension)
  deriving DecidableEq, Repr, Inhabited

namespace Item

/-- The kind of an item. -/
def kind : Item → Kind
  | .header _ => .header
  | .extension _ => .extension

/-- The four octets of an item. -/
def octets : Item → Except Flaw Octets
  | .header h => h.octets
  | .extension e => .ok e.octets

/-- The buffer with the item in its first four octets. -/
def encode : Item → Octets → Except Flaw Octets
  | .header h => h.encode
  | .extension e => e.encode

/-- The item of a kind at the front of some octets, and how many of them it takes. -/
def decode (kind : Kind) (data : Octets) : Except Flaw (Item × Nat) :=
  match kind with
  | .header => (Header.decode data).map fun r => (.header r.1, r.2)
  | .extension => (Extension.decode data).map fun r => (.extension r.1, r.2)

/-- The number of octets that an item takes. -/
def size : Item → Nat
  | .header _ => headerSize
  | .extension _ => extensionSize

end Item

/-- The stream with an item at its end. -/
def append (stream : Octets) (item : Item) : Except Flaw Octets :=
  item.octets.map (stream ++ ·)

/-- The item of a kind at the front of a stream, and the stream without it. -/
def take (kind : Kind) (stream : Octets) : Except Flaw (Item × Octets) :=
  (Item.decode kind stream).map fun r => (r.1, stream.drop r.2)

/-! ## Runs over one stream -/

/-- What can be asked while a stream is held. -/
inductive Step where
  /-- read an item from the front of other octets -/
  | decode (kind : Kind) (data : Octets)
  /-- write an item into another buffer -/
  | encode (item : Item) (buffer : Octets)
  /-- put an item at the end of the stream -/
  | append (item : Item)
  /-- take an item from the front of the stream -/
  | take (kind : Kind)
  /-- the sizes of the two headers and the latest version -/
  | constants
  deriving Repr

/-- What is answered. -/
inductive Answer where
  | decoded (result : Except Flaw (Item × Nat))
  | encoded (result : Except Flaw Nat) (buffer : Octets)
  | appended (result : Except Flaw Unit) (stream : Octets)
  | taken (result : Except Flaw (Item × Nat)) (stream : Octets)
  | constants (header extension : Nat) (version : UInt8)

/-- One step: the stream afterwards, and the answer. -/
def step (stream : Octets) : Step → Octets × Answer
  | .decode kind data => (stream, .decoded (Item.decode kind data))
  | .encode item buffer =>
    match item.encode buffer with
    | .ok written => (stream, .encoded (.ok item.size) written)
    | .error flaw => (stream, .encoded (.error flaw) buffer)
  | .append item =>
    match append stream item with
    | .ok longer => (longer, .appended (.ok ()) longer)
    | .error flaw => (stream, .appended (.error flaw) stream)
  | .take kind =>
    match take kind stream with
    | .ok (item, rest) => (rest, .taken (.ok (item, item.size)) rest)
    | .error flaw => (stream, .taken (.error flaw) stream)
  | .constants => (stream, .constants headerSize extensionSize maxVersion)

/-- The answers to a sequence of steps. -/
def run (stream : Octets) : List Step → List Answer
  | [] => []
  | s :: rest =>
    let (next, answer) := step stream s
    answer :: run next rest

theorem take_eq_ok_iff {kind : Kind} {stream rest : Octets} {item : Item} :
    take kind stream = .ok (item, rest) ↔
      ∃ used, Item.decode kind stream = .ok (item, used) ∧ rest = stream.drop used := by
  unfold take
  cases Item.decode kind stream with
  | error e => simp [Except.map]
  | ok r =>
    obtain ⟨i, n⟩ := r
    simp only [Except.map, Except.ok.injEq, Prod.mk.injEq]
    constructor
    · rintro ⟨rfl, rfl⟩
      exact ⟨n, ⟨rfl, rfl⟩, rfl⟩
    · rintro ⟨used, ⟨rfl, rfl⟩, rfl⟩
      exact ⟨rfl, rfl⟩

end Switchboard.Packet
