import Switchboard.Circuit.Operation

set_option autoImplicit false

/-!
# Circuits over a link that is written down

A channel is a link whose other end is written down: the octets that come in, how many octets it
holds that go out, and which of its calls fail.  It notes its calls.  A life is a circuit over a
channel with steps that are taken on it.
-/

namespace Switchboard.Scripted

/-! ## Channels -/

/-- A call of a link. -/
inductive LinkCall where
  | read
  | write
  | flush
  | shutdown
  /-- the link was given up -/
  | drop
  deriving DecidableEq, Repr

/-- The state of a link that is written down. -/
structure Channel where
  incoming : List UInt8 := []
  /-- whether nothing comes in after that -/
  eof : Bool := false
  /-- how many octets it holds -/
  capacity : Nat := 64
  outgoing : List UInt8 := []
  failRead : Option IoKind := none
  failWrite : Option IoKind := none
  failFlush : Option IoKind := none
  failShutdown : Option IoKind := none
  /-- the calls since they were last asked for, oldest first -/
  calls : List LinkCall := []
  deriving Repr, Inhabited

namespace Channel

/-- An operation on a channel. -/
abbrev Act (α : Type) : Type := StateM Channel α

/-- The failure that is written down. -/
def failure (kind : IoKind) : IoFault := { kind := kind, message := some "scripted failure" }

/-- Notes a call, and looks whether it fails. -/
def call {α : Type} (c : LinkCall) (failing : Channel → Option IoKind)
    (act : Act (Progress (Except IoFault α))) : Act (Progress (Except IoFault α)) := do
  modify fun ch => { ch with calls := ch.calls ++ [c] }
  match failing (← get) with
  | some kind => return .done (.error (failure kind))
  | none => act

/-- Takes octets that have come in. -/
def takeIncoming (count : Nat) : Act (Progress (Except IoFault (List UInt8))) := do
  let ch ← get
  if ch.incoming.isEmpty && !ch.eof then return .waiting
  else
    set { ch with incoming := ch.incoming.drop count }
    return .done (.ok (ch.incoming.take count))

/-- Puts in as many octets as there is room for. -/
def putOutgoing (octets : List UInt8) : Act (Progress (Except IoFault Nat)) := do
  let ch ← get
  let room := ch.capacity - ch.outgoing.length
  if room = 0 then return .waiting
  else
    set { ch with outgoing := ch.outgoing ++ octets.take room }
    return .done (.ok (octets.take room).length)

/-- The link of the channel. -/
def link : Link (StateM Channel) where
  read count := call .read failRead (takeIncoming count)
  write octets := call .write failWrite (putOutgoing octets)
  flush := call .flush failFlush (return .done (.ok ()))
  shutdown := call .shutdown failShutdown (return .done (.ok ()))
  release := modify fun ch => { ch with calls := ch.calls ++ [.drop] }

/-- The calls since they were last asked for. -/
def takeCalls : Act (List LinkCall) :=
  modifyGet fun ch => (ch.calls, { ch with calls := [] })

end Channel

/-! ## Lives of circuits -/

/-- Changes of what is known of a circuit. -/
structure Facts where
  minProtocol : Option UInt32 := none
  maxProtocol : Option UInt32 := none
  protocol : Option UInt32 := none
  roundTrip : Option Nat := none
  deviation : Option Nat := none
  peer : Option String := none
  security : Option Security := none
  deriving Repr

namespace Life

/-- A step on a circuit or its channel. -/
inductive Step where
  | setPhase (phase : Phase)
  | fail (cause : String)
  /-- more octets come in -/
  | feed (octets : List UInt8) (eof : Bool)
  | learn (facts : Facts)
  | close
  | flush
  | shutdown
  | read (count : Nat)
  | write (octets : List UInt8)
  /-- writes past the circuit -/
  | linkWrite (octets : List UInt8)
  /-- takes what went out -/
  | drain
  | describe
  | inspect
  deriving Repr

/-- What a step is answered with. -/
inductive Outcome where
  | done
  | ended (result : Progress (Except IoFault Unit))
  | octets (result : Progress (Except IoFault (List UInt8)))
  | count (result : Progress (Except IoFault Nat))
  | noLink
  | text (s : Text)
  | circuit (c : Circuit (StateM Channel))

/-- An answer: the outcome, what the circuit shows then, and the calls of the link. -/
structure Answer where
  outcome : Outcome
  phase : Phase
  closed : Bool
  cause : Option String
  calls : List LinkCall

/-- A circuit with other facts. -/
def learn {m : Type → Type} (c : Circuit m) (f : Facts) : Circuit m :=
  { c with
    minProtocol := f.minProtocol.getD c.minProtocol
    maxProtocol := f.maxProtocol.getD c.maxProtocol
    protocol := f.protocol.getD c.protocol
    roundTrip := f.roundTrip.getD c.roundTrip
    deviation := f.deviation.getD c.deviation
    peer := f.peer.or c.peer
    security := f.security.getD c.security }

/-- The outcome that a reply is. -/
def Outcome.ofReply : Reply → Outcome
  | .done => .done
  | .octets result => .octets result
  | .count result => .count result
  | .ended result => .ended result

/-- A step that is an operation on the circuit. -/
def operate (c : Circuit (StateM Channel)) (operation : Operation) :
    Channel.Act (Circuit (StateM Channel) × Outcome) := do
  let (c, reply) ← c.perform operation
  return (c, .ofReply reply)

/-- One step. -/
def step (c : Circuit (StateM Channel)) :
    Step → Channel.Act (Circuit (StateM Channel) × Outcome)
  | .setPhase phase => operate c (.setPhase phase)
  | .fail cause => operate c (.fail cause)
  | .feed octets eof => do
    modify fun ch => { ch with incoming := ch.incoming ++ octets, eof := ch.eof || eof }
    return (c, .done)
  | .learn facts => return (learn c facts, .done)
  | .close => operate c (.close 0)
  | .flush => operate c (.transfer .flush)
  | .shutdown => operate c (.transfer .shutdown)
  | .read count => operate c (.transfer (.read count))
  | .write octets => operate c (.transfer (.write octets))
  | .linkWrite octets =>
    match c.link with
    | some link => return (c, .count (← link.write octets))
    | none => return (c, .noLink)
  | .drain => do
    let out := (← get).outgoing
    modify fun ch => { ch with outgoing := [] }
    return (c, .octets (.done (.ok out)))
  | .describe => return (c, .text c.describe)
  | .inspect => return (c, .circuit c)

/-- Steps one after another; the circuit afterwards, and the answers. -/
def steps (c : Circuit (StateM Channel)) :
    List Step → Channel.Act (Circuit (StateM Channel) × List Answer)
  | [] => return (c, [])
  | s :: rest => do
    let (c, outcome) ← step c s
    let calls ← Channel.takeCalls
    let answer : Answer :=
      { outcome := outcome, phase := c.phase, closed := c.isClosed, cause := c.cause,
        calls := calls }
    let (c, answers) ← steps c rest
    return (c, answer :: answers)

/-- A life from the first step to the last: the answers, the calls when the circuit was let go, and
the octets that were still held. -/
def run (c : Circuit (StateM Channel)) (channel : Channel) (l : List Step) :
    List Answer × List LinkCall × List UInt8 :=
  let whole : Channel.Act (List Answer × List LinkCall) := do
    let (c, answers) ← steps c l
    c.letGo
    return (answers, ← Channel.takeCalls)
  let ((answers, atDrop), channel) := whole.run channel
  (answers, atDrop, channel.outgoing)

end Life

end Switchboard.Scripted
