import Switchboard.Fault
import Switchboard.Uri.Printer

set_option autoImplicit false

/-!
# Circuits

A circuit is an established connection: a link that carries octets, the URIs of its two ends, and
what is known about the connection.  As long as a circuit is open, every transfer is handed to the
link.  Closing shuts the link down and gives it up, whatever the shutdown comes to; after that
transfers fail, and closing again does nothing.

Links are operations in a monad `m`, so nothing is assumed of where their state is kept.
-/

namespace Switchboard

/-- What looking at an unfinished operation shows. -/
inductive Progress (α : Type) where
  | waiting
  | done (result : α)
  deriving DecidableEq, Repr, Inhabited

namespace Progress

variable {m : Type → Type} [Monad m] {α β : Type}

/-- Changes the result, once there is one. -/
def map (f : α → β) : Progress α → Progress β
  | .waiting => .waiting
  | .done a => .done (f a)

/-- Looks at an operation until it is done, but not more often than `patience` times. -/
def await (look : m (Progress α)) : Nat → m (Progress α)
  | 0 => pure .waiting
  | patience + 1 => do
    match ← look with
    | .done a => pure (.done a)
    | .waiting => await look patience

end Progress

/-- What carries the octets of a circuit.  `release` gives the link up. -/
structure Link (m : Type → Type) where
  read : Nat → m (Progress (Except IoFault (List UInt8)))
  write : List UInt8 → m (Progress (Except IoFault Nat))
  flush : m (Progress (Except IoFault Unit))
  shutdown : m (Progress (Except IoFault Unit))
  release : m Unit

/-- A link that carries nothing, where no transfer ever ends. -/
def Link.idle {m : Type → Type} [Monad m] : Link m where
  read _ := pure .waiting
  write _ := pure .waiting
  flush := pure (.done (.ok ()))
  shutdown := pure (.done (.ok ()))
  release := pure ()

/-- Where a circuit is in its life. -/
inductive Phase where
  | undefined
  /-- dialled from here -/
  | active
  /-- accepted here -/
  | passive
  /-- ready for a protocol -/
  | opened
  | closed
  | error
  deriving DecidableEq, Repr, Inhabited

namespace Phase

/-- The name of a phase. -/
def name : Phase → String
  | .undefined => "Undefined"
  | .active => "Active"
  | .passive => "Passive"
  | .opened => "Open"
  | .closed => "Closed"
  | .error => "Error"

/-- Every phase. -/
def all : List Phase := [.undefined, .active, .passive, .opened, .closed, .error]

/-- The phase with a given name. -/
def ofName? (name : String) : Option Phase := all.find? fun phase => phase.name == name

end Phase

/-- What is known about who is at the other end and how the link is protected. -/
structure Security where
  principal : Text := []
  strength : UInt32 := 0
  encrypted : Bool := false
  integrity : Bool := false
  deriving DecidableEq, Repr, Inhabited

/-- An established connection.  The link is there until the circuit is closed. -/
structure Circuit (m : Type → Type) where
  phase : Phase
  cause : Option String := none
  localUri : Uri
  remoteUri : Uri
  link : Option (Link m)
  minProtocol : UInt32 := 0
  maxProtocol : UInt32 := 0
  protocol : UInt32 := 0
  roundTrip : Nat := 0
  deviation : Nat := 0
  peer : Option String := none
  security : Security := {}

namespace Circuit

variable {m : Type → Type} [Monad m]

/-- A circuit that was dialled. -/
def active (localUri remoteUri : Uri) (link : Link m) : Circuit m :=
  { phase := .active, localUri := localUri, remoteUri := remoteUri, link := some link }

/-- A circuit that was accepted. -/
def passive (localUri remoteUri : Uri) (link : Link m) : Circuit m :=
  { phase := .passive, localUri := localUri, remoteUri := remoteUri, link := some link }

/-- Whether the link has been given up. -/
def isClosed (c : Circuit m) : Bool := c.link.isNone

/-- The circuit in another phase. -/
def setPhase (c : Circuit m) (phase : Phase) : Circuit m := { c with phase := phase }

/-- The circuit after a failure with a given wording. -/
def fail (c : Circuit m) (cause : String) : Circuit m :=
  { c with phase := .error, cause := some cause }

/-- Hands a transfer to the link; a circuit that was closed has none. -/
def onLink {α : Type} (c : Circuit m) (transfer : Link m → m (Progress (Except IoFault α))) :
    m (Progress (Except IoFault α)) :=
  match c.link with
  | some link => transfer link
  | none => pure (.done (.error .closed))

/-- Reads at most `count` octets. -/
def read (c : Circuit m) (count : Nat) : m (Progress (Except IoFault (List UInt8))) :=
  c.onLink fun link => link.read count

/-- Writes some of the octets, and gives their number. -/
def write (c : Circuit m) (octets : List UInt8) : m (Progress (Except IoFault Nat)) :=
  c.onLink fun link => link.write octets

/-- Sends what is held back. -/
def flush (c : Circuit m) : m (Progress (Except IoFault Unit)) := c.onLink Link.flush

/-- Ends the sending side. -/
def shutdown (c : Circuit m) : m (Progress (Except IoFault Unit)) := c.onLink Link.shutdown

/-- What the shutdown of a link means for closing: that the other end has gone is no failure. -/
def closeResult : Except IoFault Unit → Except IoFault Unit
  | .error fault => if fault.kind = .notConnected then .ok () else .error fault
  | .ok () => .ok ()

/-- The circuit once its link has been taken away. -/
def unlinked (c : Circuit m) : Circuit m :=
  { c with link := none, phase := if c.phase = .error then .error else .closed }

/-- Closes a circuit: takes the link away, looks at its shutdown at most `patience` times, and
gives it up. -/
def close (c : Circuit m) (patience : Nat) :
    m (Circuit m × Progress (Except IoFault Unit)) :=
  match c.link with
  | none => pure (c, .done (.ok ()))
  | some link => do
    let outcome ← Progress.await link.shutdown patience
    link.release
    pure (c.unlinked, outcome.map closeResult)

/-- Lets go of a circuit, which gives up its link if it still has one. -/
def letGo (c : Circuit m) : m Unit :=
  match c.link with
  | some link => link.release
  | none => pure ()

/-! ## Description -/

/-- The description of what is known about the other end. -/
def describeSecurity (s : Security) : Text :=
  "SecurityInfo \x7b principal: ".toList ++ Quoted.text s.principal
    ++ ", strength: ".toList ++ Decimal.digits s.strength.toNat
    ++ ", encrypted: ".toList ++ (toString s.encrypted).toList
    ++ ", integrity: ".toList ++ (toString s.integrity).toList ++ " \x7d".toList

/-- The description of a circuit. -/
def describe (c : Circuit m) : Text :=
  "Conduit \x7b state: ".toList ++ c.phase.name.toList
    ++ ", local_uri: ".toList ++ Quoted.text c.localUri.print
    ++ ", remote_uri: ".toList ++ Quoted.text c.remoteUri.print
    ++ ", closed: ".toList ++ (toString c.isClosed).toList
    ++ ", proto: ".toList ++ Decimal.digits c.protocol.toNat
    ++ ", security: ".toList ++ describeSecurity c.security ++ ", .. \x7d".toList

/-! ## Small laws -/

theorem onLink_of_closed {α : Type} {c : Circuit m} (h : c.link = none)
    (transfer : Link m → m (Progress (Except IoFault α))) :
    c.onLink transfer = pure (.done (.error .closed)) := by
  simp [onLink, h]

theorem close_of_closed {c : Circuit m} (h : c.link = none) (patience : Nat) :
    c.close patience = pure (c, .done (.ok ())) := by
  simp [close, h]

omit [Monad m] in
@[simp] theorem isClosed_unlinked (c : Circuit m) : c.unlinked.isClosed = true := rfl

omit [Monad m] in
theorem phase_unlinked (c : Circuit m) :
    c.unlinked.phase = if c.phase = .error then .error else .closed := rfl

end Circuit

end Switchboard
