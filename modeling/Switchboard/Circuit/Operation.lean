import Switchboard.Circuit

set_option autoImplicit false

/-!
# What is done with a circuit

Whoever holds a circuit transfers octets over it, notes how it fares, and closes it, in any order
and as often as it likes.  A run performs such operations one after another and collects the
replies.
-/

namespace Switchboard

/-- A transfer over a circuit or its link. -/
inductive Transfer where
  /-- of at most so many octets -/
  | read (count : Nat)
  | write (octets : List UInt8)
  | flush
  | shutdown
  deriving DecidableEq, Repr

/-- Something that is done with a circuit. -/
inductive Operation where
  | setPhase (phase : Phase)
  | fail (cause : String)
  | transfer (transfer : Transfer)
  /-- looks at the closing once, and then so many times more at most -/
  | close (more : Nat)
  deriving DecidableEq, Repr

/-- What an operation is answered with. -/
inductive Reply where
  | done
  | octets (result : Progress (Except IoFault (List UInt8)))
  | count (result : Progress (Except IoFault Nat))
  | ended (result : Progress (Except IoFault Unit))

variable {m : Type → Type} [Monad m]

/-- Carries a transfer out on a link. -/
def Link.carry (link : Link m) : Transfer → m Reply
  | .read count => return .octets (← link.read count)
  | .write octets => return .count (← link.write octets)
  | .flush => return .ended (← link.flush)
  | .shutdown => return .ended (← link.shutdown)

namespace Circuit

/-- Carries a transfer out on a circuit. -/
def carry (c : Circuit m) : Transfer → m Reply
  | .read count => return .octets (← c.read count)
  | .write octets => return .count (← c.write octets)
  | .flush => return .ended (← c.flush)
  | .shutdown => return .ended (← c.shutdown)

/-- Performs an operation: the circuit then, and the reply. -/
def perform (c : Circuit m) : Operation → m (Circuit m × Reply)
  | .setPhase phase => pure (c.setPhase phase, .done)
  | .fail cause => pure (c.fail cause, .done)
  | .transfer t => return (c, ← c.carry t)
  | .close more => do
    let (c, result) ← c.close (more + 1)
    return (c, .ended result)

/-- Performs operations one after another: the circuit then, and the replies. -/
def run (c : Circuit m) : List Operation → m (Circuit m × List Reply)
  | [] => pure (c, [])
  | operation :: rest => do
    let (c, reply) ← c.perform operation
    let (c, replies) ← c.run rest
    return (c, reply :: replies)

end Circuit

end Switchboard
