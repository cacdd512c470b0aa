import Switchboard.Call.Context
import Switchboard.Circuit

set_option autoImplicit false

/-!
# Waiting under a context

An operation under way is looked at again and again until it is done.  At each look the caller may
be seen to have taken the request back, or the deadline to have come; either ends the waiting, and
the operation is then not looked at any more.  Of the two, a look finds the cancellation first;
before the first look the deadline is found first.
-/

namespace Switchboard.Tcp

/-- What is to be seen beside the operation at one look. -/
structure Sight where
  cancelled : Bool
  timeUp : Bool
  deriving DecidableEq, Repr, Inhabited

namespace Wait

variable {m : Type → Type} [Monad m] {α : Type}

/-- One look at an operation.  Without a deadline the time is never up. -/
def look (c : Context) (operation : String) (task : m (Progress (Except IoFault α)))
    (sight : Sight) : m (Progress (Except Fault α)) :=
  if sight.cancelled then pure (.done (.error (.cancelled operation)))
  else if sight.timeUp && c.deadline.instant.isSome then
    pure (.done (.error (.timedOut operation)))
  else do
    return (← task).map (Except.mapError .io)

/-- Looks at an operation until it is done; one look for each sight. -/
def looks (c : Context) (operation : String) (task : m (Progress (Except IoFault α))) :
    List (m Sight) → m (Progress (Except Fault α))
  | [] => pure .waiting
  | sight :: rest => do
    match ← look c operation task (← sight) with
    | .done result => pure (.done result)
    | .waiting => looks c operation task rest

/-- Waits for an operation, unless its context ends it before the first look. -/
def run (c : Context) (moment : Moment) (operation : String)
    (task : m (Progress (Except IoFault α))) (sights : List (m Sight)) :
    m (Progress (Except Fault α)) :=
  match c.check moment operation with
  | .error fault => pure (.done (.error fault))
  | .ok () => looks c operation task sights

/-! ## Small laws -/

theorem run_of_check_error {c : Context} {moment : Moment} {operation : String} {fault : Fault}
    (h : c.check moment operation = .error fault) (task : m (Progress (Except IoFault α)))
    (sights : List (m Sight)) :
    run c moment operation task sights = pure (.done (.error fault)) := by
  simp [run, h]

theorem run_of_check_ok {c : Context} {moment : Moment} {operation : String}
    (h : c.check moment operation = .ok ()) (task : m (Progress (Except IoFault α)))
    (sights : List (m Sight)) :
    run c moment operation task sights = looks c operation task sights := by
  simp [run, h]

end Wait

end Switchboard.Tcp
