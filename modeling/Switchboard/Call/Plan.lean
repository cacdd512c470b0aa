import Switchboard.Fault

set_option autoImplicit false

/-!
# Options and the plans they make

A caller gives options in a list.  Applied from left to right they make a plan: every option
writes one field of it, and a later one replaces what an earlier one wrote.  Before an option is
applied, the filter of a mechanism may change it or turn it down; the first one turned down ends
the making, and the options after it are not looked at.

`Hook` is the type of what a caller can have done to a socket before it is used.  A filter runs in
a monad `n` of its own, so it may keep a state.
-/

namespace Switchboard

/-- A local address that a caller wants, as a URI, and as a socket address once it is known. -/
structure LocalAddr where
  uri : Uri
  addr : Option SocketAddr := none
  deriving DecidableEq, Repr

/-- An option of a dial. -/
inductive DialOption (Hook : Type) where
  /-- probe an idle connection after some milliseconds; never, if zero -/
  | keepAlive (period : Nat)
  /-- run a hook on the socket -/
  | control (hook : Hook)
  /-- connect from a local address -/
  | localAddr (wanted : LocalAddr)
  deriving Repr

/-- An option of a listen. -/
inductive ListenOption (Hook : Type) where
  /-- probe an idle connection after some milliseconds; never, if zero -/
  | keepAlive (period : Nat)
  /-- run a hook on the socket -/
  | control (hook : Hook)
  deriving Repr

/-- What the options of a dial come to. -/
structure DialPlan (Hook : Type) where
  keepAlive : Option Nat := none
  control : Option Hook := none
  localAddr : Option SocketAddr := none
  deriving Repr

/-- What the options of a listen come to. -/
structure ListenPlan (Hook : Type) where
  keepAlive : Option Nat := none
  control : Option Hook := none
  deriving Repr

/-- What a mechanism makes of an option before it is applied. -/
abbrev Filter (n : Type → Type) (Choice : Type) : Type := Choice → n (Except Fault Choice)

namespace Plan

variable {n : Type → Type} [Monad n] {Choice Result : Type}

/-- Applies options from left to right, each as the filter leaves it. -/
def make (apply : Result → Choice → Result) (filter : Option (Filter n Choice))
    (sofar : Result) : List Choice → n (Except Fault Result)
  | [] => pure (.ok sofar)
  | choice :: rest =>
    match filter with
    | none => make apply none (apply sofar choice) rest
    | some f => do
      match ← f choice with
      | .error fault => pure (.error fault)
      | .ok choice => make apply (some f) (apply sofar choice) rest

/-- Without a filter every option is applied as it is. -/
theorem make_none (apply : Result → Choice → Result) (sofar : Result) (choices : List Choice) :
    make (n := n) apply none sofar choices = pure (.ok (choices.foldl apply sofar)) := by
  induction choices generalizing sofar with
  | nil => rfl
  | cons choice rest ih => exact ih _

end Plan

namespace DialPlan

variable {Hook : Type}

/-- The plan with one option applied.  A wanted local address counts only once it is known as a
socket address. -/
def apply (plan : DialPlan Hook) : DialOption Hook → DialPlan Hook
  | .keepAlive period => { plan with keepAlive := some period }
  | .control hook => { plan with control := some hook }
  | .localAddr wanted =>
    match wanted.addr with
    | some addr => { plan with localAddr := some addr }
    | none => plan

/-- The plan that options make. -/
def ofOptions {n : Type → Type} [Monad n] (filter : Option (Filter n (DialOption Hook)))
    (options : List (DialOption Hook)) : n (Except Fault (DialPlan Hook)) :=
  Plan.make apply filter {} options

end DialPlan

namespace ListenPlan

variable {Hook : Type}

/-- The plan with one option applied. -/
def apply (plan : ListenPlan Hook) : ListenOption Hook → ListenPlan Hook
  | .keepAlive period => { plan with keepAlive := some period }
  | .control hook => { plan with control := some hook }

/-- The plan that options make. -/
def ofOptions {n : Type → Type} [Monad n] (filter : Option (Filter n (ListenOption Hook)))
    (options : List (ListenOption Hook)) : n (Except Fault (ListenPlan Hook)) :=
  Plan.make apply filter {} options

end ListenPlan

end Switchboard
