import Switchboard.Fault

set_option autoImplicit false

/-!
# The context of a call

Whoever asks for a connection may take the request back, and may set a deadline for it.  A token
carries the first: copies of a token, and contexts made with it, belong to one family and are
cancelled together.  A deadline is an instant or none; of two deadlines the earlier one counts, and
no deadline is later than every instant.

Instants are whole milliseconds, as integers, from an origin that nothing depends on.
-/

namespace Switchboard

/-! ## Deadlines -/

/-- The instant at which an operation has to be finished, if there is one. -/
structure Deadline where
  instant : Option Int := none
  deriving DecidableEq, Repr, Inhabited

namespace Deadline

/-- No deadline. -/
def never : Deadline := {}

/-- A deadline at an instant. -/
def ofInstant (instant : Int) : Deadline := { instant := some instant }

/-- A deadline some milliseconds from now. -/
def after (now : Int) (timeout : Nat) : Deadline := .ofInstant (now + timeout)

/-- Whether the deadline has come; an instant is past as soon as it is reached. -/
def isExpired (now : Int) (d : Deadline) : Bool :=
  match d.instant with
  | some instant => instant ≤ now
  | none => false

/-- The earlier of two deadlines. -/
def earlier (d e : Deadline) : Deadline :=
  match d.instant, e.instant with
  | some a, some b => .ofInstant (min a b)
  | some _, none => d
  | none, _ => e

@[simp] theorem earlier_never (d : Deadline) : d.earlier .never = d := by
  cases d with
  | mk i => cases i <;> rfl

@[simp] theorem never_earlier (d : Deadline) : Deadline.never.earlier d = d := rfl

theorem isExpired_earlier (now : Int) (d e : Deadline) :
    (d.earlier e).isExpired now = (d.isExpired now || e.isExpired now) := by
  obtain ⟨i⟩ := d
  obtain ⟨j⟩ := e
  cases i with
  | none => cases j <;> simp [earlier, isExpired]
  | some a =>
    cases j with
    | none => simp [earlier, isExpired]
    | some b =>
      rw [Bool.eq_iff_iff]
      simp only [earlier, isExpired, ofInstant, decide_eq_true_eq, Bool.or_eq_true]
      omega

end Deadline

/-! ## Tokens -/

/-- A handle by which a request can be taken back; handles of one family act as one. -/
structure Token where
  family : Nat
  deriving DecidableEq, Repr, Inhabited

/-- The families that have been started, and those that have been cancelled. -/
structure Tokens where
  issued : Nat := 0
  cancelled : List Nat := []
  deriving Repr, Inhabited

namespace Tokens

/-- A token of a new family. -/
def issue (ts : Tokens) : Token × Tokens :=
  ({ family := ts.issued }, { ts with issued := ts.issued + 1 })

/-- Whether the family of a token has been cancelled. -/
def isCancelled (ts : Tokens) (t : Token) : Bool := ts.cancelled.contains t.family

/-- Cancels the family of a token, and says whether this was the first time. -/
def cancel (ts : Tokens) (t : Token) : Bool × Tokens :=
  if ts.isCancelled t then (false, ts)
  else (true, { ts with cancelled := t.family :: ts.cancelled })

@[simp] theorem isCancelled_cancel (ts : Tokens) (t u : Token) :
    (ts.cancel t).2.isCancelled u = (ts.isCancelled u || u.family == t.family) := by
  unfold cancel
  split
  · rename_i h
    by_cases hu : u.family = t.family
    · have : ts.isCancelled u = true := by simpa [isCancelled, hu] using h
      simp [this]
    · simp [hu]
  · by_cases hu : u.family = t.family <;> simp [isCancelled, hu]

theorem cancel_first (ts : Tokens) (t : Token) : (ts.cancel t).1 = !ts.isCancelled t := by
  unfold cancel
  split
  · next h => rw [h]; rfl
  · next h => rw [Bool.not_eq_true] at h; rw [h]; rfl

theorem issued_cancel (ts : Tokens) (t : Token) : (ts.cancel t).2.issued = ts.issued := by
  unfold cancel
  split <;> rfl

@[simp] theorem isCancelled_issue (ts : Tokens) (u : Token) :
    ts.issue.2.isCancelled u = ts.isCancelled u := rfl

end Tokens

/-! ## Contexts -/

/-- What goes with a request: the token it can be taken back by, and its deadline. -/
structure Context where
  token : Token
  deadline : Deadline := .never
  deriving DecidableEq, Repr, Inhabited

/-- What can be seen of the outside at an instant. -/
structure Moment where
  now : Int
  tokens : Tokens
  deriving Repr, Inhabited

namespace Context

/-- A context with a given token, or with one of a new family. -/
def build (ts : Tokens) (token : Option Token) (deadline : Deadline) : Context × Tokens :=
  match token with
  | some t => ({ token := t, deadline := deadline }, ts)
  | none =>
    let (t, ts) := ts.issue
    ({ token := t, deadline := deadline }, ts)

/-- The same context with the earlier of its own and another deadline. -/
def tighten (c : Context) (d : Deadline) : Context :=
  { c with deadline := c.deadline.earlier d }

/-- Whether the request has been taken back. -/
def isCancelled (c : Context) (m : Moment) : Bool := m.tokens.isCancelled c.token

/-- Whether the deadline has come. -/
def isExpired (c : Context) (m : Moment) : Bool := c.deadline.isExpired m.now

/-- Whether an operation may go on; a deadline that has come is found before a cancellation. -/
def check (c : Context) (m : Moment) (operation : String) : Except Fault Unit :=
  if c.isExpired m then .error (.timedOut operation)
  else if c.isCancelled m then .error (.cancelled operation)
  else .ok ()

/-- The description of a context that has no deadline. -/
def describe? (c : Context) (m : Moment) : Option String :=
  match c.deadline.instant with
  | some _ => none
  | none =>
    some ("CallContext(cancelled=" ++ toString (c.isCancelled m) ++ ", deadline=None)")

@[simp] theorem token_tighten (c : Context) (d : Deadline) : (c.tighten d).token = c.token := rfl

@[simp] theorem deadline_tighten (c : Context) (d : Deadline) :
    (c.tighten d).deadline = c.deadline.earlier d := rfl

end Context

end Switchboard
