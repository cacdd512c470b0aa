import Switchboard.Circuit.Operation
import Switchboard.Proofs.Dialogue

set_option autoImplicit false

/-!
# The life of a circuit

Until its first closing a circuit hands every transfer to its link, one for one and in order; the
first closing shuts the link down once and gives it up, which `Parts` tells look by look; after that
nothing reaches the link any more.  Main statement: this is what every run over a circuit comes to,
whatever else is done with the circuit before and after (`lifetime_of_made`).

Links are operations in an arbitrary monad, so the statements are equations between computations:
what a link does or notes when it is called, and what it answers, is on both sides.  A run after the
first closing is a pure computation.
-/

namespace Switchboard

/-! ## Replies and changes -/

/-- Whether an operation closes the circuit. -/
def Operation.isClose : Operation → Bool
  | .close _ => true
  | _ => false

/-- What is replied to a transfer over a circuit that is closed. -/
def Transfer.refused : Transfer → Reply
  | .read _ => .octets (.done (.error .closed))
  | .write _ => .count (.done (.error .closed))
  | .flush => .ended (.done (.error .closed))
  | .shutdown => .ended (.done (.error .closed))

/-- What is replied to an operation on a circuit that is closed. -/
def Operation.afterClose : Operation → Reply
  | .transfer t => t.refused
  | .close _ => .ended (.done (.ok ()))
  | _ => .done

namespace Circuit

variable {m : Type → Type}

/-- What an operation changes of a circuit, apart from closing it.  A transfer changes nothing. -/
def note (c : Circuit m) : Operation → Circuit m
  | .setPhase phase => { c with phase := phase }
  | .fail cause => { c with phase := .error, cause := some cause }
  | _ => c

/-- What some operations change of a circuit, apart from closing it. -/
def noted (c : Circuit m) (operations : List Operation) : Circuit m := operations.foldl note c

/-- Whether a circuit joins two ends over a link, or over none any more. -/
structure Joins (c : Circuit m) (localUri remoteUri : Uri) (link : Option (Link m)) : Prop where
  localUri : c.localUri = localUri
  remoteUri : c.remoteUri = remoteUri
  link : c.link = link

variable {c : Circuit m} {l r : Uri} {link : Option (Link m)}

theorem Joins.note (h : c.Joins l r link) (operation : Operation) :
    (c.note operation).Joins l r link := by
  cases operation <;> exact ⟨h.localUri, h.remoteUri, h.link⟩

theorem Joins.noted (h : c.Joins l r link) (operations : List Operation) :
    (c.noted operations).Joins l r link := by
  induction operations generalizing c with
  | nil => exact h
  | cons operation rest ih => exact ih (h.note operation)

theorem Joins.unlinked (h : c.Joins l r link) : c.unlinked.Joins l r none :=
  ⟨h.localUri, h.remoteUri, rfl⟩

theorem Joins.isClosed (h : c.Joins l r link) : c.isClosed = link.isNone :=
  congrArg Option.isNone h.link

/-- That the other end has gone is no failure of a closing. -/
theorem closeResult_eq_ok_iff {result : Except IoFault Unit} :
    closeResult result = .ok () ↔
      result = .ok () ∨ ∃ fault, result = .error fault ∧ fault.kind = .notConnected := by
  cases result with
  | ok => simp [closeResult]
  | error fault => by_cases h : fault.kind = .notConnected <;> simp [closeResult, h]

/-- Every other failure of the shutdown is that of the closing. -/
theorem closeResult_eq_error_iff {result : Except IoFault Unit} {fault : IoFault} :
    closeResult result = .error fault ↔ result = .error fault ∧ fault.kind ≠ .notConnected := by
  cases result with
  | ok => simp [closeResult]
  | error other =>
    by_cases h : other.kind = .notConnected
    · simp only [closeResult, h, if_true, reduceCtorEq, Except.error.injEq, false_iff, not_and]
      rintro rfl hother
      exact hother h
    · simp only [closeResult, h, if_false, Except.error.injEq, iff_self_and]
      rintro rfl
      exact h

end Circuit

/-! ## Parting from a link -/

/-- What a closing has its link do. -/
inductive Parting where
  /-- one look at the shutdown -/
  | shutdown
  | release

/-- What the link answers. -/
@[reducible] def Parting.Answer : Parting → Type
  | .shutdown => Progress (Except IoFault Unit)
  | .release => Unit

/-- What a closing has its link do, with the answers and in order. -/
abbrev Partings : Type := List (Answered Parting Parting.Answer)

/-- Has a link do it. -/
def Parting.perform {m : Type → Type} (link : Link m) : (parting : Parting) → m parting.Answer
  | .shutdown => link.shutdown
  | .release => link.release

namespace Circuit

/-- What a closing comes to by what the shutdown came to: that the other end has gone is no
failure. -/
inductive Reports : Except IoFault Unit → Except IoFault Unit → Prop where
  | succeeded : Reports (.ok ()) (.ok ())
  | gone (fault : IoFault) (h : fault.kind = .notConnected) : Reports (.error fault) (.ok ())
  | failed (fault : IoFault) (h : fault.kind ≠ .notConnected) :
      Reports (.error fault) (.error fault)

/-- Looks at a shutdown that is not done. -/
def lookedInVain (count : Nat) : Partings := List.replicate count ⟨.shutdown, .waiting⟩

/-- What a closing goes through that looks at most `patience` times, and what it comes to.  The link
is given up in any case, and once. -/
inductive Parts (patience : Nat) : Partings → Progress (Except IoFault Unit) → Prop where
  /-- the caller leaves off -/
  | left : Parts patience (lookedInVain patience ++ [⟨.release, ()⟩]) .waiting
  /-- the shutdown is done, and not looked at after that -/
  | ended (count : Nat) (h : count < patience) (result outcome : Except IoFault Unit)
      (reports : Reports result outcome) :
      Parts patience (lookedInVain count ++ [⟨.shutdown, .done result⟩, ⟨.release, ()⟩])
        (.done outcome)

/-- Looks at the shutdown. -/
def shuttingDown (patience : Nat) :
    Dialogue Parting Parting.Answer (Progress (Except IoFault Unit)) :=
  Dialogue.await (.ask .shutdown .done) patience

/-- All that a closing has its link do. -/
def parting (patience : Nat) : Dialogue Parting Parting.Answer (Progress (Except IoFault Unit)) :=
  (shuttingDown patience).bind fun outcome =>
    .ask .release fun () => .done (outcome.map closeResult)

theorem run_parting {m : Type → Type} [Monad m] [LawfulMonad m] (link : Link m) (patience : Nat) :
    (parting patience).run (Parting.perform link) = do
      let outcome ← Progress.await link.shutdown patience
      link.release
      return outcome.map closeResult := by
  rw [parting, Dialogue.run_bind, shuttingDown, Dialogue.run_await, Dialogue.run_single]
  rfl

theorem reports_iff {result outcome : Except IoFault Unit} :
    Reports result outcome ↔ closeResult result = outcome := by
  constructor
  · intro h
    cases h with
    | succeeded => rfl
    | gone fault h => exact closeResult_eq_ok_iff.2 (.inr ⟨fault, rfl, h⟩)
    | failed fault h => exact closeResult_eq_error_iff.2 ⟨rfl, h⟩
  · rintro rfl
    cases hresult : closeResult result with
    | ok done =>
      rcases closeResult_eq_ok_iff.1 hresult with rfl | ⟨fault, rfl, h⟩
      · exact .succeeded
      · exact .gone fault h
    | error fault =>
      obtain ⟨rfl, h⟩ := closeResult_eq_error_iff.1 hresult
      exact .failed fault h

theorem leads_shuttingDown_iff {patience : Nat} {calls : Partings}
    {outcome : Progress (Except IoFault Unit)} :
    (shuttingDown patience).Leads calls outcome ↔
      calls = lookedInVain patience ∧ outcome = .waiting ∨
      ∃ count result, count < patience ∧
        calls = lookedInVain count ++ [⟨.shutdown, .done result⟩] ∧ outcome = .done result := by
  induction patience generalizing calls with
  | zero =>
    rw [shuttingDown, Dialogue.await, Dialogue.leads_done_iff]
    simp [lookedInVain]
  | succ patience ih =>
    rw [shuttingDown, Dialogue.await, Dialogue.leads_bind_iff]
    constructor
    · rintro ⟨first, seen, rest, rfl, hfirst, hrest⟩
      obtain rfl := Dialogue.leads_single_iff.1 hfirst
      cases seen with
      | done result =>
        obtain ⟨rfl, rfl⟩ := Dialogue.leads_done_iff.1 hrest
        exact .inr ⟨0, result, Nat.succ_pos patience, rfl, rfl⟩
      | waiting =>
        rcases ih.1 hrest with ⟨rfl, rfl⟩ | ⟨count, result, hcount, rfl, rfl⟩
        · exact .inl ⟨rfl, rfl⟩
        · exact .inr ⟨count + 1, result, Nat.succ_lt_succ hcount, rfl, rfl⟩
    · rintro (⟨rfl, rfl⟩ | ⟨_ | count, result, hcount, rfl, rfl⟩)
      · exact ⟨_, .waiting, _, rfl, Dialogue.leads_single_iff.2 rfl, ih.2 (.inl ⟨rfl, rfl⟩)⟩
      · exact ⟨[_], .done result, [], rfl, Dialogue.leads_single_iff.2 rfl, .done _⟩
      · exact ⟨[_], .waiting, lookedInVain count ++ [_], rfl, Dialogue.leads_single_iff.2 rfl,
          ih.2 (.inr ⟨count, result, Nat.lt_of_succ_lt_succ hcount, rfl, rfl⟩)⟩

theorem leads_parting_iff {patience : Nat} {calls : Partings}
    {outcome : Progress (Except IoFault Unit)} :
    (parting patience).Leads calls outcome ↔ Parts patience calls outcome := by
  constructor
  · intro h
    obtain ⟨looks, seen, rest, rfl, hlooks, hrest⟩ := Dialogue.leads_bind_iff.1 h
    obtain ⟨_, last, rfl, hlast⟩ := Dialogue.leads_ask_iff.1 hrest
    obtain ⟨rfl, rfl⟩ := Dialogue.leads_done_iff.1 hlast
    rcases leads_shuttingDown_iff.1 hlooks with ⟨rfl, rfl⟩ | ⟨count, result, hcount, rfl, rfl⟩
    · exact .left
    · rw [List.append_assoc]
      exact .ended count hcount result _ (reports_iff.2 rfl)
  · intro h
    cases h with
    | left =>
      exact Dialogue.leads_bind_iff.2 ⟨_, .waiting, _, rfl,
        leads_shuttingDown_iff.2 (.inl ⟨rfl, rfl⟩),
        Dialogue.leads_ask_iff.2 ⟨(), [], rfl, .done _⟩⟩
    | ended count hcount result outcome reports =>
      obtain rfl := reports_iff.1 reports
      rw [← List.singleton_append, ← List.append_assoc]
      exact Dialogue.leads_bind_iff.2 ⟨_, .done result, _, rfl,
        leads_shuttingDown_iff.2 (.inr ⟨count, result, hcount, rfl, rfl⟩),
        Dialogue.leads_ask_iff.2 ⟨(), [], rfl, .done _⟩⟩

end Circuit

/-! ## Single operations -/

variable {m : Type → Type} [Monad m]

/-- What an open link replies to an operation that does not close it; only transfers reach it. -/
def Link.respond (link : Link m) : Operation → m Reply
  | .transfer t => link.carry t
  | _ => pure .done

namespace Circuit

theorem carry_of_link {c : Circuit m} {link : Link m} (h : c.link = some link) (t : Transfer) :
    c.carry t = link.carry t := by
  cases t <;> simp only [carry, Link.carry, read, write, flush, shutdown, onLink, h]

theorem carry_of_closed [LawfulMonad m] {c : Circuit m} (h : c.link = none) (t : Transfer) :
    c.carry t = pure t.refused := by
  cases t <;>
    simp [carry, read, write, flush, shutdown, onLink_of_closed h, Transfer.refused]

theorem perform_of_link [LawfulMonad m] {c : Circuit m} {link : Link m} (h : c.link = some link)
    {operation : Operation} (hopen : operation.isClose = false) :
    c.perform operation = do return (c.note operation, ← link.respond operation) := by
  cases operation with
  | setPhase phase => simp [perform, note, setPhase, Link.respond]
  | fail cause => simp [perform, note, fail, Link.respond]
  | transfer t => simp [perform, note, Link.respond, carry_of_link h]
  | close more => simp [Operation.isClose] at hopen

theorem perform_close [LawfulMonad m] {c : Circuit m} {link : Link m} (h : c.link = some link)
    (more : Nat) :
    c.perform (.close more) = do
      return (c.unlinked, .ended (← (parting (more + 1)).run (Parting.perform link))) := by
  simp [perform, close, h, run_parting]

theorem perform_of_closed [LawfulMonad m] {c : Circuit m} (h : c.link = none)
    (operation : Operation) :
    c.perform operation = pure (c.note operation, operation.afterClose) := by
  cases operation with
  | setPhase phase => rfl
  | fail cause => rfl
  | transfer t => simp [perform, note, Operation.afterClose, carry_of_closed h]
  | close more => simp [perform, note, Operation.afterClose, close_of_closed h]

/-! ## Runs -/

theorem run_append [LawfulMonad m] (c : Circuit m) (before after : List Operation) :
    c.run (before ++ after) = do
      let (c, first) ← c.run before
      let (c, second) ← c.run after
      return (c, first ++ second) := by
  induction before generalizing c with
  | nil => simp [run]
  | cons operation rest ih => simp [run, ih]

/-- Until it is closed, a circuit is changed by what is noted in it alone, and every transfer is one
call of the link. -/
theorem run_of_link [LawfulMonad m] {c : Circuit m} {l r : Uri} {link : Link m}
    (h : c.Joins l r (some link)) {operations : List Operation}
    (hopen : ∀ operation ∈ operations, operation.isClose = false) :
    c.run operations = do return (c.noted operations, ← operations.mapM link.respond) := by
  induction operations generalizing c with
  | nil => simp [run, noted]
  | cons operation rest ih =>
    have hrest := ih (h.note operation) fun other hmem => hopen other (by simp [hmem])
    rw [run, perform_of_link h.link (hopen operation (by simp))]
    simp [hrest, noted]

/-- Once it is closed, a circuit is changed by what is noted in it alone, and nothing is called. -/
theorem run_of_closed [LawfulMonad m] {c : Circuit m} {l r : Uri} (h : c.Joins l r none)
    (operations : List Operation) :
    c.run operations = pure (c.noted operations, operations.map Operation.afterClose) := by
  induction operations generalizing c with
  | nil => rfl
  | cons operation rest ih =>
    rw [run, perform_of_closed h.link]
    simp [ih (h.note operation), noted]

/-- The life of a circuit over a link, with what is done to it before the first closing. -/
structure Lifetime (c : Circuit m) (localUri remoteUri : Uri) (link : Link m)
    (before : List Operation) : Prop where
  /-- until then, every transfer is one call of the link, and changes nothing of the circuit -/
  opened : c.run before = do return (c.noted before, ← before.mapM link.respond)
  standing : (c.noted before).Joins localUri remoteUri (some link)
  /-- the first closing is one shutdown of the link, looked at until it is done or the caller stops
  looking, and gives the link up; nothing is called after that -/
  closing : ∀ more : Nat, ∃ d : Dialogue Parting Parting.Answer (Progress (Except IoFault Unit)),
    (∀ calls outcome, d.Leads calls outcome ↔ Parts (more + 1) calls outcome) ∧
    ∀ after : List Operation, c.run (before ++ .close more :: after) = do
      let first ← before.mapM link.respond
      let outcome ← d.run (Parting.perform link)
      return ((c.noted before).unlinked.noted after,
        first ++ .ended outcome :: after.map Operation.afterClose)
  /-- the closing succeeds with the shutdown, or if the other end has gone -/
  success : ∀ result, closeResult result = .ok () ↔
    result = .ok () ∨ ∃ fault, result = .error fault ∧ fault.kind = .notConnected
  /-- it fails with every other failure of the shutdown -/
  failure : ∀ result fault, closeResult result = .error fault ↔
    result = .error fault ∧ fault.kind ≠ .notConnected
  /-- whatever the shutdown comes to, the circuit is closed then, unless it has failed before -/
  phase : (c.noted before).unlinked.phase
    = if (c.noted before).phase = .error then .error else .closed
  cause : (c.noted before).unlinked.cause = (c.noted before).cause
  /-- it stays without a link, whatever is done to it -/
  closed : ∀ after : List Operation,
    ((c.noted before).unlinked.noted after).Joins localUri remoteUri none ∧
      ((c.noted before).unlinked.noted after).isClosed = true

/-- Every circuit that was dialled or accepted has such a life. -/
theorem lifetime_of_made [LawfulMonad m] {c : Circuit m} {localUri remoteUri : Uri} {link : Link m}
    (made : c = .active localUri remoteUri link ∨ c = .passive localUri remoteUri link)
    {before : List Operation} (unclosed : ∀ operation ∈ before, operation.isClose = false) :
    Lifetime c localUri remoteUri link before := by
  have hmade : c.Joins localUri remoteUri (some link) := by
    rcases made with rfl | rfl <;> exact ⟨rfl, rfl, rfl⟩
  have hstanding := hmade.noted before
  have hopened := run_of_link hmade unclosed
  exact
    { opened := hopened
      standing := hstanding
      closing := by
        intro more
        refine ⟨parting (more + 1), fun _ _ => leads_parting_iff, fun after => ?_⟩
        rw [run_append, hopened]
        simp [run, perform_close hstanding.link, run_of_closed hstanding.unlinked]
      success := fun _ => closeResult_eq_ok_iff
      failure := fun _ _ => closeResult_eq_error_iff
      phase := phase_unlinked _
      cause := rfl
      closed := by
        intro after
        have hclosed := hstanding.unlinked.noted after
        exact ⟨hclosed, hclosed.isClosed⟩ }

/-- A link that notes how often it was called, and whose shutdown finds the other end gone at the
second look. -/
def departing : Link (StateM (List Transfer)) where
  read count := modifyGet fun calls => (.waiting, calls ++ [.read count])
  write octets := modifyGet fun calls => (.done (.ok octets.length), calls ++ [.write octets])
  flush := modifyGet fun calls => (.done (.ok ()), calls ++ [.flush])
  shutdown := modifyGet fun calls =>
    (if .shutdown ∈ calls then .done (.error (.system .notConnected)) else .waiting,
      calls ++ [.shutdown])
  release := pure ()

/-- A circuit that failed and was written to before it was closed. -/
theorem lifetime_of_departing :
    (∀ operation ∈ [Operation.fail "refused", .transfer (.write [1, 2])],
        operation.isClose = false) ∧
      Lifetime (.active {} {} departing) {} {} departing
        [.fail "refused", .transfer (.write [1, 2])] :=
  ⟨by decide, lifetime_of_made (.inl rfl) (by decide)⟩

end Circuit

end Switchboard
