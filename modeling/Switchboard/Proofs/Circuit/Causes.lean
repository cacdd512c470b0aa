import Mathlib.Data.List.Induction
import Switchboard.Proofs.Circuit.Lifetime

set_option autoImplicit false

/-!
# Causes of failures

A failure puts a circuit into the phase of an error and records its cause.  Nothing else records a
cause, and nothing ever takes one back: not the closing of the circuit, and not a change to another
phase.  Main statement: a run leaves a circuit with a cause in another phase exactly if, after some
failure, the last word on the phase was that it is another (`cause_outside_error_iff`).

What a run leaves behind does not depend on the link, so it is told from the operations alone.
-/

namespace Switchboard

/-! ## What operations say about the phase -/

/-- The phase that an operation puts a circuit into, if it speaks of the phase at all.  To close a
circuit is no word on whether it has failed. -/
def Operation.phase? : Operation → Option Phase
  | .setPhase phase => some phase
  | .fail _ => some .error
  | _ => none

/-- Some operations note a failure, then another phase, and do not speak of the phase again. -/
def HidesFailure (operations : List Operation) : Prop :=
  ∃ before phase after, operations = before ++ .setPhase phase :: after ∧
    (∃ cause, .fail cause ∈ before) ∧ phase ≠ .error ∧
      ∀ operation ∈ after, operation.phase? = none

theorem not_hidesFailure_nil : ¬ HidesFailure [] := by
  rintro ⟨before, phase, after, heq, -⟩
  simp at heq

/-- Either the last operation hides the failure, or it leaves it hidden. -/
theorem hidesFailure_concat_iff {operations : List Operation} {last : Operation} :
    HidesFailure (operations ++ [last]) ↔
      (∃ phase, last = .setPhase phase ∧ phase ≠ .error ∧ ∃ cause, .fail cause ∈ operations) ∨
        last.phase? = none ∧ HidesFailure operations := by
  constructor
  · rintro ⟨before, phase, after, heq, hfailed, hphase, hsilent⟩
    rcases List.eq_nil_or_concat after with rfl | ⟨between, x, rfl⟩
    · obtain ⟨rfl, hlast⟩ := List.append_inj' heq rfl
      exact .inl ⟨phase, List.singleton_inj.1 hlast, hphase, hfailed⟩
    · have hregroup : operations ++ [last] = (before ++ .setPhase phase :: between) ++ [x] := by
        rw [heq]
        simp
      obtain ⟨rfl, hlast⟩ := List.append_inj' hregroup rfl
      obtain rfl := List.singleton_inj.1 hlast
      refine .inr ⟨hsilent _ (by simp), before, phase, between, rfl, hfailed, hphase, ?_⟩
      intro operation hmem
      exact hsilent operation (by simp [hmem])
  · rintro (⟨phase, rfl, hphase, hfailed⟩ | ⟨hlast, before, phase, after, rfl, hhidden⟩)
    · exact ⟨operations, phase, [], rfl, hfailed, hphase, by simp⟩
    · obtain ⟨hfailed, hphase, hsilent⟩ := hhidden
      refine ⟨before, phase, after ++ [last], by simp, hfailed, hphase, ?_⟩
      intro operation hmem
      rcases List.mem_append.1 hmem with h | h
      · exact hsilent operation h
      · rw [List.mem_singleton.1 h]
        exact hlast

namespace Circuit

/-! ## What operations leave behind -/

section

variable {m : Type → Type}

/-- The circuit that an operation leaves behind, whatever the link does. -/
def follow (c : Circuit m) : Operation → Circuit m
  | .close _ => if c.isClosed then c else c.unlinked
  | operation => c.note operation

/-- The circuit that some operations leave behind, one after another. -/
def followed (c : Circuit m) (operations : List Operation) : Circuit m :=
  operations.foldl follow c

theorem followed_concat (c : Circuit m) (operations : List Operation) (last : Operation) :
    c.followed (operations ++ [last]) = (c.followed operations).follow last := by
  simp [followed]

theorem cause_follow_close (c : Circuit m) (more : Nat) :
    (c.follow (.close more)).cause = c.cause := by
  simp only [follow]
  split <;> rfl

/-- A closing neither fails a circuit nor takes a failure back. -/
theorem phase_follow_close (c : Circuit m) (more : Nat) :
    (c.follow (.close more)).phase = .error ↔ c.phase = .error := by
  simp only [follow]
  split
  · rfl
  · rw [phase_unlinked]
    split <;> simp_all

variable {c : Circuit m}

/-- A circuit has a cause once a failure was noted, and not before. -/
theorem cause_followed_iff (hnone : c.cause = none) (operations : List Operation) :
    (c.followed operations).cause ≠ none ↔ ∃ cause, .fail cause ∈ operations := by
  induction operations using List.reverseRecOn with
  | nil => simp [followed, hnone]
  | append_singleton operations last ih =>
    rw [followed_concat]
    cases last with
    | setPhase phase => simpa [follow, note] using ih
    | fail cause => simp [follow, note]
    | transfer t => simpa [follow, note] using ih
    | close more => simpa [cause_follow_close] using ih

/-- It has one in a phase that is no error exactly if the failure was hidden. -/
theorem followed_outside_error_iff (hnone : c.cause = none) (operations : List Operation) :
    (c.followed operations).cause ≠ none ∧ (c.followed operations).phase ≠ .error ↔
      HidesFailure operations := by
  induction operations using List.reverseRecOn with
  | nil => simp [followed, hnone, not_hidesFailure_nil]
  | append_singleton operations last ih =>
    rw [followed_concat, hidesFailure_concat_iff]
    cases last with
    | setPhase phase =>
      have hcause := cause_followed_iff hnone operations
      simp [follow, note, Operation.phase?, hcause, and_comm]
    | fail cause => simp [follow, note, Operation.phase?]
    | transfer t => simpa [follow, note, Operation.phase?] using ih
    | close more => simpa [cause_follow_close, phase_follow_close, Operation.phase?] using ih

end

/-! ## Runs -/

variable {m : Type → Type} [Monad m] [LawfulMonad m]

/-- Whatever an operation asks of the link, it leaves the same circuit behind. -/
theorem perform_eq_follow (c : Circuit m) (operation : Operation) :
    ∃ reply : m Reply, c.perform operation = do return (c.follow operation, ← reply) := by
  cases hlink : c.link with
  | none =>
    have hclosed : c.isClosed = true := congrArg Option.isNone hlink
    have hfollow : c.follow operation = c.note operation := by
      cases operation <;> simp [follow, note, hclosed]
    refine ⟨pure operation.afterClose, ?_⟩
    rw [perform_of_closed hlink, hfollow, pure_bind]
  | some link =>
    cases operation with
    | close more =>
      have hopen : c.isClosed = false := congrArg Option.isNone hlink
      have hfollow : c.follow (.close more) = c.unlinked := by simp [follow, hopen]
      refine ⟨do return .ended (← (parting (more + 1)).run (Parting.perform link)), ?_⟩
      rw [perform_close hlink, hfollow]
      simp
    | setPhase phase => exact ⟨link.respond _, perform_of_link hlink rfl⟩
    | fail cause => exact ⟨link.respond _, perform_of_link hlink rfl⟩
    | transfer t => exact ⟨link.respond _, perform_of_link hlink rfl⟩

theorem run_eq_followed (c : Circuit m) (operations : List Operation) :
    ∃ replies : m (List Reply),
      c.run operations = do return (c.followed operations, ← replies) := by
  induction operations generalizing c with
  | nil => exact ⟨pure [], by simp [run, followed]⟩
  | cons operation rest ih =>
    obtain ⟨reply, hperform⟩ := c.perform_eq_follow operation
    obtain ⟨replies, hrun⟩ := ih (c.follow operation)
    refine ⟨do return (← reply) :: (← replies), ?_⟩
    rw [run, hperform]
    simp [hrun, followed]

/-- What a run leaves behind of a circuit that was dialled or accepted does not depend on its link.
It has a cause exactly if a failure was noted, and it has one in a phase that is no error exactly if
another phase was noted after a failure, and none since then. -/
theorem cause_outside_error_iff {c : Circuit m} {localUri remoteUri : Uri} {link : Link m}
    (made : c = .active localUri remoteUri link ∨ c = .passive localUri remoteUri link)
    (operations : List Operation) :
    (∃ replies : m (List Reply),
      c.run operations = do return (c.followed operations, ← replies)) ∧
    ((c.followed operations).cause ≠ none ↔ ∃ cause, .fail cause ∈ operations) ∧
    ((c.followed operations).cause ≠ none ∧ (c.followed operations).phase ≠ .error ↔
      HidesFailure operations) := by
  have hnone : c.cause = none := by
    rcases made with rfl | rfl <;> rfl
  exact ⟨c.run_eq_followed operations, cause_followed_iff hnone operations,
    followed_outside_error_iff hnone operations⟩

/-- A circuit that failed, was taken for ready all the same, and was closed then. -/
theorem cause_outside_error_of_departing :
    let operations : List Operation :=
      [.transfer .flush, .fail "refused", .setPhase .opened, .transfer (.read 8), .close 1]
    let c : Circuit (StateM (List Transfer)) := .passive {} {} departing
    HidesFailure operations ∧ (c.followed operations).cause ≠ none ∧
      (c.followed operations).phase ≠ .error ∧
      ∃ replies : StateM (List Transfer) (List Reply),
        c.run operations = do return (c.followed operations, ← replies) := by
  intro operations c
  have hhides : HidesFailure operations :=
    ⟨[.transfer .flush, .fail "refused"], .opened, [.transfer (.read 8), .close 1], rfl,
      ⟨"refused", by simp⟩, by decide, by simp [Operation.phase?]⟩
  have hmade : c = .active {} {} departing ∨ c = .passive {} {} departing := .inr rfl
  obtain ⟨hrun, -, houtside⟩ := cause_outside_error_iff hmade operations
  obtain ⟨hcause, hphase⟩ := houtside.2 hhides
  exact ⟨hhides, hcause, hphase, hrun⟩

/-- The cause of a failure is still there when the circuit is taken for ready. -/
theorem cause_kept_when_opened :
    let c : Circuit Id := .active {} {} .idle
    let after := (c.run [.fail "refused", .setPhase .opened]).1
    after.cause = some "refused" ∧ after.phase = .opened :=
  ⟨rfl, rfl⟩

end Circuit

end Switchboard
