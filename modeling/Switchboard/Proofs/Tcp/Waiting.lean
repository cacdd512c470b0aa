import Switchboard.Proofs.Dialogue
import Switchboard.Tcp.Wait

set_option autoImplicit false

/-!
# What ends a wait

An operation that is waited for under a context is looked at again and again, and at each look there
are three things that may end the wait: the request was taken back, the timer has gone off, or the
operation is done.  `Glances` says what one look makes of them, and what it does not even look at;
`Waits` says which look it is that ends the wait, and what goes before the first look.  Main
statement: a wait is one dialogue, the same for every operation and in every surrounding, and it
goes through exactly what the rules list (`first_sign_ends_wait`).
-/

namespace Switchboard

/-! ## Moments -/

/-- Whether a deadline has come at a moment. -/
def Deadline.Come (deadline : Deadline) (now : Moment) : Prop :=
  ∃ instant, deadline.instant = some instant ∧ instant ≤ now.now

/-- Whether a request has been taken back at a moment. -/
def Context.TakenBack (context : Context) (now : Moment) : Prop :=
  context.token.family ∈ now.tokens.cancelled

theorem Deadline.come_iff {deadline : Deadline} {now : Moment} :
    deadline.Come now ↔ deadline.isExpired now.now = true := by
  obtain ⟨_ | instant⟩ := deadline <;> simp [Come, isExpired]

theorem Context.takenBack_iff {context : Context} {now : Moment} :
    context.TakenBack now ↔ context.isCancelled now = true :=
  List.contains_iff_mem.symm

section

variable {context : Context} {now : Moment} {operation : String}

theorem Context.check_of_come (h : context.deadline.Come now) :
    context.check now operation = .error (.timedOut operation) :=
  if_pos (Deadline.come_iff.1 h)

theorem Context.check_of_takenBack (inTime : ¬ context.deadline.Come now)
    (h : context.TakenBack now) : context.check now operation = .error (.cancelled operation) :=
  (if_neg (mt Deadline.come_iff.2 inTime)).trans (if_pos (Context.takenBack_iff.1 h))

theorem Context.check_of_wanted (inTime : ¬ context.deadline.Come now)
    (wanted : ¬ context.TakenBack now) : context.check now operation = .ok () :=
  (if_neg (mt Deadline.come_iff.2 inTime)).trans (if_neg (mt Context.takenBack_iff.2 wanted))

end

namespace Tcp.Wait

variable {α : Type}

/-! ## What a wait goes through -/

/-- What is asked while an operation is waited for. -/
inductive Inquiry where
  /-- what is to be seen beside the operation, at the look of a given number -/
  | sight (number : Nat)
  /-- whether the operation is done -/
  | task

/-- What an inquiry is answered with, where the operation gives an `α`. -/
@[reducible] def Inquiry.Answer (α : Type) : Inquiry → Type
  | .sight _ => Sight
  | .task => Progress (Except IoFault α)

/-- Inquiries with their answers, in the order in which they were made. -/
abbrev Inquiries (α : Type) : Type := List (Answered Inquiry (Inquiry.Answer α))

/-- The timer of the deadline has gone off; where there is no deadline, there is no timer. -/
def TimerFired (c : Context) (sight : Sight) : Prop := sight.timeUp = true ∧ c.deadline ≠ .never

/-- Nothing is to be seen that ends the wait from outside. -/
def Undisturbed (c : Context) (sight : Sight) : Prop :=
  sight.cancelled = false ∧ ¬ TimerFired c sight

/-- What one look asks and what comes of it.  The operation itself is asked only where nothing else
ends the wait. -/
inductive Glances (c : Context) (operation : String) (number : Nat) :
    Inquiries α → Progress (Except Fault α) → Prop where
  /-- the request was taken back -/
  | cancelled (sight : Sight) (h : sight.cancelled = true) :
      Glances c operation number [⟨.sight number, sight⟩] (.done (.error (.cancelled operation)))
  /-- the timer has gone off -/
  | timedOut (sight : Sight) (wanted : sight.cancelled = false) (h : TimerFired c sight) :
      Glances c operation number [⟨.sight number, sight⟩] (.done (.error (.timedOut operation)))
  /-- the operation is done -/
  | finished (sight : Sight) (h : Undisturbed c sight) (result : Except IoFault α) :
      Glances c operation number [⟨.sight number, sight⟩, ⟨.task, .done result⟩]
        (.done (result.mapError .io))
  /-- nothing ends the wait -/
  | unfinished (sight : Sight) (h : Undisturbed c sight) :
      Glances c operation number [⟨.sight number, sight⟩, ⟨.task, .waiting⟩] .waiting

/-- What is asked in looks that do not end the wait, where the first has a given number. -/
def inVain (first : Nat) : List Sight → Inquiries α
  | [] => []
  | sight :: rest => ⟨.sight first, sight⟩ :: ⟨.task, .waiting⟩ :: inVain (first + 1) rest

/-- What a wait with a number of looks asks, and what comes of it. -/
inductive Waits (c : Context) (moment : Moment) (operation : String) (count : Nat) :
    Inquiries α → Progress (Except Fault α) → Prop where
  /-- the deadline has come before the first look, whether the request was taken back or not -/
  | overdue (h : c.deadline.Come moment) :
      Waits c moment operation count [] (.done (.error (.timedOut operation)))
  /-- the request was taken back before the first look -/
  | takenBack (inTime : ¬ c.deadline.Come moment) (h : c.TakenBack moment) :
      Waits c moment operation count [] (.done (.error (.cancelled operation)))
  /-- no look ends the wait -/
  | unended (inTime : ¬ c.deadline.Come moment) (wanted : ¬ c.TakenBack moment)
      (sights : List Sight) (undisturbed : ∀ sight ∈ sights, Undisturbed c sight)
      (all : sights.length = count) :
      Waits c moment operation count (inVain 0 sights) .waiting
  /-- a look ends the wait that all looks before it did not end, and there is none after it -/
  | ended (inTime : ¬ c.deadline.Come moment) (wanted : ¬ c.TakenBack moment)
      (sights : List Sight) (undisturbed : ∀ sight ∈ sights, Undisturbed c sight)
      (left : sights.length < count) (last : Inquiries α) (result : Except Fault α)
      (ends : Glances c operation sights.length last (.done result)) :
      Waits c moment operation count (inVain 0 sights ++ last) (.done result)

/-! ## The dialogue -/

/-- One look as a dialogue. -/
def glance (c : Context) (operation : String) (number : Nat) :
    Dialogue Inquiry (Inquiry.Answer α) (Progress (Except Fault α)) :=
  .ask (.sight number) fun sight =>
    if sight.cancelled then .done (.done (.error (.cancelled operation)))
    else if sight.timeUp && c.deadline.instant.isSome then
      .done (.done (.error (.timedOut operation)))
    else .ask .task fun progress => .done (progress.map (Except.mapError .io))

/-- Looks with given numbers, up to one that ends the wait. -/
def glances (c : Context) (operation : String) :
    List Nat → Dialogue Inquiry (Inquiry.Answer α) (Progress (Except Fault α))
  | [] => .done .waiting
  | number :: rest => (glance c operation number).bind fun
    | .done result => .done (.done result)
    | .waiting => glances c operation rest

/-- A wait as a dialogue. -/
def vigil (c : Context) (moment : Moment) (operation : String) (count : Nat) :
    Dialogue Inquiry (Inquiry.Answer α) (Progress (Except Fault α)) :=
  match c.check moment operation with
  | .error fault => .done (.done (.error fault))
  | .ok () => glances c operation (List.range count)

/-- Answers an inquiry by the outside at each look, and by the operation. -/
def Inquiry.put {m : Type → Type} (outside : Nat → m Sight)
    (task : m (Progress (Except IoFault α))) : (inquiry : Inquiry) → m (inquiry.Answer α)
  | .sight number => outside number
  | .task => task

section

variable {m : Type → Type} [Monad m] (outside : Nat → m Sight)
  (task : m (Progress (Except IoFault α))) (c : Context) (operation : String)

theorem run_glance (number : Nat) :
    (glance c operation number).run (Inquiry.put outside task) =
      outside number >>= look c operation task := by
  rw [glance, Dialogue.run]
  refine bind_congr fun sight => ?_
  unfold look
  split
  · rfl
  · split
    · rfl
    · rfl

variable [LawfulMonad m]

theorem run_glances (numbers : List Nat) :
    (glances c operation numbers).run (Inquiry.put outside task) =
      looks c operation task (numbers.map outside) := by
  induction numbers with
  | nil => rfl
  | cons number rest ih =>
    rw [glances, Dialogue.run_bind, run_glance, List.map_cons, looks, bind_assoc]
    refine bind_congr fun sight => bind_congr fun progress => ?_
    cases progress with
    | done result => rfl
    | waiting => exact ih

theorem run_vigil (moment : Moment) (count : Nat) :
    (vigil c moment operation count).run (Inquiry.put outside task) =
      run c moment operation task ((List.range count).map outside) := by
  cases hcheck : c.check moment operation with
  | error fault =>
    rw [vigil, hcheck, run_of_check_error hcheck]
    rfl
  | ok passed =>
    rw [vigil, hcheck, run_of_check_ok hcheck]
    exact run_glances outside task c operation _

end

/-! ## The dialogue follows the rules -/

section

variable {c : Context} {operation : String} {calls : Inquiries α}
  {progress : Progress (Except Fault α)}

theorem timerFired_iff {sight : Sight} :
    TimerFired c sight ↔ (sight.timeUp && c.deadline.instant.isSome) = true := by
  have hnever : c.deadline = .never ↔ c.deadline.instant = none :=
    ⟨fun h => h ▸ rfl, fun h => congrArg Deadline.mk h⟩
  rw [TimerFired, Bool.and_eq_true, Option.isSome_iff_ne_none, Ne, hnever]

theorem leads_glance_iff {number : Nat} :
    (glance c operation number).Leads calls progress ↔
      Glances c operation number calls progress := by
  constructor
  · intro h
    obtain ⟨sight, later, rfl, hlater⟩ := Dialogue.leads_ask_iff.1 h
    split at hlater
    · next hcancelled =>
      obtain ⟨rfl, rfl⟩ := Dialogue.leads_done_iff.1 hlater
      exact .cancelled sight hcancelled
    · next hwanted =>
      rw [Bool.not_eq_true] at hwanted
      split at hlater
      · next hfired =>
        obtain ⟨rfl, rfl⟩ := Dialogue.leads_done_iff.1 hlater
        exact .timedOut sight hwanted (timerFired_iff.2 hfired)
      · next hquiet =>
        have undisturbed : Undisturbed c sight := ⟨hwanted, fun h => hquiet (timerFired_iff.1 h)⟩
        obtain ⟨answer, rest, rfl, hrest⟩ := Dialogue.leads_ask_iff.1 hlater
        obtain ⟨rfl, rfl⟩ := Dialogue.leads_done_iff.1 hrest
        cases answer with
        | waiting => exact .unfinished sight undisturbed
        | done result => exact .finished sight undisturbed result
  · intro h
    have hask : ∀ sight, Undisturbed c sight → ∀ answer : Progress (Except IoFault α),
        (glance c operation number).Leads [⟨.sight number, sight⟩, ⟨.task, answer⟩]
          (answer.map (Except.mapError .io)) := by
      intro sight undisturbed answer
      refine Dialogue.leads_ask_iff.2 ⟨sight, _, rfl, ?_⟩
      rw [if_neg (by simp [undisturbed.1]), if_neg (fun h => undisturbed.2 (timerFired_iff.2 h))]
      exact Dialogue.leads_ask_iff.2 ⟨answer, [], rfl, .done _⟩
    cases h with
    | cancelled sight h =>
      refine Dialogue.leads_ask_iff.2 ⟨sight, [], rfl, ?_⟩
      rw [if_pos h]
      exact .done _
    | timedOut sight wanted h =>
      refine Dialogue.leads_ask_iff.2 ⟨sight, [], rfl, ?_⟩
      rw [if_neg (by simp [wanted]), if_pos (timerFired_iff.1 h)]
      exact .done _
    | finished sight h result => exact hask sight h (.done result)
    | unfinished sight h => exact hask sight h .waiting

/-- The first of several looks ends the wait, or it is in vain and the others follow. -/
theorem leads_glances_succ_iff {first count : Nat} :
    (glances c operation (List.range' first (count + 1))).Leads calls progress ↔
      (∃ result, Glances c operation first calls (.done result) ∧ progress = .done result) ∨
      ∃ sight later, Undisturbed c sight ∧
        calls = ⟨.sight first, sight⟩ :: ⟨.task, .waiting⟩ :: later ∧
        (glances c operation (List.range' (first + 1) count)).Leads later progress := by
  rw [List.range'_succ, glances, Dialogue.leads_bind_iff]
  constructor
  · rintro ⟨now, seen, later, rfl, hnow, hlater⟩
    rw [leads_glance_iff] at hnow
    cases seen with
    | done result =>
      obtain ⟨rfl, rfl⟩ := Dialogue.leads_done_iff.1 hlater
      exact .inl ⟨result, (List.append_nil now).symm ▸ hnow, rfl⟩
    | waiting =>
      cases hnow with
      | unfinished sight undisturbed => exact .inr ⟨sight, later, undisturbed, rfl, hlater⟩
  · rintro (⟨result, hnow, rfl⟩ | ⟨sight, later, undisturbed, rfl, hlater⟩)
    · exact ⟨calls, .done result, [], (List.append_nil calls).symm, leads_glance_iff.2 hnow,
        .done _⟩
    · exact ⟨_, .waiting, later, rfl, leads_glance_iff.2 (.unfinished sight undisturbed), hlater⟩

/-- Looks end with the first that ends the wait, or go on to the last. -/
theorem leads_glances_iff {first count : Nat} :
    (glances c operation (List.range' first count)).Leads calls progress ↔
      (∃ sights, (∀ sight ∈ sights, Undisturbed c sight) ∧ sights.length = count ∧
        calls = inVain first sights ∧ progress = .waiting) ∨
      ∃ sights last result, (∀ sight ∈ sights, Undisturbed c sight) ∧ sights.length < count ∧
        Glances c operation (first + sights.length) last (.done result) ∧
        calls = inVain first sights ++ last ∧ progress = .done result := by
  induction count generalizing first calls with
  | zero =>
    rw [List.range'_zero, glances, Dialogue.leads_done_iff]
    constructor
    · rintro ⟨rfl, rfl⟩
      exact .inl ⟨[], List.forall_mem_nil _, rfl, rfl, rfl⟩
    · rintro (⟨sights, -, hlength, rfl, rfl⟩ | ⟨sights, last, result, -, hlength, -⟩)
      · obtain rfl := List.length_eq_zero_iff.1 hlength
        exact ⟨rfl, rfl⟩
      · exact absurd hlength (Nat.not_lt_zero _)
  | succ count ih =>
    simp only [leads_glances_succ_iff, ih]
    constructor
    · rintro (⟨result, hnow, rfl⟩ | ⟨sight, later, undisturbed, rfl,
        ⟨sights, hall, hlength, rfl, rfl⟩ | ⟨sights, last, result, hall, hlength, hends, rfl, rfl⟩⟩)
      · exact .inr ⟨[], calls, result, List.forall_mem_nil _, Nat.succ_pos count, hnow, rfl, rfl⟩
      · exact .inl ⟨sight :: sights, List.forall_mem_cons.2 ⟨undisturbed, hall⟩,
          congrArg Nat.succ hlength, rfl, rfl⟩
      · rw [Nat.add_right_comm, Nat.add_assoc] at hends
        exact .inr ⟨sight :: sights, last, result, List.forall_mem_cons.2 ⟨undisturbed, hall⟩,
          Nat.succ_lt_succ hlength, hends, rfl, rfl⟩
    · rintro (⟨_ | ⟨sight, rest⟩, hall, hlength, rfl, rfl⟩ |
        ⟨_ | ⟨sight, rest⟩, last, result, hall, hlength, hends, rfl, rfl⟩)
      · cases hlength
      · obtain ⟨undisturbed, hrest⟩ := List.forall_mem_cons.1 hall
        exact .inr ⟨sight, _, undisturbed, rfl,
          .inl ⟨rest, hrest, Nat.succ.inj hlength, rfl, rfl⟩⟩
      · exact .inl ⟨result, hends, rfl⟩
      · obtain ⟨undisturbed, hrest⟩ := List.forall_mem_cons.1 hall
        rw [List.length_cons, ← Nat.add_assoc, Nat.add_right_comm] at hends
        exact .inr ⟨sight, _, undisturbed, rfl,
          .inr ⟨rest, last, result, hrest, Nat.lt_of_succ_lt_succ hlength, hends, rfl, rfl⟩⟩

theorem leads_vigil_of_overdue {moment : Moment} (h : c.deadline.Come moment) (count : Nat) :
    (vigil c moment operation count).Leads calls progress ↔
      calls = [] ∧ progress = .done (.error (.timedOut operation)) := by
  rw [vigil, Context.check_of_come h]
  exact Dialogue.leads_done_iff

theorem leads_vigil_of_takenBack {moment : Moment} (inTime : ¬ c.deadline.Come moment)
    (h : c.TakenBack moment) (count : Nat) :
    (vigil c moment operation count).Leads calls progress ↔
      calls = [] ∧ progress = .done (.error (.cancelled operation)) := by
  rw [vigil, Context.check_of_takenBack inTime h]
  exact Dialogue.leads_done_iff

theorem leads_vigil_of_wanted {moment : Moment} (inTime : ¬ c.deadline.Come moment)
    (wanted : ¬ c.TakenBack moment) (count : Nat) :
    (vigil c moment operation count).Leads calls progress ↔
      (glances c operation (List.range' 0 count)).Leads calls progress := by
  rw [vigil, Context.check_of_wanted inTime wanted, List.range_eq_range']

theorem waits_of_leads {moment : Moment} {count : Nat}
    (h : (vigil c moment operation count).Leads calls progress) :
    Waits c moment operation count calls progress := by
  by_cases overdue : c.deadline.Come moment
  · obtain ⟨rfl, rfl⟩ := (leads_vigil_of_overdue overdue count).1 h
    exact .overdue overdue
  · by_cases takenBack : c.TakenBack moment
    · obtain ⟨rfl, rfl⟩ := (leads_vigil_of_takenBack overdue takenBack count).1 h
      exact .takenBack overdue takenBack
    · rw [leads_vigil_of_wanted overdue takenBack] at h
      rcases leads_glances_iff.1 h with ⟨sights, undisturbed, all, rfl, rfl⟩ |
        ⟨sights, last, result, undisturbed, left, ends, rfl, rfl⟩
      · exact .unended overdue takenBack sights undisturbed all
      · rw [Nat.zero_add] at ends
        exact .ended overdue takenBack sights undisturbed left last result ends

theorem leads_of_waits {moment : Moment} {count : Nat}
    (h : Waits c moment operation count calls progress) :
    (vigil c moment operation count).Leads calls progress := by
  cases h with
  | overdue h => exact (leads_vigil_of_overdue h count).2 ⟨rfl, rfl⟩
  | takenBack inTime h => exact (leads_vigil_of_takenBack inTime h count).2 ⟨rfl, rfl⟩
  | unended inTime wanted sights undisturbed all =>
    rw [leads_vigil_of_wanted inTime wanted]
    exact leads_glances_iff.2 (.inl ⟨sights, undisturbed, all, rfl, rfl⟩)
  | ended inTime wanted sights undisturbed left last result ends =>
    rw [← Nat.zero_add sights.length] at ends
    rw [leads_vigil_of_wanted inTime wanted]
    exact leads_glances_iff.2 (.inr ⟨sights, last, result, undisturbed, left, ends, rfl, rfl⟩)

end

/-- A wait is one dialogue, which goes through exactly what the rules list, whatever is waited for
and whatever happens outside: before the first look a deadline that has come ends it, and else a
cancellation; then the first look that shows a cancellation, a fired timer or the end of the
operation does, of which it takes the first, and asks the operation only where there is neither of
the others. -/
theorem first_sign_ends_wait {m : Type → Type} [Monad m] [LawfulMonad m] (c : Context)
    (moment : Moment) (operation : String) (count : Nat) :
    ∃ d : Dialogue Inquiry (Inquiry.Answer α) (Progress (Except Fault α)),
      (∀ calls progress, d.Leads calls progress ↔ Waits c moment operation count calls progress) ∧
      ∀ (outside : Nat → m Sight) (task : m (Progress (Except IoFault α))),
        run c moment operation task ((List.range count).map outside)
          = d.run (Inquiry.put outside task) := by
  refine ⟨vigil c moment operation count, ?_, ?_⟩
  · intro calls progress
    exact ⟨waits_of_leads, leads_of_waits⟩
  · intro outside task
    exact (run_vigil outside task c operation moment count).symm

/-- The second of three looks shows a cancellation and a fired timer, and the cancellation
counts. -/
theorem first_sign_ends_wait_of_two_signs :
    let c : Context := ⟨⟨0⟩, .ofInstant 9⟩
    let moment : Moment := ⟨5, {}⟩
    ∃ d : Dialogue Inquiry (Inquiry.Answer Unit) (Progress (Except Fault Unit)),
      d.Leads [⟨.sight 0, ⟨false, false⟩⟩, ⟨.task, .waiting⟩, ⟨.sight 1, ⟨true, true⟩⟩]
        (.done (.error (.cancelled "tcp connect"))) ∧
      ∀ (outside : Nat → Id Sight) (task : Id (Progress (Except IoFault Unit))),
        run c moment "tcp connect" task ((List.range 3).map outside)
          = d.run (Inquiry.put outside task) := by
  intro c moment
  obtain ⟨d, hrules, hrun⟩ :=
    first_sign_ends_wait (m := Id) (α := Unit) c moment "tcp connect" 3
  have undisturbed : ∀ sight ∈ [(⟨false, false⟩ : Sight)], Undisturbed c sight := by
    simp [Undisturbed, TimerFired]
  have ends : Glances (α := Unit) c "tcp connect" 1 [⟨.sight 1, ⟨true, true⟩⟩]
      (.done (.error (.cancelled "tcp connect"))) := .cancelled ⟨true, true⟩ rfl
  have inTime : ¬ c.deadline.Come moment := by
    rw [Deadline.come_iff]
    decide
  have wanted : ¬ c.TakenBack moment := by
    rw [Context.takenBack_iff]
    decide
  exact ⟨d, (hrules _ _).2 (.ended inTime wanted _ undisturbed (by decide) _ _ ends), hrun⟩

end Tcp.Wait

end Switchboard
