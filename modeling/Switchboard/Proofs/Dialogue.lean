import Switchboard.Circuit

set_option autoImplicit false

/-!
# Dialogues

A computation that calls others is known by what it asks them: one question after another, each of
which may depend on the answers so far, and a result in the end.  A dialogue is that and nothing
else.  It can be carried out wherever its questions can be put (`run`), and it can be told by the
sequences of answered questions that it may go through (`Leads`).  Steps that can fail may be done
in order, up to the first that does (`inOrder`); what they go through is listed by `InOrder`.

Main statements: both views respect that one dialogue follows another (`run_bind`,
`leads_bind_iff`), and steps in order go through what the rules list (`leads_inOrder_iff`).
-/

namespace Switchboard

/-- What a computation asks of others, and the result that it comes to. -/
inductive Dialogue (Question : Type) (Answer : Question → Type) (α : Type) : Type where
  /-- nothing more is asked -/
  | done (result : α)
  /-- a question is asked, and the answer decides on what follows -/
  | ask (question : Question) (next : Answer question → Dialogue Question Answer α)

/-- A question together with the answer that it was given. -/
abbrev Answered (Question : Type) (Answer : Question → Type) : Type :=
  (question : Question) × Answer question

namespace Dialogue

variable {Question : Type} {Answer : Question → Type} {α β : Type}

/-- One dialogue and then another, which may depend on the result of the first. -/
def bind (d : Dialogue Question Answer α) (f : α → Dialogue Question Answer β) :
    Dialogue Question Answer β :=
  match d with
  | .done a => f a
  | .ask question next => .ask question fun answer => (next answer).bind f

/-- Carries a dialogue out, where every question can be put. -/
def run {m : Type → Type} [Monad m] (put : (question : Question) → m (Answer question)) :
    Dialogue Question Answer α → m α
  | .done a => pure a
  | .ask question next => do (next (← put question)).run put

/-- Whether a dialogue may go through some answered questions, in this order and no others, and then
come to a result. -/
inductive Leads : Dialogue Question Answer α → List (Answered Question Answer) → α → Prop where
  | done (a : α) : Leads (.done a) [] a
  | ask {question : Question} {next : Answer question → Dialogue Question Answer α}
      (answer : Answer question) {calls : List (Answered Question Answer)} {a : α}
      (rest : Leads (next answer) calls a) :
      Leads (.ask question next) (⟨question, answer⟩ :: calls) a

theorem run_bind {m : Type → Type} [Monad m] [LawfulMonad m]
    (put : (question : Question) → m (Answer question)) (d : Dialogue Question Answer α)
    (f : α → Dialogue Question Answer β) :
    (d.bind f).run put = d.run put >>= fun a => (f a).run put := by
  induction d with
  | done a => rw [bind, run, pure_bind]
  | ask question next ih =>
    rw [bind, run, run, bind_assoc]
    exact bind_congr fun answer => ih answer

/-- A dialogue of one question, whose answer is the result. -/
theorem run_single {m : Type → Type} [Monad m] [LawfulMonad m]
    (put : (question : Question) → m (Answer question)) (question : Question) :
    (ask question .done).run put = put question := bind_pure (put question)

theorem leads_done_iff {a b : α} {calls : List (Answered Question Answer)} :
    Leads (.done a) calls b ↔ calls = [] ∧ b = a := by
  constructor
  · rintro ⟨⟩
    exact ⟨rfl, rfl⟩
  · rintro ⟨rfl, rfl⟩
    exact .done b

theorem leads_ask_iff {question : Question} {next : Answer question → Dialogue Question Answer α}
    {calls : List (Answered Question Answer)} {a : α} :
    Leads (.ask question next) calls a ↔
      ∃ answer rest, calls = ⟨question, answer⟩ :: rest ∧ Leads (next answer) rest a := by
  constructor
  · intro h
    cases h with
    | ask answer rest => exact ⟨answer, _, rfl, rest⟩
  · rintro ⟨answer, rest, rfl, h⟩
    exact .ask answer h

theorem leads_bind_iff {d : Dialogue Question Answer α} {f : α → Dialogue Question Answer β}
    {calls : List (Answered Question Answer)} {b : β} :
    Leads (d.bind f) calls b ↔
      ∃ first a rest, calls = first ++ rest ∧ Leads d first a ∧ Leads (f a) rest b := by
  induction d generalizing calls with
  | done a =>
    constructor
    · intro h
      exact ⟨[], a, calls, rfl, .done a, h⟩
    · rintro ⟨first, c, rest, rfl, hfirst, hrest⟩
      obtain ⟨rfl, rfl⟩ := leads_done_iff.1 hfirst
      exact hrest
  | ask question next ih =>
    constructor
    · intro h
      obtain ⟨answer, after, rfl, hafter⟩ := leads_ask_iff.1 h
      obtain ⟨first, a, rest, rfl, hfirst, hrest⟩ := (ih answer).1 hafter
      exact ⟨⟨question, answer⟩ :: first, a, rest, rfl, .ask answer hfirst, hrest⟩
    · rintro ⟨first, a, rest, rfl, hfirst, hrest⟩
      obtain ⟨answer, after, rfl, hafter⟩ := leads_ask_iff.1 hfirst
      exact .ask answer ((ih answer).2 ⟨after, a, rest, rfl, hafter, hrest⟩)

/-- Nothing more may be asked once the first of two dialogues has come to its result. -/
theorem Leads.bind_done {d : Dialogue Question Answer α} {f : α → Dialogue Question Answer β}
    {calls : List (Answered Question Answer)} {a : α} {b : β} (first : Leads d calls a)
    (last : f a = .done b) : Leads (d.bind f) calls b :=
  leads_bind_iff.2 ⟨calls, a, [], (List.append_nil calls).symm, first, last ▸ .done b⟩

theorem leads_single_iff {question : Question} {calls : List (Answered Question Answer)}
    {answer : Answer question} :
    Leads (.ask question .done) calls answer ↔ calls = [⟨question, answer⟩] := by
  rw [leads_ask_iff]
  constructor
  · rintro ⟨given, rest, rfl, hrest⟩
    obtain ⟨rfl, rfl⟩ := leads_done_iff.1 hrest
    rfl
  · rintro rfl
    exact ⟨answer, [], rfl, .done answer⟩

/-! ## Steps in order -/

section

variable {ε Step : Type}

/-- Does some steps one after another, up to the first that fails. -/
def inOrder (ask : Step → Dialogue Question Answer (Except ε Unit)) :
    List Step → Dialogue Question Answer (Except ε Unit)
  | [] => .done (.ok ())
  | step :: rest => (ask step).bind fun
    | .error fault => .done (.error fault)
    | .ok () => inOrder ask rest

/-- What steps that are done in order go through, where `call` tells what one of them is as an
answered question: all of them go well, or they go well up to one that fails. -/
inductive InOrder (call : Step → Except ε Unit → Answered Question Answer) (steps : List Step) :
    List (Answered Question Answer) → Except ε Unit → Prop where
  | all : InOrder call steps (steps.map (call · (.ok ()))) (.ok ())
  | upTo (before after : List Step) (step : Step) (split : steps = before ++ step :: after)
      (fault : ε) :
      InOrder call steps (before.map (call · (.ok ())) ++ [call step (.error fault)]) (.error fault)

variable {ask : Step → Dialogue Question Answer (Except ε Unit)}
  {call : Step → Except ε Unit → Answered Question Answer}

/-- Only steps of the list are done. -/
theorem InOrder.mem {steps : List Step} {calls : List (Answered Question Answer)}
    {result : Except ε Unit} (h : InOrder call steps calls result) :
    ∀ c ∈ calls, ∃ step ∈ steps, ∃ answer, c = call step answer := by
  cases h with
  | all =>
    simp only [List.forall_mem_map]
    exact fun step hstep => ⟨step, hstep, .ok (), rfl⟩
  | upTo before after step split fault =>
    subst split
    simp only [List.forall_mem_append, List.forall_mem_map, List.forall_mem_singleton]
    exact ⟨fun first hfirst => ⟨first, by simp [hfirst], .ok (), rfl⟩,
      step, by simp, .error fault, rfl⟩

theorem inOrder_nil_iff {calls : List (Answered Question Answer)} {result : Except ε Unit} :
    InOrder call [] calls result ↔ calls = [] ∧ result = .ok () := by
  constructor
  · intro h
    cases h with
    | all => exact ⟨rfl, rfl⟩
    | upTo before after step split => simp at split
  · rintro ⟨rfl, rfl⟩
    exact .all

theorem inOrder_cons_iff {step : Step} {rest : List Step}
    {calls : List (Answered Question Answer)} {result : Except ε Unit} :
    InOrder call (step :: rest) calls result ↔
      (∃ fault, calls = [call step (.error fault)] ∧ result = .error fault) ∨
      ∃ later, calls = call step (.ok ()) :: later ∧ InOrder call rest later result := by
  constructor
  · intro h
    cases h with
    | all => exact .inr ⟨_, rfl, .all⟩
    | upTo before after last split fault =>
      cases before with
      | nil =>
        obtain ⟨rfl, rfl⟩ := List.cons.inj split
        exact .inl ⟨fault, rfl, rfl⟩
      | cons first before =>
        obtain ⟨rfl, rfl⟩ := List.cons.inj split
        exact .inr ⟨_, rfl, .upTo before after last rfl fault⟩
  · rintro (⟨fault, rfl, rfl⟩ | ⟨later, rfl, h⟩)
    · exact .upTo [] rest step rfl fault
    · cases h with
      | all => exact .all
      | upTo before after last split fault =>
        exact .upTo (step :: before) after last (congrArg (step :: ·) split) fault

/-- A step is done once all before it went well, unless one of these fails. -/
theorem InOrder.reaches {before after : List Step} {step : Step}
    {calls : List (Answered Question Answer)} {result : Except ε Unit}
    (h : InOrder call (before ++ step :: after) calls result) :
    (∃ fault, result = .error fault ∧ InOrder call before calls (.error fault)) ∨
      ∃ answer later, calls = before.map (call · (.ok ())) ++ call step answer :: later ∧
        ∀ c ∈ later, ∃ other ∈ after, ∃ answer, c = call other answer := by
  induction before generalizing calls with
  | nil =>
    rcases inOrder_cons_iff.1 h with ⟨fault, rfl, rfl⟩ | ⟨later, rfl, hlater⟩
    · exact .inr ⟨.error fault, [], rfl, List.forall_mem_nil _⟩
    · exact .inr ⟨.ok (), later, rfl, hlater.mem⟩
  | cons first before ih =>
    rcases inOrder_cons_iff.1 h with ⟨fault, rfl, rfl⟩ | ⟨rest, rfl, hrest⟩
    · exact .inl ⟨fault, rfl, .upTo [] before first rfl fault⟩
    · rcases ih hrest with ⟨fault, rfl, hbefore⟩ | ⟨answer, later, rfl, hlater⟩
      · exact .inl ⟨fault, rfl, inOrder_cons_iff.2 (.inr ⟨rest, rfl, hbefore⟩)⟩
      · exact .inr ⟨answer, later, rfl, hlater⟩

theorem leads_inOrder_iff
    (single : ∀ step calls result, (ask step).Leads calls result ↔ calls = [call step result])
    {steps : List Step} {calls : List (Answered Question Answer)} {result : Except ε Unit} :
    (inOrder ask steps).Leads calls result ↔ InOrder call steps calls result := by
  induction steps generalizing calls with
  | nil => rw [inOrder, leads_done_iff, inOrder_nil_iff]
  | cons step rest ih =>
    rw [inOrder, leads_bind_iff, inOrder_cons_iff]
    constructor
    · rintro ⟨first, answer, later, rfl, hfirst, hlater⟩
      obtain rfl := (single step first answer).1 hfirst
      cases answer with
      | error fault =>
        obtain ⟨rfl, rfl⟩ := leads_done_iff.1 hlater
        exact .inl ⟨fault, rfl, rfl⟩
      | ok done => exact .inr ⟨later, rfl, ih.1 hlater⟩
    · rintro (⟨fault, rfl, rfl⟩ | ⟨later, rfl, hlater⟩)
      · exact ⟨_, .error fault, [], rfl, (single _ _ _).2 rfl, .done _⟩
      · exact ⟨[call step (.ok ())], .ok (), later, rfl, (single _ _ _).2 rfl, ih.2 hlater⟩

end

/-! ## Looking again and again -/

/-- Looks until something is there, but not more often than `patience` times. -/
def await (look : Dialogue Question Answer (Progress α)) :
    Nat → Dialogue Question Answer (Progress α)
  | 0 => .done .waiting
  | patience + 1 => look.bind fun
    | .done result => .done (.done result)
    | .waiting => await look patience

theorem run_await {m : Type → Type} [Monad m] [LawfulMonad m]
    (put : (question : Question) → m (Answer question))
    (look : Dialogue Question Answer (Progress α)) (patience : Nat) :
    (look.await patience).run put = Progress.await (look.run put) patience := by
  induction patience with
  | zero => rfl
  | succ patience ih =>
    rw [await, run_bind, Progress.await]
    refine bind_congr fun seen => ?_
    cases seen with
    | done result => rfl
    | waiting => exact ih

end Dialogue

end Switchboard
