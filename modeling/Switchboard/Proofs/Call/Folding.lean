import Switchboard.Proofs.Call.Plans
import Switchboard.Proofs.Dialogue

set_option autoImplicit false

/-!
# Options fold into a plan

A filter is shown the options one after another, and may answer each time with another option or
with a fault; how it comes to its answers is its own affair.  `Folds` lists what may pass between
the two and what comes of it: the first fault ends the making, and if there is none, each field of
the plan holds what was said of it last (`LastSaid`).  Main statement: this is what making a plan
is, for dials and for listens, and without a filter only the order among options of one kind matters
(`options_fold`).
-/

namespace Switchboard

/-! ## What is said last -/

/-- What some choices, each of which may say something, say last. -/
inductive LastSaid {Choice Field : Type} (says? : Choice → Option Field) (choices : List Choice) :
    Option Field → Prop where
  /-- none says anything -/
  | unsaid (h : ∀ c ∈ choices, says? c = none) : LastSaid says? choices none
  /-- those after it say nothing -/
  | said (before after : List Choice) (choice : Choice) (value : Field)
      (split : choices = before ++ choice :: after) (h : says? choice = some value)
      (last : ∀ c ∈ after, says? c = none) : LastSaid says? choices (some value)

section

variable {Choice Field : Type} {says? : Choice → Option Field}

theorem lastSaid_iff {choices : List Choice} {value : Option Field} :
    LastSaid says? choices value ↔ choices.reverse.findSome? says? = value := by
  constructor
  · rintro (h | ⟨before, after, choice, value, rfl, h, last⟩)
    · exact List.findSome?_eq_none_iff.2 fun c hc => h c (List.mem_reverse.1 hc)
    · refine List.findSome?_eq_some_iff.2
        ⟨after.reverse, choice, before.reverse, by simp, h, ?_⟩
      exact fun c hc => last c (List.mem_reverse.1 hc)
  · intro h
    cases value with
    | none =>
      exact .unsaid fun c hc => List.findSome?_eq_none_iff.1 h c (List.mem_reverse.2 hc)
    | some value =>
      obtain ⟨after, choice, before, split, h, last⟩ := List.findSome?_eq_some_iff.1 h
      refine .said before.reverse after.reverse choice value ?_ h
        fun c hc => last c (List.mem_reverse.1 hc)
      have hreverse := congrArg List.reverse split
      simpa using hreverse

end

/-! ## Options of one kind -/

/-- What an option is about. -/
inductive OptionKind where
  | keepAlive
  | control
  | localAddr
  deriving DecidableEq, Repr

/-- Two lists have the same choices of every kind, and those of one kind in the same order. -/
def SameByKind {Choice : Type} (kind : Choice → OptionKind) (choices other : List Choice) : Prop :=
  ∀ k, choices.filter (kind · = k) = other.filter (kind · = k)

/-- Where only choices of one kind speak, what is said last depends on these alone. -/
theorem lastSaid_of_sameByKind {Choice Field : Type} {says? : Choice → Option Field}
    {kind : Choice → OptionKind} {k : OptionKind} (hkind : ∀ c, kind c ≠ k → says? c = none)
    {choices other : List Choice} (h : SameByKind kind choices other) {value : Option Field}
    (hsaid : LastSaid says? choices value) : LastSaid says? other value := by
  have hfilter : ∀ cs : List Choice,
      cs.findSome? says? = (cs.filter (kind · = k)).findSome? says? := by
    intro cs
    induction cs with
    | nil => rfl
    | cons c rest ih =>
      by_cases hc : kind c = k
      · simp [hc, List.findSome?_cons, ih]
      · simp [hc, hkind c hc, ih]
  rw [lastSaid_iff, hfilter, List.filter_reverse, ← h k, ← List.filter_reverse, ← hfilter]
  exact lastSaid_iff.1 hsaid

/-! ## The fields of plans -/

section

variable {Hook : Type}

/-- The address that an option sets, if it came with one. -/
def DialOption.addr? : DialOption Hook → Option SocketAddr
  | .localAddr wanted => wanted.addr
  | _ => none

/-- What an option of a dial is about. -/
def DialOption.kind : DialOption Hook → OptionKind
  | .keepAlive _ => .keepAlive
  | .control _ => .control
  | .localAddr _ => .localAddr

/-- The period of the keep-alive that an option sets. -/
def ListenOption.period? : ListenOption Hook → Option Nat
  | .keepAlive period => some period
  | .control _ => none

/-- The hook that an option sets. -/
def ListenOption.hook? : ListenOption Hook → Option Hook
  | .keepAlive _ => none
  | .control hook => some hook

/-- What an option of a listen is about. -/
def ListenOption.kind : ListenOption Hook → OptionKind
  | .keepAlive _ => .keepAlive
  | .control _ => .control

/-- Each field of a plan holds what some options say of it last, and nothing if none says anything
of it.  A local address that came without a socket address says nothing. -/
structure DialPlan.Tells (plan : DialPlan Hook) (options : List (DialOption Hook)) : Prop where
  keepAlive : LastSaid DialOption.period? options plan.keepAlive
  control : LastSaid DialOption.hook? options plan.control
  localAddr : LastSaid DialOption.addr? options plan.localAddr

/-- Each field of a plan holds what some options say of it last, and nothing if none says anything
of it. -/
structure ListenPlan.Tells (plan : ListenPlan Hook) (options : List (ListenOption Hook)) :
    Prop where
  keepAlive : LastSaid ListenOption.period? options plan.keepAlive
  control : LastSaid ListenOption.hook? options plan.control

/-- An option sets what it says, and leaves the rest. -/
theorem DialPlan.apply_eq (plan : DialPlan Hook) (option : DialOption Hook) :
    plan.apply option =
      { keepAlive := option.period?.or plan.keepAlive, control := option.hook?.or plan.control
        localAddr := option.addr?.or plan.localAddr } := by
  cases option with
  | keepAlive period => rfl
  | control hook => rfl
  | localAddr wanted =>
    cases haddr : wanted.addr <;>
      simp [apply, DialOption.period?, DialOption.hook?, DialOption.addr?, haddr]

theorem DialPlan.foldl_apply (plan : DialPlan Hook) (options : List (DialOption Hook)) :
    options.foldl apply plan =
      { keepAlive := (options.reverse.findSome? DialOption.period?).or plan.keepAlive
        control := (options.reverse.findSome? DialOption.hook?).or plan.control
        localAddr := (options.reverse.findSome? DialOption.addr?).or plan.localAddr } := by
  induction options generalizing plan with
  | nil => rfl
  | cons first rest ih =>
    rw [List.foldl_cons, ih, apply_eq]
    simp only [findSome?_reverse_cons, Option.or_assoc]

theorem DialPlan.tells_iff {plan : DialPlan Hook} {options : List (DialOption Hook)} :
    plan.Tells options ↔ options.foldl apply {} = plan := by
  rw [foldl_apply]
  simp only [Option.or_none]
  constructor
  · rintro ⟨hperiod, hhook, haddr⟩
    rw [lastSaid_iff.1 hperiod, lastSaid_iff.1 hhook, lastSaid_iff.1 haddr]
  · rintro rfl
    exact ⟨lastSaid_iff.2 rfl, lastSaid_iff.2 rfl, lastSaid_iff.2 rfl⟩

/-- An option sets what it says, and leaves the rest. -/
theorem ListenPlan.apply_eq (plan : ListenPlan Hook) (option : ListenOption Hook) :
    plan.apply option =
      { keepAlive := option.period?.or plan.keepAlive
        control := option.hook?.or plan.control } := by
  cases option <;> rfl

theorem ListenPlan.foldl_apply (plan : ListenPlan Hook) (options : List (ListenOption Hook)) :
    options.foldl apply plan =
      { keepAlive := (options.reverse.findSome? ListenOption.period?).or plan.keepAlive
        control := (options.reverse.findSome? ListenOption.hook?).or plan.control } := by
  induction options generalizing plan with
  | nil => rfl
  | cons first rest ih =>
    rw [List.foldl_cons, ih, apply_eq]
    simp only [findSome?_reverse_cons, Option.or_assoc]

theorem ListenPlan.tells_iff {plan : ListenPlan Hook} {options : List (ListenOption Hook)} :
    plan.Tells options ↔ options.foldl apply {} = plan := by
  rw [foldl_apply]
  simp only [Option.or_none]
  constructor
  · rintro ⟨hperiod, hhook⟩
    rw [lastSaid_iff.1 hperiod, lastSaid_iff.1 hhook]
  · rintro rfl
    exact ⟨lastSaid_iff.2 rfl, lastSaid_iff.2 rfl⟩

theorem DialPlan.tells_of_sameByKind {plan : DialPlan Hook} {options other : List (DialOption Hook)}
    (h : SameByKind DialOption.kind options other) (tells : plan.Tells options) :
    plan.Tells other where
  keepAlive := by
    refine lastSaid_of_sameByKind (k := .keepAlive) ?_ h tells.keepAlive
    intro option hkind
    cases option with
    | keepAlive period => exact absurd rfl hkind
    | control hook => rfl
    | localAddr wanted => rfl
  control := by
    refine lastSaid_of_sameByKind (k := .control) ?_ h tells.control
    intro option hkind
    cases option with
    | keepAlive period => rfl
    | control hook => exact absurd rfl hkind
    | localAddr wanted => rfl
  localAddr := by
    refine lastSaid_of_sameByKind (k := .localAddr) ?_ h tells.localAddr
    intro option hkind
    cases option with
    | keepAlive period => rfl
    | control hook => rfl
    | localAddr wanted => exact absurd rfl hkind

theorem ListenPlan.tells_of_sameByKind {plan : ListenPlan Hook}
    {options other : List (ListenOption Hook)} (h : SameByKind ListenOption.kind options other)
    (tells : plan.Tells options) : plan.Tells other where
  keepAlive := by
    refine lastSaid_of_sameByKind (k := .keepAlive) ?_ h tells.keepAlive
    intro option hkind
    cases option with
    | keepAlive period => exact absurd rfl hkind
    | control hook => rfl
  control := by
    refine lastSaid_of_sameByKind (k := .control) ?_ h tells.control
    intro option hkind
    cases option with
    | keepAlive period => rfl
    | control hook => exact absurd rfl hkind

end

/-! ## What passes between a filter and the making of a plan -/

/-- A choice that is shown to a filter, with its answer. -/
abbrev Shown (Choice : Type) : Type := Answered Choice fun _ => Except Fault Choice

/-- Choices that a filter let pass, each with what it left of it. -/
def letPass {Choice : Type} (choices settled : List Choice) : List (Shown Choice) :=
  choices.zipWith (fun choice left => ⟨choice, .ok left⟩) settled

/-- What a filter may be shown of some choices, with its answers, and what comes of it. -/
inductive Folds {Choice Result : Type} (Tells : Result → List Choice → Prop)
    (choices : List Choice) : List (Shown Choice) → Except Fault Result → Prop where
  /-- it lets all of them pass, and the plan tells of what it left of them -/
  | passed (settled : List Choice) (all : settled.length = choices.length) (plan : Result)
      (h : Tells plan settled) : Folds Tells choices (letPass choices settled) (.ok plan)
  /-- it turns one of them down, and is shown none after it -/
  | turnedDown (before after : List Choice) (choice : Choice)
      (split : choices = before ++ choice :: after)
      (settled : List Choice) (all : settled.length = before.length) (fault : Fault) :
      Folds Tells choices (letPass before settled ++ [⟨choice, .error fault⟩]) (.error fault)

namespace Plan

variable {Choice Result : Type}

/-- Shows choices to a filter one after another, and applies what it leaves of them. -/
def interview (apply : Result → Choice → Result) (sofar : Result) :
    List Choice → Dialogue Choice (fun _ => Except Fault Choice) (Except Fault Result)
  | [] => .done (.ok sofar)
  | choice :: rest => .ask choice fun
    | .error fault => .done (.error fault)
    | .ok settled => interview apply (apply sofar settled) rest

/-- Making a plan under a filter is the interview with that filter. -/
theorem make_some {n : Type → Type} [Monad n] (apply : Result → Choice → Result)
    (f : Filter n Choice) (sofar : Result) (choices : List Choice) :
    make apply (some f) sofar choices = (interview apply sofar choices).run f := by
  induction choices generalizing sofar with
  | nil => rfl
  | cons choice rest ih =>
    refine bind_congr fun answer => ?_
    cases answer with
    | error fault => rfl
    | ok settled => exact ih _

variable {apply : Result → Choice → Result}

theorem folds_of_leads {sofar : Result} {choices : List Choice} {calls : List (Shown Choice)}
    {result : Except Fault Result} (h : (interview apply sofar choices).Leads calls result) :
    Folds (fun plan settled => settled.foldl apply sofar = plan) choices calls result := by
  induction choices generalizing sofar calls with
  | nil =>
    obtain ⟨rfl, rfl⟩ := Dialogue.leads_done_iff.1 h
    exact .passed [] rfl sofar rfl
  | cons first rest ih =>
    obtain ⟨answer, later, rfl, hlater⟩ := Dialogue.leads_ask_iff.1 h
    cases answer with
    | error fault =>
      obtain ⟨rfl, rfl⟩ := Dialogue.leads_done_iff.1 hlater
      exact .turnedDown [] rest first rfl [] rfl fault
    | ok left =>
      cases ih hlater with
      | passed settled all plan hplan =>
        exact .passed (left :: settled) (by simp [all]) plan hplan
      | turnedDown before after choice split settled all fault =>
        exact .turnedDown (first :: before) after choice (by simp [split]) (left :: settled)
          (by simp [all]) fault

theorem leads_letPass {sofar : Result} {before : List Choice} {settled : List Choice}
    (all : settled.length = before.length) {rest : List Choice} {calls : List (Shown Choice)}
    {result : Except Fault Result}
    (h : (interview apply (settled.foldl apply sofar) rest).Leads calls result) :
    (interview apply sofar (before ++ rest)).Leads (letPass before settled ++ calls) result := by
  induction before generalizing sofar settled with
  | nil =>
    obtain rfl := List.length_eq_zero_iff.1 all
    exact h
  | cons first more ih =>
    cases settled with
    | nil => simp at all
    | cons left others =>
      exact Dialogue.leads_ask_iff.2 ⟨.ok left, _, rfl, ih (Nat.succ_inj.1 all) h⟩

theorem leads_of_folds {sofar : Result} {choices : List Choice} {calls : List (Shown Choice)}
    {result : Except Fault Result}
    (h : Folds (fun plan settled => settled.foldl apply sofar = plan) choices calls result) :
    (interview apply sofar choices).Leads calls result := by
  cases h with
  | passed settled all plan hplan =>
    have hdone : (interview apply (settled.foldl apply sofar) []).Leads [] (.ok plan) :=
      hplan ▸ .done _
    simpa using leads_letPass all hdone
  | turnedDown before after choice split settled all fault =>
    subst split
    exact leads_letPass all (Dialogue.leads_ask_iff.2 ⟨.error fault, [], rfl, .done _⟩)

theorem leads_interview_iff {sofar : Result} {choices : List Choice} {calls : List (Shown Choice)}
    {result : Except Fault Result} :
    (interview apply sofar choices).Leads calls result ↔
      Folds (fun plan settled => settled.foldl apply sofar = plan) choices calls result :=
  ⟨folds_of_leads, leads_of_folds⟩

end Plan

/-! ## Options of dials and of listens -/

/-- How the plans of a kind are made: `ofOptions` makes them, under a filter or without one, and
`Tells` says what they hold. -/
structure Making {Choice Result : Type}
    (ofOptions : ∀ {n : Type → Type} [Monad n], Option (Filter n Choice) → List Choice →
      n (Except Fault Result))
    (Tells : Result → List Choice → Prop) (kind : Choice → OptionKind) (options : List Choice) :
    Prop where
  /-- with every filter, what passes between the two is what the rules say -/
  filtered : ∃ d : Dialogue Choice (fun _ => Except Fault Choice) (Except Fault Result),
    (∀ calls result, d.Leads calls result ↔ Folds Tells options calls result) ∧
      ∀ {n : Type → Type} [Monad n] (f : Filter n Choice), ofOptions (some f) options = d.run f
  /-- without a filter the plan tells of the options as they were given -/
  unfiltered : ∃ plan, Tells plan options ∧
    ∀ {n : Type → Type} [Monad n], ofOptions (n := n) none options = pure (.ok plan)
  /-- and of any two lists that differ in the order of options of different kinds -/
  reordered : ∀ other, SameByKind kind options other →
    ∀ {n : Type → Type} [Monad n], ofOptions (n := n) none other = ofOptions none options

theorem making_of_foldl {Choice Result : Type} {apply : Result → Choice → Result} {start : Result}
    {Tells : Result → List Choice → Prop} {kind : Choice → OptionKind}
    (tells_iff : ∀ {plan options}, Tells plan options ↔ options.foldl apply start = plan)
    (tells_same : ∀ {plan options other}, SameByKind kind options other → Tells plan options →
      Tells plan other) (options : List Choice) :
    Making (fun filter options => Plan.make apply filter start options) Tells kind options where
  filtered := by
    refine ⟨Plan.interview apply start options, ?_, fun f => Plan.make_some apply f start options⟩
    intro calls result
    have hrule : Tells = fun plan settled => settled.foldl apply start = plan := by
      funext plan settled
      exact propext tells_iff
    rw [hrule]
    exact Plan.leads_interview_iff
  unfiltered := ⟨options.foldl apply start, tells_iff.2 rfl, Plan.make_none apply start options⟩
  reordered := by
    intro other h n _
    have hplan : other.foldl apply start = options.foldl apply start :=
      tells_iff.1 (tells_same h (tells_iff.2 rfl))
    rw [Plan.make_none, Plan.make_none, hplan]

/-- The options of dials and of listens fold into plans, under every filter, and without one. -/
theorem options_fold (Hook : Type) :
    (∀ options : List (DialOption Hook),
      Making DialPlan.ofOptions DialPlan.Tells DialOption.kind options) ∧
    ∀ options : List (ListenOption Hook),
      Making ListenPlan.ofOptions ListenPlan.Tells ListenOption.kind options :=
  ⟨making_of_foldl DialPlan.tells_iff DialPlan.tells_of_sameByKind,
    making_of_foldl ListenPlan.tells_iff ListenPlan.tells_of_sameByKind⟩

/-- A filter that counts what it is shown doubles periods, and turns down what it is shown third;
and two orders of options that come to the same plan. -/
theorem options_fold_of_counting :
    let counting : Filter (StateM Nat) (DialOption Unit) := fun option shown =>
      match shown, option with
      | 2, _ => (.error (.mechanism "filter" "rejected"), 3)
      | n, .keepAlive period => (.ok (.keepAlive (2 * period)), n + 1)
      | n, option => (.ok option, n + 1)
    let given : LocalAddr := { uri := {}, addr := some (.v4 .loopback 80) }
    let unknown : LocalAddr := { uri := {} }
    let options : List (DialOption Unit) :=
      [.localAddr given, .keepAlive 1, .localAddr unknown, .keepAlive 3]
    let other : List (DialOption Unit) :=
      [.keepAlive 1, .localAddr given, .keepAlive 3, .localAddr unknown]
    let plan : DialPlan Unit := { keepAlive := some 3, localAddr := some (.v4 .loopback 80) }
    let rejected : Fault := .mechanism "filter" "rejected"
    let calls : List (Shown (DialOption Unit)) :=
      [⟨.localAddr given, .ok (.localAddr given)⟩, ⟨.keepAlive 1, .ok (.keepAlive 2)⟩,
        ⟨.localAddr unknown, .error rejected⟩]
    (DialPlan.ofOptions (some counting) options).run 0 = (.error rejected, 3) ∧
      (∃ d : Dialogue (DialOption Unit) (fun _ => Except Fault (DialOption Unit))
          (Except Fault (DialPlan Unit)),
        d.Leads calls (.error rejected) ∧
          DialPlan.ofOptions (some counting) options = d.run counting) ∧
      plan.Tells options ∧ SameByKind DialOption.kind options other ∧
      DialPlan.ofOptions (n := Id) none other = .ok plan := by
  intro counting given unknown options other plan rejected calls
  obtain ⟨⟨d, hrules, hrun⟩, -, hreordered⟩ := (options_fold Unit).1 options
  have hsame : SameByKind DialOption.kind options other := by
    intro k
    cases k <;> rfl
  have hfolds : Folds DialPlan.Tells options calls (.error rejected) :=
    .turnedDown [DialOption.localAddr given, .keepAlive 1] [.keepAlive 3] (.localAddr unknown) rfl
      [.localAddr given, .keepAlive 2] rfl rejected
  exact ⟨rfl, ⟨d, (hrules _ _).2 hfolds, hrun counting⟩, DialPlan.tells_iff.2 rfl, hsame,
    hreordered other hsame⟩

end Switchboard
