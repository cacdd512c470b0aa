import Switchboard.Call.Plan

set_option autoImplicit false

/-!
# What options come to under a filter

A filter that keeps no state lets an option pass, perhaps changed, or turns it down.  The first
option that is turned down decides on the fault (`make_eq_error_iff`).  If all pass there is a plan
(`exists_make_iff`), and each of its fields holds what the last option that sets it says
(`field_of_make`).
-/

namespace Switchboard

namespace DialOption

variable {Hook : Type}

/-- The period of the keep-alive that an option sets. -/
def period? : DialOption Hook → Option Nat
  | .keepAlive period => some period
  | _ => none

/-- The hook that an option sets. -/
def hook? : DialOption Hook → Option Hook
  | .control hook => some hook
  | _ => none

end DialOption

/-- What the first choice says counts only if none after it says anything. -/
theorem findSome?_reverse_cons {Choice Field : Type} (says? : Choice → Option Field)
    (first : Choice) (rest : List Choice) :
    (first :: rest).reverse.findSome? says? = (rest.reverse.findSome? says?).or (says? first) := by
  rw [List.reverse_cons, List.findSome?_append]
  cases h : says? first <;> simp [h]

namespace Plan

variable {Choice Result Field : Type} {apply : Result → Choice → Result} {f : Filter Id Choice}

theorem make_cons_of_error {choice : Choice} {fault : Fault} (h : f choice = .error fault)
    (sofar : Result) (rest : List Choice) :
    make (n := Id) apply (some f) sofar (choice :: rest) = .error fault := by
  simp [make, h, bind, pure]

theorem make_cons_of_ok {choice settled : Choice} (h : f choice = .ok settled) (sofar : Result)
    (rest : List Choice) :
    make (n := Id) apply (some f) sofar (choice :: rest)
      = make (n := Id) apply (some f) (apply sofar settled) rest := by
  simp [make, h, bind]

/-- The fault is that of the first option that is turned down. -/
theorem make_eq_error_iff {sofar : Result} {choices : List Choice} {fault : Fault} :
    make (n := Id) apply (some f) sofar choices = .error fault ↔
      ∃ before choice after, choices = before ++ choice :: after ∧
        (∀ c ∈ before, ∃ settled, f c = .ok settled) ∧ f choice = .error fault := by
  induction choices generalizing sofar with
  | nil => simp [make, pure]
  | cons first rest ih =>
    cases hfirst : f first with
    | error other =>
      rw [make_cons_of_error hfirst]
      constructor
      · intro h
        obtain rfl : other = fault := Except.error.inj h
        exact ⟨[], first, rest, rfl, by simp, hfirst⟩
      · rintro ⟨before, choice, after, hsplit, hpassed, hchoice⟩
        cases before with
        | nil =>
          obtain ⟨rfl, -⟩ := List.cons.inj hsplit
          obtain rfl : other = fault := Except.error.inj (hfirst.symm.trans hchoice)
          rfl
        | cons c before =>
          obtain ⟨rfl, -⟩ := List.cons.inj hsplit
          obtain ⟨settled, hsettled⟩ := hpassed first (by simp)
          exact absurd (hfirst.symm.trans hsettled) (by simp)
    | ok settled =>
      rw [make_cons_of_ok hfirst, ih]
      constructor
      · rintro ⟨before, choice, after, rfl, hpassed, hchoice⟩
        refine ⟨first :: before, choice, after, rfl, ?_, hchoice⟩
        intro c hc
        rcases List.mem_cons.1 hc with rfl | hc
        · exact ⟨settled, hfirst⟩
        · exact hpassed c hc
      · rintro ⟨before, choice, after, hsplit, hpassed, hchoice⟩
        cases before with
        | nil =>
          obtain ⟨rfl, -⟩ := List.cons.inj hsplit
          exact absurd (hfirst.symm.trans hchoice) (by simp)
        | cons c before =>
          obtain ⟨rfl, rfl⟩ := List.cons.inj hsplit
          exact ⟨before, choice, after, rfl, fun c hc => hpassed c (by simp [hc]), hchoice⟩

theorem exists_make_iff {sofar : Result} {choices : List Choice} :
    (∃ plan, make (n := Id) apply (some f) sofar choices = .ok plan) ↔
      ∀ c ∈ choices, ∃ settled, f c = .ok settled := by
  induction choices generalizing sofar with
  | nil => exact ⟨fun _ c hc => absurd hc List.not_mem_nil, fun _ => ⟨sofar, rfl⟩⟩
  | cons first rest ih =>
    cases hfirst : f first with
    | error fault => simp [make_cons_of_error hfirst, hfirst]
    | ok settled =>
      have hpassed : ∃ settled, f first = .ok settled := ⟨settled, hfirst⟩
      rw [make_cons_of_ok hfirst, ih, List.forall_mem_cons]
      exact (and_iff_right hpassed).symm

/-- A field of the plan holds what the last option that sets it says. -/
theorem field_of_make (field : Result → Option Field) (set? : Choice → Option Field)
    (hset : ∀ plan choice settled, f choice = .ok settled →
      field (apply plan settled) = (set? choice).or (field plan))
    {sofar plan : Result} {choices : List Choice}
    (h : make (n := Id) apply (some f) sofar choices = .ok plan) :
    field plan = (choices.reverse.findSome? set?).or (field sofar) := by
  induction choices generalizing sofar with
  | nil =>
    obtain rfl : sofar = plan := Except.ok.inj h
    rfl
  | cons first rest ih =>
    cases hfirst : f first with
    | error fault =>
      rw [make_cons_of_error hfirst] at h
      simp at h
    | ok settled =>
      rw [make_cons_of_ok hfirst] at h
      rw [ih h, hset _ _ _ hfirst, findSome?_reverse_cons, Option.or_assoc]

/-- Where the answers of a filter are given at once, the plan is. -/
theorem make_pure {n : Type → Type} [Monad n] [LawfulMonad n] (sofar : Result)
    (choices : List Choice) :
    make (n := n) apply (some fun choice => pure (f choice)) sofar choices
      = pure (make (n := Id) apply (some f) sofar choices) := by
  induction choices generalizing sofar with
  | nil => rfl
  | cons first rest ih =>
    rw [make, pure_bind]
    cases hfirst : f first with
    | error fault => rw [make_cons_of_error hfirst]
    | ok settled =>
      rw [make_cons_of_ok hfirst]
      exact ih _

end Plan

end Switchboard
