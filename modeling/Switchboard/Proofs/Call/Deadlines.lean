import Switchboard.Proofs.Call.Families

set_option autoImplicit false

/-!
# Deadlines only tighten

A context is derived from another one as a copy or with one more deadline.  `Chain` says that a
history derives contexts one from another, whatever else happens between the links, and `Earliest`
says of a deadline, without comparing two of them, that it is the earliest of some.  Main statement:
at the end of a chain stands the earliest of the first context's deadline and of all that were given
on the way, in whatever order they were given, and no context that was there before has changed
(`chain_tightens`).

All of it rests on one fact: the earlier of the earliest of some deadlines and of the earliest of
others is the earliest of them all (`Earliest.append`).
-/

namespace Switchboard

namespace Deadline

/-! ## The earliest of some deadlines -/

/-- The earliest of some deadlines: the least instant that one of them is set to, if any is set. -/
inductive Earliest (ds : List Deadline) : Deadline → Prop where
  | never (unset : ∀ d ∈ ds, d = .never) : Earliest ds .never
  | instant (i : Int) (mem : ofInstant i ∈ ds) (least : ∀ j, ofInstant j ∈ ds → i ≤ j) :
      Earliest ds (ofInstant i)

/-- Whether a deadline is set to an instant that is not after that of another one, if this is
set. -/
def NotLater (d e : Deadline) : Prop :=
  ∀ j, e = ofInstant j → ∃ i, d = ofInstant i ∧ i ≤ j

theorem eq_never_or_ofInstant (d : Deadline) : d = .never ∨ ∃ i, d = ofInstant i := by
  obtain ⟨instant⟩ := d
  cases instant with
  | none => exact .inl rfl
  | some i => exact .inr ⟨i, rfl⟩

theorem ofInstant_ne_never (i : Int) : ofInstant i ≠ .never := by simp [ofInstant, never]

theorem ofInstant_inj {i j : Int} : ofInstant i = ofInstant j ↔ i = j := by simp [ofInstant]

@[simp] theorem earlier_ofInstant (i j : Int) :
    (ofInstant i).earlier (ofInstant j) = ofInstant (min i j) := rfl

@[simp] theorem isExpired_never (now : Int) : never.isExpired now = false := rfl

theorem isExpired_ofInstant {now i : Int} : (ofInstant i).isExpired now = true ↔ i ≤ now :=
  decide_eq_true_iff

variable {ds es : List Deadline} {d e : Deadline}

theorem earliest_singleton (d : Deadline) : Earliest [d] d := by
  rcases d.eq_never_or_ofInstant with rfl | ⟨i, rfl⟩
  · exact .never (by simp)
  · refine .instant i (by simp) ?_
    intro j hj
    exact Int.le_of_eq (ofInstant_inj.1 (List.mem_singleton.1 hj)).symm

theorem Earliest.append (hd : Earliest ds d) (he : Earliest es e) :
    Earliest (ds ++ es) (d.earlier e) := by
  have hnot : ∀ {fs : List Deadline} {j : Int}, (∀ f ∈ fs, f = .never) → ofInstant j ∉ fs :=
    fun unset hj => ofInstant_ne_never _ (unset _ hj)
  cases hd with
  | never unset =>
    rw [never_earlier]
    cases he with
    | never unset' =>
      exact .never fun f hf => (List.mem_append.1 hf).elim (unset f) (unset' f)
    | instant j mem least =>
      refine .instant j (List.mem_append_right _ mem) ?_
      intro k hk
      exact least k ((List.mem_append.1 hk).resolve_left (hnot unset))
  | instant i mem least =>
    cases he with
    | never unset =>
      rw [earlier_never]
      refine .instant i (List.mem_append_left _ mem) ?_
      intro k hk
      exact least k ((List.mem_append.1 hk).resolve_right (hnot unset))
    | instant j mem' least' =>
      rw [earlier_ofInstant]
      refine .instant _ ?_ ?_
      · rcases Int.le_total i j with hij | hij
        · rw [Int.min_eq_left hij]
          exact List.mem_append_left _ mem
        · rw [Int.min_eq_right hij]
          exact List.mem_append_right _ mem'
      · intro k hk
        rcases List.mem_append.1 hk with hk | hk
        · exact Int.le_trans (Int.min_le_left i j) (least k hk)
        · exact Int.le_trans (Int.min_le_right i j) (least' k hk)

/-- The same deadlines, in whatever order and however often, have one earliest. -/
theorem Earliest.unique (hd : Earliest ds d) (he : Earliest es e) (same : ∀ f, f ∈ ds ↔ f ∈ es) :
    d = e := by
  cases hd with
  | never unset =>
    cases he with
    | never => rfl
    | instant j mem => exact absurd (unset _ ((same _).2 mem)) (ofInstant_ne_never j)
  | instant i mem least =>
    cases he with
    | never unset => exact absurd (unset _ ((same _).1 mem)) (ofInstant_ne_never i)
    | instant j mem' least' =>
      have hle : i ≤ j := least j ((same _).2 mem')
      have hge : j ≤ i := least' i ((same _).1 mem)
      exact ofInstant_inj.2 (Int.le_antisymm hle hge)

theorem Earliest.eq_never_iff (h : Earliest ds d) : d = .never ↔ ∀ e ∈ ds, e = .never := by
  cases h with
  | never unset => exact iff_of_true rfl unset
  | instant i mem =>
    exact iff_of_false (ofInstant_ne_never i) fun unset => ofInstant_ne_never i (unset _ mem)

/-- The earliest deadline has come as soon as any of them has. -/
theorem Earliest.isExpired_iff (h : Earliest ds d) (now : Int) :
    d.isExpired now = true ↔ ∃ e ∈ ds, e.isExpired now = true := by
  cases h with
  | never unset =>
    refine iff_of_false (by simp) ?_
    rintro ⟨e, he, hexpired⟩
    simp [unset e he] at hexpired
  | instant i mem least =>
    constructor
    · intro hexpired
      exact ⟨_, mem, hexpired⟩
    · rintro ⟨e, he, hexpired⟩
      rcases e.eq_never_or_ofInstant with rfl | ⟨j, rfl⟩
      · simp at hexpired
      · exact isExpired_ofInstant.2 (Int.le_trans (least j he) (isExpired_ofInstant.1 hexpired))

theorem Earliest.notLater (h : Earliest ds d) (he : e ∈ ds) : d.NotLater e := by
  rintro j rfl
  cases h with
  | never unset => exact absurd (unset _ he) (ofInstant_ne_never j)
  | instant i mem least => exact ⟨i, rfl, least j he⟩

/-! ## The laws of the earlier deadline -/

theorem earliest_pair (d e : Deadline) : Earliest [d, e] (d.earlier e) :=
  (earliest_singleton d).append (earliest_singleton e)

theorem earlier_comm (d e : Deadline) : d.earlier e = e.earlier d :=
  (earliest_pair d e).unique (earliest_pair e d) fun f => by simp [or_comm]

theorem earlier_assoc (d e f : Deadline) : (d.earlier e).earlier f = d.earlier (e.earlier f) :=
  ((earliest_pair d e).append (earliest_singleton f)).unique
    ((earliest_singleton d).append (earliest_pair e f)) fun _ => Iff.rfl

theorem earlier_self (d : Deadline) : d.earlier d = d :=
  (earliest_pair d d).unique (earliest_singleton d) fun f => by simp

end Deadline

namespace Call

open Deadline

/-! ## Chains of contexts -/

/-- The name that an act gives to a context, if it gives one. -/
def Act.names? : Act → Option String
  | .context name _ _ | .clone name _ | .tighten name _ _ => some name
  | _ => none

/-- A history in which contexts are derived one from another, from the one called `source` to the
one called `last`, and the deadlines that are given on the way. -/
inductive Chain (source : String) :
    (given : List Deadline) → List (Int × Act) → (last : String) → Prop where
  | start : Chain source [] [] source
  | clone {given : List Deadline} {history : List (Int × Act)} {last : String}
      (chain : Chain source given history last) (now : Int) (name : String) :
      Chain source given (history ++ [(now, .clone name last)]) name
  | tighten {given : List Deadline} {history : List (Int × Act)} {last : String}
      (chain : Chain source given history last) (now : Int) (name : String) (d : Deadline) :
      Chain source (given ++ [d]) (history ++ [(now, .tighten name last d)]) name
  /-- anything else is done in between, except giving the name of the last context to another one -/
  | aside {given : List Deadline} {history : List (Int × Act)} {last : String}
      (chain : Chain source given history last) (now : Int) (act : Act)
      (other : act.names? ≠ some last) : Chain source given (history ++ [(now, act)]) last

/-- What a context is that was derived from another one and was given deadlines on the way. -/
structure Tightened (c : Context) (given : List Deadline) (derived : Context) : Prop where
  token : derived.token = c.token
  earliest : Earliest (c.deadline :: given) derived.deadline
  never_iff : derived.deadline = .never ↔ ∀ d ∈ c.deadline :: given, d = .never
  expired_iff : ∀ m : Moment,
    derived.isExpired m = true ↔ ∃ d ∈ c.deadline :: given, d.isExpired m.now = true
  notLater : derived.deadline.NotLater c.deadline

theorem tightened_of_earliest {c derived : Context} {given : List Deadline}
    (token : derived.token = c.token)
    (earliest : Earliest (c.deadline :: given) derived.deadline) : Tightened c given derived where
  token := token
  earliest := earliest
  never_iff := earliest.eq_never_iff
  expired_iff := fun m => earliest.isExpired_iff m.now
  notLater := earliest.notLater (List.mem_cons_self ..)

namespace Desk

/-! ## What an act does to the contexts -/

theorem after_concat (history : List (Int × Act)) (now : Int) (act : Act) :
    after (history ++ [(now, act)]) = ((after history).act now act).1 := by
  rw [after, List.foldl_append]
  rfl

variable (d : Desk)

theorem context?_introduce (now : Int) (name other : String) (c : Context) :
    (d.introduce now name c).1.context? other = if other = name then some c else d.context? other :=
  lookup_cons_eq_ite name other c d.contextNames

/-- An act leaves the contexts as they are, or adds one under the name that it gives. -/
theorem contextNames_act (now : Int) (act : Act) :
    (d.act now act).1.contextNames = d.contextNames ∨
      ∃ name c, act.names? = some name ∧
        (d.act now act).1.contextNames = (name, c) :: d.contextNames := by
  cases act with
  | token name => exact .inl rfl
  | cloneToken name source | tokenOf name source =>
    simp only [Desk.act]
    split <;> exact .inl rfl
  | cancel name | isCancelled name | cancelContext name =>
    simp only [Desk.act]
    split <;> exact .inl rfl
  | context name token deadline =>
    cases token with
    | none => exact .inr ⟨name, _, rfl, rfl⟩
    | some token =>
      simp only [Desk.act]
      split
      · exact .inr ⟨name, _, rfl, rfl⟩
      · exact .inl rfl
  | clone name source | tighten name source deadline =>
    simp only [Desk.act]
    split
    · exact .inr ⟨name, _, rfl, rfl⟩
    · exact .inl rfl
  | inspect name =>
    simp only [Desk.act]
    split <;> exact .inl rfl
  | earlier d e => exact .inl rfl

/-- A context that is there stays what it is. -/
theorem context?_act (now : Int) (act : Act) {name : String} (other : act.names? ≠ some name) :
    (d.act now act).1.context? name = d.context? name := by
  unfold context?
  rcases d.contextNames_act now act with hsame | ⟨given, c, hgiven, hadded⟩
  · rw [hsame]
  · rw [hadded, lookup_cons_eq_ite, if_neg]
    rintro rfl
    exact other hgiven

theorem contextNames_suffix_act (now : Int) (act : Act) :
    d.contextNames <:+ (d.act now act).1.contextNames := by
  rcases d.contextNames_act now act with hsame | ⟨name, c, -, hadded⟩
  · exact ⟨[], hsame.symm⟩
  · exact ⟨[(name, c)], hadded.symm⟩

variable {d}

theorem context?_act_clone (now : Int) {name source : String} {c : Context}
    (known : d.context? source = some c) :
    (d.act now (.clone name source)).1.context? name = some c := by
  rw [Desk.act, known]
  exact (d.context?_introduce now name name c).trans (if_pos rfl)

theorem context?_act_tighten (now : Int) {name source : String} {c : Context} (e : Deadline)
    (known : d.context? source = some c) :
    (d.act now (.tighten name source e)).1.context? name = some (c.tighten e) := by
  rw [Desk.act, known]
  exact (d.context?_introduce now name name _).trans (if_pos rfl)

/-! ## What a history does to them -/

theorem contextNames_suffix_after (before history : List (Int × Act)) :
    (after before).contextNames <:+ (after (before ++ history)).contextNames := by
  induction history generalizing before with
  | nil => exact ⟨[], by rw [List.append_nil, List.nil_append]⟩
  | cons a rest ih =>
    have hfirst : (after before).contextNames <:+ (after (before ++ [a])).contextNames := by
      rw [after_concat]
      exact contextNames_suffix_act _ a.1 a.2
    have hrest := ih (before ++ [a])
    rw [List.append_assoc] at hrest
    exact hfirst.trans hrest

theorem context?_after {before history : List (Int × Act)} {name : String}
    (others : ∀ a ∈ history, a.2.names? ≠ some name) :
    (after (before ++ history)).context? name = (after before).context? name := by
  induction history generalizing before with
  | nil => rw [List.append_nil]
  | cons a rest ih =>
    have hfirst : (after (before ++ [a])).context? name = (after before).context? name := by
      rw [after_concat]
      exact context?_act _ a.1 a.2 (others a (by simp))
    have hrest : (after (before ++ [a] ++ rest)).context? name
        = (after (before ++ [a])).context? name :=
      ih fun b hb => others b (List.mem_cons_of_mem _ hb)
    rw [List.append_assoc] at hrest
    exact hrest.trans hfirst

end Desk

/-- The end of a chain is there, with the earliest of the deadlines that were given on the way. -/
theorem Chain.tightened {before history : List (Int × Act)} {source last : String}
    {given : List Deadline} {c : Context} (known : (Desk.after before).context? source = some c)
    (chain : Chain source given history last) :
    ∃ derived, (Desk.after (before ++ history)).context? last = some derived ∧
      derived.token = c.token ∧ Earliest (c.deadline :: given) derived.deadline := by
  induction chain with
  | start =>
    rw [List.append_nil]
    exact ⟨c, known, rfl, earliest_singleton c.deadline⟩
  | clone chain now name ih =>
    obtain ⟨derived, hderived, token, earliest⟩ := ih
    rw [← List.append_assoc, Desk.after_concat]
    exact ⟨derived, Desk.context?_act_clone now hderived, token, earliest⟩
  | tighten chain now name d ih =>
    obtain ⟨derived, hderived, token, earliest⟩ := ih
    rw [← List.append_assoc, Desk.after_concat]
    exact ⟨derived.tighten d, Desk.context?_act_tighten now d hderived, token,
      earliest.append (earliest_singleton d)⟩
  | aside chain now act other ih =>
    obtain ⟨derived, hderived, token, earliest⟩ := ih
    rw [← List.append_assoc, Desk.after_concat]
    exact ⟨derived, (Desk.context?_act _ now act other).trans hderived, token, earliest⟩

/-! ## Main statement -/

/-- A context that is derived along a chain has the earliest of the deadlines on the way, is later
than no context that the chain went through, and comes out the same if the deadlines are given in
another order; contexts that were there before are what they were.  The earlier of two deadlines is
a commutative, associative and idempotent operation with no deadline as its identity. -/
theorem chain_tightens {before history : List (Int × Act)} {source last : String}
    {given : List Deadline} {c : Context} (known : (Desk.after before).context? source = some c)
    (chain : Chain source given history last) :
    (∃ derived, (Desk.after (before ++ history)).context? last = some derived ∧
      Tightened c given derived ∧
      (∀ first second middle rest ancestor, history = first ++ second →
        (Desk.after (before ++ first)).context? middle = some ancestor →
        Chain middle rest second last → derived.deadline.NotLater ancestor.deadline) ∧
      ∀ given' history' last' derived', given'.Perm given → Chain source given' history' last' →
        (Desk.after (before ++ history')).context? last' = some derived' →
        derived'.deadline = derived.deadline) ∧
    ((Desk.after before).contextNames <:+ (Desk.after (before ++ history)).contextNames ∧
      ∀ name parent, (∀ a ∈ history, a.2.names? ≠ some name) →
        (Desk.after before).context? name = some parent →
        (Desk.after (before ++ history)).context? name = some parent) ∧
    (∀ d e : Deadline, d.earlier e = e.earlier d) ∧
    (∀ d e f : Deadline, (d.earlier e).earlier f = d.earlier (e.earlier f)) ∧
    (∀ d : Deadline, d.earlier d = d) ∧
    ∀ d : Deadline, d.earlier .never = d ∧ Deadline.never.earlier d = d := by
  obtain ⟨derived, hderived, token, earliest⟩ := chain.tightened known
  refine ⟨⟨derived, hderived, tightened_of_earliest token earliest, ?_, ?_⟩, ?_, earlier_comm,
    earlier_assoc, earlier_self, fun d => ⟨earlier_never d, never_earlier d⟩⟩
  · intro first second middle rest ancestor hhistory hancestor hchain
    obtain ⟨same, hsame, -, hearliest⟩ := hchain.tightened hancestor
    rw [List.append_assoc, ← hhistory, hderived] at hsame
    obtain rfl := Option.some.inj hsame
    exact hearliest.notLater (List.mem_cons_self ..)
  · intro given' history' last' derived' hperm hchain hderived'
    obtain ⟨same, hsame, -, hearliest⟩ := hchain.tightened known
    rw [hderived'] at hsame
    obtain rfl := Option.some.inj hsame
    exact hearliest.unique earliest fun d => (hperm.cons c.deadline).mem_iff
  · refine ⟨Desk.contextNames_suffix_after before history, ?_⟩
    intro name parent others hparent
    rw [Desk.context?_after others, hparent]

/-- A copy, a cancel in between, no deadline, an earlier one and a later one. -/
theorem chain_tightens_to_the_earliest :
    ∃ derived, (Desk.after ([(0, .context "a" none (ofInstant 9))] ++
        [(0, .clone "b" "a"), (1, .cancelContext "a"), (1, .tighten "c" "b" .never),
          (2, .tighten "d" "c" (ofInstant 4)), (6, .tighten "d" "d" (ofInstant 7))])).context? "d"
        = some derived ∧ derived.deadline = ofInstant 4 := by
  have known : (Desk.after [(0, .context "a" none (ofInstant 9))]).context? "a"
      = some { token := { family := 0 }, deadline := ofInstant 9 } := rfl
  have chain : Chain "a" [.never, ofInstant 4, ofInstant 7]
      [(0, .clone "b" "a"), (1, .cancelContext "a"), (1, .tighten "c" "b" .never),
        (2, .tighten "d" "c" (ofInstant 4)), (6, .tighten "d" "d" (ofInstant 7))] "d" :=
    ((((Chain.start.clone 0 "b").aside 1 (.cancelContext "a") (by decide)).tighten 1 "c"
      .never).tighten 2 "d" (ofInstant 4)).tighten 6 "d" (ofInstant 7)
  obtain ⟨⟨derived, hderived, tightened, -, -⟩, -, -⟩ := chain_tightens known chain
  have least : Earliest [ofInstant 9, .never, ofInstant 4, ofInstant 7] (ofInstant 4) := by
    refine .instant 4 (by simp) ?_
    intro j hj
    simp [ofInstant, Deadline.never] at hj
    omega
  exact ⟨derived, hderived, tightened.earliest.unique least fun _ => Iff.rfl⟩

end Call

end Switchboard
