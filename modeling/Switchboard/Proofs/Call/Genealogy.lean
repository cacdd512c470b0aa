import Switchboard.Call.History

set_option autoImplicit false

/-!
# Families of handles

Tokens and contexts are handles.  Each was made anew, or was derived from one that was there before;
those that have an ancestor in common are kin.  A genealogy says no more than that, and through
which handles cancels were made: it knows of no families.  Handles have numbers, in the order in
which they were made, so a name can be given again and the handle that it stood for is still there.

Main statements: kin are those that have the same number of a family, where families are numbered in
the order in which they were started (`kin_iff`); no act changes who is kin among the handles that
are there (`kin_note_iff`), and a cancel reaches one family (`cancelled_note_iff`).
-/

namespace Switchboard.Call

/-- What a handle is called. -/
inductive Label where
  | token (name : String)
  | context (name : String)
  deriving DecidableEq, Repr

/-- How a handle came to be: what it was called, and the handle that it was derived from, unless it
was made anew. -/
structure Birth where
  label : Label
  parent : Option Nat
  deriving DecidableEq, Repr

namespace Birth

variable {b : Birth} {older births : List Birth} {h k : Nat}

/-! ## Descent

Births are listed with the latest first, so a handle has the number of those before it. -/

/-- The handle with a label: the latest that was called so. -/
def handle? (label : Label) : List Birth → Option Nat
  | [] => none
  | b :: older => if label = b.label then some older.length else handle? label older

/-- The handle that a handle was derived from. -/
def parent? (h : Nat) : List Birth → Option Nat
  | [] => none
  | b :: older => if h = older.length then b.parent else parent? h older

/-- Whether a handle is an ancestor of another one, or the same. -/
inductive Ancestor (births : List Birth) : Nat → Nat → Prop where
  | self (h : Nat) : Ancestor births h h
  | parent {a k h : Nat} (step : parent? h births = some k) (rest : Ancestor births a k) :
      Ancestor births a h

/-- Whether two handles belong to one family: one was derived from the other, or both from a common
ancestor. -/
def Kin (births : List Birth) (h k : Nat) : Prop :=
  ∃ a, Ancestor births a h ∧ Ancestor births a k

/-- Whether every handle was derived from one that was there before. -/
def Orderly : List Birth → Prop
  | [] => True
  | b :: older => (∀ k, b.parent = some k → k < older.length) ∧ Orderly older

theorem handle?_lt {label : Label} (found : handle? label births = some h) :
    h < births.length := by
  induction births with
  | nil => simp [handle?] at found
  | cons b older ih =>
    rw [handle?] at found
    rw [List.length_cons]
    split at found
    · obtain rfl := Option.some.inj found
      omega
    · have := ih found
      omega

theorem parent?_cons_length : parent? older.length (b :: older) = b.parent := by
  rw [parent?, if_pos rfl]

theorem parent?_cons_of_lt (hh : h < older.length) :
    parent? h (b :: older) = parent? h older := by
  rw [parent?, if_neg (by omega)]

theorem lt_of_parent? (orderly : Orderly births) (step : parent? h births = some k) :
    k < h ∧ h < births.length := by
  induction births with
  | nil => simp [parent?] at step
  | cons b older ih =>
    rw [parent?] at step
    rw [List.length_cons]
    split at step
    · next hh =>
      have := orderly.1 k step
      omega
    · have := ih orderly.2 step
      omega

/-! ## Families by number -/

/-- How many families were started. -/
def started (births : List Birth) : Nat := births.countP (·.parent.isNone)

/-- The number of the family of a handle. -/
def family (h : Nat) : List Birth → Nat
  | [] => 0
  | b :: older =>
    if h = older.length then
      match b.parent with
      | some k => family k older
      | none => started older
    else family h older

theorem family_cons_of_lt (hh : h < older.length) : family h (b :: older) = family h older := by
  rw [family, if_neg (by omega)]

theorem family_cons_of_parent (hb : b.parent = some k) :
    family older.length (b :: older) = family k older := by
  rw [family, if_pos rfl, hb]

theorem family_cons_of_anew (hb : b.parent = none) :
    family older.length (b :: older) = started older := by
  rw [family, if_pos rfl, hb]

theorem started_cons_of_parent (hb : b.parent = some k) : started (b :: older) = started older := by
  simp [started, hb]

theorem started_cons_of_anew (hb : b.parent = none) : started (b :: older) = started older + 1 := by
  simp [started, hb]

theorem started_le_started_cons : started older ≤ started (b :: older) := by
  cases hb : b.parent with
  | some k => exact Nat.le_of_eq (started_cons_of_parent hb).symm
  | none => rw [started_cons_of_anew hb]; omega

/-- A handle is of the family of the one that it was derived from. -/
theorem family_of_parent? (orderly : Orderly births) (step : parent? h births = some k) :
    family h births = family k births := by
  induction births with
  | nil => simp [parent?] at step
  | cons b older ih =>
    by_cases hh : h = older.length
    · subst hh
      rw [parent?_cons_length] at step
      rw [family_cons_of_parent step, family_cons_of_lt (orderly.1 k step)]
    · rw [parent?, if_neg hh] at step
      have hlt := lt_of_parent? orderly.2 step
      rw [family_cons_of_lt hlt.2, family_cons_of_lt (Nat.lt_trans hlt.1 hlt.2), ih orderly.2 step]

theorem family_of_ancestor (orderly : Orderly births) {a : Nat} (descent : Ancestor births a h) :
    family h births = family a births := by
  induction descent with
  | self => rfl
  | parent step rest ih => rw [family_of_parent? orderly step, ih]

theorem family_lt_started (orderly : Orderly births) (hh : h < births.length) :
    family h births < started births := by
  induction births generalizing h with
  | nil => simp at hh
  | cons b older ih =>
    rw [List.length_cons] at hh
    by_cases hnew : h = older.length
    · subst hnew
      cases hb : b.parent with
      | some k =>
        rw [family_cons_of_parent hb, started_cons_of_parent hb]
        exact ih orderly.2 (orderly.1 k hb)
      | none =>
        rw [family_cons_of_anew hb, started_cons_of_anew hb]
        omega
    · rw [family_cons_of_lt (by omega)]
      exact Nat.lt_of_lt_of_le (ih orderly.2 (by omega)) started_le_started_cons

/-- A handle that is made anew starts a family of which there was no handle before. -/
theorem family_cons_length_ne (orderly : Orderly older) (hb : b.parent = none)
    (hh : h < older.length) : family older.length (b :: older) ≠ family h (b :: older) := by
  rw [family_cons_of_anew hb, family_cons_of_lt hh]
  have := family_lt_started orderly hh
  omega

/-- Every family was started by one handle. -/
theorem eq_of_family_eq (orderly : Orderly births) (hh : h < births.length)
    (hk : k < births.length) (anewh : parent? h births = none) (anewk : parent? k births = none)
    (same : family h births = family k births) : h = k := by
  induction births with
  | nil => simp at hh
  | cons b older ih =>
    rw [List.length_cons] at hh hk
    by_cases hnew : h = older.length
    · by_cases knew : k = older.length
      · rw [hnew, knew]
      · subst hnew
        rw [parent?_cons_length] at anewh
        exact absurd same (family_cons_length_ne orderly.2 anewh (by omega))
    · by_cases knew : k = older.length
      · subst knew
        rw [parent?_cons_length] at anewk
        exact absurd same.symm (family_cons_length_ne orderly.2 anewk (by omega))
      · rw [parent?_cons_of_lt (by omega)] at anewh anewk
        rw [family_cons_of_lt (by omega), family_cons_of_lt (by omega)] at same
        exact ih orderly.2 (by omega) (by omega) anewh anewk same

/-- Every handle has an ancestor that was made anew. -/
theorem exists_first_ancestor (orderly : Orderly births) (hh : h < births.length) :
    ∃ a, a < births.length ∧ parent? a births = none ∧ Ancestor births a h := by
  -- on the number, which is smaller for the parent
  induction h using Nat.strongRecOn with
  | ind h ih =>
    cases step : parent? h births with
    | none => exact ⟨h, hh, step, .self h⟩
    | some k =>
      have hlt := lt_of_parent? orderly step
      obtain ⟨a, ha, anew, descent⟩ := ih k hlt.1 (by omega)
      exact ⟨a, ha, anew, .parent step descent⟩

/-- Kin are those with the same number of a family. -/
theorem kin_iff (orderly : Orderly births) (hh : h < births.length) (hk : k < births.length) :
    Kin births h k ↔ family h births = family k births := by
  constructor
  · rintro ⟨a, toh, tok⟩
    rw [family_of_ancestor orderly toh, family_of_ancestor orderly tok]
  · intro same
    obtain ⟨a, ha, anewa, toh⟩ := exists_first_ancestor orderly hh
    obtain ⟨c, hc, anewc, tok⟩ := exists_first_ancestor orderly hk
    rw [family_of_ancestor orderly toh, family_of_ancestor orderly tok] at same
    obtain rfl := eq_of_family_eq orderly ha hc anewa anewc same
    exact ⟨a, toh, tok⟩

/-! ## One more handle -/

/-- Handles that are there stay kin, or stay strangers. -/
theorem kin_cons_iff (orderly : Orderly (b :: older)) (hh : h < older.length)
    (hk : k < older.length) : Kin (b :: older) h k ↔ Kin older h k := by
  rw [kin_iff orderly (by rw [List.length_cons]; omega) (by rw [List.length_cons]; omega),
    kin_iff orderly.2 hh hk, family_cons_of_lt hh, family_cons_of_lt hk]

/-- A derived handle joins the family of the one that it was derived from. -/
theorem kin_cons_length_iff (orderly : Orderly (b :: older)) (hb : b.parent = some k)
    (hh : h < older.length) : Kin (b :: older) older.length h ↔ Kin older k h := by
  rw [kin_iff orderly (by simp) (by rw [List.length_cons]; omega),
    kin_iff orderly.2 (orderly.1 k hb) hh, family_cons_of_parent hb, family_cons_of_lt hh]

/-- A handle that is made anew has no kin among those before it. -/
theorem not_kin_cons_length (orderly : Orderly (b :: older)) (hb : b.parent = none)
    (hh : h < older.length) : ¬ Kin (b :: older) older.length h := by
  rw [kin_iff orderly (by simp) (by rw [List.length_cons]; omega)]
  exact family_cons_length_ne orderly.2 hb hh

end Birth

/-! ## The genealogy of a history -/

/-- What an act is to the families. -/
inductive Role where
  /-- a handle is made anew, or derived from another one -/
  | makes (made : Label) (source : Option Label)
  | cancels (label : Label)
  /-- a handle is asked whether it was cancelled -/
  | asks (label : Label)
  | neither
  deriving DecidableEq, Repr

/-- The role of an act. -/
def Act.role : Act → Role
  | .token name => .makes (.token name) none
  | .cloneToken name source => .makes (.token name) (some (.token source))
  | .tokenOf name source => .makes (.token name) (some (.context source))
  | .context name source _ => .makes (.context name) (source.map .token)
  | .clone name source => .makes (.context name) (some (.context source))
  | .tighten name source _ => .makes (.context name) (some (.context source))
  | .cancel name => .cancels (.token name)
  | .cancelContext name => .cancels (.context name)
  | .isCancelled name => .asks (.token name)
  | .inspect name => .asks (.context name)
  | .earlier .. => .neither

/-- The handle that an act needs. -/
def Role.needs? : Role → Option Label
  | .makes _ source => source
  | .cancels label => some label
  | .asks label => some label
  | .neither => none

/-- How the handles came to be, the latest first, and those through which cancels were made. -/
structure Genealogy where
  births : List Birth := []
  cancels : List Nat := []

namespace Genealogy

/-- The handle with a label. -/
def handle? (g : Genealogy) (label : Label) : Option Nat := Birth.handle? label g.births

/-- Whether two handles belong to one family. -/
def Kin (g : Genealogy) (h k : Nat) : Prop := Birth.Kin g.births h k

/-- Whether a cancel was made through a handle of the family. -/
def Cancelled (g : Genealogy) (h : Nat) : Prop := ∃ k ∈ g.cancels, g.Kin k h

/-- The genealogy after an act; an act that needs a handle which is not there does nothing. -/
def note (g : Genealogy) : Role → Genealogy
  | .makes made none => { g with births := ⟨made, none⟩ :: g.births }
  | .makes made (some source) =>
    match g.handle? source with
    | some h => { g with births := ⟨made, some h⟩ :: g.births }
    | none => g
  | .cancels label =>
    match g.handle? label with
    | some h => { g with cancels := h :: g.cancels }
    | none => g
  | .asks _ => g
  | .neither => g

/-- The genealogy after some acts. -/
def ofActs (acts : List Act) : Genealogy := acts.foldl (fun g a => g.note a.role) {}

/-- Whether a genealogy speaks only of handles that were there. -/
structure WellFormed (g : Genealogy) : Prop where
  orderly : Birth.Orderly g.births
  cancels : ∀ h ∈ g.cancels, h < g.births.length

variable {g : Genealogy} {h k : Nat}

/-- An act adds at most one handle. -/
theorem births_note (g : Genealogy) (role : Role) :
    (g.note role).births = g.births ∨
      ∃ b : Birth, (g.note role).births = b :: g.births ∧
        ∀ k, b.parent = some k → k < g.births.length := by
  cases role with
  | makes made source =>
    cases source with
    | none => exact .inr ⟨_, rfl, nofun⟩
    | some source =>
      cases found : g.handle? source with
      | none => exact .inl (by simp only [note, found])
      | some h =>
        refine .inr ⟨⟨made, some h⟩, by simp only [note, found], ?_⟩
        rintro k ⟨⟩
        exact Birth.handle?_lt found
  | cancels label =>
    cases found : g.handle? label <;> exact .inl (by simp only [note, found])
  | asks label => exact .inl rfl
  | neither => exact .inl rfl

theorem note_derived {made source : Label} (found : g.handle? source = some h) :
    g.note (.makes made (some source)) = { g with births := ⟨made, some h⟩ :: g.births } := by
  simp only [note, found]

theorem note_cancels {label : Label} (found : g.handle? label = some h) :
    g.note (.cancels label) = { g with cancels := h :: g.cancels } := by
  simp only [note, found]

theorem note_of_unknown {role : Role} {label : Label} (needs : role.needs? = some label)
    (unknown : g.handle? label = none) : g.note role = g := by
  cases role with
  | makes made source =>
    obtain rfl : source = some label := needs
    simp only [note, unknown]
  | cancels other =>
    obtain rfl : other = label := Option.some.inj needs
    simp only [note, unknown]
  | asks other => rfl
  | neither => rfl

/-- The families of those that are there stay as they are. -/
theorem kin_note_iff (wf : g.WellFormed) (role : Role) (hh : h < g.births.length)
    (hk : k < g.births.length) : (g.note role).Kin h k ↔ g.Kin h k := by
  unfold Kin
  rcases births_note g role with same | ⟨b, more, before⟩
  · rw [same]
  · rw [more]
    exact Birth.kin_cons_iff ⟨before, wf.orderly⟩ hh hk

/-- A handle that is made anew starts a family. -/
theorem not_kin_note_anew (wf : g.WellFormed) (made : Label) (hh : h < g.births.length) :
    ¬ (g.note (.makes made none)).Kin g.births.length h :=
  Birth.not_kin_cons_length ⟨nofun, wf.orderly⟩ rfl hh

/-- A handle that is derived from another one joins its family. -/
theorem kin_note_derived_iff (wf : g.WellFormed) (made : Label) {source : Label}
    (found : g.handle? source = some k) (hh : h < g.births.length) :
    (g.note (.makes made (some source))).Kin g.births.length h ↔ g.Kin k h := by
  have orderly : Birth.Orderly (⟨made, some k⟩ :: g.births) := by
    refine ⟨?_, wf.orderly⟩
    rintro _ ⟨⟩
    exact Birth.handle?_lt found
  simp only [Kin, note, found]
  exact Birth.kin_cons_length_iff orderly rfl hh

/-- The handles through which cancels were made: one more, if the act is a cancel. -/
theorem mem_cancels_note_iff (g : Genealogy) (role : Role) :
    k ∈ (g.note role).cancels ↔
      k ∈ g.cancels ∨ ∃ label, role = .cancels label ∧ g.handle? label = some k := by
  cases role with
  | makes made source =>
    cases source with
    | none => simp [note]
    | some source => cases found : g.handle? source <;> simp [note, found]
  | cancels label =>
    cases found : g.handle? label with
    | none => simp [note, found]
    | some h => simp [note, found, or_comm, eq_comm]
  | asks label => simp [note]
  | neither => simp [note]

theorem lt_of_mem_cancels_note (wf : g.WellFormed) {role : Role}
    (hk : k ∈ (g.note role).cancels) : k < g.births.length := by
  rcases (mem_cancels_note_iff g role).1 hk with old | ⟨label, -, found⟩
  · exact wf.cancels k old
  · exact Birth.handle?_lt found

theorem WellFormed.note (wf : g.WellFormed) (role : Role) : (g.note role).WellFormed := by
  rcases births_note g role with same | ⟨b, more, before⟩
  · exact ⟨same ▸ wf.orderly, fun k hk => same ▸ lt_of_mem_cancels_note wf hk⟩
  · refine ⟨more ▸ ⟨before, wf.orderly⟩, fun k hk => ?_⟩
    rw [more, List.length_cons]
    exact Nat.lt_succ_of_lt (lt_of_mem_cancels_note wf hk)

/-- What was cancelled stays so, and a cancel reaches its family and no other. -/
theorem cancelled_note_iff (wf : g.WellFormed) (role : Role) (hh : h < g.births.length) :
    (g.note role).Cancelled h ↔
      g.Cancelled h ∨
        ∃ label k, role = .cancels label ∧ g.handle? label = some k ∧ g.Kin k h := by
  constructor
  · rintro ⟨k, hk, kin⟩
    rw [kin_note_iff wf role (lt_of_mem_cancels_note wf hk) hh] at kin
    rcases (mem_cancels_note_iff g role).1 hk with old | ⟨label, hrole, found⟩
    · exact .inl ⟨k, old, kin⟩
    · exact .inr ⟨label, k, hrole, found, kin⟩
  · rintro (⟨k, hk, kin⟩ | ⟨label, k, hrole, found, kin⟩)
    · exact ⟨k, (mem_cancels_note_iff g role).2 (.inl hk),
        (kin_note_iff wf role (wf.cancels k hk) hh).2 kin⟩
    · exact ⟨k, (mem_cancels_note_iff g role).2 (.inr ⟨label, hrole, found⟩),
        (kin_note_iff wf role (Birth.handle?_lt found) hh).2 kin⟩

end Genealogy

end Switchboard.Call
