import Switchboard.Proofs.Call.Genealogy

set_option autoImplicit false

/-!
# Cancellation goes by families

Holders make, copy and cancel tokens and contexts in any order.  The desk keeps numbers of families;
what holders are told can be understood without them, from a genealogy of the handles alone.  Main
statement: in every history, a handle tells that it was cancelled when a cancel was made before
through a handle of its family, and only then, and a cancel tells whether it is the first of its
family (`history_goes_by_families`).
-/

namespace Switchboard.Call

/-! ## What holders are told -/

/-- What a reply tells of cancellation. -/
def Reply.tells? : Reply → Option Bool
  | .flag value => some value
  | .view value => some value.cancelled
  | _ => none

/-- Whether an act and its reply go by families: what is told is right, and the act makes no more of
a difference to the families than it should. -/
structure ByFamilies (g : Genealogy) (role : Role) (reply : Reply) : Prop where
  /-- a handle that is asked tells whether a cancel was made through its family -/
  asked : ∀ label h, role = .asks label → g.handle? label = some h →
    ∃ b, reply.tells? = some b ∧ (b = true ↔ g.Cancelled h)
  /-- a cancel tells whether it is the first that is made through its family -/
  first : ∀ label h, role = .cancels label → g.handle? label = some h →
    ∃ b, reply = .flag b ∧ (b = true ↔ ¬ g.Cancelled h)
  /-- what is told of a new handle is right too -/
  made : ∀ label source b, role = .makes label source → reply.tells? = some b →
    (b = true ↔ (g.note role).Cancelled g.births.length)
  /-- a handle that is made anew starts a family -/
  anew : ∀ label h, role = .makes label none → h < g.births.length →
    ¬ (g.note role).Kin g.births.length h
  /-- a handle that is derived from another one joins its family -/
  derived : ∀ label source k h, role = .makes label (some source) → g.handle? source = some k →
    h < g.births.length → ((g.note role).Kin g.births.length h ↔ g.Kin k h)
  /-- the families of those that are there stay as they are -/
  kin : ∀ h k, h < g.births.length → k < g.births.length →
    ((g.note role).Kin h k ↔ g.Kin h k)
  /-- what was cancelled stays so, and a cancel reaches its family and no other -/
  spread : ∀ h, h < g.births.length →
    ((g.note role).Cancelled h ↔
      g.Cancelled h ∨ ∃ label k, role = .cancels label ∧ g.handle? label = some k ∧ g.Kin k h)

/-! ## What an act does to the desk -/

namespace Desk

/-- The desk after a history of acts, each at an instant of its own. -/
def after (history : List (Int × Act)) : Desk := history.foldl (fun d a => (d.act a.1 a.2).1) {}

/-- The token that a label stands for, its own or that of its context. -/
def held? (d : Desk) : Label → Option Token
  | .token name => d.token? name
  | .context name => (d.context? name).map Context.token

variable {d : Desk}

theorem lookup_cons_eq_ite {α : Type} (name other : String) (a : α) (named : List (String × α)) :
    ((name, a) :: named).lookup other = if other = name then some a else named.lookup other := by
  by_cases h : other = name
  · rw [if_pos h, h, List.lookup_cons_self]
  · rw [if_neg h, List.lookup_cons, beq_eq_false_iff_ne.2 h]

theorem held?_nameToken (name : String) (t : Token) (label : Label) :
    (d.nameToken name t).held? label = if label = .token name then some t else d.held? label := by
  cases label with
  | token other => simp [held?, token?, nameToken, lookup_cons_eq_ite]
  | context other => simp [held?, context?, nameToken]

theorem held?_nameContext (name : String) (c : Context) (label : Label) :
    (d.nameContext name c).held? label
      = if label = .context name then some c.token else d.held? label := by
  cases label with
  | token other => simp [held?, token?, nameContext]
  | context other =>
    simp [held?, context?, nameContext, lookup_cons_eq_ite, apply_ite (Option.map Context.token)]

/-- All that an act can do to a desk, by its role. -/
inductive Turn (d d' : Desk) (reply : Reply) : Role → Prop where
  /-- a new handle has a token of a new family -/
  | anew (made : Label) (tokens : d'.tokens = d.tokens.issue.2)
      (held : ∀ label,
        d'.held? label = if label = made then some d.tokens.issue.1 else d.held? label)
      (tells : ∀ b, reply.tells? = some b → b = d'.tokens.isCancelled d.tokens.issue.1) :
      Turn d d' reply (.makes made none)
  /-- a new handle has the token of another one -/
  | derived (made source : Label) (t : Token) (known : d.held? source = some t)
      (tokens : d'.tokens = d.tokens)
      (held : ∀ label, d'.held? label = if label = made then some t else d.held? label)
      (tells : ∀ b, reply.tells? = some b → b = d'.tokens.isCancelled t) :
      Turn d d' reply (.makes made (some source))
  | cancelled (label : Label) (t : Token) (known : d.held? label = some t)
      (tokens : d'.tokens = (d.tokens.cancel t).2) (held : ∀ label, d'.held? label = d.held? label)
      (tells : reply = .flag (d.tokens.cancel t).1) :
      Turn d d' reply (.cancels label)
  | asked (label : Label) (t : Token) (known : d.held? label = some t) (same : d' = d)
      (tells : reply.tells? = some (d.tokens.isCancelled t)) :
      Turn d d' reply (.asks label)
  /-- the handle that is needed is not there -/
  | unknown (role : Role) (label : Label) (needs : role.needs? = some label)
      (unknown : d.held? label = none) (same : d' = d) (silent : reply.tells? = none) :
      Turn d d' reply role
  | aside (same : d' = d) : Turn d d' reply .neither

theorem turn_introduce (now : Int) (name : String) (c : Context) {source : Label}
    (known : d.held? source = some c.token) :
    Turn d (d.introduce now name c).1 (d.introduce now name c).2
      (.makes (.context name) (some source)) := by
  refine .derived _ _ c.token known rfl (held?_nameContext name c) ?_
  intro b hb
  exact (Option.some.inj hb).symm

theorem turn_cancel {t : Token} {label : Label} (known : d.held? label = some t) :
    Turn d (d.cancel t).1 (d.cancel t).2 (.cancels label) :=
  .cancelled label t known rfl (fun label => by cases label <;> rfl) rfl

/-- An act that needs a token only has to be looked at where the token is there. -/
theorem turn_of_token {role : Role} {name : String} (needs : role.needs? = some (.token name))
    {known : Token → Desk × Reply}
    (h : ∀ t, d.held? (.token name) = some t → Turn d (known t).1 (known t).2 role) :
    let turned := match d.token? name with
      | some t => known t
      | none => (d, .unknown name)
    Turn d turned.1 turned.2 role := by
  cases found : d.token? name with
  | some t => exact h t found
  | none => exact .unknown role _ needs found rfl rfl

/-- The same where a context is needed. -/
theorem turn_of_context {role : Role} {name : String} (needs : role.needs? = some (.context name))
    {known : Context → Desk × Reply}
    (h : ∀ c, d.held? (.context name) = some c.token → Turn d (known c).1 (known c).2 role) :
    let turned := match d.context? name with
      | some c => known c
      | none => (d, .unknown name)
    Turn d turned.1 turned.2 role := by
  cases found : d.context? name with
  | some c => exact h c (by rw [held?, found, Option.map_some])
  | none => exact .unknown role _ needs (by rw [held?, found, Option.map_none]) rfl rfl

/-- Every act takes one of these turns. -/
theorem act_turn (d : Desk) (now : Int) (act : Act) :
    Turn d (d.act now act).1 (d.act now act).2 act.role := by
  cases act with
  | token name => exact .anew _ rfl (held?_nameToken name _) nofun
  | cloneToken name source =>
    exact turn_of_token rfl fun t known => .derived _ _ t known rfl (held?_nameToken name t) nofun
  | tokenOf name source =>
    exact turn_of_context rfl fun c known =>
      .derived _ _ c.token known rfl (held?_nameToken name c.token) nofun
  | cancel name => exact turn_of_token rfl fun t known => turn_cancel known
  | cancelContext name => exact turn_of_context rfl fun c known => turn_cancel known
  | isCancelled name => exact turn_of_token rfl fun t known => .asked _ t known rfl rfl
  | inspect name => exact turn_of_context rfl fun c known => .asked _ c.token known rfl rfl
  | context name source deadline =>
    cases source with
    | none =>
      refine .anew _ rfl (held?_nameContext name _) ?_
      intro b hb
      exact (Option.some.inj hb).symm
    | some source => exact turn_of_token rfl fun t known => turn_introduce now name _ known
  | clone name source => exact turn_of_context rfl fun c known => turn_introduce now name c known
  | tighten name source deadline =>
    exact turn_of_context rfl fun c known => turn_introduce now name _ known
  | earlier d e => exact .aside rfl

/-- Each reply of a run is given after the acts before it. -/
theorem getElem?_run (now : Int) (before later : List Act) (act : Act) :
    (run {} now (before ++ act :: later))[before.length]?
      = some ((after (before.map fun a => (now, a))).act now act).2 := by
  have from_desk : ∀ d : Desk, (run d now (before ++ act :: later))[before.length]?
      = some (((before.map fun a => (now, a)).foldl
          (fun d a => (d.act a.1 a.2).1) d).act now act).2 := by
    induction before with
    | nil => exact fun d => rfl
    | cons first rest ih => exact fun d => ih (d.act now first).1
  exact from_desk {}

end Desk

/-! ## The desk goes by the genealogy -/

/-- What a desk knows of the families, told by a genealogy. -/
structure Reflects (d : Desk) (g : Genealogy) : Prop where
  wellFormed : g.WellFormed
  issued : d.tokens.issued = Birth.started g.births
  held : ∀ label,
    (d.held? label).map Token.family = (g.handle? label).map (Birth.family · g.births)
  cancelled : ∀ t : Token,
    d.tokens.isCancelled t = true ↔ ∃ k ∈ g.cancels, Birth.family k g.births = t.family

namespace Reflects

variable {d d' : Desk} {g : Genealogy}

theorem empty : Reflects {} {} where
  wellFormed := ⟨trivial, nofun⟩
  issued := rfl
  held := fun label => by cases label <;> rfl
  cancelled := fun t => by simp [Tokens.isCancelled]

/-- A label stands for a token of the family of its handle. -/
theorem exists_token (r : Reflects d g) {label : Label} {h : Nat}
    (found : g.handle? label = some h) :
    ∃ t, d.held? label = some t ∧ t.family = Birth.family h g.births := by
  have same := r.held label
  rw [found] at same
  obtain ⟨t, known, family⟩ := Option.map_eq_some_iff.1 same
  exact ⟨t, known, family⟩

/-- A token that is held has a handle of its family. -/
theorem exists_handle (r : Reflects d g) {label : Label} {t : Token}
    (known : d.held? label = some t) :
    ∃ h, g.handle? label = some h ∧ Birth.family h g.births = t.family := by
  have same := r.held label
  rw [known] at same
  obtain ⟨h, found, family⟩ := Option.map_eq_some_iff.1 same.symm
  exact ⟨h, found, family⟩

theorem handle?_eq_none (r : Reflects d g) {label : Label} (unknown : d.held? label = none) :
    g.handle? label = none := by
  have same := r.held label
  rw [unknown] at same
  exact Option.map_eq_none_iff.1 same.symm

/-- The families that were cancelled are those through which a cancel was made. -/
theorem isCancelled_iff (r : Reflects d g) {h : Nat} (hh : h < g.births.length) {t : Token}
    (family : t.family = Birth.family h g.births) :
    d.tokens.isCancelled t = true ↔ g.Cancelled h := by
  rw [r.cancelled t, family]
  refine exists_congr fun k => and_congr_right fun hk => ?_
  exact (Birth.kin_iff r.wellFormed.orderly (r.wellFormed.cancels k hk) hh).symm

/-- The same of the latest handle. -/
theorem isCancelled_latest_iff (r : Reflects d g) {b : Birth} {older : List Birth}
    (latest : g.births = b :: older) {t : Token} (known : d.held? b.label = some t) :
    d.tokens.isCancelled t = true ↔ g.Cancelled older.length := by
  obtain ⟨h, found, family⟩ := r.exists_handle known
  obtain rfl : older.length = h := by
    rw [Genealogy.handle?, latest, Birth.handle?, if_pos rfl] at found
    exact Option.some.inj found
  exact r.isCancelled_iff (Birth.handle?_lt found) family.symm

/-- One more handle, with a token of the family that it belongs to. -/
theorem birth (r : Reflects d g) {b : Birth} {t : Token}
    (before : ∀ k, b.parent = some k → k < g.births.length)
    (issued : d'.tokens.issued = Birth.started (b :: g.births))
    (cancelled : ∀ u, d'.tokens.isCancelled u = d.tokens.isCancelled u)
    (family : t.family = Birth.family g.births.length (b :: g.births))
    (held : ∀ label, d'.held? label = if label = b.label then some t else d.held? label) :
    Reflects d' { g with births := b :: g.births } where
  wellFormed := by
    refine ⟨⟨before, r.wellFormed.orderly⟩, fun k hk => ?_⟩
    rw [List.length_cons]
    exact Nat.lt_succ_of_lt (r.wellFormed.cancels k hk)
  issued := issued
  held := by
    intro label
    rw [held label, Genealogy.handle?, Birth.handle?]
    by_cases hlabel : label = b.label
    · rw [if_pos hlabel, if_pos hlabel, Option.map_some, Option.map_some, family]
    · rw [if_neg hlabel, if_neg hlabel, r.held label]
      refine Option.map_congr fun h found => (Birth.family_cons_of_lt ?_).symm
      exact Birth.handle?_lt found
  cancelled := by
    intro u
    rw [cancelled, r.cancelled u]
    refine exists_congr fun k => and_congr_right fun hk => ?_
    rw [Birth.family_cons_of_lt (r.wellFormed.cancels k hk)]

/-- Whatever turn an act takes, the desk still goes by the genealogy. -/
theorem turn (r : Reflects d g) {role : Role} {reply : Reply} (turn : Desk.Turn d d' reply role) :
    Reflects d' (g.note role) := by
  cases turn with
  | anew made tokens held tells =>
    refine r.birth (b := ⟨made, none⟩) (t := d.tokens.issue.1) nofun ?_ ?_ ?_ held
    · rw [tokens, Birth.started_cons_of_anew rfl, ← r.issued]
      rfl
    · intro u
      rw [tokens, Tokens.isCancelled_issue]
    · rw [Birth.family_cons_of_anew rfl, ← r.issued]
      rfl
  | derived made source t known tokens held tells =>
    obtain ⟨h, found, family⟩ := r.exists_handle known
    rw [Genealogy.note_derived found]
    refine r.birth (b := ⟨made, some h⟩) (t := t) ?_ ?_ ?_ ?_ held
    · rintro k ⟨⟩
      exact Birth.handle?_lt found
    · rw [tokens, Birth.started_cons_of_parent rfl, r.issued]
    · intro u
      rw [tokens]
    · rw [Birth.family_cons_of_parent rfl, family]
  | cancelled label t known tokens held tells =>
    obtain ⟨h, found, family⟩ := r.exists_handle known
    have wf := r.wellFormed.note (.cancels label)
    rw [Genealogy.note_cancels found] at wf ⊢
    refine ⟨wf, ?_, fun other => (held other).symm ▸ r.held other, ?_⟩
    · rw [tokens, Tokens.issued_cancel, r.issued]
    · intro u
      rw [tokens, Tokens.isCancelled_cancel, Bool.or_eq_true, r.cancelled u, beq_iff_eq, ← family]
      simp only [List.mem_cons, exists_eq_or_imp]
      exact or_comm.trans (or_congr_left eq_comm)
  | asked label t known same tells =>
    subst same
    exact r
  | unknown role label needs unknown same silent =>
    subst same
    rwa [Genealogy.note_of_unknown needs (r.handle?_eq_none unknown)]
  | aside same =>
    subst same
    exact r

/-- After every history the desk goes by the genealogy. -/
theorem after (history : List (Int × Act)) :
    Reflects (Desk.after history) (Genealogy.ofActs (history.map Prod.snd)) := by
  -- the fold starts from any desk and any genealogy that goes with it
  have run : ∀ d g, Reflects d g →
      Reflects (history.foldl (fun d a => (d.act a.1 a.2).1) d)
        ((history.map Prod.snd).foldl (fun g a => g.note a.role) g) := by
    induction history with
    | nil => exact fun d g r => r
    | cons a rest ih => exact fun d g r => ih _ _ (r.turn (d.act_turn a.1 a.2))
  exact run _ _ empty

end Reflects

/-! ## What is told is right -/

section

variable {d d' : Desk} {g : Genealogy} {reply : Reply} {label : Label} {h : Nat}

theorem tells_of_asked (r : Reflects d g) (turn : Desk.Turn d d' reply (.asks label))
    (found : g.handle? label = some h) :
    ∃ b, reply.tells? = some b ∧ (b = true ↔ g.Cancelled h) := by
  obtain ⟨t, known, family⟩ := r.exists_token found
  cases turn with
  | asked label u other same tells =>
    obtain rfl : t = u := Option.some.inj (known.symm.trans other)
    exact ⟨_, tells, r.isCancelled_iff (Birth.handle?_lt found) family⟩
  | unknown role label needs unknown same silent =>
    obtain rfl := Option.some.inj needs
    exact absurd (known.symm.trans unknown) (by simp)

theorem tells_of_cancelled (r : Reflects d g) (turn : Desk.Turn d d' reply (.cancels label))
    (found : g.handle? label = some h) :
    ∃ b, reply = .flag b ∧ (b = true ↔ ¬ g.Cancelled h) := by
  obtain ⟨t, known, family⟩ := r.exists_token found
  cases turn with
  | cancelled label u other tokens held tells =>
    obtain rfl : t = u := Option.some.inj (known.symm.trans other)
    refine ⟨_, tells, ?_⟩
    rw [← r.isCancelled_iff (Birth.handle?_lt found) family, Tokens.cancel_first,
      Bool.not_eq_true', Bool.not_eq_true]
  | unknown role label needs unknown same silent =>
    obtain rfl := Option.some.inj needs
    exact absurd (known.symm.trans unknown) (by simp)

theorem tells_of_made (r : Reflects d g) {source : Option Label}
    (turn : Desk.Turn d d' reply (.makes label source)) {b : Bool} (told : reply.tells? = some b) :
    b = true ↔ (g.note (.makes label source)).Cancelled g.births.length := by
  have after := r.turn turn
  cases turn with
  | anew made tokens held tells =>
    rw [tells b told]
    exact after.isCancelled_latest_iff rfl ((held label).trans (if_pos rfl))
  | derived made source t known tokens held tells =>
    obtain ⟨h, found, -⟩ := r.exists_handle known
    rw [Genealogy.note_derived found] at after ⊢
    rw [tells b told]
    exact after.isCancelled_latest_iff rfl ((held label).trans (if_pos rfl))
  | unknown role other needs unknown same silent =>
    rw [silent] at told
    exact absurd told (by simp)

theorem Reflects.byFamilies (r : Reflects d g) (now : Int) (act : Act) :
    ByFamilies g act.role (d.act now act).2 := by
  have turn := d.act_turn now act
  constructor
  case asked =>
    intro label h hrole found
    exact tells_of_asked r (hrole ▸ turn) found
  case first =>
    intro label h hrole found
    exact tells_of_cancelled r (hrole ▸ turn) found
  case made =>
    intro label source b hrole told
    exact hrole ▸ tells_of_made r (hrole ▸ turn) told
  case anew =>
    intro label h hrole hh
    exact hrole ▸ Genealogy.not_kin_note_anew r.wellFormed label hh
  case derived =>
    intro label source k h hrole found hh
    exact hrole ▸ Genealogy.kin_note_derived_iff r.wellFormed label found hh
  case kin => exact fun h k hh hk => Genealogy.kin_note_iff r.wellFormed act.role hh hk
  case spread => exact fun h hh => Genealogy.cancelled_note_iff r.wellFormed act.role hh

end

/-- In every history, whatever act comes next, it and its reply go by families. -/
theorem history_goes_by_families (history : List (Int × Act)) (now : Int) (act : Act) :
    ByFamilies (Genealogy.ofActs (history.map Prod.snd)) act.role
      ((Desk.after history).act now act).2 :=
  (Reflects.after history).byFamilies now act

/-- The same of a run at one instant: each of its replies goes by families. -/
theorem run_goes_by_families (now : Int) (before after : List Act) (act : Act) :
    ∃ reply, (Desk.run {} now (before ++ act :: after))[before.length]? = some reply ∧
      ByFamilies (Genealogy.ofActs before) act.role reply := by
  refine ⟨_, Desk.getElem?_run now before after act, ?_⟩
  have same : (before.map fun a => (now, a)).map Prod.snd = before :=
    List.map_map.trans (List.map_id before)
  have r := Reflects.after (before.map fun a => (now, a))
  rw [same] at r
  exact r.byFamilies now act

end Switchboard.Call
