import Switchboard.Proofs.Circuit.Lifetime
import Switchboard.Proofs.Tcp.ReceptionSound

set_option autoImplicit false

/-!
# Shutting a listener down

Accepts and closes of one listener take their steps in any order, connections come in in between,
and callers of accepts leave off when they like.  Main statement: at every moment of every run, an
accept that is in time gets the oldest connection, one that begins or is looked at too late learns
that the listener was closed, no connection is returned twice, closes succeed and change nothing
after the first, and when nothing is under way any more after a close, the native listener has been
given up for good (`orderly_run`).
-/

namespace Switchboard.Tcp

/-! ## How much there is left to do -/

/-- How many steps an accept takes at most once a close was announced. -/
def Visit.ahead : Visit → Nat
  | .begun => 3
  | .admitted _ => 2
  | .watching .. => 1
  | .ended _ | .abandoned => 0

/-- How many steps a close still takes. -/
def Leave.ahead : Leave → Nat
  | .begun => 3
  | .taken _ => 2
  | .announced _ => 1
  | .ended _ => 0

/-- Whether an event is a step of the accept with this index. -/
def Event.isVisit (index : Nat) : Event → Bool
  | .visit i _ => decide (i = index)
  | _ => false

/-- Whether an event is a step of the close with this index. -/
def Event.isLeave (index : Nat) : Event → Bool
  | .leave i => decide (i = index)
  | _ => false

theorem Visit.ahead_pos_iff {visit : Visit} : 0 < visit.ahead ↔ visit.isUnderWay = true := by
  cases visit <;> simp [ahead, isUnderWay]

theorem Visit.ahead_le (visit : Visit) : visit.ahead ≤ 3 := by
  cases visit <;> simp [ahead]

theorem Leave.ahead_le (leave : Leave) : leave.ahead ≤ 3 := by
  cases leave <;> simp [ahead]

theorem Leave.Step.ahead {post : Post} {d d' : Lobby} {before after : Leave}
    (h : Step post d before after d') : after.ahead = before.ahead - 1 := by
  cases h <;> rfl

/-- Nobody is told anything new who still has an announcement to read. -/
theorem Leave.notice_eq (leave : Leave) {visits : List Visit}
    (told : ∀ visit ∈ visits, visit.told = visit) : leave.notice visits = visits := by
  cases leave with
  | taken native => exact (List.map_congr_left told).trans (List.map_id _)
  | _ => rfl

theorem Visit.told_of_share? {visit : Visit} (h : visit.share? = none) : visit.told = visit := by
  cases visit <;> first | rfl | cases h

/-- An accept that has no share gets none where there is none. -/
theorem Visit.Step.of_shareless {post : Post} {d d' : Lobby} {before after : Visit}
    (h : Step post d before after d') (shareless : before.share? = none)
    (taken : d.gate.native = none) :
    d' = d ∧ (before = .begun ∧ after = .ended (.error (Gate.closedFault post.addr)) ∨
      after = before) := by
  cases h with
  | entered there => simp [taken] at there
  | refused => exact ⟨rfl, .inl ⟨rfl, rfl⟩⟩
  | finished => exact ⟨rfl, .inr rfl⟩
  | subscribed | found | foundNothing => cases shareless

/-- A close that has no share changes nothing where a close was announced before. -/
theorem Leave.Step.of_shareless {post : Post} {d d' : Lobby} {before after : Leave}
    (h : Step post d before after d') (shareless : before.share? = none)
    (taken : d.gate.native = none) (closing : d.gate.closing = true) :
    d' = d ∧ after.share? = none := by
  obtain ⟨⟨native, announced⟩, holders, queue⟩ := d
  cases taken
  cases closing
  cases h with
  | departed native =>
    cases shareless
    exact ⟨rfl, rfl⟩
  | took => exact ⟨rfl, rfl⟩
  | announced | finished => exact ⟨rfl, shareless⟩

/-- An accept is still under way, or has learned that the listener was closed. -/
def Visit.IsLate (post : Post) (visit : Visit) : Prop :=
  visit.isUnderWay = true ∨ visit = .ended (.error (Gate.closedFault post.addr))

namespace Visit

variable {post : Post} {d d' : Lobby} {before after : Visit}

/-- Once a close was announced, every step of an accept brings it nearer to its end. -/
theorem Step.late (h : Step post d before after d') (closing : d.gate.closing = true)
    (told : before.told = before) (late : before.IsLate post) :
    after.IsLate post ∧ after.ahead ≤ before.ahead - 1 := by
  cases h with
  | entered => exact ⟨.inl rfl, Nat.le_refl _⟩
  | refused => exact ⟨.inr rfl, Nat.zero_le _⟩
  | subscribed => exact ⟨.inl rfl, Nat.le_refl _⟩
  | @found native unread result d' finds =>
    cases told
    simp only [closing, Bool.and_self] at finds
    cases finds
    exact ⟨.inr rfl, Nat.zero_le _⟩
  | foundNothing unheard =>
    cases told
    simp [closing] at unheard
  | finished finished =>
    refine ⟨late, ?_⟩
    cases before <;> first | exact Nat.zero_le _ | cases finished

end Visit

namespace Reception

variable {r r' : Reception}

/-! ## What a close comes to -/

/-- Only its own steps bring a close on. -/
theorem leave_change {event : Event} (change : Change r event r') {index : Nat} {leave : Leave}
    (there : r.leaves[index]? = some leave) :
    ∃ after, r'.leaves[index]? = some after ∧
      after.ahead = leave.ahead - (event.isLeave index).toNat := by
  have hlt : index < r.leaves.length := (List.getElem?_eq_some_iff.1 there).1
  cases change with
  | closeCalled => exact ⟨leave, (List.getElem?_append_left hlt).trans there, rfl⟩
  | @noLeave i absent =>
    have hne : i ≠ index := by
      rintro rfl
      simp [there] at absent
    exact ⟨leave, there, by simp [Event.isLeave, hne]⟩
  | @left i before after lobby there' step =>
    by_cases hi : i = index
    · subst hi
      cases Option.some.inj (there.symm.trans there')
      exact ⟨after, by simp [hlt], by simp [Event.isLeave, step.ahead]⟩
    · exact ⟨leave, by simp [hi, there], by simp [Event.isLeave, hi]⟩
  | _ => exact ⟨leave, there, rfl⟩

theorem leave_run {index : Nat} {leave : Leave} (there : r.leaves[index]? = some leave)
    (events : List Event) :
    ∃ after, (r.run events).leaves[index]? = some after ∧
      after.ahead = leave.ahead - events.countP (Event.isLeave index) := by
  induction events generalizing r leave with
  | nil => exact ⟨leave, there, rfl⟩
  | cons event rest ih =>
    obtain ⟨next, hnext, hahead⟩ := leave_change (change_step r event) there
    obtain ⟨after, hafter, hrest⟩ := ih hnext
    refine ⟨after, hafter, ?_⟩
    rw [hrest, hahead, List.countP_cons]
    cases Event.isLeave index event with
    | false => simp
    | true =>
      rw [Bool.toNat_true, if_pos rfl]
      omega

/-- A close that takes its steps succeeds. -/
theorem Sound.leave_succeeds (h : r.Sound) {index : Nat} {leave : Leave}
    (there : r.leaves[index]? = some leave) {events : List Event}
    (enough : 3 ≤ events.countP (Event.isLeave index)) :
    (r.run events).leaves[index]? = some (.ended (.ok ())) := by
  obtain ⟨after, hafter, hahead⟩ := leave_run there events
  have hmost := leave.ahead_le
  have hdone : after.ahead = 0 := by omega
  cases after with
  | ended result =>
    have hok := (h.run events).announces.succeeded _ (List.mem_of_getElem? hafter) result rfl
    rwa [hok] at hafter
  | _ => cases hdone

/-! ## What an accept comes to once a close was announced -/

/-- What was announced stays announced. -/
theorem closing_change {event : Event} (change : Change r event r')
    (closing : r.lobby.gate.closing = true) : r'.lobby.gate.closing = true := by
  cases change with
  | visited there step => exact step.gate ▸ closing
  | left there step =>
    cases step with
    | announced => rfl
    | departed => simpa using closing
    | _ => exact closing
  | leftOff => simpa using closing
  | _ => exact closing

/-- Once a close was announced, only its own steps bring an accept on, unless its caller leaves
off. -/
theorem Sound.late_change (h : r.Sound) (closing : r.lobby.gate.closing = true) {event : Event}
    (change : Change r event r') {index : Nat} (kept : event ≠ .abandon index) {visit : Visit}
    (there : r.visits[index]? = some visit) (late : visit.IsLate r.post) :
    ∃ after, r'.visits[index]? = some after ∧ after.IsLate r.post ∧
      after.ahead ≤ visit.ahead - (event.isVisit index).toNat := by
  have hlt : index < r.visits.length := (List.getElem?_eq_some_iff.1 there).1
  have htold := h.announces.told closing
  cases change with
  | called =>
    exact ⟨visit, (List.getElem?_append_left hlt).trans there, late, Nat.le_refl _⟩
  | @noVisit i answers absent =>
    have hne : i ≠ index := by
      rintro rfl
      simp [there] at absent
    exact ⟨visit, there, late, by simp [Event.isVisit, hne]⟩
  | @visited i answers before after lobby there' step =>
    by_cases hi : i = index
    · subst hi
      cases Option.some.inj (there.symm.trans there')
      obtain ⟨hlate, hahead⟩ := step.late closing (htold _ (List.mem_of_getElem? there)) late
      exact ⟨after, by simp [hlt], hlate, by simpa [Event.isVisit] using hahead⟩
    · exact ⟨visit, by simp [hi, there], late, by simp [Event.isVisit, hi]⟩
  | @leftOff i before there' underWay =>
    have hi : i ≠ index := fun heq => kept (heq ▸ rfl)
    exact ⟨visit, by simp [hi, there], late, Nat.le_refl _⟩
  | @left i before after lobby there' step =>
    exact ⟨visit, by rw [before.notice_eq htold]; exact there, late, Nat.le_refl _⟩
  | _ => exact ⟨visit, there, late, Nat.le_refl _⟩

theorem Sound.late_run (h : r.Sound) (closing : r.lobby.gate.closing = true) {index : Nat}
    {visit : Visit} (there : r.visits[index]? = some visit) (late : visit.IsLate r.post)
    {events : List Event} (kept : .abandon index ∉ events) :
    ∃ after, (r.run events).visits[index]? = some after ∧ after.IsLate r.post ∧
      after.ahead ≤ visit.ahead - events.countP (Event.isVisit index) := by
  induction events generalizing r visit with
  | nil => exact ⟨visit, there, late, Nat.le_refl _⟩
  | cons event rest ih =>
    have change := change_step r event
    rw [List.mem_cons, not_or] at kept
    obtain ⟨next, hnext, hlate, hahead⟩ :=
      h.late_change closing change (Ne.symm kept.1) there late
    have hpost := post_step r event
    obtain ⟨after, hafter, hend, hrest⟩ :=
      ih (h.step event) (closing_change change closing) hnext (hpost ▸ hlate) kept.2
    refine ⟨after, hafter, hpost ▸ hend, ?_⟩
    rw [List.countP_cons]
    cases hvisit : Event.isVisit index event <;> simp [hvisit] at hahead ⊢ <;> omega

/-- An accept that is under way when a close is announced learns of it, if it takes its steps. -/
theorem Sound.visit_ends (h : r.Sound) (closing : r.lobby.gate.closing = true) {index : Nat}
    {visit : Visit} (there : r.visits[index]? = some visit) (underWay : visit.isUnderWay = true)
    {events : List Event} (kept : .abandon index ∉ events)
    (enough : 3 ≤ events.countP (Event.isVisit index)) :
    (r.run events).visits[index]? = some (.ended (.error (Gate.closedFault r.post.addr))) := by
  obtain ⟨after, hafter, hlate, hahead⟩ := h.late_run closing there (.inl underWay) kept
  have hmost := visit.ahead_le
  have hdone : after.ahead = 0 := by omega
  rcases hlate with hway | hclosed
  · exact absurd (Visit.ahead_pos_iff.2 hway) (by omega)
  · rwa [hclosed] at hafter

/-! ## What is left when nobody has a share -/

/-- Nobody has a share of the native listener, and nobody gets one. -/
structure GivenUp (r : Reception) : Prop where
  native : r.lobby.gate.native = none
  closing : r.lobby.gate.closing = true
  holders : r.lobby.holders = 0
  visits : ∀ visit ∈ r.visits, visit.share? = none
  leaves : ∀ leave ∈ r.leaves, leave.share? = none

/-- Nobody who calls from an index on gets a connection. -/
def NobodyFrom (index : Nat) (r : Reception) : Prop :=
  ∀ i visit, index ≤ i → r.visits[i]? = some visit →
    visit = .begun ∨ visit = .abandoned ∨ visit = .ended (.error (Gate.closedFault r.post.addr))

theorem GivenUp.mono (h : r.GivenUp) (lobby : r'.lobby = r.lobby)
    (visits : ∀ visit ∈ r'.visits, visit.share? = none)
    (leaves : ∀ leave ∈ r'.leaves, leave.share? = none) : r'.GivenUp :=
  ⟨lobby ▸ h.native, lobby ▸ h.closing, lobby ▸ h.holders, visits, leaves⟩

theorem GivenUp.notice_eq (h : r.GivenUp) (leave : Leave) : leave.notice r.visits = r.visits :=
  leave.notice_eq fun visit hmem => Visit.told_of_share? (h.visits visit hmem)

/-- Accepts and closes go on where they were, but nothing else changes any more. -/
theorem GivenUp.change (h : r.GivenUp) {event : Event} (change : Change r event r') :
    r'.GivenUp ∧ r'.lobby = r.lobby ∧ r'.arrivals = r.arrivals := by
  cases change with
  | arrived there => exact absurd h.holders there
  | called => exact ⟨h.mono rfl (forall_mem_concat h.visits rfl) h.leaves, rfl, rfl⟩
  | visited there step =>
    have hshare := h.visits _ (List.mem_of_getElem? there)
    obtain ⟨rfl, hafter⟩ := step.of_shareless hshare h.native
    refine ⟨h.mono rfl (forall_mem_set h.visits _ ?_) h.leaves, rfl, rfl⟩
    rcases hafter with ⟨-, rfl⟩ | rfl
    · rfl
    · exact hshare
  | leftOff there =>
    have hlobby : r.lobby.letGoShare r.post.socket _ = r.lobby :=
      congrArg (r.lobby.letGoShare r.post.socket) (h.visits _ (List.mem_of_getElem? there))
    exact ⟨h.mono hlobby (forall_mem_set h.visits _ rfl) h.leaves, hlobby, rfl⟩
  | closeCalled => exact ⟨h.mono rfl h.visits (forall_mem_concat h.leaves rfl), rfl, rfl⟩
  | left there step =>
    obtain ⟨rfl, hafter⟩ :=
      step.of_shareless (h.leaves _ (List.mem_of_getElem? there)) h.native h.closing
    refine ⟨h.mono rfl ?_ (forall_mem_set h.leaves _ hafter), rfl, rfl⟩
    simpa only [h.notice_eq] using h.visits
  | turnedAway | noVisit | nobodyLeft | noLeave => exact ⟨h, rfl, rfl⟩

theorem NobodyFrom.change {n : Nat} (nobody : NobodyFrom n r) (h : r.GivenUp) {event : Event}
    (change : Change r event r') : NobodyFrom n r' := by
  intro i visit hle hvisit
  cases change with
  | called =>
    rw [List.getElem?_append] at hvisit
    split at hvisit
    case isTrue => exact nobody i visit hle hvisit
    case isFalse =>
      rw [List.mem_singleton.1 (List.mem_of_getElem? hvisit)]
      exact .inl rfl
  | @visited index _ before after _ there step =>
    obtain ⟨-, hafter⟩ := step.of_shareless (h.visits _ (List.mem_of_getElem? there)) h.native
    have hlt : index < r.visits.length := (List.getElem?_eq_some_iff.1 there).1
    by_cases hi : index = i
    · subst hi
      cases (List.getElem?_set_self hlt).symm.trans hvisit
      rcases hafter with ⟨-, rfl⟩ | rfl
      · exact .inr (.inr rfl)
      · exact nobody index _ hle there
    · rw [List.getElem?_set_ne hi] at hvisit
      exact nobody i visit hle hvisit
  | @leftOff index before there underWay =>
    have hlt : index < r.visits.length := (List.getElem?_eq_some_iff.1 there).1
    by_cases hi : index = i
    · subst hi
      cases (List.getElem?_set_self hlt).symm.trans hvisit
      exact .inr (.inl rfl)
    · rw [List.getElem?_set_ne hi] at hvisit
      exact nobody i visit hle hvisit
  | left there step =>
    rw [h.notice_eq] at hvisit
    exact nobody i visit hle hvisit
  | _ => exact nobody i visit hle hvisit

/-- Whatever is done after a listener was given up, nothing comes in, and nobody gets a
connection. -/
theorem GivenUp.run (h : r.GivenUp) (events : List Event) :
    (r.run events).lobby = r.lobby ∧ (r.run events).arrivals = r.arrivals ∧
      NobodyFrom r.visits.length (r.run events) := by
  have hnobody : NobodyFrom r.visits.length r := by
    intro i visit hle hvisit
    have hlt : i < r.visits.length := (List.getElem?_eq_some_iff.1 hvisit).1
    omega
  have hrun := run_induction
    (P := fun after => after.GivenUp ∧ NobodyFrom r.visits.length after ∧
      after.lobby = r.lobby ∧ after.arrivals = r.arrivals)
    ⟨h, hnobody, rfl, rfl⟩ events (by
      rintro after event ⟨hafter, hnobody, hdesk, harrivals⟩
      have change := change_step after event
      obtain ⟨hnext, hdesk', harrivals'⟩ := hafter.change change
      exact ⟨hnext, hnobody.change hafter change, hdesk'.trans hdesk,
        harrivals'.trans harrivals⟩)
  exact ⟨hrun.2.2.1, hrun.2.2.2, hrun.2.1⟩

/-- When a close has ended and nothing is under way any more, the listener is given up. -/
theorem Sound.givenUp (h : r.Sound) (closed : ∃ leave ∈ r.leaves, ∃ result, leave = .ended result)
    (visits : ∀ visit ∈ r.visits, visit.isUnderWay = false)
    (leaves : ∀ leave ∈ r.leaves, leave.isUnderWay = false) : r.GivenUp := by
  obtain ⟨leave, hmem, result, rfl⟩ := closed
  have hclosing := h.announces.closing.2 ⟨_, hmem, rfl⟩
  have hnative := h.announces.native_of_closing hclosing
  have hvisits : ∀ visit ∈ r.visits, visit.share? = none := by
    intro visit hvisit
    have hover := visits visit hvisit
    cases visit <;> first | rfl | cases hover
  have hleaves : ∀ leave ∈ r.leaves, leave.share? = none := by
    intro leave hleave
    have hover := leaves leave hleave
    cases leave <;> first | rfl | cases hover
  refine ⟨hnative, hclosing, ?_, hvisits, hleaves⟩
  have hnoVisit : r.visits.countP (·.share?.isSome) = 0 :=
    List.countP_eq_zero.2 fun visit hvisit => by simp [hvisits visit hvisit]
  have hnoLeave : r.leaves.countP (·.share?.isSome) = 0 :=
    List.countP_eq_zero.2 fun leave hleave => by simp [hleaves leave hleave]
  rw [h.accounts.holders, shares, hnative, hnoVisit, hnoLeave, weight_none]

/-! ## Results stay -/

/-- What an accept has ended with it keeps. -/
theorem finished_change {event : Event} (change : Change r event r') {index : Nat} {visit : Visit}
    (there : r.visits[index]? = some visit) (finished : visit.isUnderWay = false) :
    r'.visits[index]? = some visit := by
  have hlt : index < r.visits.length := (List.getElem?_eq_some_iff.1 there).1
  cases change with
  | called => exact (List.getElem?_append_left hlt).trans there
  | @visited i _ before after _ there' step =>
    by_cases hi : i = index
    · subst hi
      cases Option.some.inj (there.symm.trans there')
      cases step with
      | finished => simp [hlt]
      | _ => cases finished
    · simp [hi, there]
  | @leftOff i before there' underWay =>
    have hi : i ≠ index := by
      rintro rfl
      cases Option.some.inj (there.symm.trans there')
      simp [finished] at underWay
    simp [hi, there]
  | @left _ before _ _ _ step =>
    cases before with
    | taken native =>
      have htold : visit.told = visit := by
        cases visit <;> first | rfl | cases finished
      simp [Leave.notice, there, htold]
    | _ => exact there
  | _ => exact there

theorem finished_run {index : Nat} {visit : Visit} (there : r.visits[index]? = some visit)
    (finished : visit.isUnderWay = false) (events : List Event) :
    (r.run events).visits[index]? = some visit :=
  run_induction (P := fun after => after.visits[index]? = some visit) there events
    fun after event h => finished_change (change_step after event) h finished

/-! ## The whole -/

/-- How a listener and everything that is under way on it behave at a moment. -/
structure Orderly (post : Post) (r : Reception) : Prop where
  /-- the listener and its address never change -/
  addr : r.post = post
  /-- an accept that begins after a close took the native listener away is refused, and does nothing
  else -/
  refused : (∃ leave ∈ r.leaves, leave.hasTaken = true) → ∀ (index : Nat) answers,
    r.visits[index]? = some .begun →
      r.step (.visit index answers)
        = { r with
            visits := r.visits.set index (.ended (.error (.listenerClosed post.addr.print))) }
  /-- before any close has begun, every accept is admitted -/
  admitted : (∀ leave ∈ r.leaves, leave.hasTaken = false) → ∀ (index : Nat) answers,
    r.visits[index]? = some .begun →
      (r.step (.visit index answers)).visits[index]? = some (.admitted post.socket)
  /-- before any close has announced itself, an accept gets the oldest connection, if it is looked
  at and the host has no trouble -/
  served : (∀ leave ∈ r.leaves, leave.hasAnnounced = false) →
    ∀ (index : Nat) native unread arrival rest answers,
      r.visits[index]? = some (.watching native unread) → r.lobby.queue = arrival :: rest →
        answers.Smooth →
          (r.step (.visit index answers)).visits[index]? = some (.ended (.ok arrival))
  /-- an accept hears of every close that was announced, whenever it began to watch -/
  heard : ∀ (index : Nat) native unread, r.visits[index]? = some (.watching native unread) →
    (unread && r.lobby.gate.closing) = r.lobby.gate.closing
  /-- an accept that is looked at after an announcement learns of it at this look, whatever is
  queued, and does nothing but let go of its share -/
  woken : (∃ leave ∈ r.leaves, leave.hasAnnounced = true) → ∀ (index : Nat) native unread answers,
    r.visits[index]? = some (.watching native unread) →
      r.step (.visit index answers)
        = { r with
            visits := r.visits.set index (.ended (.error (.listenerClosed post.addr.print)))
            lobby := r.lobby.dropShare }
  /-- however far an accept has come at an announcement, it learns of it within three steps -/
  ends : (∃ leave ∈ r.leaves, leave.hasAnnounced = true) → ∀ (index : Nat) visit,
    r.visits[index]? = some visit → visit.isUnderWay = true → ∀ events,
      .abandon index ∉ events → 3 ≤ events.countP (Event.isVisit index) →
        (r.run events).visits[index]? = some (.ended (.error (.listenerClosed post.addr.print)))
  /-- no accept learns of a close that has not been -/
  honest : ∀ index : Nat,
    r.visits[index]? = some (.ended (.error (.listenerClosed post.addr.print))) →
      ∃ leave ∈ r.leaves, leave.hasTaken = true
  /-- no two connections have the same socket -/
  distinct : ∀ (i j : Nat) a b, r.arrivals[i]? = some a → r.arrivals[j]? = some b →
    a.socket = b.socket → i = j
  /-- what an accept returns has come in, and no other accept returns it -/
  returned : ∀ (index : Nat) arrival, r.visits[index]? = some (.ended (.ok arrival)) →
    arrival ∈ r.arrivals ∧ ∀ (other : Nat) again, r.visits[other]? = some (.ended (.ok again)) →
      again.socket = arrival.socket → other = index
  /-- it is a passive circuit between the address of the listener and that of the other end -/
  passive : ∀ {m : Type → Type} [Monad m] (p : Platform m) (index : Nat) arrival,
    r.visits[index]? = some (.ended (.ok arrival)) →
      (r.post.circuit p arrival).phase = .passive ∧
        (r.post.circuit p arrival).Joins post.addr (addrUri arrival.peer)
          (some (p.link arrival.socket))
  /-- what an accept has ended with it keeps -/
  kept : ∀ (index : Nat) result, r.visits[index]? = some (.ended result) → ∀ events,
    (r.run events).visits[index]? = some (.ended result)
  /-- a close succeeds, within three steps -/
  closes : ∀ (index : Nat) leave, r.leaves[index]? = some leave → ∀ events,
    3 ≤ events.countP (Event.isLeave index) →
      (r.run events).leaves[index]? = some (.ended (.ok ()))
  /-- after an announcement, a close that holds nothing goes on, and nothing else changes -/
  again : (∃ leave ∈ r.leaves, leave.hasAnnounced = true) → ∀ (index : Nat) leave,
    r.leaves[index]? = some leave → leave.share? = none →
      ∃ after : Leave, after.share? = none ∧
        r.step (.leave index) = { r with leaves := r.leaves.set index after }
  /-- once a close has ended and nothing is under way, nobody holds the native listener, and
  whatever is done then, nothing comes in and nobody who calls gets a connection -/
  gone : (∃ leave ∈ r.leaves, ∃ result, leave = .ended result) →
    (∀ visit ∈ r.visits, visit.isUnderWay = false) →
    (∀ leave ∈ r.leaves, leave.isUnderWay = false) →
      r.lobby.holders = 0 ∧ r.lobby.queue = [] ∧ ∀ events,
        (r.run events).lobby = r.lobby ∧ (r.run events).arrivals = r.arrivals ∧
          NobodyFrom r.visits.length (r.run events)

theorem Sound.refuses (h : r.Sound) (taken : ∃ leave ∈ r.leaves, leave.hasTaken = true)
    {index : Nat} (there : r.visits[index]? = some .begun) (answers : Answers) :
    r.step (.visit index answers)
      = { r with
          visits := r.visits.set index (.ended (.error (Gate.closedFault r.post.addr))) } := by
  obtain ⟨after, lobby, hstep, heq⟩ := step_visit there answers
  have hnative := h.announces.taken.2 taken
  cases hstep with
  | entered there => simp [hnative] at there
  | refused => exact heq
  | finished finished => cases finished

theorem Sound.admits (h : r.Sound) (untaken : ∀ leave ∈ r.leaves, leave.hasTaken = false)
    {index : Nat} (there : r.visits[index]? = some .begun) (answers : Answers) :
    (r.step (.visit index answers)).visits[index]? = some (.admitted r.post.socket) := by
  obtain ⟨after, lobby, hstep, heq⟩ := step_visit there answers
  have hlt : index < r.visits.length := (List.getElem?_eq_some_iff.1 there).1
  cases hstep with
  | entered hnative =>
    rw [heq, h.accounts.gate _ hnative]
    exact List.getElem?_set_self hlt
  | refused taken =>
    obtain ⟨leave, hmem, htaken⟩ := h.announces.taken.1 taken
    simp [untaken leave hmem] at htaken
  | finished finished => cases finished

theorem Sound.serves (h : r.Sound) (unannounced : ∀ leave ∈ r.leaves, leave.hasAnnounced = false)
    {index : Nat} {native : Socket} {unread : Bool} {arrival : Arrival} {rest : List Arrival}
    {answers : Answers} (there : r.visits[index]? = some (.watching native unread))
    (queued : r.lobby.queue = arrival :: rest) (smooth : answers.Smooth) :
    (r.step (.visit index answers)).visits[index]? = some (.ended (.ok arrival)) := by
  have hlt : index < r.visits.length := (List.getElem?_eq_some_iff.1 there).1
  have hopen : r.lobby.gate.closing = false := by
    cases hclosing : r.lobby.gate.closing with
    | false => rfl
    | true =>
      obtain ⟨leave, hmem, hannounced⟩ := h.announces.closing.1 hclosing
      simp [unannounced leave hmem] at hannounced
  have hlook := Post.run_look_of_smooth r.post smooth native queued
  have hnext : ((Visit.watching native unread).next r.post answers).run r.lobby
      = some (.ended (.ok arrival),
        Lobby.letGo r.post.socket native { r.lobby with queue := rest }) := by
    simp [Visit.next, hopen, hlook]
  simp only [Reception.step, onVisit, there, hnext]
  exact List.getElem?_set_self hlt

theorem Sound.hears (h : r.Sound) {index : Nat} {native : Socket} {unread : Bool}
    (there : r.visits[index]? = some (.watching native unread)) :
    (unread && r.lobby.gate.closing) = r.lobby.gate.closing := by
  cases hclosing : r.lobby.gate.closing with
  | false => exact Bool.and_false _
  | true =>
    have htold := h.announces.told hclosing _ (List.mem_of_getElem? there)
    cases htold
    rfl

theorem Sound.wakes (h : r.Sound) (announced : ∃ leave ∈ r.leaves, leave.hasAnnounced = true)
    {index : Nat} {native : Socket} {unread : Bool}
    (there : r.visits[index]? = some (.watching native unread)) (answers : Answers) :
    r.step (.visit index answers)
      = { r with
          visits := r.visits.set index (.ended (.error (Gate.closedFault r.post.addr)))
          lobby := r.lobby.dropShare } := by
  obtain ⟨after, lobby, hstep, heq⟩ := step_visit there answers
  have hheard : (unread && r.lobby.gate.closing) = true :=
    (h.hears there).trans (h.announces.closing.2 announced)
  have howns : native = r.post.socket :=
    h.accounts.visits _ (List.mem_of_getElem? there) native rfl
  cases hstep with
  | found finds =>
    rw [hheard] at finds
    cases finds
    rw [heq, howns, Lobby.letGo_native]
  | foundNothing unheard => simp [hheard] at unheard
  | finished finished => cases finished

theorem Sound.closes_again (h : r.Sound)
    (announced : ∃ leave ∈ r.leaves, leave.hasAnnounced = true) {index : Nat} {leave : Leave}
    (there : r.leaves[index]? = some leave) (shareless : leave.share? = none) :
    ∃ after : Leave, after.share? = none ∧
      r.step (.leave index) = { r with leaves := r.leaves.set index after } := by
  obtain ⟨after, lobby, hstep, heq⟩ := step_leave there
  have hclosing := h.announces.closing.2 announced
  obtain ⟨rfl, hafter⟩ :=
    hstep.of_shareless shareless (h.announces.native_of_closing hclosing) hclosing
  refine ⟨after, hafter, ?_⟩
  rw [heq, leave.notice_eq (h.announces.told hclosing)]

theorem Sound.orderly (h : r.Sound) : Orderly r.post r where
  addr := rfl
  refused := fun taken _ answers there => h.refuses taken there answers
  admitted := fun untaken _ answers there => h.admits untaken there answers
  served := fun unannounced _ _ _ _ _ _ there queued smooth =>
    h.serves unannounced there queued smooth
  heard := fun _ _ _ there => h.hears there
  woken := fun announced _ _ _ answers there => h.wakes announced there answers
  ends := fun announced _ _ there underWay _ kept enough =>
    h.visit_ends (h.announces.closing.2 announced) there underWay kept enough
  honest := fun _ there => h.announces.honest (List.mem_of_getElem? there)
  distinct := by
    intro i j a b hi hj hsocket
    have ha := h.delivers.numbered i a hi
    have hb := h.delivers.numbered j b hj
    rw [hsocket] at ha
    omega
  returned := by
    intro index arrival there
    have hreturned : r.returned? index = some arrival := by simp [returned?, there, Visit.returned?]
    have hmem := (h.delivers.returned index arrival hreturned).1
    refine ⟨hmem, ?_⟩
    intro other again hother hsocket
    have hagain : r.returned? other = some again := by simp [returned?, hother, Visit.returned?]
    have heq := h.delivers.eq_of_socket (h.delivers.returned other again hagain).1 hmem hsocket
    exact h.delivers.apart other index arrival (heq ▸ hagain) hreturned
  passive := fun _ _ _ _ => ⟨rfl, rfl, rfl, rfl⟩
  kept := fun _ _ there events => finished_run there rfl events
  closes := fun _ _ there _ enough => h.leave_succeeds there enough
  again := fun announced _ _ there shareless => h.closes_again announced there shareless
  gone := by
    intro closed visits leaves
    have hgiven := h.givenUp closed visits leaves
    exact ⟨hgiven.holders, h.accounts.emptied hgiven.holders, hgiven.run⟩

/-- A listener that was just opened stays orderly, whatever is done with it, in whatever order. -/
theorem orderly_run (post : Post) (events : List Event) :
    Orderly post ((start post).run events) := by
  have h := (sound_run post events).orderly
  rwa [post_run] at h

/-- The second accept has a share already when the listener is closed, and another connection waits:
it is refused all the same, and the last share goes with it. -/
example :
    let post : Post := { socket := ⟨3⟩, addr := {}, keepAlive := none, noDelay := true }
    let peer : SocketAddr := .unspecified 80 .v4
    let r := (start post).run
      [.arrive peer, .accept, .visit 0 {}, .visit 0 {}, .visit 0 {}, .accept, .visit 1 {},
        .arrive peer, .close, .leave 0, .leave 0, .leave 0, .visit 1 {}, .visit 1 {}]
    r.visits = [.ended (.ok { socket := ⟨4⟩, peer := peer }),
        .ended (.error (.listenerClosed post.addr.print))] ∧
      r.lobby.holders = 0 ∧ r.lobby.queue = [] := by
  exact ⟨rfl, rfl, rfl⟩

end Reception

end Switchboard.Tcp
