import Switchboard.Tcp.Reception

set_option autoImplicit false

/-!
# What one step at a listener does

Whatever a host answers, an accept or a close that is under way has a next step, and there are few
things that this can be.  Main statement: an event changes a reception in one of the ways of
`Change` (`change_step`).
-/

namespace Switchboard.Tcp

/-! ## The operations of a listener in a lobby -/

namespace Lobby

/-- The lobby after a share was let go, if there is one. -/
def letGoShare (native : Socket) (share : Option Socket) (d : Lobby) : Lobby :=
  share.elim d (d.letGo native)

variable (native : Socket) (answers : Answers) (d : Lobby)

theorem run_noDelay (socket : Socket) (flag : Bool) :
    ((platform native answers).noDelay socket flag).run d = some (answers.noDelay, d) := rfl

theorem run_release (socket : Socket) :
    ((platform native answers).release socket).run d = some ((), d.letGo native socket) := rfl

/-- Whether a keep-alive is set or not, the lobby stays as it is. -/
theorem run_setKeepAlive (period : Option Nat) (socket : Socket) :
    ∃ result, (setKeepAlive (platform native answers) period socket).run d = some (result, d) := by
  cases period with
  | none => exact ⟨.ok (), rfl⟩
  | some period =>
    refine ⟨answers.keepAlive, ?_⟩
    by_cases hzero : period = 0
    · rw [setKeepAlive, if_pos hzero]
      rfl
    · rw [setKeepAlive, if_neg hzero]
      rfl

end Lobby

/-- The host has no trouble with a queued connection. -/
structure Answers.Smooth (answers : Answers) : Prop where
  glance : answers.glance = .plain
  keepAlive : answers.keepAlive = .ok ()
  noDelay : answers.noDelay = .ok ()

namespace Post

variable {post : Post} {d : Lobby}

theorem run_enter_of_native {answers : Answers} {native : Socket}
    (h : d.gate.native = some native) :
    (post.enter (Lobby.platform post.socket answers)).run d
      = some (.ok native, { d with holders := d.holders + 1 }) := by
  simp [enter, Lobby.platform, Gate.share, h]

theorem run_enter_of_taken {answers : Answers} (h : d.gate.native = none) :
    (post.enter (Lobby.platform post.socket answers)).run d
      = some (.error (Gate.closedFault post.addr), d) := by
  simp [enter, Lobby.platform, Gate.share, h]

theorem run_depart (native : Socket) (answers : Answers) (held : Option Socket) :
    (depart (Lobby.platform native answers) held).run d
      = some (.ok (), d.letGoShare native held) := by
  cases held <;> rfl

theorem run_find_of_queued (post : Post) {answers : Answers} (native : Socket)
    (glance : answers.glance = .plain) {arrival : Arrival} {rest : List Arrival}
    (queued : d.queue = arrival :: rest) :
    (find (Lobby.platform post.socket answers) post native false).run d
      = some (.done (.ok arrival), { d with queue := rest }) := by
  simp [find, Lobby.platform, glance, Lobby.takeQueued, queued]

/-- Setting a connection up changes nothing in the lobby; it fails as a socket does. -/
theorem run_furnish (post : Post) (answers : Answers) (socket : Socket) (d : Lobby) :
    ∃ result : Except IoFault Unit,
      (post.furnish (Lobby.platform post.socket answers) socket).run d
        = some (result.mapError .io, d) := by
  obtain ⟨kept, hkept⟩ := Lobby.run_setKeepAlive post.socket answers d post.keepAlive socket
  cases kept with
  | error fault =>
    refine ⟨.error fault, ?_⟩
    simp [furnish, onSocket, ExceptT.run_bind, ExceptT.run_mk, hkept]
  | ok =>
    refine ⟨answers.noDelay, ?_⟩
    simp [furnish, onSocket, ExceptT.run_bind, ExceptT.run_mk, hkept,
      Lobby.run_noDelay]

theorem run_furnish_of_smooth {answers : Answers} (smooth : answers.Smooth) (socket : Socket) :
    (post.furnish (Lobby.platform post.socket answers) socket).run d = some (.ok (), d) := by
  have hkeep : (setKeepAlive (Lobby.platform post.socket answers) post.keepAlive socket).run d
      = some (.ok (), d) := by
    cases hperiod : post.keepAlive with
    | none => rfl
    | some period => simp [setKeepAlive, Lobby.platform, smooth.keepAlive]
  simp [furnish, onSocket, ExceptT.run_bind, ExceptT.run_mk, hkeep, Lobby.run_noDelay,
    smooth.noDelay]

/-- Where nothing goes wrong, a look of an accept that has heard of no close finds the first
connection in the queue. -/
theorem run_look_of_smooth (post : Post) {answers : Answers} (smooth : answers.Smooth)
    (native : Socket) {arrival : Arrival} {rest : List Arrival}
    (queued : d.queue = arrival :: rest) :
    (post.look (Lobby.platform post.socket answers) native false).run d
      = some (.done (.ok arrival), Lobby.letGo post.socket native { d with queue := rest }) := by
  have hfind := run_find_of_queued post native smooth.glance queued
  simp [look, hfind, receive, run_furnish_of_smooth smooth, Lobby.run_release]

/-- What a look of an accept finds, and the lobby after it. -/
inductive Finds (post : Post) (d : Lobby) (native : Socket) :
    (heard : Bool) → Progress (Except Fault Arrival) → Lobby → Prop where
  | closed :
      Finds post d native true (.done (.error (Gate.closedFault post.addr)))
        (d.letGo post.socket native)
  | nothing : Finds post d native false .waiting d
  | failed (fault : IoFault) :
      Finds post d native false (.done (.error (.io fault))) (d.letGo post.socket native)
  | received {arrival : Arrival} {rest : List Arrival} (queued : d.queue = arrival :: rest) :
      Finds post d native false (.done (.ok arrival))
        (Lobby.letGo post.socket native { d with queue := rest })
  /-- a connection that could not be set up -/
  | spoiled {arrival : Arrival} {rest : List Arrival} (queued : d.queue = arrival :: rest)
      (fault : IoFault) :
      Finds post d native false (.done (.error (.io fault)))
        (Lobby.letGo post.socket arrival.socket
          (Lobby.letGo post.socket native { d with queue := rest }))

theorem look_finds (post : Post) (answers : Answers) (native : Socket) (heard : Bool) (d : Lobby) :
    ∃ found d', (post.look (Lobby.platform post.socket answers) native heard).run d
        = some (found, d') ∧ Finds post d native heard found d' := by
  cases heard with
  | true => exact ⟨_, _, rfl, .closed⟩
  | false =>
    cases hglance : answers.glance with
    | unnoticed =>
      refine ⟨_, _, ?_, .nothing⟩
      simp [look, find, Lobby.platform, hglance, Lobby.takeQueued]
    | failed fault =>
      refine ⟨_, _, ?_, .failed fault⟩
      simp [look, find, Lobby.platform, hglance, Lobby.takeQueued]
    | plain =>
      cases hqueue : d.queue with
      | nil =>
        refine ⟨_, _, ?_, .nothing⟩
        simp [look, find, Lobby.platform, hglance, Lobby.takeQueued, hqueue]
      | cons first rest =>
        have hfind := run_find_of_queued post native hglance hqueue
        obtain ⟨set, hset⟩ := run_furnish post answers first.socket
          (Lobby.letGo post.socket native { d with queue := rest })
        cases set with
        | error fault =>
          refine ⟨_, _, ?_, .spoiled hqueue fault⟩
          simp [look, hfind, receive, hset, Lobby.run_release]
        | ok =>
          refine ⟨_, _, ?_, .received hqueue⟩
          simp [look, hfind, receive, hset, Lobby.run_release]

end Post

/-! ## What an accept does next -/

/-- The step of an accept that goes on: how far it has come then, and the lobby. -/
inductive Visit.Step (post : Post) (d : Lobby) : Visit → Visit → Lobby → Prop where
  | entered {native : Socket} (there : d.gate.native = some native) :
      Step post d .begun (.admitted native) { d with holders := d.holders + 1 }
  | refused (taken : d.gate.native = none) :
      Step post d .begun (.ended (.error (Gate.closedFault post.addr))) d
  | subscribed (native : Socket) :
      Step post d (.admitted native) (.watching native true) d
  | found {native : Socket} {unread : Bool} {result : Except Fault Arrival} {d' : Lobby}
      (finds : post.Finds d native (unread && d.gate.closing) (.done result) d') :
      Step post d (.watching native unread) (.ended result) d'
  | foundNothing {native : Socket} {unread : Bool}
      (unheard : (unread && d.gate.closing) = false) :
      Step post d (.watching native unread) (.watching native false) d
  | finished {visit : Visit} (finished : visit.isUnderWay = false) : Step post d visit visit d

theorem Visit.next_step (post : Post) (answers : Answers) (visit : Visit) (d : Lobby) :
    ∃ visit' d', (visit.next post answers).run d = some (visit', d') ∧
      Step post d visit visit' d' := by
  cases visit with
  | begun =>
    cases hnative : d.gate.native with
    | some native =>
      refine ⟨_, _, ?_, .entered hnative⟩
      simp [next, Post.run_enter_of_native hnative]
    | none =>
      refine ⟨_, _, ?_, .refused hnative⟩
      simp [next, Post.run_enter_of_taken hnative]
  | admitted native => exact ⟨_, _, rfl, .subscribed native⟩
  | watching native unread =>
    obtain ⟨result, d', hlook, hfinds⟩ :=
      Post.look_finds post answers native (unread && d.gate.closing) d
    cases result with
    | done result =>
      refine ⟨_, _, ?_, .found hfinds⟩
      simp [next, hlook]
    | waiting =>
      generalize hheard : (unread && d.gate.closing) = heard at hlook hfinds
      cases hfinds
      refine ⟨_, _, ?_, .foundNothing hheard⟩
      simp [next, hheard, hlook]
  | ended result => exact ⟨_, _, rfl, .finished rfl⟩
  | abandoned => exact ⟨_, _, rfl, .finished rfl⟩

/-- An accept whose caller leaves off lets go of its share, unless it is over. -/
theorem Visit.run_leaveOff (post : Post) (visit : Visit) (d : Lobby) :
    (visit.leaveOff post).run d
      = some (if visit.isUnderWay then (.abandoned, d.letGoShare post.socket visit.share?)
        else (visit, d)) := by
  cases visit <;> rfl

/-! ## What a close does next -/

/-- The step of a close that goes on: how far it has come then, and the lobby. -/
inductive Leave.Step (post : Post) (d : Lobby) : Leave → Leave → Lobby → Prop where
  | took : Step post d .begun (.taken d.gate.native) { d with gate := d.gate.taken }
  | announced (native : Option Socket) :
      Step post d (.taken native) (.announced native) { d with gate := d.gate.announced }
  | departed (native : Option Socket) :
      Step post d (.announced native) (.ended (.ok ())) (d.letGoShare post.socket native)
  | finished (result : Except Fault Unit) : Step post d (.ended result) (.ended result) d

theorem Leave.next_step (post : Post) (leave : Leave) (d : Lobby) :
    ∃ leave' d', (leave.next post).run d = some (leave', d') ∧ Step post d leave leave' d' := by
  cases leave with
  | begun => exact ⟨_, _, rfl, .took⟩
  | taken native => exact ⟨_, _, rfl, .announced native⟩
  | announced native =>
    refine ⟨_, _, ?_, .departed native⟩
    simp [next, Post.run_depart]
  | ended result => exact ⟨_, _, rfl, .finished result⟩

/-! ## What an event does -/

namespace Reception

/-- What an event makes of a reception. -/
inductive Change (r : Reception) : Event → Reception → Prop where
  | turnedAway {peer : SocketAddr} (gone : r.lobby.holders = 0) : Change r (.arrive peer) r
  | arrived {peer : SocketAddr} (there : r.lobby.holders ≠ 0) :
      Change r (.arrive peer)
        { r with
          arrivals := r.arrivals ++ [r.nextArrival peer]
          lobby := { r.lobby with queue := r.lobby.queue ++ [r.nextArrival peer] } }
  | called : Change r .accept { r with visits := r.visits ++ [.begun] }
  | noVisit {index : Nat} {answers : Answers} (absent : r.visits[index]? = none) :
      Change r (.visit index answers) r
  | visited {index : Nat} {answers : Answers} {before after : Visit} {lobby : Lobby}
      (there : r.visits[index]? = some before) (step : before.Step r.post r.lobby after lobby) :
      Change r (.visit index answers) { r with visits := r.visits.set index after, lobby := lobby }
  | nobodyLeft {index : Nat}
      (finished : ∀ visit, r.visits[index]? = some visit → ¬ visit.isUnderWay) :
      Change r (.abandon index) r
  | leftOff {index : Nat} {before : Visit} (there : r.visits[index]? = some before)
      (underWay : before.isUnderWay) :
      Change r (.abandon index)
        { r with
          visits := r.visits.set index .abandoned
          lobby := r.lobby.letGoShare r.post.socket before.share? }
  | closeCalled : Change r .close { r with leaves := r.leaves ++ [.begun] }
  | noLeave {index : Nat} (absent : r.leaves[index]? = none) : Change r (.leave index) r
  | left {index : Nat} {before after : Leave} {lobby : Lobby}
      (there : r.leaves[index]? = some before) (step : before.Step r.post r.lobby after lobby) :
      Change r (.leave index)
        { r with
          leaves := r.leaves.set index after
          visits := before.notice r.visits
          lobby := lobby }

variable {r : Reception} {index : Nat}

theorem step_visit {visit : Visit} (there : r.visits[index]? = some visit) (answers : Answers) :
    ∃ after lobby, visit.Step r.post r.lobby after lobby ∧
      r.step (.visit index answers)
        = { r with visits := r.visits.set index after, lobby := lobby } := by
  obtain ⟨after, lobby, hrun, hstep⟩ := visit.next_step r.post answers r.lobby
  exact ⟨after, lobby, hstep, by simp only [step, onVisit, there, hrun]⟩

theorem step_leave {leave : Leave} (there : r.leaves[index]? = some leave) :
    ∃ after lobby, leave.Step r.post r.lobby after lobby ∧
      r.step (.leave index)
        = { r with
            leaves := r.leaves.set index after
            visits := leave.notice r.visits
            lobby := lobby } := by
  obtain ⟨after, lobby, hrun, hstep⟩ := leave.next_step r.post r.lobby
  exact ⟨after, lobby, hstep, by simp only [step, onLeave, there, hrun]⟩

theorem change_step (r : Reception) (event : Event) : Change r event (r.step event) := by
  cases event with
  | arrive peer =>
    simp only [step]
    split
    case isTrue hgone => exact .turnedAway hgone
    case isFalse hthere => exact .arrived hthere
  | accept => exact .called
  | visit index answers =>
    cases hthere : r.visits[index]? with
    | none => simpa only [step, onVisit, hthere] using .noVisit hthere
    | some visit =>
      obtain ⟨after, lobby, hstep, heq⟩ := step_visit hthere answers
      exact heq ▸ .visited hthere hstep
  | abandon index =>
    simp only [step, onVisit]
    cases hthere : r.visits[index]? with
    | none => exact .nobodyLeft (by simp [hthere])
    | some visit =>
      simp only [Visit.run_leaveOff]
      by_cases hway : visit.isUnderWay
      · simpa only [hway] using .leftOff hthere hway
      · obtain ⟨hlt, rfl⟩ := List.getElem?_eq_some_iff.1 hthere
        have hover : ∀ other, r.visits[index]? = some other → ¬ other.isUnderWay := by
          simp [hlt, hway]
        simpa [hway, List.set_getElem_self hlt] using .nobodyLeft hover
  | close => exact .closeCalled
  | leave index =>
    cases hthere : r.leaves[index]? with
    | none => simpa only [step, onLeave, hthere] using .noLeave hthere
    | some leave =>
      obtain ⟨after, lobby, hstep, heq⟩ := step_leave hthere
      exact heq ▸ .left hthere hstep

end Reception

end Switchboard.Tcp
