import Switchboard.Tcp.Listener

set_option autoImplicit false

/-!
# Accepts and closes of one listener, side by side

Any number of accepts and closes of one listener are under way, each takes its steps when it likes,
and connections come in in between.  A reception is the state of all of this; an event is one step
of one of them.  The steps are those of `Post`, in a lobby that keeps what they share.

An accept does not look at the gate every time it is looked at.  It does so at first, and then once
after each announcement; in between it only looks for connections.
-/

namespace Switchboard.Tcp

/-! ## The lobby -/

/-- What the accepts and closes of one listener share. -/
structure Lobby where
  gate : Gate
  /-- how many have a share of the native listener -/
  holders : Nat := 1
  /-- the connections that wait at the native listener, oldest first -/
  queue : List Arrival := []

/-- How a host answers when it is asked for a queued connection. -/
inductive Glance where
  | plain
  /-- what is queued has not been noticed yet -/
  | unnoticed
  | failed (fault : IoFault)
  deriving Inhabited

/-- The answers of a host at one step of an accept. -/
structure Answers where
  glance : Glance := .plain
  keepAlive : Except IoFault Unit := .ok ()
  noDelay : Except IoFault Unit := .ok ()
  deriving Inhabited

namespace Lobby

/-- An operation in a lobby; `none` stands for one that never ends. -/
abbrev Act (α : Type) : Type := StateT Lobby Option α

/-- The lobby after a share of the native listener was let go.  The last one takes along what is
queued. -/
def dropShare (d : Lobby) : Lobby :=
  if 1 < d.holders then { d with holders := d.holders - 1 }
  else { d with holders := 0, queue := [] }

/-- The lobby after a socket was let go. -/
def letGo (native socket : Socket) (d : Lobby) : Lobby :=
  if socket = native then d.dropShare else d

/-- Looks for a queued connection. -/
def takeQueued : Glance → Act (Progress (Except IoFault (Socket × SocketAddr)))
  | .failed fault => pure (.done (.error fault))
  | .unnoticed => pure .waiting
  | .plain => do
    let d ← get
    match d.queue with
    | [] => pure .waiting
    | first :: rest => do
      set { d with queue := rest }
      pure (.done (.ok (first.socket, first.peer)))

/-- The host of a listener, as far as accepts and closes ask for it. -/
def platform (native : Socket) (answers : Answers) : Platform Act where
  moment := failure
  looks _ := 0
  sight _ _ := failure
  never := failure
  create _ := failure
  reuseAddress _ := failure
  bothFamilies _ := failure
  stopProbing _ := pure answers.keepAlive
  probeAfter _ _ := pure answers.keepAlive
  noDelay _ _ := pure answers.noDelay
  bind _ _ := failure
  nonBlocking _ := failure
  listen _ := failure
  register _ := failure
  connect _ _ := failure
  localAddr _ := failure
  takeQueued _ := takeQueued answers.glance
  link _ := .idle
  hold _ := modify fun d => { d with holders := d.holders + 1 }
  release socket := modify fun d => d.letGo native socket
  gate _ := return (← get).gate
  setGate _ gate := modify fun d => { d with gate := gate }

end Lobby

/-! ## Accepts and closes -/

/-- How far an accept has come. -/
inductive Visit where
  | begun
  /-- it has a share of the native listener -/
  | admitted (native : Socket)
  /-- it is told of announcements; one that it has not read yet makes it look at the gate -/
  | watching (native : Socket) (unread : Bool)
  | ended (result : Except Fault Arrival)
  /-- its caller has left off waiting -/
  | abandoned

namespace Visit

/-- The native listener, if the accept has a share of it. -/
def share? : Visit → Option Socket
  | .admitted native | .watching native _ => some native
  | _ => none

/-- Whether the accept goes on. -/
def isUnderWay : Visit → Bool
  | .ended _ | .abandoned => false
  | _ => true

/-- The accept once it was told of an announcement. -/
def told : Visit → Visit
  | .watching native _ => .watching native true
  | visit => visit

/-- The next step of an accept. -/
def next (post : Post) (answers : Answers) : Visit → Lobby.Act Visit
  | .begun => do
    match ← post.enter (Lobby.platform post.socket answers) with
    | .error fault => pure (.ended (.error fault))
    | .ok native => pure (.admitted native)
  | .admitted native => pure (.watching native true)
  | .watching native unread => do
    let heard := unread && (← get).gate.closing
    match ← post.look (Lobby.platform post.socket answers) native heard with
    | .waiting => pure (.watching native false)
    | .done result => pure (.ended result)
  | visit => pure visit

/-- What becomes of an accept when its caller leaves off waiting. -/
def leaveOff (post : Post) (visit : Visit) : Lobby.Act Visit := do
  if visit.isUnderWay then
    match visit.share? with
    | some native => Post.forsake (Lobby.platform post.socket {}) native
    | none => pure ()
    pure .abandoned
  else pure visit

end Visit

/-- How far a close has come. -/
inductive Leave where
  | begun
  /-- it has taken away what there was of the native listener -/
  | taken (native : Option Socket)
  | announced (native : Option Socket)
  | ended (result : Except Fault Unit)

namespace Leave

/-- The native listener, if the close holds it. -/
def share? : Leave → Option Socket
  | .taken native | .announced native => native
  | _ => none

/-- Whether the close goes on. -/
def isUnderWay : Leave → Bool
  | .ended _ => false
  | _ => true

/-- Whether the close has taken away what there was of the native listener. -/
def hasTaken : Leave → Bool
  | .begun => false
  | _ => true

/-- Whether the close has announced itself. -/
def hasAnnounced : Leave → Bool
  | .announced _ | .ended _ => true
  | _ => false

/-- The next step of a close. -/
def next (post : Post) : Leave → Lobby.Act Leave
  | .begun => return .taken (← post.takeNative (Lobby.platform post.socket {}))
  | .taken native => do
    post.announce (Lobby.platform post.socket {})
    return .announced native
  | .announced native => return .ended (← Post.depart (Lobby.platform post.socket {}) native)
  | leave => pure leave

/-- Those who are told when the close takes its next step: every accept, if it announces itself. -/
def notice : Leave → List Visit → List Visit
  | .taken _, visits => visits.map Visit.told
  | _, visits => visits

end Leave

/-! ## Receptions -/

/-- A listener with everything that was begun on it. -/
structure Reception where
  post : Post
  lobby : Lobby
  /-- everything that ever came in -/
  arrivals : List Arrival := []
  visits : List Visit := []
  leaves : List Leave := []

/-- One step of something that is under way. -/
inductive Event where
  /-- a connection comes in -/
  | arrive (peer : SocketAddr)
  /-- an accept is called -/
  | accept
  /-- an accept goes on -/
  | visit (index : Nat) (answers : Answers)
  /-- the caller of an accept leaves off waiting -/
  | abandon (index : Nat)
  /-- a close is called -/
  | close
  /-- a close goes on -/
  | leave (index : Nat)

namespace Reception

/-- A listener that was just opened. -/
def start (post : Post) : Reception :=
  { post := post, lobby := { gate := { native := some post.socket } } }

/-- The next connection that comes in; every one has a socket of its own. -/
def nextArrival (r : Reception) (peer : SocketAddr) : Arrival :=
  { socket := { number := r.post.socket.number + 1 + r.arrivals.length }, peer := peer }

/-- Lets an accept act, if there is one with this index. -/
def onVisit (r : Reception) (index : Nat) (act : Visit → Lobby.Act Visit) : Reception :=
  match r.visits[index]? with
  | none => r
  | some visit =>
    match (act visit).run r.lobby with
    | none => r
    | some (visit, lobby) => { r with visits := r.visits.set index visit, lobby := lobby }

/-- Lets a close act, if there is one with this index. -/
def onLeave (r : Reception) (index : Nat) : Reception :=
  match r.leaves[index]? with
  | none => r
  | some leave =>
    match (leave.next r.post).run r.lobby with
    | none => r
    | some (after, lobby) =>
      { r with
        leaves := r.leaves.set index after
        visits := leave.notice r.visits
        lobby := lobby }

/-- One event.  Nothing comes in once the native listener is given up. -/
def step (r : Reception) : Event → Reception
  | .arrive peer =>
    if r.lobby.holders = 0 then r
    else
      { r with
        arrivals := r.arrivals ++ [r.nextArrival peer]
        lobby := { r.lobby with queue := r.lobby.queue ++ [r.nextArrival peer] } }
  | .accept => { r with visits := r.visits ++ [.begun] }
  | .visit index answers => r.onVisit index (Visit.next r.post answers)
  | .abandon index => r.onVisit index (Visit.leaveOff r.post)
  | .close => { r with leaves := r.leaves ++ [.begun] }
  | .leave index => r.onLeave index

/-- A sequence of events. -/
def run (r : Reception) (events : List Event) : Reception := events.foldl step r

end Reception

end Switchboard.Tcp
