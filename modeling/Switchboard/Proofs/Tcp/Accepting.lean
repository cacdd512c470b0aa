import Switchboard.Proofs.Tcp.Connecting
import Switchboard.Tcp.Listen

set_option autoImplicit false

/-!
# What an accept does

A listener is known by what it has done for it by its host.  `Accepts` lists this for an accept,
from its share of the native listener on: it looks again and again, finds a close or a connection,
and sets a connection up as the listener was told to when it was opened.  Main statement: an accept
is one dialogue with the host, which goes through exactly what the rules list, and a connection that
was set up becomes a circuit (`leads_acceptance_iff`, `run_acceptance`).
-/

namespace Switchboard

theorem Progress.await_map {m : Type → Type} [Monad m] [LawfulMonad m] {α β : Type} (f : α → β)
    (look : m (Progress α)) (patience : Nat) :
    Progress.await (do return (← look).map f) patience
      = do return (← Progress.await look patience).map f := by
  induction patience with
  | zero =>
    rw [Progress.await, Progress.await, pure_bind]
    rfl
  | succ patience ih =>
    simp only [Progress.await, bind_assoc, pure_bind]
    refine bind_congr fun seen => ?_
    cases seen with
    | done result =>
      rw [pure_bind]
      rfl
    | waiting => exact ih

namespace Tcp.Listening

/-! ## The operations -/

/-- What is done with a socket, and can only go well or fail.  Of hooks there is only what the one
does that lets an address be used again. -/
inductive Step where
  | reuse
  | bothFamilies
  | bind (addr : SocketAddr)
  | listen
  | nonBlocking
  | register
  /-- an idle connection is probed after some milliseconds, or left alone -/
  | probe (idle : Option Nat)
  | noDelay (atOnce : Bool)

/-- What a listener has done for it by the host. -/
inductive Operation where
  /-- the time is looked at, and what was cancelled -/
  | moment
  | create (family : Family)
  | step (socket : Socket) (step : Step)
  | localAddr (socket : Socket)
  | gate (socket : Socket)
  | setGate (socket : Socket) (gate : Gate)
  | hold (socket : Socket)
  | takeQueued (native : Socket)
  | release (socket : Socket)

/-- What an operation comes to. -/
@[reducible] def Operation.Answer : Operation → Type
  | .moment => Moment
  | .create _ => Except IoFault Socket
  | .step .. => Except IoFault Unit
  | .localAddr _ => Except IoFault SocketAddr
  | .gate _ => Gate
  | .takeQueued _ => Progress (Except IoFault (Socket × SocketAddr))
  | .setGate .. | .hold _ | .release _ => Unit

/-- Operations with what they came to, in the order in which they were done. -/
abbrev Operations : Type := List (Answered Operation Operation.Answer)

/-- What is asked of the host on the way to a result. -/
abbrev Talk (α : Type) : Type := Dialogue Operation Operation.Answer α

/-- Does a step on a host. -/
def Step.perform {m : Type → Type} (p : Platform m) (socket : Socket) :
    Step → m (Except IoFault Unit)
  | .reuse => p.reuseAddress socket
  | .bothFamilies => p.bothFamilies socket
  | .bind addr => p.bind socket addr
  | .listen => p.listen socket
  | .nonBlocking => p.nonBlocking socket
  | .register => p.register socket
  | .probe none => p.stopProbing socket
  | .probe (some period) => p.probeAfter socket period
  | .noDelay atOnce => p.noDelay socket atOnce

/-- Does an operation on a host. -/
def Operation.perform {m : Type → Type} (p : Platform m) :
    (operation : Operation) → m operation.Answer
  | .moment => p.moment
  | .create family => p.create family
  | .step socket next => next.perform p socket
  | .localAddr socket => p.localAddr socket
  | .gate socket => p.gate socket
  | .setGate socket changed => p.setGate socket changed
  | .hold socket => p.hold socket
  | .takeQueued native => p.takeQueued native
  | .release socket => p.release socket

/-! ## The rules -/

/-- A step with what it came to. -/
def stepped (socket : Socket) (step : Step) (answer : Except IoFault Unit) :
    Answered Operation Operation.Answer :=
  ⟨.step socket step, answer⟩

/-- How a connection is set up: its keep-alive, if the listener has a period for it, and then
whether small writes are sent at once. -/
def fittings (post : Post) : List Step :=
  (post.keepAlive.map fun period => .probe (if period = 0 then none else some period)).toList
    ++ [.noDelay post.noDelay]

/-- What the setting up of a connection goes through, and what comes of it. -/
abbrev Furnishes (post : Post) (socket : Socket) : Operations → Except IoFault Unit → Prop :=
  Dialogue.InOrder (stepped socket) (fittings post)

/-- What one look comes to.  Once something is found, the share of the native listener is let go. -/
inductive Looks (post : Post) (native : Socket) :
    Operations → Progress (Except Fault Arrival) → Prop where
  /-- a close was announced -/
  | closed (gate : Gate) (closing : gate.closing = true) :
      Looks post native [⟨.gate post.socket, gate⟩, ⟨.release native, ()⟩]
        (.done (.error (.listenerClosed post.addr.print)))
  | empty (gate : Gate) (running : gate.closing = false) :
      Looks post native [⟨.gate post.socket, gate⟩, ⟨.takeQueued native, .waiting⟩] .waiting
  | broken (gate : Gate) (running : gate.closing = false) (fault : IoFault) :
      Looks post native
        [⟨.gate post.socket, gate⟩, ⟨.takeQueued native, .done (.error fault)⟩,
          ⟨.release native, ()⟩]
        (.done (.error (.io fault)))
  /-- a connection that cannot be set up is given up -/
  | lost (gate : Gate) (running : gate.closing = false) (socket : Socket) (peer : SocketAddr)
      (setting : Operations) (fault : IoFault)
      (furnishes : Furnishes post socket setting (.error fault)) :
      Looks post native
        (⟨.gate post.socket, gate⟩ :: ⟨.takeQueued native, .done (.ok (socket, peer))⟩
          :: ⟨.release native, ()⟩ :: setting ++ [⟨.release socket, ()⟩])
        (.done (.error (.io fault)))
  | found (gate : Gate) (running : gate.closing = false) (socket : Socket) (peer : SocketAddr)
      (setting : Operations) (furnishes : Furnishes post socket setting (.ok ())) :
      Looks post native
        (⟨.gate post.socket, gate⟩ :: ⟨.takeQueued native, .done (.ok (socket, peer))⟩
          :: ⟨.release native, ()⟩ :: setting)
        (.done (.ok { socket := socket, peer := peer }))

/-- What several looks come to, one after another until one of them finds something. -/
inductive LooksOn (post : Post) (native : Socket) :
    Nat → Operations → Progress (Except Fault Arrival) → Prop where
  | spent : LooksOn post native 0 [] .waiting
  | found {patience : Nat} {calls : Operations} {result : Except Fault Arrival}
      (look : Looks post native calls (.done result)) :
      LooksOn post native (patience + 1) calls (.done result)
  | again {patience : Nat} {first rest : Operations} {result : Progress (Except Fault Arrival)}
      (look : Looks post native first .waiting) (later : LooksOn post native patience rest result) :
      LooksOn post native (patience + 1) (first ++ rest) result

/-- What an accept may go through that looks at most `patience` times, and what comes of it. -/
inductive Accepts (post : Post) (patience : Nat) :
    Operations → Progress (Except Fault Arrival) → Prop where
  /-- a close took the native listener away before -/
  | late (gate : Gate) (taken : gate.native = none) :
      Accepts post patience [⟨.gate post.socket, gate⟩]
        (.done (.error (.listenerClosed post.addr.print)))
  | ended (gate : Gate) (native : Socket) (share : gate.native = some native) (calls : Operations)
      (result : Except Fault Arrival) (looks : LooksOn post native patience calls (.done result)) :
      Accepts post patience (⟨.gate post.socket, gate⟩ :: ⟨.hold native, ()⟩ :: calls)
        (.done result)
  /-- the caller leaves off -/
  | left (gate : Gate) (native : Socket) (share : gate.native = some native) (calls : Operations)
      (looks : LooksOn post native patience calls .waiting) :
      Accepts post patience
        (⟨.gate post.socket, gate⟩ :: ⟨.hold native, ()⟩ :: calls ++ [⟨.release native, ()⟩])
        .waiting

/-- The circuit over a connection that was accepted: it knows the address of the listener, and that
of the other end. -/
def accepted {m : Type → Type} (p : Platform m) (post : Post) (arrival : Arrival) : Circuit m where
  phase := .passive
  localUri := post.addr
  remoteUri := { scheme := "tcp".toList, host := arrival.peer.print }
  link := some (p.link arrival.socket)

/-! ## The dialogue -/

/-- Does a step. -/
def stepOf (socket : Socket) (step : Step) : Talk (Except IoFault Unit) :=
  .ask (.step socket step) .done

/-- Sets a connection up. -/
def furnishing (post : Post) (socket : Socket) : Talk (Except IoFault Unit) :=
  Dialogue.inOrder (stepOf socket) (fittings post)

/-- Takes a connection in, or gives it up if it cannot be set up. -/
def reception (post : Post) (arrival : Arrival) : Talk (Except Fault Arrival) :=
  (furnishing post arrival.socket).bind fun
    | .error fault => .ask (.release arrival.socket) fun () => .done (.error (.io fault))
    | .ok () => .done (.ok arrival)

/-- One look. -/
def glance (post : Post) (native : Socket) : Talk (Progress (Except Fault Arrival)) :=
  .ask (.gate post.socket) fun gate =>
    if gate.closing then
      .ask (.release native) fun () => .done (.done (.error (Gate.closedFault post.addr)))
    else
      .ask (.takeQueued native) fun
      | .waiting => .done .waiting
      | .done (.error fault) => .ask (.release native) fun () => .done (.done (.error (.io fault)))
      | .done (.ok (socket, peer)) => .ask (.release native) fun () =>
        (reception post { socket := socket, peer := peer }).bind fun result => .done (.done result)

/-- All that an accept has the host do. -/
def acceptance (post : Post) (patience : Nat) : Talk (Progress (Except Fault Arrival)) :=
  .ask (.gate post.socket) fun gate =>
    match gate.native with
    | none => .done (.done (.error (Gate.closedFault post.addr)))
    | some native => .ask (.hold native) fun () =>
      ((glance post native).await patience).bind fun
      | .done result => .done (.done result)
      | .waiting => .ask (.release native) fun () => .done .waiting

/-! ## An accept carries it out -/

section

variable {m : Type → Type} [Monad m] [LawfulMonad m] (p : Platform m) (post : Post)

theorem run_stepOf (socket : Socket) (step : Step) :
    (stepOf socket step).run (Operation.perform p) = step.perform p socket := by
  rw [stepOf, Dialogue.run_single]
  rfl

theorem inTurn_step (socket : Socket) (step : Step) :
    inTurn (Operation.perform p) (stepOf socket) [step] = onSocket (step.perform p socket) := by
  rw [inTurn_singleton, run_stepOf]

theorem run_furnishing (socket : Socket) :
    post.furnish p socket = do
      return ((← (furnishing post socket).run (Operation.perform p)).mapError Fault.io) := by
  have hperiod := inTurn_probe (Operation.perform p) (stepOf socket) p socket .probe
    (run_stepOf p socket _) (fun _ => run_stepOf p socket _) post.keepAlive
  have hlast : inTurn (Operation.perform p) (stepOf socket) [.noDelay post.noDelay]
      = onSocket (p.noDelay socket post.noDelay) := inTurn_step p socket (.noDelay _)
  rw [Post.furnish, ← hperiod, ← hlast, ← inTurn_append]
  rfl

theorem run_reception (arrival : Arrival) :
    (reception post arrival).run (Operation.perform p) = post.receive p arrival := by
  rw [reception, Dialogue.run_bind, Post.receive, run_furnishing, bind_assoc]
  refine bind_congr fun answer => ?_
  rw [pure_bind]
  cases answer with
  | error fault => rfl
  | ok done => rfl

theorem run_glance (native : Socket) :
    (glance post native).run (Operation.perform p)
      = p.gate post.socket >>= fun gate => post.look p native gate.closing := by
  rw [glance, Dialogue.run]
  refine bind_congr fun gate => ?_
  rw [Post.look, Post.find]
  cases hclosing : gate.closing with
  | true =>
    simp only [if_true, pure_bind]
    rfl
  | false =>
    simp only [Bool.false_eq_true, if_false, Dialogue.run, bind_assoc]
    refine bind_congr fun seen => ?_
    rcases seen with _ | fault | ⟨socket, peer⟩
    · simp only [pure_bind]
      rfl
    · simp only [pure_bind]
      rfl
    · simp only [pure_bind, Dialogue.run, Dialogue.run_bind, run_reception]
      rfl

theorem run_watch (native : Socket) :
    post.watch p native = do
      return (← (glance post native).run (Operation.perform p)).map
        (Except.map (accepted p post)) := by
  rw [run_glance, bind_assoc]
  rfl

/-- An accept goes through its dialogue, and what it found becomes a circuit. -/
theorem run_acceptance (patience : Nat) :
    (post.listener p).accept patience = do
      return (← (acceptance post patience).run (Operation.perform p)).map
        (Except.map (accepted p post)) := by
  rw [acceptance, Dialogue.run, bind_assoc, Listener.accept]
  simp only [Post.listener, Post.join, Post.enter, bind_assoc]
  refine bind_congr fun gate => ?_
  cases hshare : gate.native with
  | none =>
    simp only [Gate.share, hshare, Dialogue.run, pure_bind]
    rfl
  | some native =>
    simp only [Gate.share, hshare, Dialogue.run, bind_assoc, pure_bind]
    refine bind_congr fun _ => ?_
    simp only [Except.map, run_watch, Progress.await_map, Dialogue.run_bind, Dialogue.run_await,
      bind_assoc, pure_bind]
    refine bind_congr fun seen => ?_
    cases seen with
    | done result =>
      simp only [Progress.map, Dialogue.run, pure_bind]
    | waiting =>
      simp only [Progress.map, Dialogue.run, bind_assoc, pure_bind]
      rfl

end

/-! ## The dialogue follows the rules -/

variable {post : Post} {native socket : Socket} {calls : Operations} {patience : Nat}

theorem leads_steps_iff {steps : List Step} {result : Except IoFault Unit} :
    (Dialogue.inOrder (stepOf socket) steps).Leads calls result ↔
      Dialogue.InOrder (stepped socket) steps calls result :=
  Dialogue.leads_inOrder_iff fun _ _ _ => Dialogue.leads_single_iff

/-- A connection is kept once it has been set up, and given up if that fails. -/
theorem leads_reception_iff {arrival : Arrival} {result : Except Fault Arrival} :
    (reception post arrival).Leads calls result ↔
      (Furnishes post arrival.socket calls (.ok ()) ∧ result = .ok arrival) ∨
      ∃ setting fault, Furnishes post arrival.socket setting (.error fault) ∧
        calls = setting ++ [⟨.release arrival.socket, ()⟩] ∧ result = .error (.io fault) := by
  constructor
  · intro h
    obtain ⟨setting, answer, rest, rfl, hsetting, hrest⟩ := Dialogue.leads_bind_iff.1 h
    have furnishes := leads_steps_iff.1 hsetting
    cases answer with
    | error fault =>
      obtain ⟨_, later, rfl, hlater⟩ := Dialogue.leads_ask_iff.1 hrest
      obtain ⟨rfl, rfl⟩ := Dialogue.leads_done_iff.1 hlater
      exact .inr ⟨setting, fault, furnishes, rfl, rfl⟩
    | ok done =>
      obtain ⟨rfl, rfl⟩ := Dialogue.leads_done_iff.1 hrest
      rw [List.append_nil]
      exact .inl ⟨furnishes, rfl⟩
  · rintro (⟨furnishes, rfl⟩ | ⟨setting, fault, furnishes, rfl, rfl⟩)
    · exact (leads_steps_iff.2 furnishes).bind_done rfl
    · exact Dialogue.leads_bind_iff.2 ⟨setting, .error fault, _, rfl,
        leads_steps_iff.2 furnishes, Dialogue.leads_ask_iff.2 ⟨(), [], rfl, .done _⟩⟩

/-- A look that finds a connection takes it in. -/
theorem leads_glance_of_queued (gate : Gate) (running : gate.closing = false) {arrival : Arrival}
    {result : Except Fault Arrival} (taken : (reception post arrival).Leads calls result) :
    (glance post native).Leads
      (⟨.gate post.socket, gate⟩ :: ⟨.takeQueued native, .done (.ok (arrival.socket, arrival.peer))⟩
        :: ⟨.release native, ()⟩ :: calls)
      (.done result) := by
  refine Dialogue.leads_ask_iff.2 ⟨gate, _, rfl, ?_⟩
  rw [running, if_neg Bool.false_ne_true]
  exact Dialogue.leads_ask_iff.2 ⟨.done (.ok (arrival.socket, arrival.peer)), _, rfl,
    Dialogue.leads_ask_iff.2 ⟨(), calls, rfl, taken.bind_done rfl⟩⟩

theorem leads_glance_iff {result : Progress (Except Fault Arrival)} :
    (glance post native).Leads calls result ↔ Looks post native calls result := by
  constructor
  · intro h
    obtain ⟨gate, rest, rfl, hrest⟩ := Dialogue.leads_ask_iff.1 h
    cases hclosing : gate.closing with
    | true =>
      rw [hclosing, if_pos rfl] at hrest
      obtain ⟨_, later, rfl, hlater⟩ := Dialogue.leads_ask_iff.1 hrest
      obtain ⟨rfl, rfl⟩ := Dialogue.leads_done_iff.1 hlater
      exact .closed gate hclosing
    | false =>
      rw [hclosing, if_neg Bool.false_ne_true] at hrest
      obtain ⟨seen, later, rfl, hlater⟩ := Dialogue.leads_ask_iff.1 hrest
      rcases seen with _ | fault | ⟨socket, peer⟩
      · obtain ⟨rfl, rfl⟩ := Dialogue.leads_done_iff.1 hlater
        exact .empty gate hclosing
      · obtain ⟨_, last, rfl, hlast⟩ := Dialogue.leads_ask_iff.1 hlater
        obtain ⟨rfl, rfl⟩ := Dialogue.leads_done_iff.1 hlast
        exact .broken gate hclosing fault
      · obtain ⟨_, last, rfl, hlast⟩ := Dialogue.leads_ask_iff.1 hlater
        obtain ⟨taken, outcome, none, rfl, htaken, hnone⟩ := Dialogue.leads_bind_iff.1 hlast
        obtain ⟨rfl, rfl⟩ := Dialogue.leads_done_iff.1 hnone
        rw [List.append_nil]
        rcases leads_reception_iff.1 htaken with
          ⟨furnishes, rfl⟩ | ⟨setting, fault, furnishes, rfl, rfl⟩
        · exact .found gate hclosing socket peer taken furnishes
        · exact .lost gate hclosing socket peer setting fault furnishes
  · intro h
    cases h with
    | closed gate closing =>
      refine Dialogue.leads_ask_iff.2 ⟨gate, _, rfl, ?_⟩
      rw [closing, if_pos rfl]
      exact Dialogue.leads_ask_iff.2 ⟨(), [], rfl, .done _⟩
    | empty gate running =>
      refine Dialogue.leads_ask_iff.2 ⟨gate, _, rfl, ?_⟩
      rw [running, if_neg Bool.false_ne_true]
      exact Dialogue.leads_ask_iff.2 ⟨.waiting, [], rfl, .done _⟩
    | broken gate running fault =>
      refine Dialogue.leads_ask_iff.2 ⟨gate, _, rfl, ?_⟩
      rw [running, if_neg Bool.false_ne_true]
      exact Dialogue.leads_ask_iff.2 ⟨.done (.error fault), _, rfl,
        Dialogue.leads_ask_iff.2 ⟨(), [], rfl, .done _⟩⟩
    | lost gate running socket peer setting fault furnishes =>
      have taken : (reception post ⟨socket, peer⟩).Leads (setting ++ [⟨.release socket, ()⟩])
          (.error (.io fault)) :=
        leads_reception_iff.2 (.inr ⟨setting, fault, furnishes, rfl, rfl⟩)
      exact leads_glance_of_queued gate running taken
    | found gate running socket peer setting furnishes =>
      have taken : (reception post ⟨socket, peer⟩).Leads setting (.ok ⟨socket, peer⟩) :=
        leads_reception_iff.2 (.inl ⟨furnishes, rfl⟩)
      exact leads_glance_of_queued gate running taken

theorem leads_await_iff {result : Progress (Except Fault Arrival)} :
    ((glance post native).await patience).Leads calls result ↔
      LooksOn post native patience calls result := by
  induction patience generalizing calls with
  | zero =>
    constructor
    · intro h
      obtain ⟨rfl, rfl⟩ := Dialogue.leads_done_iff.1 h
      exact .spent
    · intro h
      cases h
      exact .done _
  | succ patience ih =>
    constructor
    · intro h
      obtain ⟨first, seen, rest, rfl, hfirst, hrest⟩ := Dialogue.leads_bind_iff.1 h
      have look := leads_glance_iff.1 hfirst
      cases seen with
      | done outcome =>
        obtain ⟨rfl, rfl⟩ := Dialogue.leads_done_iff.1 hrest
        rw [List.append_nil]
        exact .found look
      | waiting => exact .again look (ih.1 hrest)
    · intro h
      cases h with
      | found look =>
        exact (leads_glance_iff.2 look).bind_done rfl
      | again look later =>
        exact Dialogue.leads_bind_iff.2
          ⟨_, .waiting, _, rfl, leads_glance_iff.2 look, ih.2 later⟩

/-- An accept goes through what the rules list. -/
theorem leads_acceptance_iff {result : Progress (Except Fault Arrival)} :
    (acceptance post patience).Leads calls result ↔ Accepts post patience calls result := by
  constructor
  · intro h
    obtain ⟨gate, rest, rfl, hrest⟩ := Dialogue.leads_ask_iff.1 h
    cases hshare : gate.native with
    | none =>
      rw [hshare] at hrest
      obtain ⟨rfl, rfl⟩ := Dialogue.leads_done_iff.1 hrest
      exact .late gate hshare
    | some native =>
      rw [hshare] at hrest
      obtain ⟨_, held, rfl, hheld⟩ := Dialogue.leads_ask_iff.1 hrest
      obtain ⟨looks, seen, last, rfl, hlooks, hlast⟩ := Dialogue.leads_bind_iff.1 hheld
      have looksOn := leads_await_iff.1 hlooks
      cases seen with
      | done outcome =>
        obtain ⟨rfl, rfl⟩ := Dialogue.leads_done_iff.1 hlast
        rw [List.append_nil]
        exact .ended gate native hshare looks outcome looksOn
      | waiting =>
        obtain ⟨_, nothing, rfl, hnothing⟩ := Dialogue.leads_ask_iff.1 hlast
        obtain ⟨rfl, rfl⟩ := Dialogue.leads_done_iff.1 hnothing
        exact .left gate native hshare looks looksOn
  · intro h
    cases h with
    | late gate taken =>
      refine Dialogue.leads_ask_iff.2 ⟨gate, [], rfl, ?_⟩
      rw [taken]
      exact .done _
    | ended gate native share calls outcome looks =>
      refine Dialogue.leads_ask_iff.2 ⟨gate, _, rfl, ?_⟩
      rw [share]
      exact Dialogue.leads_ask_iff.2 ⟨(), calls, rfl, (leads_await_iff.2 looks).bind_done rfl⟩
    | left gate native share calls looks =>
      refine Dialogue.leads_ask_iff.2 ⟨gate, _, rfl, ?_⟩
      rw [share]
      exact Dialogue.leads_ask_iff.2 ⟨(), _, rfl, Dialogue.leads_bind_iff.2
        ⟨calls, .waiting, _, rfl, leads_await_iff.2 looks,
          Dialogue.leads_ask_iff.2 ⟨(), [], rfl, .done _⟩⟩⟩

end Tcp.Listening

end Switchboard
