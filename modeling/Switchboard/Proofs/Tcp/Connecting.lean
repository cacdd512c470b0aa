import Switchboard.Proofs.Tcp.Waiting
import Switchboard.Tcp.Dial

set_option autoImplicit false

/-!
# What a dial has its host do

A dial is known by its operations: each is one call of the host, or of the hook of the caller, and
none is made of others.  Among them is the wait for the connection, in which the host is asked in
turn what can be seen outside and whether the socket is connected; `Connects` lists what such a wait
goes through.  Main statement: the wait is one dialogue with the host, and it goes through exactly
that (`leads_awaiting_iff`, `run_awaiting`).
-/

namespace Switchboard.Tcp

variable {m : Type → Type} {α β : Type}

/-! ## The operations -/

/-- What is done with a new socket, and can only go well or fail. -/
inductive Stage (m : Type → Type) where
  /-- a hook sees the socket, and is told the network and the address that it is for -/
  | hook (hook : Hook m) (network address : Text)
  /-- an idle connection is probed after some milliseconds, or left alone -/
  | probe (idle : Option Nat)
  | bind (addr : SocketAddr)
  | nonBlocking
  | noDelay (atOnce : Bool)

/-- What a dial has done for it by the host. -/
inductive Operation (m : Type → Type) where
  /-- the time is looked at, and what was cancelled -/
  | moment
  | create (family : Family)
  | stage (socket : Socket) (stage : Stage m)
  /-- what can be seen outside while a connection is waited for under a context -/
  | sight (context : Context) (number : Nat)
  /-- one look at a connection attempt -/
  | connect (socket : Socket) (target : SocketAddr)
  | localAddr (socket : Socket)
  | release (socket : Socket)

/-- What an operation comes to. -/
@[reducible] def Operation.Answer : Operation m → Type
  | .moment => Moment
  | .create _ => Except IoFault Socket
  | .stage .. => Except IoFault Unit
  | .sight .. => Sight
  | .connect .. => Progress (Except IoFault Unit)
  | .localAddr _ => Except IoFault SocketAddr
  | .release _ => Unit

/-- Operations with what they came to, in the order in which they were done. -/
abbrev Operations (m : Type → Type) : Type := List (Answered (Operation m) Operation.Answer)

/-- What is asked of the host on the way to a result. -/
abbrev Talk (m : Type → Type) (α : Type) : Type := Dialogue (Operation m) Operation.Answer α

/-- Does a stage on a host. -/
def Stage.perform (p : Platform m) (socket : Socket) : Stage m → m (Except IoFault Unit)
  | .hook own network address => own.run network address socket
  | .probe none => p.stopProbing socket
  | .probe (some period) => p.probeAfter socket period
  | .bind addr => p.bind socket addr
  | .nonBlocking => p.nonBlocking socket
  | .noDelay atOnce => p.noDelay socket atOnce

/-- Does an operation on a host. -/
def Operation.perform (p : Platform m) : (operation : Operation m) → m operation.Answer
  | .moment => p.moment
  | .create family => p.create family
  | .stage socket next => next.perform p socket
  | .sight context number => p.sight context number
  | .connect socket target => p.connect socket target
  | .localAddr socket => p.localAddr socket
  | .release socket => p.release socket

/-! ## The rules of the wait -/

/-- What is asked while an operation is waited for, where that is a connection attempt. -/
def asked (context : Context) (target : SocketAddr) (socket : Socket) :
    Answered Wait.Inquiry (Wait.Inquiry.Answer Unit) → Answered (Operation m) Operation.Answer
  | ⟨.sight number, sight⟩ => ⟨.sight context number, sight⟩
  | ⟨.task, progress⟩ => ⟨.connect socket target, progress⟩

/-- What a wait for a connection goes through, where there are so many looks under a context, and
what comes of it. -/
inductive Connects (looks : Context → Nat) (context : Context) (target : SocketAddr)
    (socket : Socket) : Operations m → Progress (Except Fault Unit) → Prop where
  | waited (moment : Moment) (inquiries : Wait.Inquiries Unit)
      (progress : Progress (Except Fault Unit))
      (waits : Wait.Waits context moment "tcp connect" (looks context) inquiries progress) :
      Connects looks context target socket
        (⟨.moment, moment⟩ :: inquiries.map (asked context target socket)) progress

/-! ## The dialogue -/

/-- A dialogue of a wait, in which a connection attempt is waited for. -/
def ofWait (context : Context) (target : SocketAddr) (socket : Socket) :
    Dialogue Wait.Inquiry (Wait.Inquiry.Answer Unit) α → Talk m α
  | .done a => .done a
  | .ask (.sight number) next => .ask (.sight context number) fun sight =>
    ofWait context target socket (next sight)
  | .ask .task next => .ask (.connect socket target) fun progress =>
    ofWait context target socket (next progress)

/-- Waits for a connection. -/
def awaiting (looks : Context → Nat) (context : Context) (target : SocketAddr) (socket : Socket) :
    Talk m (Progress (Except Fault Unit)) :=
  .ask .moment fun moment =>
    ofWait context target socket (Wait.vigil context moment connecting (looks context))

/-! ## A dial carries it out -/

section

variable [Monad m]

theorem run_ofWait (p : Platform m) (context : Context) (target : SocketAddr) (socket : Socket)
    (d : Dialogue Wait.Inquiry (Wait.Inquiry.Answer Unit) α) :
    (ofWait context target socket d).run (Operation.perform p)
      = d.run (Wait.Inquiry.put (p.sight context) (p.connect socket target)) := by
  induction d with
  | done a => rfl
  | ask inquiry next ih =>
    cases inquiry with
    | sight number => exact bind_congr ih
    | task => exact bind_congr ih

variable [LawfulMonad m]

namespace Platform

/-- Nothing comes after what never comes to a result. -/
theorem hang_bind (p : Platform m) (next : α → m β) : p.hang >>= next = p.hang := by
  rw [hang, hang, bind_assoc]
  exact bind_congr fun never => nomatch never

theorem finish_done (p : Platform m) (a : α) : p.finish (pure (.done a)) = pure a := by
  rw [finish, pure_bind]

theorem finish_waiting (p : Platform m) : p.finish (pure .waiting : m (Progress α)) = p.hang := by
  rw [finish, pure_bind]

theorem finish_bind (p : Platform m) (first : m α) (next : α → m (Progress β)) :
    p.finish (first >>= next) = first >>= fun a => p.finish (next a) := by
  rw [finish, bind_assoc]
  rfl

/-- What follows a result that may never come. -/
theorem bind_finish (p : Platform m) (outcome : m (Progress α)) (next : α → m β) :
    p.finish outcome >>= next = outcome >>= fun
      | .done a => next a
      | .waiting => p.hang := by
  rw [finish, bind_assoc]
  refine bind_congr fun progress => ?_
  cases progress with
  | done a => exact pure_bind a next
  | waiting => exact p.hang_bind next

end Platform

/-- An operation on a socket, and what follows if it goes well. -/
theorem run_onSocket_bind (operation : m (Except IoFault α)) (next : α → ExceptT Fault m β) :
    (onSocket operation >>= next).run = operation >>= fun
      | .error fault => pure (.error (.io fault))
      | .ok a => (next a).run := by
  rw [ExceptT.run_bind, onSocket, ExceptT.run_mk, bind_assoc]
  refine bind_congr fun answer => ?_
  rw [pure_bind]
  cases answer <;> rfl

theorem onSocket_pure (a : α) : onSocket (m := m) (pure (.ok a)) = pure a := by
  rw [onSocket, pure_bind]
  rfl

/-! ### Steps in order -/

section

variable {Question Step : Type} {Answer : Question → Type} (put : (q : Question) → m (Answer q))
  (ask : Step → Dialogue Question Answer (Except IoFault Unit))

/-- Steps on a socket, one after another up to the first that fails. -/
def inTurn (steps : List Step) : ExceptT Fault m Unit :=
  onSocket ((Dialogue.inOrder ask steps).run put)

theorem inTurn_nil : inTurn put ask [] = pure () := onSocket_pure ()

theorem inTurn_cons (step : Step) (rest : List Step) :
    inTurn put ask (step :: rest)
      = onSocket ((ask step).run put) >>= fun _ => inTurn put ask rest := by
  refine ExceptT.ext ?_
  rw [run_onSocket_bind, inTurn, onSocket, ExceptT.run_mk, Dialogue.inOrder, Dialogue.run_bind,
    bind_assoc]
  refine bind_congr fun answer => ?_
  cases answer with
  | error fault =>
    rw [Dialogue.run, pure_bind]
    rfl
  | ok done => rfl

theorem inTurn_append (first second : List Step) :
    inTurn put ask (first ++ second) = inTurn put ask first >>= fun _ => inTurn put ask second := by
  induction first with
  | nil => rw [inTurn_nil, pure_bind, List.nil_append]
  | cons step rest ih => rw [List.cons_append, inTurn_cons, inTurn_cons, bind_assoc, ih]

theorem inTurn_singleton (step : Step) :
    inTurn put ask [step] = onSocket ((ask step).run put) := by
  rw [inTurn_cons]
  simp only [inTurn_nil]
  exact bind_pure _

/-- The keep-alive of a socket is one step, if a period was asked for; one of zero turns it off. -/
theorem inTurn_probe (p : Platform m) (socket : Socket) (probe : Option Nat → Step)
    (stops : (ask (probe none)).run put = p.stopProbing socket)
    (probes : ∀ period, (ask (probe (some period))).run put = p.probeAfter socket period)
    (keepAlive : Option Nat) :
    inTurn put ask
        (keepAlive.map fun period => probe (if period = 0 then none else some period)).toList
      = onSocket (setKeepAlive p keepAlive socket) := by
  cases keepAlive with
  | none => rfl
  | some period =>
    rw [Option.map_some, Option.toList_some, inTurn_singleton, setKeepAlive]
    by_cases hzero : period = 0
    · rw [if_pos hzero, stops, if_pos hzero]
    · rw [if_neg hzero, probes, if_neg hzero]

end

theorem run_awaiting (p : Platform m) (context : Context) (target : SocketAddr) (socket : Socket) :
    awaitConnected p context target socket
      = p.finish ((awaiting p.looks context target socket).run (Operation.perform p)) := by
  rw [awaiting, Dialogue.run, p.finish_bind]
  refine bind_congr fun moment => ?_
  rw [run_ofWait, Wait.run_vigil]

end

/-! ## The dialogue follows the rules -/

variable {context : Context} {target : SocketAddr} {socket : Socket} {calls : Operations m}

theorem leads_ofWait_iff {d : Dialogue Wait.Inquiry (Wait.Inquiry.Answer Unit) α} {a : α} :
    (ofWait context target socket d).Leads calls a ↔
      ∃ inquiries, calls = inquiries.map (asked context target socket) ∧ d.Leads inquiries a := by
  induction d generalizing calls with
  | done b =>
    rw [ofWait, Dialogue.leads_done_iff]
    constructor
    · rintro ⟨rfl, rfl⟩
      exact ⟨[], rfl, .done a⟩
    · rintro ⟨inquiries, rfl, h⟩
      obtain ⟨rfl, rfl⟩ := Dialogue.leads_done_iff.1 h
      exact ⟨rfl, rfl⟩
  | ask inquiry next ih =>
    constructor
    · intro h
      cases inquiry with
      | sight number =>
        obtain ⟨sight, later, rfl, hlater⟩ := Dialogue.leads_ask_iff.1 h
        obtain ⟨inquiries, rfl, hrest⟩ := (ih sight).1 hlater
        exact ⟨⟨.sight number, sight⟩ :: inquiries, rfl,
          Dialogue.leads_ask_iff.2 ⟨sight, inquiries, rfl, hrest⟩⟩
      | task =>
        obtain ⟨progress, later, rfl, hlater⟩ := Dialogue.leads_ask_iff.1 h
        obtain ⟨inquiries, rfl, hrest⟩ := (ih progress).1 hlater
        exact ⟨⟨.task, progress⟩ :: inquiries, rfl,
          Dialogue.leads_ask_iff.2 ⟨progress, inquiries, rfl, hrest⟩⟩
    · rintro ⟨inquiries, rfl, h⟩
      obtain ⟨answer, rest, rfl, hrest⟩ := Dialogue.leads_ask_iff.1 h
      have later := (ih answer).2 ⟨rest, rfl, hrest⟩
      cases inquiry with
      | sight number => exact Dialogue.leads_ask_iff.2 ⟨answer, _, rfl, later⟩
      | task => exact Dialogue.leads_ask_iff.2 ⟨answer, _, rfl, later⟩

theorem leads_awaiting_iff {looks : Context → Nat} {progress : Progress (Except Fault Unit)} :
    (awaiting looks context target socket).Leads calls progress ↔
      Connects looks context target socket calls progress := by
  rw [awaiting, Dialogue.leads_ask_iff]
  constructor
  · rintro ⟨moment, rest, rfl, h⟩
    obtain ⟨inquiries, rfl, hwait⟩ := leads_ofWait_iff.1 h
    exact .waited moment inquiries progress (Wait.waits_of_leads hwait)
  · rintro ⟨moment, inquiries, _, waits⟩
    exact ⟨moment, _, rfl, leads_ofWait_iff.2 ⟨inquiries, rfl, Wait.leads_of_waits waits⟩⟩

end Switchboard.Tcp
