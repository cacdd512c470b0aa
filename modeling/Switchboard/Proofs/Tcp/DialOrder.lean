import Switchboard.Proofs.Tcp.Connecting
import Switchboard.Proofs.Tcp.DialChecks

set_option autoImplicit false

/-!
# The order of a dial

A dial first looks at what it was given and at the time, and only then does it touch a socket.
`Dials` lists the operations on the host, in the order in which they are done, and how far each
failure lets a dial come; what may be wrong before is listed by `Prepares` and `Begins`.  Main
statement: a dial is one dialogue with the host, the same for every host, and it goes through
exactly what the rules list (`dial_follows_order`).

A host may let a connection attempt be looked at a number of times, and then never again; the number
depends on the context, and on nothing else.
-/

namespace Switchboard.Tcp

variable {m : Type → Type}

/-! ## The rules -/

/-- What may be done before it is known whether a dial begins: a look at the time from which the
limit of the settings counts, if they have one. -/
def limitReads (settings : Settings) (set : Moment) : Operations m :=
  match settings.connectTimeout with
  | some _ => [⟨.moment, set⟩]
  | none => []

/-- A stage with what it came to. -/
def staged (socket : Socket) (stage : Stage m) (answer : Except IoFault Unit) :
    Answered (Operation m) Operation.Answer :=
  ⟨.stage socket stage, answer⟩

/-- What a hook is told of the network of a socket. -/
def networkText : Family → Text
  | .v4 => "tcp4".toList
  | .v6 => "tcp6".toList

/-- The address that is bound where a local address is wanted towards a target: one that stands for
every address of the other family is replaced by that of the target's. -/
def boundAddr : (wanted target : SocketAddr) → SocketAddr
  | .v4 ip port, .v6 .. => if ip = .unspecified then .v6 .unspecified port 0 else .v4 ip port
  | .v6 ip port zone, .v4 .. =>
    if ip = .unspecified then .v4 .unspecified port else .v6 ip port zone
  | wanted, _ => wanted

/-- The stages of a new socket up to its connection: the hook, if there is one, then the keep-alive,
if one was asked for, then the local address, if one was asked for. -/
def readying (prep : Preparation m) : List (Stage m) :=
  (prep.plan.control.map fun hook =>
      .hook hook (networkText prep.target.family) prep.target.print).toList
    ++ (prep.plan.keepAlive.map fun period =>
      .probe (if period = 0 then none else some period)).toList
    ++ (prep.plan.localAddr.map fun addr => .bind (boundAddr addr prep.target)).toList
    ++ [.nonBlocking]

/-- Stages that all went well. -/
def wentWell (socket : Socket) (passed : List (Stage m)) : Operations m :=
  passed.map (staged socket · (.ok ()))

/-- What a new socket goes through, and what comes of it: a fault, or its own address once it is
connected.  A connection may never come about. -/
inductive SetsUp (looks : Context → Nat) (prep : Preparation m) (context : Context)
    (socket : Socket) : Operations m → Progress (Except Fault SocketAddr) → Prop where
  /-- a stage fails, and none is done after it -/
  | unready (calls : Operations m) (fault : IoFault)
      (readies : Dialogue.InOrder (staged socket) (readying prep) calls (.error fault)) :
      SetsUp looks prep context socket calls (.done (.error (.io fault)))
  /-- the wait for the connection ends otherwise -/
  | unconnected (calls : Operations m) (fault : Fault)
      (connects : Connects looks context prep.target socket calls (.done (.error fault))) :
      SetsUp looks prep context socket (wentWell socket (readying prep) ++ calls)
        (.done (.error fault))
  /-- the wait for the connection does not end -/
  | unended (calls : Operations m)
      (connects : Connects looks context prep.target socket calls .waiting) :
      SetsUp looks prep context socket (wentWell socket (readying prep) ++ calls) .waiting
  | undelayed (calls : Operations m)
      (connects : Connects looks context prep.target socket calls (.done (.ok ())))
      (fault : IoFault) :
      SetsUp looks prep context socket
        (wentWell socket (readying prep) ++ calls
          ++ [⟨.stage socket (.noDelay prep.settings.noDelay), .error fault⟩])
        (.done (.error (.io fault)))
  | named (calls : Operations m)
      (connects : Connects looks context prep.target socket calls (.done (.ok ())))
      (answer : Except IoFault SocketAddr) :
      SetsUp looks prep context socket
        (wentWell socket (readying prep) ++ calls
          ++ [⟨.stage socket (.noDelay prep.settings.noDelay), .ok ()⟩,
            ⟨.localAddr socket, answer⟩])
        (.done (answer.mapError .io))

/-- A request may be carried out, as it was prepared and under a context. -/
structure Begun (request : DialRequest m) (prep : Preparation m) (set now : Moment)
    (context : Context) : Prop where
  prepares : Prepares request (.ok prep)
  begins : Begins prep.settings request.context set now (.ok context)

/-- What a dial may go through, and what comes of it: a fault, or a connected socket and its own
address. -/
inductive Dials (looks : Context → Nat) (request : DialRequest m) :
    Operations m → Progress (Except Fault (Socket × SocketAddr)) → Prop where
  /-- something is at fault with the request itself, and nothing is done -/
  | refused (fault : Fault) (prepares : Prepares request (.error fault)) :
      Dials looks request [] (.done (.error fault))
  /-- there is no time left, or the request was taken back -/
  | unbegun (prep : Preparation m) (prepares : Prepares request (.ok prep)) (set now : Moment)
      (fault : Fault) (begins : Begins prep.settings request.context set now (.error fault)) :
      Dials looks request (limitReads prep.settings set ++ [⟨.moment, now⟩])
        (.done (.error fault))
  /-- there is no socket to be had -/
  | uncreated (prep : Preparation m) (set now : Moment) (context : Context)
      (begun : Begun request prep set now context) (fault : IoFault) :
      Dials looks request
        (limitReads prep.settings set ++ [⟨.moment, now⟩,
          ⟨.create prep.target.family, .error fault⟩])
        (.done (.error (.io fault)))
  /-- the socket cannot be set up, and is given up -/
  | failed (prep : Preparation m) (set now : Moment) (context : Context)
      (begun : Begun request prep set now context) (socket : Socket) (calls : Operations m)
      (fault : Fault) (setsUp : SetsUp looks prep context socket calls (.done (.error fault))) :
      Dials looks request
        (limitReads prep.settings set ++ ⟨.moment, now⟩ :: ⟨.create prep.target.family, .ok socket⟩
          :: calls ++ [⟨.release socket, ()⟩])
        (.done (.error fault))
  /-- the socket is waited for in vain, and without an end -/
  | unended (prep : Preparation m) (set now : Moment) (context : Context)
      (begun : Begun request prep set now context) (socket : Socket) (calls : Operations m)
      (setsUp : SetsUp looks prep context socket calls .waiting) :
      Dials looks request
        (limitReads prep.settings set ++ ⟨.moment, now⟩ :: ⟨.create prep.target.family, .ok socket⟩
          :: calls)
        .waiting
  /-- all went well -/
  | connected (prep : Preparation m) (set now : Moment) (context : Context)
      (begun : Begun request prep set now context) (socket : Socket) (calls : Operations m)
      (addr : SocketAddr) (setsUp : SetsUp looks prep context socket calls (.done (.ok addr))) :
      Dials looks request
        (limitReads prep.settings set ++ ⟨.moment, now⟩ :: ⟨.create prep.target.family, .ok socket⟩
          :: calls)
        (.done (.ok (socket, addr)))

/-- The circuit that a dial gives: it knows the address of its socket and the URI that was
dialled. -/
def dialled (p : Platform m) (uri : Uri) (ends : Socket × SocketAddr) : Circuit m where
  phase := .active
  localUri := { scheme := "tcp".toList, host := ends.2.print }
  remoteUri := uri
  link := some (p.link ends.1)

/-! ## The dialogue -/

/-- Finds the context of a dial. -/
def limiting (settings : Settings) (context : Context) : Talk m Context :=
  match settings.connectTimeout with
  | some timeout => .ask .moment fun set => .done (context.tighten (.after set.now timeout))
  | none => .done context

/-- Does a stage. -/
def stageOf (socket : Socket) (stage : Stage m) : Talk m (Except IoFault Unit) :=
  .ask (.stage socket stage) .done

/-- Makes a connected socket ready for use, and asks for its address. -/
def naming (prep : Preparation m) (socket : Socket) : Talk m (Progress (Except Fault SocketAddr)) :=
  .ask (.stage socket (.noDelay prep.settings.noDelay)) fun
  | .error fault => .done (.done (.error (.io fault)))
  | .ok () => .ask (.localAddr socket) fun answer => .done (.done (answer.mapError .io))

/-- Sets a new socket up, connects it, and asks for its address. -/
def setUp (looks : Context → Nat) (prep : Preparation m) (context : Context) (socket : Socket) :
    Talk m (Progress (Except Fault SocketAddr)) :=
  (Dialogue.inOrder (stageOf socket) (readying prep)).bind fun
  | .error fault => .done (.done (.error (.io fault)))
  | .ok () => (awaiting looks context prep.target socket).bind fun
    | .waiting => .done .waiting
    | .done (.error fault) => .done (.done (.error fault))
    | .done (.ok ()) => naming prep socket

/-- Keeps a socket that was set up, and gives up one that could not be. -/
def keepOrRelease (socket : Socket) :
    Progress (Except Fault SocketAddr) → Talk m (Progress (Except Fault (Socket × SocketAddr)))
  | .waiting => .done .waiting
  | .done (.error fault) => .ask (.release socket) fun () => .done (.done (.error fault))
  | .done (.ok addr) => .done (.done (.ok (socket, addr)))

/-- Makes a socket, and sets it up. -/
def carrying (looks : Context → Nat) (prep : Preparation m) (context : Context) :
    Talk m (Progress (Except Fault (Socket × SocketAddr))) :=
  .ask (.create prep.target.family) fun
  | .error fault => .done (.done (.error (.io fault)))
  | .ok socket => (setUp looks prep context socket).bind (keepOrRelease socket)

/-- Goes on with a context that may be used. -/
def starting (looks : Context → Nat) (prep : Preparation m) :
    Except Fault Context → Talk m (Progress (Except Fault (Socket × SocketAddr)))
  | .error fault => .done (.done (.error fault))
  | .ok context => carrying looks prep context

/-- All that a dial has the host do. -/
def attempt (looks : Context → Nat) (request : DialRequest m) :
    Talk m (Progress (Except Fault (Socket × SocketAddr))) :=
  match prepare request with
  | .error fault => .done (.done (.error fault))
  | .ok prep => (limiting prep.settings request.context).bind fun context => .ask .moment fun now =>
    starting looks prep ((context.check now connecting).map fun () => context)

/-! ## A dial carries the dialogue out -/

section

variable [Monad m]

theorem run_limiting (p : Platform m) (settings : Settings) (context : Context) :
    limited p settings context = (limiting settings context).run (Operation.perform p) := by
  unfold limited limiting
  cases settings.connectTimeout with
  | none => rfl
  | some timeout => rfl

theorem boundAddr_eq (wanted target : SocketAddr) :
    boundAddr wanted target = localFor wanted target := by
  cases wanted with
  | v4 ip port =>
    cases target with
    | v4 _ _ => simp [boundAddr, localFor, SocketAddr.family]
    | v6 _ _ _ =>
      by_cases hall : ip = .unspecified <;>
        simp [boundAddr, localFor, SocketAddr.isUnspecified, SocketAddr.family,
          SocketAddr.unspecified, SocketAddr.port, hall]
  | v6 ip port zone =>
    cases target with
    | v6 _ _ _ => simp [boundAddr, localFor, SocketAddr.family]
    | v4 _ _ =>
      by_cases hall : ip = .unspecified <;>
        simp [boundAddr, localFor, SocketAddr.isUnspecified, SocketAddr.family,
          SocketAddr.unspecified, SocketAddr.port, hall]

theorem networkText_eq (family : Family) : networkText family = networkName family := by
  cases family <;> rfl

variable [LawfulMonad m] (p : Platform m)

theorem run_stageOf (socket : Socket) (stage : Stage m) :
    (stageOf socket stage).run (Operation.perform p) = stage.perform p socket := by
  rw [stageOf, Dialogue.run_single]
  rfl

/-- What is done with a new socket up to its connection are its stages in order. -/
theorem inTurn_readying (prep : Preparation m) (socket : Socket) :
    inTurn (Operation.perform p) (stageOf socket) (readying prep) = (do
      onSocket (callHook prep.plan.control prep.target socket)
      onSocket (setKeepAlive p prep.plan.keepAlive socket)
      onSocket (bindLocal p prep.plan.localAddr prep.target socket)
      onSocket (p.nonBlocking socket)) := by
  have hstage : ∀ stage : Stage m, inTurn (Operation.perform p) (stageOf socket) [stage]
      = onSocket (stage.perform p socket) := fun stage => by
    rw [inTurn_singleton, run_stageOf]
  have hhook : inTurn (Operation.perform p) (stageOf socket) (prep.plan.control.map fun hook =>
          .hook hook (networkText prep.target.family) prep.target.print).toList
      = onSocket (callHook prep.plan.control prep.target socket) := by
    rw [networkText_eq]
    cases prep.plan.control with
    | none => rfl
    | some hook => exact hstage (.hook hook _ _)
  have hperiod := inTurn_probe (Operation.perform p) (stageOf socket) p socket .probe
    (run_stageOf p socket _) (fun _ => run_stageOf p socket _) prep.plan.keepAlive
  have hlocal : inTurn (Operation.perform p) (stageOf socket)
        (prep.plan.localAddr.map fun addr => .bind (boundAddr addr prep.target)).toList
      = onSocket (bindLocal p prep.plan.localAddr prep.target socket) := by
    simp only [boundAddr_eq]
    cases prep.plan.localAddr with
    | none => rfl
    | some addr => exact hstage (.bind _)
  have hlast : inTurn (Operation.perform p) (stageOf socket) [.nonBlocking]
      = onSocket (p.nonBlocking socket) := hstage .nonBlocking
  rw [readying, inTurn_append, inTurn_append, inTurn_append, hhook, hperiod, hlocal, hlast]
  simp only [bind_assoc]

theorem run_naming (prep : Preparation m) (socket : Socket) :
    (do
        onSocket (p.noDelay socket prep.settings.noDelay)
        onSocket (p.localAddr socket)).run
      = p.finish ((naming prep socket).run (Operation.perform p)) := by
  rw [run_onSocket_bind, naming, Dialogue.run, p.finish_bind]
  refine bind_congr fun answer => ?_
  cases answer with
  | error fault => exact (p.finish_done _).symm
  | ok done =>
    rw [Dialogue.run, p.finish_bind]
    exact bind_congr fun addr => (p.finish_done _).symm

/-- A dial sets its socket up in the order of its stages. -/
theorem run_setUp (prep : Preparation m) (context : Context) (socket : Socket) :
    connect p prep context socket
      = p.finish ((setUp p.looks prep context socket).run (Operation.perform p)) := by
  have hconnect : connect p prep context socket = (do
      inTurn (Operation.perform p) (stageOf socket) (readying prep)
      ExceptT.mk (awaitConnected p context prep.target socket)
      onSocket (p.noDelay socket prep.settings.noDelay)
      onSocket (p.localAddr socket)).run := by
    rw [connect, inTurn_readying]
    simp only [bind_assoc]
  rw [hconnect, setUp, Dialogue.run_bind, p.finish_bind, inTurn, run_onSocket_bind]
  refine bind_congr fun ready => ?_
  cases ready with
  | error fault => exact (p.finish_done _).symm
  | ok done =>
    simp only [Dialogue.run_bind, p.finish_bind]
    rw [ExceptT.run_bind, ExceptT.run_mk, run_awaiting, p.bind_finish]
    refine bind_congr fun progress => ?_
    rcases progress with _ | fault | done
    · exact p.finish_waiting.symm
    · exact (p.finish_done _).symm
    · exact run_naming p prep socket

theorem run_carrying (prep : Preparation m) (context : Context) :
    carryOut p prep context
      = p.finish ((carrying p.looks prep context).run (Operation.perform p)) := by
  rw [carryOut, carrying, Dialogue.run, p.finish_bind]
  refine bind_congr fun created => ?_
  cases created with
  | error fault => exact (p.finish_done _).symm
  | ok socket =>
    simp only [Dialogue.run_bind, p.finish_bind, run_setUp, p.bind_finish]
    refine bind_congr fun progress => ?_
    rcases progress with _ | fault | addr
    · exact p.finish_waiting.symm
    · simp only [keepOrRelease, Dialogue.run, p.finish_bind]
      exact bind_congr fun released => (p.finish_done _).symm
    · exact (p.finish_done _).symm

theorem run_attempt (request : DialRequest m) :
    dial p request = (attempt p.looks request).run (Operation.perform p) >>= fun
      | .done result => pure (result.map (dialled p request.uri))
      | .waiting => p.hang := by
  unfold dial attempt
  cases prepare request with
  | error fault =>
    rw [Dialogue.run, pure_bind]
    rfl
  | ok prep =>
    simp only [run_limiting, Dialogue.run_bind, bind_assoc]
    refine bind_congr fun context => ?_
    rw [Dialogue.run, bind_assoc]
    refine bind_congr fun now => ?_
    cases context.check now connecting with
    | error fault =>
      show _ = Dialogue.run _ (Dialogue.done _) >>= _
      rw [Dialogue.run, pure_bind]
      rfl
    | ok done =>
      show (carryOut p prep context >>= _) = _
      rw [run_carrying, p.bind_finish]
      exact bind_congr fun progress => by cases progress <;> rfl

end

/-! ## The dialogue follows the rules -/

variable {looks : Context → Nat} {prep : Preparation m} {context : Context} {socket : Socket}
  {calls : Operations m}

theorem leads_readying_iff {stages : List (Stage m)} {result : Except IoFault Unit} :
    (Dialogue.inOrder (stageOf socket) stages).Leads calls result ↔
      Dialogue.InOrder (staged socket) stages calls result :=
  Dialogue.leads_inOrder_iff fun _ _ _ => Dialogue.leads_single_iff

theorem leads_naming_iff {result : Progress (Except Fault SocketAddr)} :
    (naming prep socket).Leads calls result ↔
      (∃ fault, calls = [⟨.stage socket (.noDelay prep.settings.noDelay), .error fault⟩] ∧
        result = .done (.error (.io fault))) ∨
      ∃ answer, calls = [⟨.stage socket (.noDelay prep.settings.noDelay), .ok ()⟩,
          ⟨.localAddr socket, answer⟩] ∧ result = .done (answer.mapError .io) := by
  constructor
  · intro h
    obtain ⟨answer, rest, rfl, hrest⟩ := Dialogue.leads_ask_iff.1 h
    cases answer with
    | error fault =>
      obtain ⟨rfl, rfl⟩ := Dialogue.leads_done_iff.1 hrest
      exact .inl ⟨fault, rfl, rfl⟩
    | ok done =>
      obtain ⟨addr, last, rfl, hlast⟩ := Dialogue.leads_ask_iff.1 hrest
      obtain ⟨rfl, rfl⟩ := Dialogue.leads_done_iff.1 hlast
      exact .inr ⟨addr, rfl, rfl⟩
  · rintro (⟨fault, rfl, rfl⟩ | ⟨answer, rfl, rfl⟩)
    · exact Dialogue.leads_ask_iff.2 ⟨.error fault, [], rfl, .done _⟩
    · exact Dialogue.leads_ask_iff.2 ⟨.ok (), _, rfl,
        Dialogue.leads_ask_iff.2 ⟨answer, [], rfl, .done _⟩⟩

theorem setsUp_of_leads {result : Progress (Except Fault SocketAddr)}
    (h : (setUp looks prep context socket).Leads calls result) :
    SetsUp looks prep context socket calls result := by
  obtain ⟨first, ready, rest, rfl, hfirst, hrest⟩ := Dialogue.leads_bind_iff.1 h
  have readies := leads_readying_iff.1 hfirst
  cases ready with
  | error fault =>
    obtain ⟨rfl, rfl⟩ := Dialogue.leads_done_iff.1 hrest
    rw [List.append_nil]
    exact .unready first fault readies
  | ok done =>
    cases readies
    obtain ⟨waited, progress, last, rfl, hwaited, hlast⟩ := Dialogue.leads_bind_iff.1 hrest
    have connects := leads_awaiting_iff.1 hwaited
    rcases progress with _ | fault | done
    · obtain ⟨rfl, rfl⟩ := Dialogue.leads_done_iff.1 hlast
      rw [List.append_nil]
      exact .unended waited connects
    · obtain ⟨rfl, rfl⟩ := Dialogue.leads_done_iff.1 hlast
      rw [List.append_nil]
      exact .unconnected waited fault connects
    · rw [← List.append_assoc]
      rcases leads_naming_iff.1 hlast with ⟨fault, rfl, rfl⟩ | ⟨answer, rfl, rfl⟩
      · exact .undelayed waited connects fault
      · exact .named waited connects answer

/-- Once a socket is ready, it is waited for. -/
theorem leads_setUp_of_ready {waited last : Operations m} {progress : Progress (Except Fault Unit)}
    {result : Progress (Except Fault SocketAddr)}
    (connects : Connects looks context prep.target socket waited progress)
    (h : Dialogue.Leads (match progress with
      | .waiting => .done .waiting
      | .done (.error fault) => .done (.done (.error fault))
      | .done (.ok ()) => naming prep socket) last result) :
    (setUp looks prep context socket).Leads (wentWell socket (readying prep) ++ (waited ++ last))
      result :=
  Dialogue.leads_bind_iff.2 ⟨_, .ok (), _, rfl, leads_readying_iff.2 .all,
    Dialogue.leads_bind_iff.2 ⟨waited, progress, last, rfl, leads_awaiting_iff.2 connects, h⟩⟩

theorem leads_of_setsUp {result : Progress (Except Fault SocketAddr)}
    (h : SetsUp looks prep context socket calls result) :
    (setUp looks prep context socket).Leads calls result := by
  cases h with
  | unready _ fault readies => exact (leads_readying_iff.2 readies).bind_done rfl
  | unconnected waited fault connects =>
    have hlast := leads_setUp_of_ready connects (.done _)
    rwa [List.append_nil] at hlast
  | unended waited connects =>
    have hlast := leads_setUp_of_ready connects (.done _)
    rwa [List.append_nil] at hlast
  | undelayed waited connects fault =>
    rw [List.append_assoc]
    exact leads_setUp_of_ready connects (leads_naming_iff.2 (.inl ⟨fault, rfl, rfl⟩))
  | named waited connects answer =>
    rw [List.append_assoc]
    exact leads_setUp_of_ready connects (leads_naming_iff.2 (.inr ⟨answer, rfl, rfl⟩))

theorem leads_limiting_iff {settings : Settings} {result : Context} :
    (limiting settings context).Leads calls result ↔
      ∃ set, calls = limitReads settings set ∧ result = tightened settings set context := by
  unfold limiting limitReads tightened timeLimit
  cases settings.connectTimeout with
  | none =>
    rw [Dialogue.leads_done_iff]
    constructor
    · rintro ⟨rfl, rfl⟩
      exact ⟨default, rfl, by rw [Context.tighten, Deadline.earlier_never]⟩
    · rintro ⟨set, rfl, rfl⟩
      exact ⟨rfl, by rw [Context.tighten, Deadline.earlier_never]⟩
  | some timeout =>
    rw [Dialogue.leads_ask_iff]
    constructor
    · rintro ⟨set, rest, rfl, hrest⟩
      obtain ⟨rfl, rfl⟩ := Dialogue.leads_done_iff.1 hrest
      exact ⟨set, rfl, rfl⟩
    · rintro ⟨set, rfl, rfl⟩
      exact ⟨set, [], rfl, .done _⟩

/-- What follows once a request was prepared. -/
theorem leads_attempt_iff {request : DialRequest m} (h : prepare request = .ok prep)
    {result : Progress (Except Fault (Socket × SocketAddr))} :
    (attempt looks request).Leads calls result ↔
      ∃ set now rest, calls = limitReads prep.settings set ++ ⟨.moment, now⟩ :: rest ∧
        (starting looks prep (begun prep.settings request.context set now)).Leads rest result := by
  unfold attempt
  simp only [h, Dialogue.leads_bind_iff, Dialogue.leads_ask_iff, leads_limiting_iff]
  constructor
  · rintro ⟨_, _, _, rfl, ⟨set, rfl, rfl⟩, now, rest, rfl, hrest⟩
    exact ⟨set, now, rest, rfl, hrest⟩
  · rintro ⟨set, now, rest, rfl, hrest⟩
    exact ⟨_, _, _, rfl, ⟨set, rfl, rfl⟩, now, rest, rfl, hrest⟩

theorem dials_of_leads {request : DialRequest m}
    {result : Progress (Except Fault (Socket × SocketAddr))}
    (h : (attempt looks request).Leads calls result) : Dials looks request calls result := by
  cases hprepare : prepare request with
  | error fault =>
    unfold attempt at h
    simp only [hprepare] at h
    obtain ⟨rfl, rfl⟩ := Dialogue.leads_done_iff.1 h
    exact .refused fault (prepares_iff.2 hprepare)
  | ok prep =>
    have prepares : Prepares request (.ok prep) := prepares_iff.2 hprepare
    obtain ⟨set, now, rest, rfl, hrest⟩ := (leads_attempt_iff hprepare).1 h
    cases hbegun : begun prep.settings request.context set now with
    | error fault =>
      rw [hbegun] at hrest
      obtain ⟨rfl, rfl⟩ := Dialogue.leads_done_iff.1 hrest
      exact .unbegun prep prepares set now fault (begins_iff.2 hbegun)
    | ok context =>
      have ready : Begun request prep set now context := ⟨prepares, begins_iff.2 hbegun⟩
      rw [hbegun] at hrest
      obtain ⟨created, later, rfl, hlater⟩ := Dialogue.leads_ask_iff.1 hrest
      cases created with
      | error fault =>
        obtain ⟨rfl, rfl⟩ := Dialogue.leads_done_iff.1 hlater
        exact .uncreated prep set now context ready fault
      | ok socket =>
        obtain ⟨setting, progress, last, rfl, hsetting, hlast⟩ := Dialogue.leads_bind_iff.1 hlater
        have setsUp := setsUp_of_leads hsetting
        rcases progress with _ | fault | addr
        · obtain ⟨rfl, rfl⟩ := Dialogue.leads_done_iff.1 hlast
          rw [List.append_nil]
          exact .unended prep set now context ready socket setting setsUp
        · obtain ⟨_, nothing, rfl, hnothing⟩ := Dialogue.leads_ask_iff.1 hlast
          obtain ⟨rfl, rfl⟩ := Dialogue.leads_done_iff.1 hnothing
          have hfailed := Dials.failed prep set now context ready socket setting fault setsUp
          simpa using hfailed
        · obtain ⟨rfl, rfl⟩ := Dialogue.leads_done_iff.1 hlast
          rw [List.append_nil]
          exact .connected prep set now context ready socket setting addr setsUp

/-- Once there is a socket, it is set up, and kept or given up. -/
theorem leads_attempt_of_created {request : DialRequest m} {set now : Moment}
    (ready : Begun request prep set now context) {setting last : Operations m}
    {progress : Progress (Except Fault SocketAddr)}
    (setsUp : SetsUp looks prep context socket setting progress)
    {result : Progress (Except Fault (Socket × SocketAddr))}
    (h : (keepOrRelease socket progress).Leads last result) :
    (attempt looks request).Leads
      (limitReads prep.settings set ++ ⟨.moment, now⟩ :: ⟨.create prep.target.family, .ok socket⟩
        :: (setting ++ last)) result := by
  refine (leads_attempt_iff (prepares_iff.1 ready.prepares)).2 ⟨set, now, _, rfl, ?_⟩
  rw [begins_iff.1 ready.begins]
  exact Dialogue.leads_ask_iff.2 ⟨.ok socket, _, rfl,
    Dialogue.leads_bind_iff.2 ⟨setting, progress, last, rfl, leads_of_setsUp setsUp, h⟩⟩

theorem leads_of_dials {request : DialRequest m}
    {result : Progress (Except Fault (Socket × SocketAddr))}
    (h : Dials looks request calls result) : (attempt looks request).Leads calls result := by
  cases h with
  | refused fault prepares =>
    unfold attempt
    simp only [prepares_iff.1 prepares]
    exact .done _
  | unbegun prep prepares set now fault begins =>
    refine (leads_attempt_iff (prepares_iff.1 prepares)).2 ⟨set, now, [], rfl, ?_⟩
    rw [begins_iff.1 begins]
    exact .done _
  | uncreated prep set now context ready fault =>
    refine (leads_attempt_iff (prepares_iff.1 ready.prepares)).2 ⟨set, now, _, rfl, ?_⟩
    rw [begins_iff.1 ready.begins]
    exact Dialogue.leads_ask_iff.2 ⟨.error fault, [], rfl, .done _⟩
  | failed prep set now context ready socket setting fault setsUp =>
    have hlast := leads_attempt_of_created ready setsUp
      (Dialogue.leads_ask_iff.2 ⟨(), [], rfl, .done _⟩)
    simpa using hlast
  | unended prep set now context ready socket setting setsUp =>
    have hlast := leads_attempt_of_created ready setsUp (.done _)
    rwa [List.append_nil] at hlast
  | connected prep set now context ready socket setting addr setsUp =>
    have hlast := leads_attempt_of_created ready setsUp (.done _)
    rwa [List.append_nil] at hlast

/-- Where the settings leave no time, a dial ends with its second look at the time. -/
theorem timedOut_of_no_time {request : DialRequest m} {settings : Settings}
    (gives : Settings.Gives request.config settings) (noTime : settings.connectTimeout = some 0)
    {set now : Moment} {rest : Operations m}
    {result : Progress (Except Fault (Socket × SocketAddr))}
    (h : (attempt looks request).Leads (⟨.moment, set⟩ :: ⟨.moment, now⟩ :: rest) result)
    (order : set.now ≤ now.now) :
    rest = [] ∧ result = .done (.error (.timedOut "tcp connect")) := by
  cases hprepare : prepare request with
  | error fault =>
    unfold attempt at h
    simp only [hprepare] at h
    exact nomatch (Dialogue.leads_done_iff.1 h).1
  | ok prep =>
    obtain rfl : settings = prep.settings :=
      (prepares_iff.2 hprepare).gives.unique gives
    obtain ⟨_, _, _, hcalls, hrest⟩ := (leads_attempt_iff hprepare).1 h
    rw [limitReads, noTime] at hcalls
    cases hcalls
    rw [begins_iff.1 (.overdue (overdue_of_no_time noTime request.context order))] at hrest
    exact Dialogue.leads_done_iff.1 hrest

/-- A dial is one dialogue with the host, which goes through exactly what the rules list, whatever
the host is and however it answers; a connected socket becomes a circuit.  If the settings leave no
time at all, nothing is done once they are found to. -/
theorem dial_follows_order [Monad m] [LawfulMonad m] (looks : Context → Nat)
    (request : DialRequest m) :
    ∃ d : Talk m (Progress (Except Fault (Socket × SocketAddr))),
      (∀ calls result, d.Leads calls result ↔ Dials looks request calls result) ∧
      (∀ settings, Settings.Gives request.config settings → settings.connectTimeout = some 0 →
        ∀ set now rest result, d.Leads (⟨.moment, set⟩ :: ⟨.moment, now⟩ :: rest) result →
          set.now ≤ now.now → rest = [] ∧ result = .done (.error (.timedOut "tcp connect"))) ∧
      ∀ p : Platform m, p.looks = looks →
        dial p request = d.run (Operation.perform p) >>= fun
          | .done result => pure (result.map (dialled p request.uri))
          | .waiting => p.never >>= fun never => nomatch never := by
  refine ⟨attempt looks request, ?_, ?_, ?_⟩
  · intro calls result
    exact ⟨dials_of_leads, leads_of_dials⟩
  · intro settings gives noTime set now rest result h order
    exact timedOut_of_no_time gives noTime h order
  · rintro p rfl
    exact run_attempt p request

/-- The last of two hooks lets the socket pass, and then the last of two keep-alive periods cannot
be set; where the settings leave no time, it does not come to that. -/
theorem dial_follows_order_of_last_options :
    let refusing : Hook Id := { run := fun _ _ _ => .error (.system .other) }
    let content : Hook Id := { run := fun _ _ _ => .ok () }
    let wanted : LocalAddr := { uri := { scheme := transportName, host := "[::1]:0".toList } }
    let request : DialRequest Id :=
      { context := ⟨⟨0⟩, .never⟩, config := .empty
        uri := { scheme := transportName, host := "127.0.0.1:80".toList }
        options := [.control refusing, .keepAlive 10, .control content, .localAddr wanted,
          .keepAlive 20] }
    let hasty : Config :=
      { transports := .ofList [(transportName, [("connect_timeout_ms".toList, .integer 0)])] }
    let hurried : DialRequest Id := { request with config := hasty }
    let looks : Context → Nat := fun _ => 2
    let fault : IoFault := .system .invalidInput
    let late : Fault := .timedOut "tcp connect"
    (∃ d : Talk Id (Progress (Except Fault (Socket × SocketAddr))),
      d.Leads
        [⟨.moment, ⟨5, {}⟩⟩, ⟨.create .v4, .ok ⟨7⟩⟩,
          ⟨.stage ⟨7⟩ (.hook content "tcp4".toList "127.0.0.1:80".toList), .ok ()⟩,
          ⟨.stage ⟨7⟩ (.probe (some 20)), .error fault⟩, ⟨.release ⟨7⟩, ()⟩]
        (.done (.error (.io fault))) ∧
      ∀ p : Platform Id, p.looks = looks →
        dial p request = d.run (Operation.perform p) >>= fun
          | .done result => pure (result.map (dialled p request.uri))
          | .waiting => p.never >>= fun never => nomatch never) ∧
    ∃ d : Talk Id (Progress (Except Fault (Socket × SocketAddr))),
      d.Leads [⟨.moment, ⟨5, {}⟩⟩, ⟨.moment, ⟨5, {}⟩⟩] (.done (.error late)) ∧
      (∀ rest result, d.Leads (⟨.moment, ⟨5, {}⟩⟩ :: ⟨.moment, ⟨5, {}⟩⟩ :: rest) result →
        rest = [] ∧ result = .done (.error late)) ∧
      ∀ p : Platform Id, p.looks = looks →
        dial p hurried = d.run (Operation.perform p) >>= fun
          | .done result => pure (result.map (dialled p hurried.uri))
          | .waiting => p.never >>= fun never => nomatch never := by
  intro refusing content wanted request hasty hurried looks fault late
  have resolves : Resolves wanted.uri (.ok (.v6 .loopback 0 0)) :=
    .hosted (by decide) (by decide) (by decide) _ (by decide)
  have passed : ∀ o ∈ request.options, Passes o := by
    simp only [request, List.forall_mem_cons]
    refine ⟨nofun, nofun, nofun, ?_, nofun, by simp⟩
    rintro _ ⟨rfl⟩
    exact ⟨_, resolves⟩
  have target : Targets request.uri.host (.v4 .loopback 80) :=
    .hosted _ _ (by decide) (by decide)
  have early : ∀ instant : Int, ¬ Deadline.never.Come ⟨instant, {}⟩ := by
    simp [Deadline.Come, Deadline.never]
  have earliest : Deadline.Earliest [Deadline.never, .never] .never := .never (by simp)
  constructor
  · obtain ⟨d, hrules, -, hrun⟩ := dial_follows_order looks request
    have prepares := Prepares.ready {} (.usual rfl) passed _ target
    have inTime : ¬ Overdue {} request.context ⟨5, {}⟩ ⟨5, {}⟩ := not_or.2 ⟨early 5, early 5⟩
    have begins := Begins.ready inTime (by simp [Context.TakenBack]) .never earliest
    have readies : Dialogue.InOrder (staged ⟨7⟩)
        (readying ⟨{}, planOf request.options, .v4 .loopback 80⟩) _ (.error fault) :=
      .upTo [_] [_, _] _ rfl fault
    exact ⟨d, (hrules _ _).2
      (.failed _ _ _ _ ⟨prepares, begins⟩ ⟨7⟩ _ _ (.unready _ fault readies)), hrun⟩
  · obtain ⟨d, hrules, hhasty, hrun⟩ := dial_follows_order looks hurried
    have gives : Settings.Gives hasty { noDelay := true, connectTimeout := some 0 } :=
      .section _ _ rfl .unsaid (.said 0)
    have prepares := @Prepares.ready Id hurried _ gives passed _ target
    have overdue : Overdue { noDelay := true, connectTimeout := some 0 } request.context ⟨5, {}⟩
      ⟨5, {}⟩ := overdue_of_no_time rfl request.context le_rfl
    refine ⟨d, (hrules _ _).2 (.unbegun _ prepares _ _ _ (.overdue overdue)), ?_, hrun⟩
    intro rest result h
    exact hhasty _ gives rfl _ _ rest result h le_rfl

end Switchboard.Tcp
