import Switchboard.Proofs.Call.Folding
import Switchboard.Proofs.Tcp.Accepting
import Switchboard.Proofs.Tcp.DialChecks

set_option autoImplicit false

/-!
# The order of a listen

A listen first looks at its context, its settings and its host, in this order, and only then does it
touch a socket.  `Admits` lists what may be wrong with them, and `Opens` the operations on the host,
in the order in which they are done.  The hooks of the caller are not among these: the one hook that
is called lets the address be used again, before the socket is bound.  Main statement: a listen is
one dialogue with the host, the same for every host, and so is every accept on the listener that
comes of it (`listen_follows_order`).
-/

namespace Switchboard.Tcp.Listening

variable {m : Type → Type}

/-! ## What is looked at first -/

/-- What a listener is opened on. -/
structure Terms where
  /-- where it listens; at every address, if none is given -/
  place : Option SocketAddr
  keepAlive : Option Nat
  noDelay : Bool

/-- Where a host asks to listen: at every address if it is empty, and else where it says. -/
inductive Places : (host : Text) → Option SocketAddr → Prop where
  | everywhere : Places [] none
  | named (host : Text) (addr : SocketAddr) (hosted : host ≠ [])
      (h : SocketAddr.read? host = some addr) : Places host (some addr)

/-- What comes of looking at a request: the fault of the first thing that is at fault, or terms, in
which the keep-alive is what the last option says that sets one. -/
inductive Admits (moment : Moment) (request : ListenRequest m) : Except Fault Terms → Prop where
  | overdue (h : request.context.deadline.Come moment) :
      Admits moment request (.error (.timedOut "tcp bind"))
  | takenBack (inTime : ¬ request.context.deadline.Come moment)
      (h : request.context.TakenBack moment) :
      Admits moment request (.error (.cancelled "tcp bind"))
  /-- the section of the transport cannot be read -/
  | settings (inTime : ¬ request.context.deadline.Come moment)
      (wanted : ¬ request.context.TakenBack moment) (message : String)
      (h : Settings.ofConfig request.config = .error (.config "transport.tcp".toList message)) :
      Admits moment request (.error (.config "transport.tcp".toList message))
  /-- a host that is no socket address -/
  | host (inTime : ¬ request.context.deadline.Come moment)
      (wanted : ¬ request.context.TakenBack moment) (settings : Settings)
      (readable : Settings.Gives request.config settings)
      (hosted : request.uri.host ≠ []) (h : SocketAddr.read? request.uri.host = none) :
      Admits moment request (.error (.io (.notLiteralAddress request.uri.host)))
  | ready (inTime : ¬ request.context.deadline.Come moment)
      (wanted : ¬ request.context.TakenBack moment) (settings : Settings)
      (readable : Settings.Gives request.config settings) (place : Option SocketAddr)
      (places : Places request.uri.host place) (period : Option Nat)
      (said : LastSaid ListenOption.period? request.options period) :
      Admits moment request
        (.ok { place := place, keepAlive := period, noDelay := settings.noDelay })

/-! ## What is done then -/

/-- How a socket is made for a place: one that stands for every address of both families, where the
host has them, and else for every IPv4 address. -/
inductive Creates :
    Option SocketAddr → Operations → Except IoFault (Socket × SocketAddr) → Prop where
  | placed (addr : SocketAddr) (answer : Except IoFault Socket) :
      Creates (some addr) [⟨.create addr.family, answer⟩] (answer.map (·, addr))
  | both (socket : Socket) :
      Creates none [⟨.create .v6, .ok socket⟩, ⟨.step socket .bothFamilies, .ok ()⟩]
        (.ok (socket, .v6 .unspecified 0 0))
  | noIpv6 (fault : IoFault) (answer : Except IoFault Socket) :
      Creates none [⟨.create .v6, .error fault⟩, ⟨.create .v4, answer⟩]
        (answer.map (·, .v4 .unspecified 0))
  | notBoth (socket : Socket) (fault : IoFault) (answer : Except IoFault Socket) :
      Creates none
        [⟨.create .v6, .ok socket⟩, ⟨.step socket .bothFamilies, .error fault⟩,
          ⟨.release socket, ()⟩, ⟨.create .v4, answer⟩]
        (answer.map (·, .v4 .unspecified 0))

/-- How a socket is made to listen at an address: first the address may be used again, which is what
the one hook does, then the socket is bound, then connections are queued. -/
def listeningAt (addr : SocketAddr) : List Step :=
  [.reuse, .bind addr, .listen, .nonBlocking, .register]

/-- What a socket that is made to listen goes through, and what comes of it: a fault, or the address
that it was bound to. -/
inductive Occupies (addr : SocketAddr) (socket : Socket) :
    Operations → Except IoFault SocketAddr → Prop where
  /-- a step fails, and none is done after it -/
  | failed (calls : Operations) (fault : IoFault)
      (steps : Dialogue.InOrder (stepped socket) (listeningAt addr) calls (.error fault)) :
      Occupies addr socket calls (.error fault)
  | named (answer : Except IoFault SocketAddr) :
      Occupies addr socket
        ((listeningAt addr).map (stepped socket · (.ok ())) ++ [⟨.localAddr socket, answer⟩]) answer

/-- What is known of a listener whose socket was bound to an address. -/
def postOf (terms : Terms) (socket : Socket) (bound : SocketAddr) : Post where
  socket := socket
  addr := { scheme := "tcp".toList, host := bound.print }
  keepAlive := terms.keepAlive
  noDelay := terms.noDelay

/-- What a listen may go through, and what comes of it: a fault, or what is known of a listener. -/
inductive Opens (request : ListenRequest m) : Operations → Except Fault Post → Prop where
  /-- something is at fault before anything is done -/
  | refused (moment : Moment) (fault : Fault) (admits : Admits moment request (.error fault)) :
      Opens request [⟨.moment, moment⟩] (.error fault)
  /-- there is no socket to be had -/
  | uncreated (moment : Moment) (terms : Terms) (admits : Admits moment request (.ok terms))
      (making : Operations) (fault : IoFault)
      (creates : Creates terms.place making (.error fault)) :
      Opens request (⟨.moment, moment⟩ :: making) (.error (.io fault))
  /-- the socket cannot be bound, and is given up -/
  | failed (moment : Moment) (terms : Terms) (admits : Admits moment request (.ok terms))
      (making : Operations) (socket : Socket) (addr : SocketAddr)
      (creates : Creates terms.place making (.ok (socket, addr))) (binding : Operations)
      (fault : IoFault) (occupies : Occupies addr socket binding (.error fault)) :
      Opens request (⟨.moment, moment⟩ :: making ++ binding ++ [⟨.release socket, ()⟩])
        (.error (.io fault))
  | opened (moment : Moment) (terms : Terms) (admits : Admits moment request (.ok terms))
      (making : Operations) (socket : Socket) (addr : SocketAddr)
      (creates : Creates terms.place making (.ok (socket, addr))) (binding : Operations)
      (bound : SocketAddr) (occupies : Occupies addr socket binding (.ok bound)) :
      Opens request
        (⟨.moment, moment⟩ :: making ++ binding
          ++ [⟨.setGate socket { native := some socket }, ()⟩])
        (.ok (postOf terms socket bound))

/-! ## Looking at a request follows the rules -/

/-- Where a host asks to listen. -/
def placeOf (host : Text) : Except IoFault (Option SocketAddr) :=
  if host = [] then .ok none else (hostAddr host).map some

/-- The terms of a request that may be carried out. -/
def termsOf (moment : Moment) (request : ListenRequest m) : Except Fault Terms := do
  request.context.check moment binding
  let settings ← Settings.ofConfig request.config
  let place ← (placeOf request.uri.host).mapError Fault.io
  return { place := place, keepAlive := request.options.reverse.findSome? ListenOption.period?
           noDelay := settings.noDelay }

theorem placeOf_of_places {host : Text} {place : Option SocketAddr} (h : Places host place) :
    placeOf host = .ok place := by
  cases h with
  | everywhere => rfl
  | named host addr hosted h =>
    rw [placeOf, if_neg hosted, hostAddr_of_read? hosted h]
    rfl

section

variable {moment : Moment} {request : ListenRequest m}

theorem termsOf_of_admits {result : Except Fault Terms} (h : Admits moment request result) :
    termsOf moment request = result := by
  cases h with
  | overdue h =>
    rw [termsOf, Context.check_of_come h]
    rfl
  | takenBack inTime h =>
    rw [termsOf, Context.check_of_takenBack inTime h]
    rfl
  | settings inTime wanted message h =>
    rw [termsOf, Context.check_of_wanted inTime wanted, h]
    rfl
  | host inTime wanted settings readable hosted h =>
    rw [termsOf, Context.check_of_wanted inTime wanted, Settings.ofConfig_eq_ok_iff.2 readable,
      placeOf, if_neg hosted, hostAddr_of_read?_eq_none hosted h]
    rfl
  | ready inTime wanted settings readable place places period said =>
    rw [termsOf, Context.check_of_wanted inTime wanted, Settings.ofConfig_eq_ok_iff.2 readable,
      placeOf_of_places places, lastSaid_iff.1 said]
    rfl

/-- Some rule applies to every host that is read. -/
theorem exists_places {host : Text} (h : host = [] ∨ SocketAddr.read? host ≠ none) :
    ∃ place, Places host place := by
  by_cases hosted : host = []
  · exact ⟨none, hosted ▸ .everywhere⟩
  · obtain ⟨addr, hread⟩ := Option.ne_none_iff_exists'.1 (h.resolve_left hosted)
    exact ⟨some addr, .named host addr hosted hread⟩

/-- Some rule applies to every request. -/
theorem exists_admits (moment : Moment) (request : ListenRequest m) :
    ∃ result, Admits moment request result := by
  by_cases overdue : request.context.deadline.Come moment
  · exact ⟨_, .overdue overdue⟩
  by_cases takenBack : request.context.TakenBack moment
  · exact ⟨_, .takenBack overdue takenBack⟩
  cases hsettings : Settings.ofConfig request.config with
  | error fault =>
    obtain ⟨message, rfl⟩ := ofConfig_eq_error hsettings
    exact ⟨_, .settings overdue takenBack message hsettings⟩
  | ok settings =>
    have readable := Settings.ofConfig_eq_ok_iff.1 hsettings
    by_cases unread : request.uri.host ≠ [] ∧ SocketAddr.read? request.uri.host = none
    · exact ⟨_, .host overdue takenBack settings readable unread.1 unread.2⟩
    · rw [not_and_or, not_not] at unread
      obtain ⟨place, places⟩ := exists_places unread
      exact ⟨_, .ready overdue takenBack settings readable place places _ (lastSaid_iff.2 rfl)⟩

theorem admits_iff {result : Except Fault Terms} :
    Admits moment request result ↔ termsOf moment request = result :=
  rules_iff termsOf_of_admits (exists_admits moment request)

end

/-! ## The dialogue -/

/-- Makes a socket for a place. -/
def creation : Option SocketAddr → Talk (Except IoFault (Socket × SocketAddr))
  | some addr => .ask (.create addr.family) fun answer => .done (answer.map (·, addr))
  | none =>
    let ipv4 : Talk (Except IoFault (Socket × SocketAddr)) :=
      .ask (.create .v4) fun answer => .done (answer.map (·, .v4 .unspecified 0))
    .ask (.create .v6) fun
    | .error _ => ipv4
    | .ok socket => .ask (.step socket .bothFamilies) fun
      | .error _ => .ask (.release socket) fun () => ipv4
      | .ok () => .done (.ok (socket, .v6 .unspecified 0 0))

/-- Makes a socket listen, and asks for the address that it was bound to. -/
def occupation (addr : SocketAddr) (socket : Socket) : Talk (Except IoFault SocketAddr) :=
  (Dialogue.inOrder (stepOf socket) (listeningAt addr)).bind fun
  | .error fault => .done (.error fault)
  | .ok () => .ask (.localAddr socket) .done

/-- Opens the gate of a socket that listens, and gives up one that could not be made to. -/
def settlement (terms : Terms) (socket : Socket) :
    Except IoFault SocketAddr → Talk (Except Fault Post)
  | .error fault => .ask (.release socket) fun () => .done (.error (.io fault))
  | .ok bound => .ask (.setGate socket { native := some socket }) fun () =>
    .done (.ok (postOf terms socket bound))

/-- All that a listen has the host do. -/
def opening (request : ListenRequest m) : Talk (Except Fault Post) :=
  .ask .moment fun moment =>
    match termsOf moment request with
    | .error fault => .done (.error fault)
    | .ok terms => (creation terms.place).bind fun
      | .error fault => .done (.error (.io fault))
      | .ok (socket, addr) => (occupation addr socket).bind (settlement terms socket)

/-! ## A listen carries it out -/

section

variable (p : Platform m)

/-- The hook that lets an address be used again comes last, so it is the one that is called. -/
theorem prepareListen_eq (moment : Moment) (request : ListenRequest m) :
    prepareListen p moment request = do
      request.context.check moment binding
      let settings ← Settings.ofConfig request.config
      return (settings,
        { keepAlive := request.options.reverse.findSome? ListenOption.period?
          control := some (reuseHook p) }) := by
  have hplan : ListenPlan.ofOptions (n := Id) none (request.options ++ [.control (reuseHook p)])
      = .ok { keepAlive := request.options.reverse.findSome? ListenOption.period?
              control := some (reuseHook p) } := by
    rw [ListenPlan.ofOptions, Plan.make_none, ListenPlan.foldl_apply, List.reverse_append,
      Option.or_none, Option.or_none]
    rfl
  simp only [prepareListen, hplan]
  rfl

variable [Monad m]

theorem createFor_of_placeOf_error {host : Text} {fault : IoFault}
    (h : placeOf host = .error fault) : createFor p host = pure (.error fault) := by
  have hhost : host ≠ [] := by
    rintro rfl
    simp [placeOf] at h
  cases haddr : hostAddr host with
  | error cause =>
    obtain rfl : cause = fault := by simpa [placeOf, hhost, haddr, Except.map] using h
    rw [createFor_eq p hhost, haddr]
  | ok addr => simp [placeOf, hhost, haddr, Except.map] at h

variable [LawfulMonad m]

theorem run_creation {host : Text} {place : Option SocketAddr} (h : placeOf host = .ok place) :
    (creation place).run (Operation.perform p) = createFor p host := by
  by_cases hhost : host = []
  · obtain rfl : none = place := by simpa [placeOf, hhost] using h
    rw [createFor, if_pos hhost, creation, createForBoth]
    simp only [Dialogue.run, bind_assoc]
    refine bind_congr fun created => ?_
    cases created with
    | error fault =>
      simp only [Dialogue.run, pure_bind]
      rfl
    | ok socket =>
      simp only [Dialogue.run, bind_assoc]
      refine bind_congr fun both => ?_
      cases both with
      | error fault =>
        simp only [Dialogue.run, bind_assoc, pure_bind]
        rfl
      | ok done =>
        simp only [Dialogue.run, pure_bind]
        rfl
  · cases haddr : hostAddr host with
    | error fault => simp [placeOf, hhost, haddr, Except.map] at h
    | ok addr =>
      obtain rfl : some addr = place := by simpa [placeOf, hhost, haddr, Except.map] using h
      rw [createFor_eq p hhost, haddr]
      rfl

theorem run_occupation (addr : SocketAddr) (socket : Socket) :
    occupy p (some (reuseHook p)) addr socket = do
      return ((← (occupation addr socket).run (Operation.perform p)).mapError Fault.io) := by
  have hsteps : inTurn (Operation.perform p) (stepOf socket) (listeningAt addr) = (do
      onSocket (callHook (some (reuseHook p)) addr socket)
      onSocket (p.bind socket addr)
      onSocket (p.listen socket)
      onSocket (p.nonBlocking socket)
      onSocket (p.register socket)) := by
    have hcons : ∀ step next rest,
        inTurn (Operation.perform p) (stepOf socket) (step :: next :: rest)
          = onSocket (step.perform p socket) >>= fun _ =>
            inTurn (Operation.perform p) (stepOf socket) (next :: rest) := by
      intro step next rest
      rw [inTurn_cons, run_stepOf]
    simp only [listeningAt, hcons, inTurn_step]
    rfl
  have hoccupy : occupy p (some (reuseHook p)) addr socket = (do
      inTurn (Operation.perform p) (stepOf socket) (listeningAt addr)
      onSocket (p.localAddr socket)).run := by
    rw [occupy, hsteps]
    simp only [bind_assoc]
  rw [hoccupy, inTurn, run_onSocket_bind, occupation, Dialogue.run_bind, bind_assoc]
  refine bind_congr fun done => ?_
  cases done with
  | error fault =>
    rw [Dialogue.run, pure_bind]
    rfl
  | ok done =>
    rw [Dialogue.run_single]
    rfl

theorem run_opening (request : ListenRequest m) :
    openPost p request = (opening request).run (Operation.perform p) := by
  rw [opening, Dialogue.run, openPost]
  refine bind_congr fun moment => ?_
  rw [prepareListen_eq, termsOf]
  cases request.context.check moment binding with
  | error fault => rfl
  | ok done =>
    cases Settings.ofConfig request.config with
    | error fault => rfl
    | ok settings =>
      cases hplace : placeOf request.uri.host with
      | error fault =>
        show (createFor p request.uri.host >>= _) = _
        rw [createFor_of_placeOf_error p hplace, pure_bind]
        rfl
      | ok place =>
        show (createFor p request.uri.host >>= _) = ((creation place).bind _).run _
        rw [Dialogue.run_bind, run_creation p hplace]
        refine bind_congr fun created => ?_
        rcases created with fault | ⟨socket, addr⟩
        · rfl
        · simp only [Dialogue.run_bind, run_occupation, bind_assoc, pure_bind]
          refine bind_congr fun bound => ?_
          cases bound with
          | error fault => rfl
          | ok bound => rfl

end

/-! ## The dialogue follows the rules -/

variable {calls : Operations}

theorem leads_creation_iff {place : Option SocketAddr}
    {result : Except IoFault (Socket × SocketAddr)} :
    (creation place).Leads calls result ↔ Creates place calls result := by
  constructor
  · intro h
    cases place with
    | some addr =>
      obtain ⟨answer, rest, rfl, hrest⟩ := Dialogue.leads_ask_iff.1 h
      obtain ⟨rfl, rfl⟩ := Dialogue.leads_done_iff.1 hrest
      exact .placed addr answer
    | none =>
      obtain ⟨created, rest, rfl, hrest⟩ := Dialogue.leads_ask_iff.1 h
      cases created with
      | error fault =>
        obtain ⟨answer, last, rfl, hlast⟩ := Dialogue.leads_ask_iff.1 hrest
        obtain ⟨rfl, rfl⟩ := Dialogue.leads_done_iff.1 hlast
        exact .noIpv6 fault answer
      | ok socket =>
        obtain ⟨both, later, rfl, hlater⟩ := Dialogue.leads_ask_iff.1 hrest
        cases both with
        | error fault =>
          obtain ⟨_, last, rfl, hlast⟩ := Dialogue.leads_ask_iff.1 hlater
          obtain ⟨answer, nothing, rfl, hnothing⟩ := Dialogue.leads_ask_iff.1 hlast
          obtain ⟨rfl, rfl⟩ := Dialogue.leads_done_iff.1 hnothing
          exact .notBoth socket fault answer
        | ok done =>
          obtain ⟨rfl, rfl⟩ := Dialogue.leads_done_iff.1 hlater
          exact .both socket
  · intro h
    cases h with
    | placed addr answer => exact Dialogue.leads_ask_iff.2 ⟨answer, [], rfl, .done _⟩
    | both socket =>
      exact Dialogue.leads_ask_iff.2 ⟨.ok socket, _, rfl,
        Dialogue.leads_ask_iff.2 ⟨.ok (), [], rfl, .done _⟩⟩
    | noIpv6 fault answer =>
      exact Dialogue.leads_ask_iff.2 ⟨.error fault, _, rfl,
        Dialogue.leads_ask_iff.2 ⟨answer, [], rfl, .done _⟩⟩
    | notBoth socket fault answer =>
      exact Dialogue.leads_ask_iff.2 ⟨.ok socket, _, rfl,
        Dialogue.leads_ask_iff.2 ⟨.error fault, _, rfl,
          Dialogue.leads_ask_iff.2 ⟨(), _, rfl,
            Dialogue.leads_ask_iff.2 ⟨answer, [], rfl, .done _⟩⟩⟩⟩

theorem leads_occupation_iff {addr : SocketAddr} {socket : Socket}
    {result : Except IoFault SocketAddr} :
    (occupation addr socket).Leads calls result ↔ Occupies addr socket calls result := by
  constructor
  · intro h
    obtain ⟨first, done, rest, rfl, hfirst, hrest⟩ := Dialogue.leads_bind_iff.1 h
    have steps := leads_steps_iff.1 hfirst
    cases done with
    | error fault =>
      obtain ⟨rfl, rfl⟩ := Dialogue.leads_done_iff.1 hrest
      rw [List.append_nil]
      exact .failed first fault steps
    | ok done =>
      cases steps
      obtain rfl := Dialogue.leads_single_iff.1 hrest
      exact .named result
  · intro h
    cases h with
    | failed _ fault steps => exact (leads_steps_iff.2 steps).bind_done rfl
    | named =>
      exact Dialogue.leads_bind_iff.2 ⟨_, .ok (), _, rfl, leads_steps_iff.2 .all,
        Dialogue.leads_single_iff.2 rfl⟩

variable {request : ListenRequest m} {result : Except Fault Post}

theorem opens_of_leads (h : (opening request).Leads calls result) : Opens request calls result := by
  obtain ⟨moment, rest, rfl, hrest⟩ := Dialogue.leads_ask_iff.1 h
  cases hterms : termsOf moment request with
  | error fault =>
    rw [hterms] at hrest
    obtain ⟨rfl, rfl⟩ := Dialogue.leads_done_iff.1 hrest
    exact .refused moment fault (admits_iff.2 hterms)
  | ok terms =>
    have admits : Admits moment request (.ok terms) := admits_iff.2 hterms
    rw [hterms] at hrest
    obtain ⟨making, created, later, rfl, hmaking, hlater⟩ := Dialogue.leads_bind_iff.1 hrest
    have creates := leads_creation_iff.1 hmaking
    rcases created with fault | ⟨socket, addr⟩
    · obtain ⟨rfl, rfl⟩ := Dialogue.leads_done_iff.1 hlater
      rw [List.append_nil]
      exact .uncreated moment terms admits making fault creates
    · obtain ⟨binding, bound, last, rfl, hbinding, hlast⟩ := Dialogue.leads_bind_iff.1 hlater
      have occupies := leads_occupation_iff.1 hbinding
      rw [← List.append_assoc]
      cases bound with
      | error fault =>
        obtain ⟨_, nothing, rfl, hnothing⟩ := Dialogue.leads_ask_iff.1 hlast
        obtain ⟨rfl, rfl⟩ := Dialogue.leads_done_iff.1 hnothing
        exact .failed moment terms admits making socket addr creates binding fault occupies
      | ok bound =>
        obtain ⟨_, nothing, rfl, hnothing⟩ := Dialogue.leads_ask_iff.1 hlast
        obtain ⟨rfl, rfl⟩ := Dialogue.leads_done_iff.1 hnothing
        exact .opened moment terms admits making socket addr creates binding bound occupies

/-- Once there is a socket, it is bound, and then settled or given up. -/
theorem leads_opening_of_created {moment : Moment} {terms : Terms}
    (admits : Admits moment request (.ok terms)) {making binding last : Operations}
    {socket : Socket} {addr : SocketAddr} {bound : Except IoFault SocketAddr}
    (creates : Creates terms.place making (.ok (socket, addr)))
    (occupies : Occupies addr socket binding bound)
    (settles : (settlement terms socket bound).Leads last result) :
    (opening request).Leads (⟨.moment, moment⟩ :: making ++ binding ++ last) result := by
  refine Dialogue.leads_ask_iff.2 ⟨moment, making ++ (binding ++ last), by simp, ?_⟩
  rw [termsOf_of_admits admits]
  exact Dialogue.leads_bind_iff.2
    ⟨making, _, _, rfl, leads_creation_iff.2 creates, Dialogue.leads_bind_iff.2
      ⟨binding, bound, last, rfl, leads_occupation_iff.2 occupies, settles⟩⟩

theorem leads_of_opens (h : Opens request calls result) : (opening request).Leads calls result := by
  cases h with
  | refused moment fault admits =>
    refine Dialogue.leads_ask_iff.2 ⟨moment, [], rfl, ?_⟩
    rw [termsOf_of_admits admits]
    exact .done _
  | uncreated moment terms admits making fault creates =>
    refine Dialogue.leads_ask_iff.2 ⟨moment, making, rfl, ?_⟩
    rw [termsOf_of_admits admits]
    exact (leads_creation_iff.2 creates).bind_done rfl
  | failed moment terms admits making socket addr creates binding fault occupies =>
    exact leads_opening_of_created admits creates occupies
      (Dialogue.leads_ask_iff.2 ⟨(), [], rfl, .done _⟩)
  | opened moment terms admits making socket addr creates binding bound occupies =>
    exact leads_opening_of_created admits creates occupies
      (Dialogue.leads_ask_iff.2 ⟨(), [], rfl, .done _⟩)

/-! ## Main statement -/

/-- The hooks of the caller make no difference. -/
theorem opening_eq_of_periods {other : ListenRequest m} (context : other.context = request.context)
    (config : other.config = request.config) (uri : other.uri = request.uri)
    (periods : other.options.filterMap ListenOption.period?
      = request.options.filterMap ListenOption.period?) : opening other = opening request := by
  have last : other.options.reverse.findSome? ListenOption.period?
      = request.options.reverse.findSome? ListenOption.period? := by
    rw [← List.head?_filterMap, ← List.head?_filterMap, List.filterMap_reverse,
      List.filterMap_reverse, periods]
  have admits : ∀ moment, termsOf moment other = termsOf moment request := by
    intro moment
    rw [termsOf, termsOf, context, config, uri, last]
  rw [opening, opening]
  simp only [admits]

/-- A listen is one dialogue with the host, which goes through exactly what the rules list, however
the host answers; a socket that was bound becomes a listener.  Requests that differ in their hooks
alone are listened to in the same way.  The address of a listener is that of its post, and every
accept on it is again one dialogue, in which a connection is set up with the keep-alive and the
delay of the post, and becomes a circuit. -/
theorem listen_follows_order [Monad m] [LawfulMonad m] (request : ListenRequest m) :
    (∃ d : Talk (Except Fault Post),
      (∀ calls result, d.Leads calls result ↔ Opens request calls result) ∧
      ∀ (p : Platform m) (below : Option (Layer m)), (mechanism p).listen below request = do
        return (← d.run (Operation.perform p)).map (·.listener p)) ∧
    (∀ other : ListenRequest m, other.context = request.context → other.config = request.config →
      other.uri = request.uri →
      other.options.filterMap ListenOption.period?
        = request.options.filterMap ListenOption.period? →
      ∀ (p : Platform m) (below : Option (Layer m)),
        (mechanism p).listen below other = (mechanism p).listen below request) ∧
    ∀ post : Post, (∀ p : Platform m, (post.listener p).addr = post.addr) ∧
      ∀ patience, ∃ d : Talk (Progress (Except Fault Arrival)),
        (∀ calls result, d.Leads calls result ↔ Accepts post patience calls result) ∧
        ∀ p : Platform m, (post.listener p).accept patience = do
          return (← d.run (Operation.perform p)).map (Except.map (accepted p post)) := by
  have carried : ∀ (other : ListenRequest m) (p : Platform m) (below : Option (Layer m)),
      (mechanism p).listen below other = do
        return (← (opening other).run (Operation.perform p)).map (·.listener p) := by
    intro other p below
    show (openPost p other >>= _) = _
    rw [run_opening]
  refine ⟨⟨opening request, ?_, carried request⟩, ?_, ?_⟩
  · intro calls result
    exact ⟨opens_of_leads, leads_of_opens⟩
  · intro other context config uri periods p below
    rw [carried other, carried request, opening_eq_of_periods context config uri periods]
  · intro post
    refine ⟨fun p => rfl, fun patience => ⟨acceptance post patience, ?_, ?_⟩⟩
    · intro calls result
      exact leads_acceptance_iff
    · intro p
      exact run_acceptance p post patience

/-- Hooks before and behind the keep-alives, and a connection that is accepted at the second
look. -/
theorem listen_follows_order_of_mixed_options :
    let refusing : Hook Id := { run := fun _ _ _ => .error (.system .other) }
    let request : ListenRequest Id :=
      { context := ⟨⟨0⟩, .never⟩, config := .empty
        uri := { scheme := transportName, host := "127.0.0.1:0".toList }
        options := [.control refusing, .keepAlive 10, .control refusing, .keepAlive 20,
          .control refusing] }
    let post : Post :=
      { socket := ⟨7⟩, addr := addrUri (.v4 .loopback 80), keepAlive := some 20, noDelay := true }
    let gate : Gate := { native := some ⟨7⟩ }
    let peer : SocketAddr := .v4 .loopback 4711
    (∃ d : Talk (Except Fault Post),
      d.Leads
        [⟨.moment, ⟨5, {}⟩⟩, ⟨.create .v4, .ok ⟨7⟩⟩,
          ⟨.step ⟨7⟩ .reuse, .ok ()⟩, ⟨.step ⟨7⟩ (.bind (.v4 .loopback 0)), .ok ()⟩,
          ⟨.step ⟨7⟩ .listen, .ok ()⟩, ⟨.step ⟨7⟩ .nonBlocking, .ok ()⟩,
          ⟨.step ⟨7⟩ .register, .ok ()⟩, ⟨.localAddr ⟨7⟩, .ok (.v4 .loopback 80)⟩,
          ⟨.setGate ⟨7⟩ gate, ()⟩]
        (.ok post) ∧
      ∀ p : Platform Id, (mechanism p).listen none request = do
        return (← d.run (Operation.perform p)).map (·.listener p)) ∧
    ∃ d : Talk (Progress (Except Fault Arrival)),
      d.Leads
        [⟨.gate ⟨7⟩, gate⟩, ⟨.hold ⟨7⟩, ()⟩, ⟨.gate ⟨7⟩, gate⟩, ⟨.takeQueued ⟨7⟩, .waiting⟩,
          ⟨.gate ⟨7⟩, gate⟩, ⟨.takeQueued ⟨7⟩, .done (.ok (⟨8⟩, peer))⟩, ⟨.release ⟨7⟩, ()⟩,
          ⟨.step ⟨8⟩ (.probe (some 20)), .ok ()⟩, ⟨.step ⟨8⟩ (.noDelay true), .ok ()⟩]
        (.done (.ok ⟨⟨8⟩, peer⟩)) ∧
      ∀ p : Platform Id, (post.listener p).accept 2 = do
        return (← d.run (Operation.perform p)).map (Except.map (accepted p post)) := by
  intro refusing request post gate peer
  obtain ⟨⟨d, hrules, hrun⟩, -, haccepts⟩ := listen_follows_order (m := Id) request
  obtain ⟨-, haccept⟩ := haccepts post
  obtain ⟨e, herules, herun⟩ := haccept 2
  have places : Places request.uri.host (some (.v4 .loopback 0)) :=
    .named _ _ (by decide) rfl
  have said : LastSaid ListenOption.period? request.options (some 20) :=
    .said [.control refusing, .keepAlive 10, .control refusing] [.control refusing]
      (.keepAlive 20) 20 rfl rfl (by simp [ListenOption.period?])
  have inTime : ¬ request.context.deadline.Come ⟨5, {}⟩ := by
    simp [Deadline.Come, request, Deadline.never]
  have wanted : ¬ request.context.TakenBack ⟨5, {}⟩ := by simp [Context.TakenBack]
  have admits := Admits.ready inTime wanted {} (.usual rfl) _ places _ said
  have furnishes : Furnishes post ⟨8⟩ _ (.ok ()) := .all
  have looks : LooksOn post ⟨7⟩ 2 _ _ :=
    .again (.empty gate rfl) (.found (.found gate rfl ⟨8⟩ peer _ furnishes))
  refine ⟨⟨d, (hrules _ _).2 ?_, fun p => hrun p none⟩, e, (herules _ _).2 ?_, herun⟩
  · exact .opened _ _ admits _ ⟨7⟩ (.v4 .loopback 0) (.placed _ (.ok ⟨7⟩)) _ (.v4 .loopback 80)
      (.named (.ok (.v4 .loopback 80)))
  · exact .ended gate ⟨7⟩ rfl _ _ looks

end Switchboard.Tcp.Listening
