import Switchboard.Proofs.Call.Deadlines
import Switchboard.Proofs.Call.Plans
import Switchboard.Proofs.Tcp.SettingsSection
import Switchboard.Proofs.Tcp.Waiting
import Switchboard.Tcp.Dial

set_option autoImplicit false

/-!
# What a dial looks at first

Before it touches a socket, a dial reads its settings, its options and its target, and then looks at
its context.  `Prepares` and `Begins` list what may be wrong with these, in the order in which it is
found, and what there is to do if nothing is.  A limit in the settings counts from one look at the
time, and whether there is time left is found at a later look.
-/

namespace Switchboard

/-- Rules that a value follows, and of which some applies, tell that value and no other. -/
theorem rules_iff {α : Type} {Rule : α → Prop} {value result : α}
    (follows : ∀ {a}, Rule a → value = a) (applies : ∃ a, Rule a) :
    Rule result ↔ value = result := by
  constructor
  · exact follows
  · rintro rfl
    obtain ⟨a, ha⟩ := applies
    exact (follows ha).symm ▸ ha

namespace Tcp

variable {m : Type → Type}

/-! ## The rules -/

/-- What the transport makes of the URI of a local address, in the order of trial. -/
inductive Resolves (uri : Uri) : Except Fault SocketAddr → Prop where
  | notCanonical (h : uri.isCanonical = false) : Resolves uri (.error (.notCanonical uri.print))
  | foreign (canonical : uri.isCanonical = true) (h : uri.transport ≠ "tcp".toList) :
      Resolves uri (.error (.unknownTransport uri.print uri.transport))
  | unreadable (canonical : uri.isCanonical = true) (transport : uri.transport = "tcp".toList)
      (hosted : uri.host ≠ []) (h : SocketAddr.read? uri.host = none) :
      Resolves uri (.error (.io (.notLiteralAddress uri.host)))
  /-- every IPv4 address, and a port of the kernel's choice -/
  | hostless (canonical : uri.isCanonical = true) (transport : uri.transport = "tcp".toList)
      (h : uri.host = []) : Resolves uri (.ok (.v4 .unspecified 0))
  | hosted (canonical : uri.isCanonical = true) (transport : uri.transport = "tcp".toList)
      (hosted : uri.host ≠ []) (addr : SocketAddr) (h : SocketAddr.read? uri.host = some addr) :
      Resolves uri (.ok addr)

/-- Whether the transport lets an option pass: only local addresses can be turned down. -/
def Passes {Hook : Type} (option : DialOption Hook) : Prop :=
  ∀ wanted, option = .localAddr wanted → ∃ addr, Resolves wanted.uri (.ok addr)

/-- The socket address of a local address that an option asks for, if it passes. -/
def wantedAddr? {Hook : Type} : DialOption Hook → Option SocketAddr
  | .localAddr wanted =>
    if wanted.uri.host = [] then some (.v4 .unspecified 0) else SocketAddr.read? wanted.uri.host
  | _ => none

/-- What options come to: in each field what the last option says that sets it. -/
def planOf {Hook : Type} (options : List (DialOption Hook)) : DialPlan Hook where
  keepAlive := options.reverse.findSome? DialOption.period?
  control := options.reverse.findSome? DialOption.hook?
  localAddr := options.reverse.findSome? wantedAddr?

/-- The address that a host stands for; no host stands for every IPv4 address, with a port of the
kernel's choice. -/
inductive Targets : (host : Text) → SocketAddr → Prop where
  | hostless : Targets [] (.v4 .unspecified 0)
  | hosted (host : Text) (addr : SocketAddr) (hosted : host ≠ [])
      (h : SocketAddr.read? host = some addr) : Targets host addr

/-- What comes of reading a request: the fault of the first thing that is at fault, or what there is
to do. -/
inductive Prepares (request : DialRequest m) : Except Fault (Preparation m) → Prop where
  /-- the section of the transport cannot be read -/
  | settings (message : String)
      (h : Settings.ofConfig request.config = .error (.config "transport.tcp".toList message)) :
      Prepares request (.error (.config "transport.tcp".toList message))
  /-- the first option that does not pass -/
  | option (settings : Settings) (readable : Settings.Gives request.config settings)
      (before after : List (DialOption (Hook m))) (wanted : LocalAddr)
      (split : request.options = before ++ .localAddr wanted :: after)
      (passed : ∀ o ∈ before, Passes o) (fault : Fault) (h : Resolves wanted.uri (.error fault)) :
      Prepares request (.error fault)
  /-- a host that is no socket address -/
  | host (settings : Settings) (readable : Settings.Gives request.config settings)
      (passed : ∀ o ∈ request.options, Passes o) (hosted : request.uri.host ≠ [])
      (h : SocketAddr.read? request.uri.host = none) :
      Prepares request (.error (.io (.notLiteralAddress request.uri.host)))
  /-- nothing is at fault -/
  | ready (settings : Settings) (readable : Settings.Gives request.config settings)
      (passed : ∀ o ∈ request.options, Passes o) (target : SocketAddr)
      (h : Targets request.uri.host target) :
      Prepares request
        (.ok { settings := settings, plan := planOf request.options, target := target })

/-- The deadline that the settings put to a connection attempt, from a moment on. -/
def timeLimit (settings : Settings) (set : Moment) : Deadline :=
  match settings.connectTimeout with
  | some timeout => .ofInstant (set.now + timeout)
  | none => .never

/-- Whether there is no time left for a connection attempt: the deadline of its context has come, or
the limit of the settings. -/
def Overdue (settings : Settings) (context : Context) (set now : Moment) : Prop :=
  context.deadline.Come now ∨ (timeLimit settings set).Come now

/-- What comes of looking at a context, where the limit of the settings was set at one moment and
the look is at another: a fault, or the context with the earliest of both deadlines. -/
inductive Begins (settings : Settings) (context : Context) (set now : Moment) :
    Except Fault Context → Prop where
  /-- no time is left -/
  | overdue (h : Overdue settings context set now) :
      Begins settings context set now (.error (.timedOut "tcp connect"))
  /-- the request was taken back -/
  | takenBack (inTime : ¬ Overdue settings context set now) (h : context.TakenBack now) :
      Begins settings context set now (.error (.cancelled "tcp connect"))
  | ready (inTime : ¬ Overdue settings context set now) (wanted : ¬ context.TakenBack now)
      (deadline : Deadline)
      (earliest : Deadline.Earliest [context.deadline, timeLimit settings set] deadline) :
      Begins settings context set now (.ok { context with deadline := deadline })

/-! ## One host -/

theorem hostAddr_eq_error {host : Text} {fault : IoFault} (h : hostAddr host = .error fault) :
    host ≠ [] ∧ SocketAddr.read? host = none ∧ fault = .notLiteralAddress host := by
  unfold hostAddr at h
  split at h
  · simp at h
  · next hhost =>
    split at h
    · simp at h
    · next hread => exact ⟨hhost, hread, (Except.error.inj h).symm⟩

theorem hostAddr_of_read?_eq_none {host : Text} (hhost : host ≠ [])
    (h : SocketAddr.read? host = none) : hostAddr host = .error (.notLiteralAddress host) := by
  rw [hostAddr, if_neg hhost, h]

theorem hostAddr_of_read? {host : Text} {addr : SocketAddr} (hhost : host ≠ [])
    (h : SocketAddr.read? host = some addr) : hostAddr host = .ok addr := by
  rw [hostAddr, if_neg hhost, h]

theorem targets_iff {host : Text} {addr : SocketAddr} :
    Targets host addr ↔ hostAddr host = .ok addr := by
  constructor
  · intro h
    cases h with
    | hostless => rfl
    | hosted _ _ hosted h => exact hostAddr_of_read? hosted h
  · intro h
    by_cases hhost : host = []
    · subst hhost
      obtain rfl := Except.ok.inj h
      exact .hostless
    · cases hread : SocketAddr.read? host with
      | none =>
        rw [hostAddr_of_read?_eq_none hhost hread] at h
        exact nomatch h
      | some read =>
        rw [hostAddr_of_read? hhost hread] at h
        exact .hosted host addr hhost (hread.trans (congrArg some (Except.ok.inj h)))

/-! ## One local address -/

theorem localAddrOf_of_resolves {uri : Uri} {result : Except Fault SocketAddr}
    (h : Resolves uri result) : localAddrOf uri = result := by
  have htransport : transportName = "tcp".toList := rfl
  rw [localAddrOf, htransport]
  cases h with
  | notCanonical h => simp [h]
  | foreign canonical h => rw [if_neg (by simp [canonical]), if_pos h]
  | unreadable canonical transport hosted h =>
    simp [canonical, transport, hostAddr_of_read?_eq_none hosted h]
  | hostless canonical transport h =>
    simp [canonical, transport, hostAddr, h, SocketAddr.unspecified]
  | hosted canonical transport hosted addr h =>
    simp [canonical, transport, hostAddr, hosted, h]

/-- Some rule applies to every URI. -/
theorem exists_resolves (uri : Uri) : ∃ result, Resolves uri result := by
  cases canonical : uri.isCanonical with
  | false => exact ⟨_, .notCanonical canonical⟩
  | true =>
    by_cases transport : uri.transport = "tcp".toList
    · by_cases hhost : uri.host = []
      · exact ⟨_, .hostless canonical transport hhost⟩
      · cases hread : SocketAddr.read? uri.host with
        | none => exact ⟨_, .unreadable canonical transport hhost hread⟩
        | some addr => exact ⟨_, .hosted canonical transport hhost addr hread⟩
    · exact ⟨_, .foreign canonical transport⟩

theorem resolves_iff {uri : Uri} {result : Except Fault SocketAddr} :
    Resolves uri result ↔ localAddrOf uri = result :=
  rules_iff localAddrOf_of_resolves (exists_resolves uri)

/-! ## Reading a request follows the rules -/

section

variable {Hook : Type}

theorem settle_localAddr_eq_error_iff {wanted : LocalAddr} {fault : Fault} :
    settle (.localAddr wanted : DialOption Hook) = .error fault ↔
      Resolves wanted.uri (.error fault) := by
  rw [resolves_iff, settle]
  cases localAddrOf wanted.uri <;> simp [Except.map]

theorem passes_iff {option : DialOption Hook} :
    Passes option ↔ ∃ settled, settle option = .ok settled := by
  cases option with
  | keepAlive period => simp [Passes, settle]
  | control hook => simp [Passes, settle]
  | localAddr wanted =>
    simp only [Passes, settle, resolves_iff, DialOption.localAddr.injEq, forall_eq']
    cases localAddrOf wanted.uri <;> simp [Except.map]

theorem wantedAddr?_of_resolves {wanted : LocalAddr} {addr : SocketAddr}
    (h : Resolves wanted.uri (.ok addr)) :
    wantedAddr? (.localAddr wanted : DialOption Hook) = some addr := by
  cases h with
  | hostless canonical transport h => exact if_pos h
  | hosted canonical transport hosted addr h => exact (if_neg hosted).trans h

/-- An option that passes sets what it says, and nothing else. -/
theorem apply_settled {option settled : DialOption Hook} (h : settle option = .ok settled)
    (plan : DialPlan Hook) :
    plan.apply settled =
      { keepAlive := option.period?.or plan.keepAlive, control := option.hook?.or plan.control
        localAddr := (wantedAddr? option).or plan.localAddr } := by
  cases option with
  | keepAlive period =>
    obtain rfl := Except.ok.inj h
    rfl
  | control hook =>
    obtain rfl := Except.ok.inj h
    rfl
  | localAddr wanted =>
    cases hwanted : localAddrOf wanted.uri with
    | error fault => simp [settle, hwanted, Except.map] at h
    | ok addr =>
      obtain rfl : DialOption.localAddr { wanted with addr := some addr } = settled := by
        simpa [settle, hwanted, Except.map] using h
      rw [wantedAddr?_of_resolves (resolves_iff.2 hwanted)]
      rfl

theorem ofOptions_of_passes {options : List (DialOption Hook)} (h : ∀ o ∈ options, Passes o) :
    DialPlan.ofOptions (n := Id) (some filter) options = .ok (planOf options) := by
  obtain ⟨plan, hplan⟩ :
      ∃ plan, DialPlan.ofOptions (n := Id) (some filter) options = .ok plan :=
    Plan.exists_make_iff.2 fun o ho => passes_iff.1 (h o ho)
  have hperiod : plan.keepAlive = (planOf options).keepAlive := by
    refine (Plan.field_of_make DialPlan.keepAlive DialOption.period? ?_ hplan).trans Option.or_none
    intro plan option settled hs
    rw [apply_settled hs]
  have hhook : plan.control = (planOf options).control := by
    refine (Plan.field_of_make DialPlan.control DialOption.hook? ?_ hplan).trans Option.or_none
    intro plan option settled hs
    rw [apply_settled hs]
  have haddr : plan.localAddr = (planOf options).localAddr := by
    refine (Plan.field_of_make DialPlan.localAddr wantedAddr? ?_ hplan).trans Option.or_none
    intro plan option settled hs
    rw [apply_settled hs]
  obtain ⟨period, hook, addr⟩ := plan
  simp only at hperiod hhook haddr
  rw [hplan, hperiod, hhook, haddr]

theorem passes_of_ofOptions_eq_ok {options : List (DialOption Hook)} {plan : DialPlan Hook}
    (h : DialPlan.ofOptions (n := Id) (some filter) options = .ok plan) :
    ∀ o ∈ options, Passes o := fun o ho =>
  passes_iff.2 (Plan.exists_make_iff.1 ⟨plan, h⟩ o ho)

theorem ofOptions_eq_error_iff {options : List (DialOption Hook)} {fault : Fault} :
    DialPlan.ofOptions (n := Id) (some filter) options = .error fault ↔
      ∃ before wanted after, options = before ++ .localAddr wanted :: after ∧
        (∀ o ∈ before, Passes o) ∧ Resolves wanted.uri (.error fault) := by
  have hmake : DialPlan.ofOptions (n := Id) (some filter) options = .error fault ↔
      ∃ before option after, options = before ++ option :: after ∧
        (∀ o ∈ before, ∃ settled, settle o = .ok settled) ∧ settle option = .error fault :=
    Plan.make_eq_error_iff
  simp only [hmake, passes_iff]
  constructor
  · rintro ⟨before, option, after, split, passed, h⟩
    cases option with
    | keepAlive period => simp [settle] at h
    | control hook => simp [settle] at h
    | localAddr wanted =>
      exact ⟨before, wanted, after, split, passed, settle_localAddr_eq_error_iff.1 h⟩
  · rintro ⟨before, wanted, after, split, passed, h⟩
    exact ⟨before, _, after, split, passed, settle_localAddr_eq_error_iff.2 h⟩

end

section

variable {request : DialRequest m}

/-- What is left of a preparation once the settings and the options have been read. -/
theorem prepare_of_passes {settings : Settings}
    (readable : Settings.Gives request.config settings)
    (passed : ∀ o ∈ request.options, Passes o) :
    prepare request = do
      let target ← (hostAddr request.uri.host).mapError Fault.io
      return { settings := settings, plan := planOf request.options, target := target } := by
  rw [prepare, Settings.ofConfig_eq_ok_iff.2 readable]
  show (do let plan ← DialPlan.ofOptions (n := Id) (some filter) request.options; _) = _
  rw [ofOptions_of_passes passed]
  rfl

theorem prepare_of_prepares {result : Except Fault (Preparation m)} (h : Prepares request result) :
    prepare request = result := by
  cases h with
  | settings message h =>
    rw [prepare, h]
    rfl
  | option settings readable before after wanted split passed fault h =>
    rw [prepare, Settings.ofConfig_eq_ok_iff.2 readable]
    show (do let plan ← DialPlan.ofOptions (n := Id) (some filter) request.options; _) = _
    rw [ofOptions_eq_error_iff.2 ⟨before, wanted, after, split, passed, h⟩]
    rfl
  | host settings readable passed hosted h =>
    rw [prepare_of_passes readable passed, hostAddr_of_read?_eq_none hosted h]
    rfl
  | ready settings readable passed target h =>
    rw [prepare_of_passes readable passed, targets_iff.1 h]
    rfl

/-- Some rule applies to every request. -/
theorem exists_prepares (request : DialRequest m) : ∃ result, Prepares request result := by
  cases hsettings : Settings.ofConfig request.config with
  | error fault =>
    obtain ⟨message, rfl⟩ := ofConfig_eq_error hsettings
    exact ⟨_, .settings message hsettings⟩
  | ok settings =>
    have readable := Settings.ofConfig_eq_ok_iff.1 hsettings
    cases hplan : DialPlan.ofOptions (n := Id) (some filter) request.options with
    | error fault =>
      obtain ⟨before, wanted, after, split, passed, hfault⟩ := ofOptions_eq_error_iff.1 hplan
      exact ⟨_, .option settings readable before after wanted split passed fault hfault⟩
    | ok plan =>
      have passed : ∀ o ∈ request.options, Passes o := passes_of_ofOptions_eq_ok hplan
      cases htarget : hostAddr request.uri.host with
      | error fault =>
        obtain ⟨hosted, hread, rfl⟩ := hostAddr_eq_error htarget
        exact ⟨_, .host settings readable passed hosted hread⟩
      | ok target => exact ⟨_, .ready settings readable passed target (targets_iff.2 htarget)⟩

theorem Prepares.gives {prep : Preparation m} (h : Prepares request (.ok prep)) :
    Settings.Gives request.config prep.settings := by
  cases h with
  | ready settings readable => exact readable

theorem prepares_iff {result : Except Fault (Preparation m)} :
    Prepares request result ↔ prepare request = result :=
  rules_iff prepare_of_prepares (exists_prepares request)

end

/-! ## Looking at the context follows the rules -/

section

variable {settings : Settings} {context : Context} {set now : Moment}

/-- A context with the limit of the settings. -/
def tightened (settings : Settings) (set : Moment) (context : Context) : Context :=
  context.tighten (timeLimit settings set)

/-- A context with the limit of the settings, if it may be used. -/
def begun (settings : Settings) (context : Context) (set now : Moment) : Except Fault Context :=
  ((tightened settings set context).check now connecting).map fun () =>
    tightened settings set context

/-- With the limit of the settings, the deadline of a context has come if there is no time left. -/
theorem isExpired_tightened_iff :
    (tightened settings set context).isExpired now = true ↔ Overdue settings context set now := by
  rw [Context.isExpired, tightened, Context.deadline_tighten, Deadline.isExpired_earlier,
    Bool.or_eq_true, ← Deadline.come_iff, ← Deadline.come_iff]
  rfl

theorem isCancelled_tightened_iff :
    (tightened settings set context).isCancelled now = true ↔ context.TakenBack now :=
  Context.takenBack_iff.symm

theorem begun_of_begins {result : Except Fault Context}
    (h : Begins settings context set now result) :
    begun settings context set now = result := by
  cases h with
  | overdue h =>
    rw [begun, Context.check, if_pos (isExpired_tightened_iff.2 h)]
    rfl
  | takenBack inTime h =>
    rw [begun, Context.check, if_neg (mt isExpired_tightened_iff.1 inTime),
      if_pos (isCancelled_tightened_iff.2 h)]
    rfl
  | ready inTime wanted deadline earliest =>
    have hdeadline : context.deadline.earlier (timeLimit settings set) = deadline :=
      (Deadline.earliest_pair _ _).unique earliest fun _ => Iff.rfl
    rw [begun, Context.check, if_neg (mt isExpired_tightened_iff.1 inTime),
      if_neg (mt isCancelled_tightened_iff.1 wanted), tightened, Context.tighten, hdeadline]
    rfl

/-- Some rule applies to every context. -/
theorem exists_begins (settings : Settings) (context : Context) (set now : Moment) :
    ∃ result, Begins settings context set now result := by
  by_cases overdue : Overdue settings context set now
  · exact ⟨_, .overdue overdue⟩
  · by_cases takenBack : context.TakenBack now
    · exact ⟨_, .takenBack overdue takenBack⟩
    · exact ⟨_, .ready overdue takenBack _ (Deadline.earliest_pair _ _)⟩

theorem begins_iff {result : Except Fault Context} :
    Begins settings context set now result ↔ begun settings context set now = result :=
  rules_iff begun_of_begins (exists_begins settings context set now)

/-- A limit of no time at all leaves none. -/
theorem overdue_of_no_time (h : settings.connectTimeout = some 0) (context : Context)
    (order : set.now ≤ now.now) : Overdue settings context set now := by
  refine .inr ⟨set.now, ?_, order⟩
  simp [timeLimit, h, Deadline.ofInstant]

end

end Tcp

end Switchboard
