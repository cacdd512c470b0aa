import Switchboard.Proofs.Call.Folding
import Switchboard.Proofs.Tcp.DialOrder

set_option autoImplicit false

/-!
# The local address of a dial

A local address is given as a URI, and a dial may be given several.  `LocalAddress` says what the
TCP transport makes of those among the options of a dial, each of which it resolves by itself
(`Resolves`), and `Follows` how what is bound depends on the target.  Main statement: plans hold the
address that these rules give, and a dial binds a socket to that address before it connects, and to
nothing else (`local_address_of_dial`).
-/

namespace Switchboard.Tcp

variable {m : Type → Type}

/-! ## The rules -/

/-- The local address that the options of a dial come to, if they ask for one. -/
inductive LocalAddress {Hook : Type} (options : List (DialOption Hook)) :
    Except Fault (Option SocketAddr) → Prop where
  /-- the first one that cannot be resolved decides -/
  | turnedDown (before after : List (DialOption Hook)) (wanted : LocalAddr)
      (split : options = before ++ .localAddr wanted :: after)
      (passed : ∀ other, .localAddr other ∈ before → ∃ addr, Resolves other.uri (.ok addr))
      (fault : Fault) (h : Resolves wanted.uri (.error fault)) :
      LocalAddress options (.error fault)
  /-- none is asked for -/
  | free (h : ∀ wanted, .localAddr wanted ∉ options) : LocalAddress options (.ok none)
  /-- all can be resolved, and the last one counts, whatever address it came with -/
  | last (before after : List (DialOption Hook)) (wanted : LocalAddr)
      (split : options = before ++ .localAddr wanted :: after)
      (passed : ∀ other, .localAddr other ∈ before → ∃ addr, Resolves other.uri (.ok addr))
      (addr : SocketAddr) (h : Resolves wanted.uri (.ok addr))
      (none_after : ∀ other, .localAddr other ∉ after) : LocalAddress options (.ok (some addr))

/-- Whether an address stands for every address of its family. -/
def StandsForAll (addr : SocketAddr) : Prop :=
  addr.ip = .v4 .unspecified ∨ addr.ip = .v6 .unspecified

/-- The address that is bound where a local address is wanted towards a target. -/
inductive Follows (wanted target : SocketAddr) : SocketAddr → Prop where
  /-- one that stands for every address of the other family is replaced by that of the target's -/
  | replaced (h : StandsForAll wanted) (other : wanted.family ≠ target.family) :
      Follows wanted target (.unspecified wanted.port target.family)
  | kept (h : StandsForAll wanted → wanted.family = target.family) : Follows wanted target wanted

/-- No socket is bound. -/
def Unbound (calls : Operations m) : Prop :=
  ∀ socket addr answer, ⟨.stage socket (.bind addr), answer⟩ ∉ calls

/-- No socket is connected. -/
def Unconnected (calls : Operations m) : Prop :=
  ∀ socket target progress, ⟨.connect socket target, progress⟩ ∉ calls

/-- What a dial binds a socket to. -/
inductive Binds (request : DialRequest m) (calls : Operations m) :
    Progress (Except Fault (Socket × SocketAddr)) → Prop where
  /-- it ends before it comes to that, and nothing is connected -/
  | early (fault : Fault) (unbound : Unbound calls) (unconnected : Unconnected calls) :
      Binds request calls (.done (.error fault))
  | nothing (free : LocalAddress request.options (.ok none)) (unbound : Unbound calls)
      (result : Progress (Except Fault (Socket × SocketAddr))) : Binds request calls result
  /-- to one address, and nothing is connected before that -/
  | one (wanted target actual : SocketAddr)
      (last : LocalAddress request.options (.ok (some wanted)))
      (htarget : Targets request.uri.host target) (follows : Follows wanted target actual)
      (socket : Socket) (answer : Except IoFault Unit) (before after : Operations m)
      (h : calls = before ++ ⟨.stage socket (.bind actual), answer⟩ :: after)
      (unbound : Unbound (before ++ after)) (unconnected : Unconnected before)
      (result : Progress (Except Fault (Socket × SocketAddr))) : Binds request calls result

/-! ## The options of a dial -/

section

variable {Hook : Type} {options : List (DialOption Hook)}

theorem forall_passes_iff :
    (∀ o ∈ options, Passes o) ↔
      ∀ wanted, .localAddr wanted ∈ options → ∃ addr, Resolves wanted.uri (.ok addr) := by
  constructor
  · intro h wanted hwanted
    exact h _ hwanted wanted rfl
  · rintro h _ hoption wanted rfl
    exact h wanted hoption

theorem wantedAddr?_eq_some_iff {option : DialOption Hook} (passes : Passes option)
    {addr : SocketAddr} :
    wantedAddr? option = some addr ↔
      ∃ wanted, option = .localAddr wanted ∧ Resolves wanted.uri (.ok addr) := by
  constructor
  · intro h
    cases option with
    | keepAlive period => exact nomatch h
    | control hook => exact nomatch h
    | localAddr wanted =>
      obtain ⟨own, hown⟩ := passes wanted rfl
      rw [wantedAddr?_of_resolves hown] at h
      exact ⟨wanted, rfl, Option.some.inj h ▸ hown⟩
  · rintro ⟨wanted, rfl, h⟩
    exact wantedAddr?_of_resolves h

/-- Among options that pass, those that say no local address are those of other kinds. -/
theorem forall_wantedAddr?_eq_none_iff (passed : ∀ o ∈ options, Passes o) :
    (∀ o ∈ options, wantedAddr? o = none) ↔ ∀ wanted, .localAddr wanted ∉ options := by
  constructor
  · intro h wanted hwanted
    obtain ⟨addr, haddr⟩ := passed _ hwanted wanted rfl
    have hsome : wantedAddr? (.localAddr wanted : DialOption Hook) = some addr :=
      wantedAddr?_of_resolves haddr
    simp [h _ hwanted] at hsome
  · intro h option hoption
    cases option with
    | keepAlive period => rfl
    | control hook => rfl
    | localAddr wanted => exact absurd hoption (h wanted)

/-- There is a local address, or none is asked for, only if every option passes. -/
theorem passes_of_localAddress {addr : Option SocketAddr} (h : LocalAddress options (.ok addr)) :
    ∀ o ∈ options, Passes o := by
  refine forall_passes_iff.2 ?_
  intro other hother
  cases h with
  | free h => exact absurd hother (h other)
  | last before after wanted split passed addr h none_after =>
    rw [split, List.mem_append, List.mem_cons] at hother
    rcases hother with hbefore | hwanted | hafter
    · exact passed other hbefore
    · obtain rfl := DialOption.localAddr.inj hwanted
      exact ⟨addr, h⟩
    · exact absurd hafter (none_after other)

/-- If all options pass, the local address is what they say last. -/
theorem localAddress_ok_iff {addr : Option SocketAddr} :
    LocalAddress options (.ok addr) ↔
      (∀ o ∈ options, Passes o) ∧ LastSaid wantedAddr? options addr := by
  constructor
  · intro h
    have passed := passes_of_localAddress h
    refine ⟨passed, ?_⟩
    cases h with
    | free h => exact .unsaid ((forall_wantedAddr?_eq_none_iff passed).2 h)
    | last before after wanted split _ addr h none_after =>
      refine .said before after (.localAddr wanted) addr split
        (wantedAddr?_of_resolves h) ?_
      exact (forall_wantedAddr?_eq_none_iff fun o ho => passed o (by simp [split, ho])).2 none_after
  · rintro ⟨passed, h⟩
    cases h with
    | unsaid h => exact .free ((forall_wantedAddr?_eq_none_iff passed).1 h)
    | said before after option addr split h last =>
      obtain ⟨wanted, rfl, hwanted⟩ :=
        (wantedAddr?_eq_some_iff (passed option (by simp [split]))).1 h
      refine .last before after wanted split ?_ addr hwanted ?_
      · exact forall_passes_iff.1 fun o ho => passed o (by simp [split, ho])
      · exact (forall_wantedAddr?_eq_none_iff fun o ho => passed o (by simp [split, ho])).1 last

theorem localAddress_error_iff {fault : Fault} :
    LocalAddress options (.error fault) ↔
      DialPlan.ofOptions (n := Id) (some filter) options = .error fault := by
  simp only [ofOptions_eq_error_iff, forall_passes_iff]
  constructor
  · intro h
    cases h with
    | turnedDown before after wanted split passed fault h =>
      exact ⟨before, wanted, after, split, passed, h⟩
  · rintro ⟨before, wanted, after, split, passed, h⟩
    exact .turnedDown before after wanted split passed fault h

/-- The local address of a plan is the one that its options come to. -/
theorem localAddress_iff {outcome : Except Fault (Option SocketAddr)} :
    LocalAddress options outcome ↔
      Except.map DialPlan.localAddr (DialPlan.ofOptions (n := Id) (some filter) options)
        = outcome := by
  cases outcome with
  | error fault =>
    rw [localAddress_error_iff]
    cases DialPlan.ofOptions (n := Id) (some filter) options with
    | error other => exact ⟨fun h => Except.error.inj h ▸ rfl, fun h => Except.error.inj h ▸ rfl⟩
    | ok plan => simp [Except.map]
  | ok addr =>
    rw [localAddress_ok_iff, lastSaid_iff]
    constructor
    · rintro ⟨passed, hsaid⟩
      rw [ofOptions_of_passes passed, ← hsaid]
      rfl
    · intro h
      cases hplan : DialPlan.ofOptions (n := Id) (some filter) options with
      | error fault => simp [hplan, Except.map] at h
      | ok plan =>
        have passed := passes_of_ofOptions_eq_ok hplan
        rw [ofOptions_of_passes passed] at h
        exact ⟨passed, Except.ok.inj h⟩

end

/-! ## What follows the target -/

theorem standsForAll_iff {addr : SocketAddr} : StandsForAll addr ↔ addr.isUnspecified = true := by
  cases addr <;> simp [StandsForAll, SocketAddr.ip, SocketAddr.isUnspecified]

theorem localFor_of_follows {wanted target actual : SocketAddr} (h : Follows wanted target actual) :
    localFor wanted target = actual := by
  cases h with
  | replaced h other => simp [localFor, standsForAll_iff.1 h, other]
  | kept h =>
    refine if_neg fun hboth => ?_
    obtain ⟨hall, hother⟩ := Bool.and_eq_true_iff.1 hboth
    simp [h (standsForAll_iff.2 hall)] at hother

theorem exists_follows (wanted target : SocketAddr) : ∃ actual, Follows wanted target actual := by
  by_cases hfamily : wanted.family = target.family
  · exact ⟨_, .kept fun _ => hfamily⟩
  · by_cases hall : StandsForAll wanted
    · exact ⟨_, .replaced hall hfamily⟩
    · exact ⟨_, .kept fun h => absurd h hall⟩

theorem follows_iff {wanted target actual : SocketAddr} :
    Follows wanted target actual ↔ localFor wanted target = actual :=
  rules_iff localFor_of_follows (exists_follows wanted target)

/-! ## What a dial binds -/

theorem unbound_append_iff {first second : Operations m} :
    Unbound (first ++ second) ↔ Unbound first ∧ Unbound second := by
  simp only [Unbound, List.mem_append, not_or, forall_and]

theorem unconnected_append_iff {first second : Operations m} :
    Unconnected (first ++ second) ↔ Unconnected first ∧ Unconnected second := by
  simp only [Unconnected, List.mem_append, not_or, forall_and]

/-- What is done up to a look at the context binds and connects nothing. -/
theorem checking_binds_nothing (settings : Settings) (set now : Moment) :
    Unbound (m := m) (limitReads settings set ++ [⟨.moment, now⟩]) ∧
      Unconnected (m := m) (limitReads settings set ++ [⟨.moment, now⟩]) := by
  unfold limitReads
  cases settings.connectTimeout <;> simp [Unbound, Unconnected]

/-- Nor does the making of a socket. -/
theorem opening_binds_nothing (settings : Settings) (set now : Moment) (family : Family)
    (created : Except IoFault Socket) :
    Unbound (m := m)
        (limitReads settings set ++ [⟨.moment, now⟩, ⟨.create family, created⟩]) ∧
      Unconnected (m := m)
        (limitReads settings set ++ [⟨.moment, now⟩, ⟨.create family, created⟩]) := by
  obtain ⟨unbound, unconnected⟩ := checking_binds_nothing (m := m) settings set now
  rw [List.append_cons]
  exact ⟨unbound_append_iff.2 ⟨unbound, by simp [Unbound]⟩,
    unconnected_append_iff.2 ⟨unconnected, by simp [Unconnected]⟩⟩

section

variable {looks : Context → Nat} {prep : Preparation m} {context : Context} {socket : Socket}
  {calls : Operations m}

/-- What a socket goes through up to its connection connects nothing. -/
theorem unconnected_of_stages {stages : List (Stage m)}
    (h : ∀ c ∈ calls, ∃ stage ∈ stages, ∃ answer, c = staged socket stage answer) :
    Unconnected calls := by
  intro own target progress hmem
  obtain ⟨stage, -, answer, hc⟩ := h _ hmem
  exact nomatch hc

theorem unbound_of_stages {stages : List (Stage m)} (unbound : ∀ addr, .bind addr ∉ stages)
    (h : ∀ c ∈ calls, ∃ stage ∈ stages, ∃ answer, c = staged socket stage answer) :
    Unbound calls := by
  intro own addr answer hmem
  obtain ⟨stage, hstage, answer, hc⟩ := h _ hmem
  cases hc
  exact unbound addr hstage

theorem unbound_of_connects {target : SocketAddr} {progress : Progress (Except Fault Unit)}
    (h : Connects looks context target socket calls progress) : Unbound calls := by
  cases h with
  | waited moment inquiries progress waits =>
    intro own addr answer hmem
    rw [List.mem_cons, List.mem_map] at hmem
    rcases hmem with hmoment | ⟨⟨_ | _, _⟩, -, hinquiry⟩
    · exact nomatch hmoment
    · exact nomatch hinquiry
    · exact nomatch hinquiry

/-- A socket goes through its stages, and what comes after them binds nothing; nothing comes after
one that fails. -/
theorem exists_readies_of_setsUp {result : Progress (Except Fault SocketAddr)}
    (h : SetsUp looks prep context socket calls result) :
    ∃ first ready rest, calls = first ++ rest ∧
      Dialogue.InOrder (staged socket) (readying prep) first ready ∧ Unbound rest ∧
      ∀ fault, ready = .error fault → rest = [] ∧ result = .done (.error (.io fault)) := by
  cases h with
  | unready _ fault readies =>
    refine ⟨calls, .error fault, [], (List.append_nil calls).symm, readies, by simp [Unbound], ?_⟩
    rintro other ⟨rfl⟩
    exact ⟨rfl, rfl⟩
  | unconnected waited fault connects =>
    exact ⟨_, .ok (), _, rfl, .all, unbound_of_connects connects, nofun⟩
  | unended waited connects =>
    exact ⟨_, .ok (), _, rfl, .all, unbound_of_connects connects, nofun⟩
  | undelayed waited connects fault =>
    refine ⟨_, .ok (), _, List.append_assoc .., .all, ?_, nofun⟩
    exact unbound_append_iff.2 ⟨unbound_of_connects connects, by simp [Unbound]⟩
  | named waited connects answer =>
    refine ⟨_, .ok (), _, List.append_assoc .., .all, ?_, nofun⟩
    exact unbound_append_iff.2 ⟨unbound_of_connects connects, by simp [Unbound]⟩

/-- If no local address is wanted, nothing is bound. -/
theorem unbound_of_setsUp {result : Progress (Except Fault SocketAddr)}
    (h : SetsUp looks prep context socket calls result) (hnone : prep.plan.localAddr = none) :
    Unbound calls := by
  obtain ⟨first, ready, rest, rfl, readies, hrest, -⟩ := exists_readies_of_setsUp h
  refine unbound_append_iff.2 ⟨unbound_of_stages ?_ readies.mem, hrest⟩
  rw [readying, hnone]
  cases prep.plan.control <;> cases prep.plan.keepAlive <;> simp

/-- If a local address is wanted it is bound in one stage, and the connection comes later, unless an
earlier stage fails. -/
theorem bound_of_setsUp {result : Progress (Except Fault SocketAddr)}
    (h : SetsUp looks prep context socket calls result) {wanted : SocketAddr}
    (hsome : prep.plan.localAddr = some wanted) :
    (∃ fault, result = .done (.error fault) ∧ Unbound calls ∧ Unconnected calls) ∨
      ∃ answer before after,
        calls = before ++ ⟨.stage socket (.bind (boundAddr wanted prep.target)), answer⟩ :: after ∧
        Unbound (before ++ after) ∧ Unconnected before := by
  obtain ⟨first, ready, rest, rfl, readies, hrest, hlast⟩ := exists_readies_of_setsUp h
  obtain ⟨before, hstages, hbefore⟩ : ∃ before,
      readying prep = before ++ .bind (boundAddr wanted prep.target) :: [.nonBlocking] ∧
        ∀ addr, .bind addr ∉ before := by
    refine ⟨_, by rw [readying, hsome]; exact List.append_assoc _ [_] [_], ?_⟩
    cases prep.plan.control <;> cases prep.plan.keepAlive <;> simp
  rw [hstages] at readies
  rcases readies.reaches with ⟨fault, rfl, hfirst⟩ | ⟨answer, later, rfl, hlater⟩
  · obtain ⟨rfl, rfl⟩ := hlast fault rfl
    rw [List.append_nil]
    exact .inl ⟨.io fault, rfl, unbound_of_stages hbefore hfirst.mem,
      unconnected_of_stages hfirst.mem⟩
  · have well : Dialogue.InOrder (staged socket) before _ _ := .all
    refine .inr ⟨answer, before.map (staged socket · (.ok ())), later ++ rest, by simp [staged], ?_,
      unconnected_of_stages well.mem⟩
    exact unbound_append_iff.2 ⟨unbound_of_stages hbefore well.mem,
      unbound_append_iff.2 ⟨unbound_of_stages (by simp) hlater, hrest⟩⟩

/-- The plan and the target of a dial that may be begun. -/
theorem Begun.localAddress {request : DialRequest m} {set now : Moment}
    (h : Begun request prep set now context) :
    LocalAddress request.options (.ok prep.plan.localAddr) ∧
      Targets request.uri.host prep.target := by
  obtain ⟨prepares, -⟩ := h
  cases prepares with
  | ready settings readable passed target htarget =>
    exact ⟨localAddress_ok_iff.2 ⟨passed, lastSaid_iff.2 rfl⟩, htarget⟩

/-- A dial that comes to a socket binds what the rules say, if nothing else is bound. -/
theorem binds_of_setsUp {request : DialRequest m} {set now : Moment}
    (begun : Begun request prep set now context) {outcome : Progress (Except Fault SocketAddr)}
    (setsUp : SetsUp looks prep context socket calls outcome) {first : Operations m}
    (hfirst : Unbound first ∧ Unconnected first) (last : Operations m)
    (hlast : Unbound last ∧ Unconnected last) :
    Binds request (first ++ (calls ++ last)) (outcome.map (Except.map (socket, ·))) := by
  obtain ⟨hlocal, htarget⟩ := begun.localAddress
  cases hplan : prep.plan.localAddr with
  | none =>
    refine .nothing (hplan ▸ hlocal) (unbound_append_iff.2 ⟨hfirst.1, ?_⟩) _
    exact unbound_append_iff.2 ⟨unbound_of_setsUp setsUp hplan, hlast.1⟩
  | some wanted =>
    rcases bound_of_setsUp setsUp hplan with ⟨fault, rfl, hunbound, hunconnected⟩ |
      ⟨answer, before, after, rfl, hunbound, hunconnected⟩
    · exact .early fault
        (unbound_append_iff.2 ⟨hfirst.1, unbound_append_iff.2 ⟨hunbound, hlast.1⟩⟩)
        (unconnected_append_iff.2 ⟨hfirst.2, unconnected_append_iff.2 ⟨hunconnected, hlast.2⟩⟩)
    · have hfollows : Follows wanted prep.target (boundAddr wanted prep.target) :=
        follows_iff.2 (boundAddr_eq wanted prep.target).symm
      obtain ⟨hbefore, hafter⟩ := unbound_append_iff.1 hunbound
      refine .one wanted prep.target _ (hplan ▸ hlocal) htarget hfollows socket answer
        (first ++ before) (after ++ last) (by simp) ?_ ?_ _
      · exact unbound_append_iff.2
          ⟨unbound_append_iff.2 ⟨hfirst.1, hbefore⟩, unbound_append_iff.2 ⟨hafter, hlast.1⟩⟩
      · exact unconnected_append_iff.2 ⟨hfirst.2, hunconnected⟩

theorem binds_of_dials {request : DialRequest m}
    {result : Progress (Except Fault (Socket × SocketAddr))}
    (h : Dials looks request calls result) : Binds request calls result := by
  have hnothing : Unbound (m := m) [] ∧ Unconnected (m := m) [] :=
    ⟨by simp [Unbound], by simp [Unconnected]⟩
  cases h with
  | refused fault prepares => exact .early fault hnothing.1 hnothing.2
  | unbegun prep prepares set now fault begins =>
    obtain ⟨unbound, unconnected⟩ := checking_binds_nothing (m := m) prep.settings set now
    exact .early fault unbound unconnected
  | uncreated prep set now context begun fault =>
    obtain ⟨unbound, unconnected⟩ :=
      opening_binds_nothing (m := m) prep.settings set now prep.target.family (.error fault)
    exact .early (.io fault) unbound unconnected
  | failed prep set now context begun socket calls fault setsUp =>
    have hbinds := binds_of_setsUp begun setsUp
      (opening_binds_nothing prep.settings set now prep.target.family (.ok socket))
      [⟨.release socket, ()⟩] ⟨by simp [Unbound], by simp [Unconnected]⟩
    simpa [Progress.map, Except.map] using hbinds
  | unended prep set now context begun socket calls setsUp =>
    have hbinds := binds_of_setsUp begun setsUp
      (opening_binds_nothing prep.settings set now prep.target.family (.ok socket)) [] hnothing
    simpa [Progress.map] using hbinds
  | connected prep set now context begun socket calls addr setsUp =>
    have hbinds := binds_of_setsUp begun setsUp
      (opening_binds_nothing prep.settings set now prep.target.family (.ok socket)) [] hnothing
    simpa [Progress.map, Except.map] using hbinds

end

/-- A plan can be made of options if each local address among them can be resolved, and has the one
that the rules give; towards a target an address that stands for all follows its family.  A dial
binds a socket to that address and to nothing else, and connects it only then. -/
theorem local_address_of_dial :
    (∀ (Hook : Type) (options : List (DialOption Hook)), ∃ made,
      (∀ (n : Type → Type) [Monad n] [LawfulMonad n],
        DialPlan.ofOptions (n := n) (some filter) options = pure made) ∧
      (∀ outcome, LocalAddress options outcome ↔ made.map DialPlan.localAddr = outcome) ∧
      ((∃ plan, made = .ok plan) ↔
        ∀ wanted, .localAddr wanted ∈ options → ∃ addr, Resolves wanted.uri (.ok addr))) ∧
    (∀ wanted target actual, Follows wanted target actual ↔ localFor wanted target = actual) ∧
    (∀ wanted target, StandsForAll wanted → (localFor wanted target).family = target.family) ∧
    ∀ (m : Type → Type) [Monad m] [LawfulMonad m] (looks : Context → Nat)
      (request : DialRequest m),
      ∃ d : Talk m (Progress (Except Fault (Socket × SocketAddr))),
        (∀ calls result, d.Leads calls result ↔ Dials looks request calls result) ∧
        (∀ calls result, d.Leads calls result → Binds request calls result) ∧
        ∀ p : Platform m, p.looks = looks →
          dial p request = d.run (Operation.perform p) >>= fun
            | .done result => pure (result.map (dialled p request.uri))
            | .waiting => p.never >>= fun never => nomatch never := by
  refine ⟨?_, fun _ _ _ => follows_iff, ?_, ?_⟩
  · intro Hook options
    refine ⟨DialPlan.ofOptions (n := Id) (some filter) options, ?_, fun _ => localAddress_iff, ?_⟩
    · intro n _ _
      exact Plan.make_pure _ options
    · rw [← forall_passes_iff]
      exact ⟨fun ⟨_, hplan⟩ => passes_of_ofOptions_eq_ok hplan,
        fun passed => ⟨_, ofOptions_of_passes passed⟩⟩
  · intro wanted target h
    exact family_localFor_of_unspecified (standsForAll_iff.1 h) target
  · intro m _ _ looks request
    refine ⟨attempt looks request, ?_, ?_, ?_⟩
    · intro calls result
      exact ⟨dials_of_leads, leads_of_dials⟩
    · intro calls result h
      exact binds_of_dials (dials_of_leads h)
    · rintro p rfl
      exact run_attempt p request

/-- Of two local addresses the last one counts, and not the address that it came with; it stands for
every IPv6 address, and the target has an IPv4 one. -/
theorem local_address_of_dial_of_other_family :
    let specified : LocalAddr :=
      { uri := { scheme := transportName, host := "127.0.0.1:9".toList } }
    let every : LocalAddr :=
      { uri := { scheme := transportName, host := "[::]:7".toList }
        addr := some (.v4 .loopback 9) }
    let options : List (DialOption (Hook Id)) :=
      [.localAddr specified, .keepAlive 20, .localAddr every]
    let request : DialRequest Id :=
      { context := ⟨⟨0⟩, .never⟩, config := .empty
        uri := { scheme := transportName, host := "127.0.0.1:80".toList }, options := options }
    let plan : DialPlan (Hook Id) :=
      { keepAlive := some 20, localAddr := some (.v6 .unspecified 7 0) }
    let looks : Context → Nat := fun _ => 1
    let calm : Sight := { cancelled := false, timeUp := false }
    let calls : Operations Id :=
      [⟨.moment, ⟨5, {}⟩⟩, ⟨.create .v4, .ok ⟨7⟩⟩, ⟨.stage ⟨7⟩ (.probe (some 20)), .ok ()⟩,
        ⟨.stage ⟨7⟩ (.bind (.v4 .unspecified 7)), .ok ()⟩, ⟨.stage ⟨7⟩ .nonBlocking, .ok ()⟩,
        ⟨.moment, ⟨5, {}⟩⟩, ⟨.sight request.context 0, calm⟩,
        ⟨.connect ⟨7⟩ (.v4 .loopback 80), .done (.ok ())⟩, ⟨.stage ⟨7⟩ (.noDelay true), .ok ()⟩,
        ⟨.localAddr ⟨7⟩, .ok (.v4 .loopback 4000)⟩]
    DialPlan.ofOptions (n := Id) (some filter) options = pure (.ok plan) ∧
      LocalAddress options (.ok (some (.v6 .unspecified 7 0))) ∧
      (∃ addr, Resolves specified.uri (.ok addr)) ∧
      Follows (.v6 .unspecified 7 0) (.v4 .loopback 80) (.v4 .unspecified 7) ∧
      (localFor (.v6 .unspecified 7 0) (.v4 .loopback 80)).family = .v4 ∧
      ∃ d : Talk Id (Progress (Except Fault (Socket × SocketAddr))),
        d.Leads calls (.done (.ok (⟨7⟩, .v4 .loopback 4000))) ∧
        Binds request calls (.done (.ok (⟨7⟩, .v4 .loopback 4000))) ∧
        ∀ p : Platform Id, p.looks = looks →
          dial p request = d.run (Operation.perform p) >>= fun
            | .done result => pure (result.map (dialled p request.uri))
            | .waiting => p.never >>= fun never => nomatch never := by
  intro specified every options request plan looks calm calls
  obtain ⟨hoptions, hfollows, hfamily, hdial⟩ := local_address_of_dial
  obtain ⟨made, hmade, haddress, hall⟩ := hoptions (Hook Id) options
  have hplan : made = .ok plan := (hmade Id).symm
  obtain ⟨d, hrules, hbinds, hrun⟩ := hdial Id looks request
  have passed : ∀ o ∈ request.options, Passes o := forall_passes_iff.2 (hall.1 ⟨plan, hplan⟩)
  have target : Targets request.uri.host (.v4 .loopback 80) :=
    .hosted _ _ (by decide) (by decide)
  have early : ¬ Deadline.never.Come ⟨5, {}⟩ := by simp [Deadline.Come, Deadline.never]
  have wanted : ∀ c : Context, ¬ c.TakenBack ⟨5, {}⟩ := by simp [Context.TakenBack]
  have prepares := Prepares.ready {} (.usual rfl) passed _ target
  have inTime : ¬ Overdue {} request.context ⟨5, {}⟩ ⟨5, {}⟩ := not_or.2 ⟨early, early⟩
  have earliest : Deadline.Earliest [Deadline.never, .never] .never := .never (by simp)
  have begins := Begins.ready inTime (wanted _) .never earliest
  have quiet : Wait.Undisturbed request.context calm :=
    ⟨rfl, fun fired => Bool.false_ne_true fired.1⟩
  have waits : Wait.Waits request.context ⟨5, {}⟩ "tcp connect" 1
      [⟨.sight 0, calm⟩, ⟨.task, .done (.ok ())⟩] (.done (.ok ())) :=
    .ended early (wanted _) [] (by simp) (by decide) _ _ (.finished calm quiet (.ok ()))
  have connects : Connects (m := Id) looks request.context (.v4 .loopback 80) ⟨7⟩ _
    (.done (.ok ())) := .waited ⟨5, {}⟩ _ _ waits
  have setsUp : SetsUp looks ⟨{}, planOf options, .v4 .loopback 80⟩ request.context ⟨7⟩ _
      (.done (.ok (.v4 .loopback 4000))) := .named _ connects (.ok (.v4 .loopback 4000))
  have hleads : d.Leads calls (.done (.ok (⟨7⟩, .v4 .loopback 4000))) :=
    (hrules _ _).2 (.connected _ _ _ _ ⟨prepares, begins⟩ ⟨7⟩ _ _ setsUp)
  refine ⟨?_, (haddress _).2 ?_, hall.1 ⟨plan, hplan⟩ specified ?_, (hfollows _ _ _).2 rfl,
    hfamily _ _ (.inr rfl), d, hleads, hbinds _ _ hleads, hrun⟩
  · rw [hmade, hplan]
  · rw [hplan]
    rfl
  · exact List.mem_cons_self

end Switchboard.Tcp
