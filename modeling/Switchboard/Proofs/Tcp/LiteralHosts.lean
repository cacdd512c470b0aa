import Switchboard.Proofs.Address.HostPortText
import Switchboard.Proofs.Call.Plans
import Switchboard.Tcp.Listen

set_option autoImplicit false

/-!
# Canonical hosts, as the TCP transport reads them

A URI is canonical by one reader of its host, which takes the brackets off and then looks for an IP
address; the TCP transport reads the same text as a socket address.  The two agree on the address
and on the port of every host but one kind: an IPv4 address in brackets is canonical, and no socket
address.  Main statement: apart from those hosts, and only apart from them, the transport can use
whatever is canonical (`usable_iff_not_bracketsIpv4`).

The transport reads hosts in three places: for the local address of a dial, for its target, and for
the address of a listener.  `Usable` and `Unusable` say what comes of it in each.
-/

namespace Switchboard.Tcp

/-- A host that is an IPv4 address in brackets, with something behind a colon. -/
def BracketsIpv4 (host : Text) : Prop :=
  ∃ address port ip, Ipv4.read? address = some ip ∧ host = '[' :: address ++ ']' :: ':' :: port

/-- The transport takes the host of a URI for an address wherever it reads it. -/
structure Usable (uri : Uri) (addr : SocketAddr) : Prop where
  host : hostAddr uri.host = .ok addr
  /-- as the local address of a dial -/
  asLocal : uri.transport = transportName → localAddrOf uri = .ok addr
  /-- as the target of a dial -/
  asTarget : ∀ {m : Type → Type} (request : DialRequest m) (prep : Preparation m),
    request.uri = uri → prepare request = .ok prep → prep.target = addr
  /-- a dial whose preparation ends in a fault of this kind was given a local address that the
  transport cannot use -/
  dialled : ∀ {m : Type → Type} (request : DialRequest m) (fault : IoFault),
    request.uri = uri → prepare request = .error (.io fault) →
      ∃ wanted, .localAddr wanted ∈ request.options ∧ BracketsIpv4 wanted.uri.host
  /-- a listen comes to no fault of this kind before its socket is made, for the address -/
  listened : ∀ {m : Type → Type} [Monad m] (p : Platform m) (request : ListenRequest m),
    request.uri = uri →
      (∀ moment fault, prepareListen p moment request ≠ .error (.io fault)) ∧
        createFor p request.uri.host = do return (← p.create addr.family).map (·, addr)

/-- The transport turns the host of a URI down wherever it reads it, and makes no socket. -/
structure Unusable (uri : Uri) : Prop where
  host : hostAddr uri.host = .error (.notLiteralAddress uri.host)
  /-- as the local address of a dial -/
  asLocal : uri.transport = transportName →
    localAddrOf uri = .error (.io (.notLiteralAddress uri.host))
  /-- as the target of a dial -/
  dialled : ∀ {m : Type → Type} [Monad m] (p : Platform m) (request : DialRequest m),
    request.uri = uri → ∃ fault, dial p request = pure (.error fault)
  /-- as the address of a listener -/
  listened : ∀ {m : Type → Type} [Monad m] [LawfulMonad m] (p : Platform m)
    (request : ListenRequest m), request.uri = uri → ∃ fault : Moment → Fault,
      openPost p request = do return .error (fault (← p.moment))

/-! ## The two readers -/

section

variable {host address port : Text} {ip : Ip} {n : UInt16}

theorem not_bracketsIpv4_of_unmarked (h : HostPort.Unmarked address) :
    ¬ BracketsIpv4 (address ++ ':' :: port) := by
  rintro ⟨inner, rest, -, -, heq⟩
  cases address with
  | nil => simp at heq
  | cons c tail =>
    obtain rfl : c = '[' := (List.cons.inj heq).1
    exact h.2.1 (by simp)

/-- The address that a bracketed host holds is the one between its brackets. -/
theorem bracketsIpv4_iff (port : Text) (hclose : ']' ∉ address) :
    BracketsIpv4 ('[' :: address ++ ']' :: ':' :: port) ↔ ∃ ip, Ipv4.read? address = some ip := by
  constructor
  · rintro ⟨inner, rest, ip, hip, heq⟩
    have hinner : ']' ∉ inner := Ip.not_mem_of_read? (Ip.read?_eq_v4_iff.2 hip) rfl
    have htail : address ++ ']' :: ':' :: port = inner ++ ']' :: ':' :: rest :=
      (List.cons.inj heq).2
    have hcut := Text.cut?_append_cons (':' :: port) hclose
    rw [htail, Text.cut?_append_cons _ hinner] at hcut
    simp only [Option.some.injEq, Prod.mk.injEq] at hcut
    exact ⟨ip, hcut.1 ▸ hip⟩
  · rintro ⟨ip, hip⟩
    exact ⟨address, port, ip, hip, rfl⟩

/-- What the reader of socket addresses makes of a host that is an address and a port number. -/
theorem socketAddr_of_split (hsplit : HostPort.split host = .ok (address, port))
    (hip : Ip.read? address = some ip) (hport : SocketAddr.readPort? port = some n) :
    BracketsIpv4 host ∧ SocketAddr.read? host = none ∨
      ¬ BracketsIpv4 host ∧ SocketAddr.read? host = some (.ofIp n ip) := by
  have hclose : ']' ∉ address := Ip.not_mem_of_read? hip rfl
  have hzone : '%' ∉ address := Ip.not_mem_of_read? hip rfl
  rcases HostPort.split_eq_ok_iff.1 hsplit with ⟨haddress, -, rfl⟩ | ⟨-, -, rfl⟩
  · refine .inr ⟨not_bracketsIpv4_of_unmarked haddress, ?_⟩
    have hread := SocketAddr.read?_join hip hport
    rwa [HostPort.join_of_not_mem haddress.1] at hread
  · rw [bracketsIpv4_iff port hclose, SocketAddr.read?_bracketed hclose hzone, hport]
    cases ip with
    | v4 inner =>
      have hv4 : Ipv4.read? address = some inner := Ip.read?_eq_v4_iff.1 hip
      refine .inl ⟨⟨inner, hv4⟩, ?_⟩
      cases hv6 : Ipv6.read? address with
      | none => rfl
      | some other => exact absurd (Ipv6.colon_mem_of_read? hv6) (Ipv4.colon_not_mem_of_read? hv4)
    | v6 inner =>
      have hv6 : Ipv6.read? address = some inner := Ip.read?_eq_v6_iff.1 hip
      have hv4 : Ipv4.read? address = none := Ip.read?_ipv4_eq_none (Ipv6.colon_mem_of_read? hv6)
      refine .inr ⟨by simp [hv4], ?_⟩
      rw [hv6]
      rfl

end

theorem split_of_isCanonical {uri : Uri} (hhost : uri.host ≠ []) (h : uri.isCanonical = true) :
    ∃ address port ip n, HostPort.split uri.host = .ok (address, port) ∧
      Ip.read? address = some ip ∧ SocketAddr.readPort? port = some n := by
  exact Uri.isLiteralHost_iff.1 ((Uri.isCanonical_iff.1 h).2.resolve_left hhost)

/-- A canonical host is a socket address, unless it is an IPv4 address in brackets. -/
theorem hostAddr_of_split {host address port : Text} {ip : Ip} {n : UInt16}
    (hsplit : HostPort.split host = .ok (address, port)) (hip : Ip.read? address = some ip)
    (hport : SocketAddr.readPort? port = some n) :
    BracketsIpv4 host ∧ hostAddr host = .error (.notLiteralAddress host) ∨
      ¬ BracketsIpv4 host ∧ hostAddr host = .ok (.ofIp n ip) := by
  have hhost : host ≠ [] := by
    rintro rfl
    simp [HostPort.split, HostPort.splitPlain] at hsplit
  refine (socketAddr_of_split hsplit hip hport).imp (And.imp_right ?_) (And.imp_right ?_)
  · intro hread
    rw [hostAddr, if_neg hhost, hread]
  · intro hread
    rw [hostAddr, if_neg hhost, hread]

/-! ## Where the transport reads a host -/

/-- Of the canonical local addresses of this transport, exactly the IPv4 addresses in brackets are
turned down. -/
theorem localAddrOf_eq_io_iff {uri : Uri} {fault : IoFault} :
    localAddrOf uri = .error (.io fault) ↔
      uri.isCanonical = true ∧ uri.transport = transportName ∧ BracketsIpv4 uri.host ∧
        fault = .notLiteralAddress uri.host := by
  unfold localAddrOf
  cases hcanonical : uri.isCanonical with
  | false => simp
  | true =>
    by_cases htransport : uri.transport = transportName
    · simp only [Bool.not_true, Bool.false_eq_true, if_false, htransport, ne_eq, not_true_eq_false,
        true_and]
      by_cases hhost : uri.host = []
      · have hplain : ¬ BracketsIpv4 uri.host := by
          rintro ⟨address, port, ip, -, heq⟩
          simp [hhost] at heq
        simp [hostAddr, hhost, hhost ▸ hplain]
      · obtain ⟨address, port, ip, n, hsplit, hip, hn⟩ := split_of_isCanonical hhost hcanonical
        rcases hostAddr_of_split hsplit hip hn with ⟨hbrackets, heq⟩ | ⟨hplain, heq⟩
        · simp [heq, hbrackets, eq_comm]
        · simp [heq, hplain]
    · simp [htransport]

theorem exists_localAddr_of_settle_error {Hook : Type} {option : DialOption Hook} {fault : Fault}
    (h : settle option = .error fault) :
    ∃ wanted, option = .localAddr wanted ∧ localAddrOf wanted.uri = .error fault := by
  cases option with
  | keepAlive period => simp [settle] at h
  | control hook => simp [settle] at h
  | localAddr wanted =>
    refine ⟨wanted, rfl, ?_⟩
    cases hread : localAddrOf wanted.uri with
    | error other => simpa [settle, hread, Except.map] using h
    | ok addr => simp [settle, hread, Except.map] at h

/-- A section that cannot be read is the fault of the section, whatever is wrong with it. -/
theorem ofTable_eq_error {table : Toml.Table} {fault : Fault}
    (h : Settings.ofTable table = .error fault) :
    ∃ message, fault = .config "transport.tcp".toList message := by
  rcases bind_eq_error_iff.1 h with hdelay | ⟨delay, -, hrest⟩
  · unfold Settings.readNoDelay at hdelay
    split at hdelay
    all_goals simp only [reduceCtorEq, Except.error.injEq] at hdelay
    exact ⟨_, hdelay.symm⟩
  · rcases bind_eq_error_iff.1 hrest with htimeout | ⟨timeout, -, hlast⟩
    · unfold Settings.readConnectTimeout at htimeout
      repeat' split at htimeout
      all_goals simp only [reduceCtorEq, Except.error.injEq] at htimeout
      all_goals exact ⟨_, htimeout.symm⟩
    · simp [pure, Except.pure] at hlast

theorem ofConfig_eq_error {config : Config} {fault : Fault}
    (h : Settings.ofConfig config = .error fault) :
    ∃ message, fault = .config "transport.tcp".toList message := by
  unfold Settings.ofConfig at h
  split at h
  · exact nomatch h
  · exact ofTable_eq_error h

theorem ofConfig_ne_io {config : Config} {fault : IoFault} :
    Settings.ofConfig config ≠ .error (.io fault) := by
  intro h
  obtain ⟨message, hfault⟩ := ofConfig_eq_error h
  exact nomatch hfault

theorem check_ne_io {context : Context} {moment : Moment} {operation : String} {fault : IoFault} :
    context.check moment operation ≠ .error (.io fault) := by
  unfold Context.check
  repeat' split
  all_goals simp

theorem mapError_io_eq_ok_iff {α : Type} {x : Except IoFault α} {a : α} :
    x.mapError Fault.io = .ok a ↔ x = .ok a := by
  cases x <;> simp

theorem mapError_io_eq_error_iff {α : Type} {x : Except IoFault α} {fault : IoFault} :
    x.mapError Fault.io = .error (.io fault) ↔ x = .error fault := by
  cases x <;> simp

/-- A dial that may be begun has read its target. -/
theorem hostAddr_of_prepare {m : Type → Type} {request : DialRequest m} {prep : Preparation m}
    (h : prepare request = .ok prep) : hostAddr request.uri.host = .ok prep.target := by
  obtain ⟨settings, -, hsettings⟩ := bind_eq_ok_iff.1 h
  obtain ⟨plan, -, hplan⟩ := bind_eq_ok_iff.1 hsettings
  obtain ⟨target, htarget, hlast⟩ := bind_eq_ok_iff.1 hplan
  obtain rfl := Except.ok.inj hlast
  exact mapError_io_eq_ok_iff.1 htarget

/-- A preparation ends in a fault of this kind over a local address or over the target. -/
theorem cause_of_prepare {m : Type → Type} {request : DialRequest m} {fault : IoFault}
    (h : prepare request = .error (.io fault)) :
    (∃ wanted, .localAddr wanted ∈ request.options ∧ BracketsIpv4 wanted.uri.host) ∨
      hostAddr request.uri.host = .error fault := by
  rcases bind_eq_error_iff.1 h with hsettings | ⟨settings, -, hsettings⟩
  · exact absurd hsettings ofConfig_ne_io
  · rcases bind_eq_error_iff.1 hsettings with hplan | ⟨plan, -, hplan⟩
    · obtain ⟨before, option, after, split, -, hoption⟩ := Plan.make_eq_error_iff.1 hplan
      obtain ⟨wanted, rfl, hwanted⟩ := exists_localAddr_of_settle_error hoption
      exact .inl ⟨wanted, by simp [split], (localAddrOf_eq_io_iff.1 hwanted).2.2.1⟩
    · rcases bind_eq_error_iff.1 hplan with htarget | ⟨target, -, hlast⟩
      · exact .inr (mapError_io_eq_error_iff.1 htarget)
      · simp [pure, Except.pure] at hlast

theorem prepareListen_ne_io {m : Type → Type} (p : Platform m) [Monad m] {moment : Moment}
    {request : ListenRequest m} {fault : IoFault} :
    prepareListen p moment request ≠ .error (.io fault) := by
  intro h
  rcases bind_eq_error_iff.1 h with hcheck | ⟨_, -, hsettings⟩
  · exact absurd hcheck check_ne_io
  · rcases bind_eq_error_iff.1 hsettings with hsettings | ⟨settings, -, hplan⟩
    · exact absurd hsettings ofConfig_ne_io
    · rcases bind_eq_error_iff.1 hplan with hplan | ⟨_, -, hlast⟩
      · -- without a filter the options make a plan, whatever they are
        have hmade := Plan.make_none (n := Id) ListenPlan.apply {}
          (request.options ++ [.control (reuseHook p)])
        exact absurd (hmade.symm.trans hplan) (by simp [pure])
      · simp [pure, Except.pure] at hlast

theorem createFor_eq {m : Type → Type} [Monad m] (p : Platform m) {host : Text} (h : host ≠ []) :
    createFor p host = match hostAddr host with
      | .error fault => pure (.error fault)
      | .ok addr => do return (← p.create addr.family).map (·, addr) := by
  cases hread : hostAddr host <;> simp only [createFor, h, if_false, hread]

theorem usable_of_hostAddr {uri : Uri} {addr : SocketAddr} (hhost : uri.host ≠ [])
    (hcanonical : uri.isCanonical = true) (h : hostAddr uri.host = .ok addr) :
    Usable uri addr where
  host := h
  asLocal htransport := by
    rw [localAddrOf, h]
    simp [hcanonical, htransport]
  asTarget request prep huri hprep := by
    have hread := hostAddr_of_prepare hprep
    rw [huri, h] at hread
    exact (Except.ok.inj hread).symm
  dialled request fault huri hfault := by
    refine (cause_of_prepare hfault).resolve_right ?_
    rw [huri, h]
    simp
  listened p request huri := by
    refine ⟨fun moment fault => prepareListen_ne_io p, ?_⟩
    rw [huri, createFor_eq p hhost, h]

theorem unusable_of_hostAddr {uri : Uri} (hhost : uri.host ≠ [])
    (hcanonical : uri.isCanonical = true)
    (h : hostAddr uri.host = .error (.notLiteralAddress uri.host)) : Unusable uri where
  host := h
  asLocal htransport := by
    rw [localAddrOf, h]
    simp [hcanonical, htransport]
  dialled p request huri := by
    cases hprep : prepare request with
    | error fault => exact ⟨fault, by simp only [dial, hprep]⟩
    | ok prep =>
      have hread := hostAddr_of_prepare hprep
      rw [huri, h] at hread
      simp at hread
  listened p request huri := by
    have hcreate : createFor p request.uri.host = pure (.error (.notLiteralAddress uri.host)) := by
      rw [huri, createFor_eq p hhost, h]
    have hfails : ∀ moment, ∃ fault, prepareListen p moment request = .error fault ∨
        fault = .io (.notLiteralAddress uri.host) ∧
          ∃ ready, prepareListen p moment request = .ok ready := by
      intro moment
      cases hready : prepareListen p moment request with
      | error fault => exact ⟨fault, .inl rfl⟩
      | ok ready => exact ⟨_, .inr ⟨rfl, ready, rfl⟩⟩
    obtain ⟨fault, hfault⟩ := Classical.axiomOfChoice hfails
    refine ⟨fault, ?_⟩
    rw [openPost]
    congr 1
    funext moment
    rcases hfault moment with hready | ⟨hfirst, ready, hready⟩
    · simp only [hready]
    · simp [hready, hcreate, hfirst]

/-- The transport can use the host of every canonical URI, with the address and the port that made
it canonical, unless the host is an IPv4 address in brackets; such a host it can use nowhere. -/
theorem usable_iff_not_bracketsIpv4 (uri : Uri) (hhost : uri.host ≠ [])
    (hcanonical : uri.isCanonical = true) :
    ∃ address port ip n, HostPort.split uri.host = .ok (address, port) ∧
      Ip.read? address = some ip ∧ SocketAddr.readPort? port = some n ∧
      (¬ BracketsIpv4 uri.host → Usable uri (.ofIp n ip)) ∧
      (BracketsIpv4 uri.host → Unusable uri) := by
  obtain ⟨address, port, ip, n, hsplit, hip, hn⟩ := split_of_isCanonical hhost hcanonical
  refine ⟨address, port, ip, n, hsplit, hip, hn, ?_⟩
  rcases hostAddr_of_split hsplit hip hn with ⟨hbrackets, heq⟩ | ⟨hplain, heq⟩
  · exact ⟨absurd hbrackets, fun _ => unusable_of_hostAddr hhost hcanonical heq⟩
  · exact ⟨fun _ => usable_of_hostAddr hhost hcanonical heq, fun h => absurd h hplain⟩

/-- An IPv6 address that holds an IPv4 address, and a port with leading zeros. -/
theorem usable_mappedIpv4 :
    let uri : Uri := { scheme := transportName, host := "[::ffff:1.2.3.4]:0080".toList }
    uri.host ≠ [] ∧ uri.isCanonical = true ∧ ¬ BracketsIpv4 uri.host ∧
      Usable uri (.v6 (.ofMapped ⟨1, 2, 3, 4⟩) 80 0) := by
  intro uri
  have hhost : uri.host ≠ [] := by decide
  have hcanonical : uri.isCanonical = true := by decide
  have hplain : ¬ BracketsIpv4 uri.host := by
    have hclose : ']' ∉ "::ffff:1.2.3.4".toList := by decide
    have hnone : Ipv4.read? "::ffff:1.2.3.4".toList = none := by decide
    intro h
    obtain ⟨ip, hip⟩ := (bracketsIpv4_iff "0080".toList hclose).1 h
    exact Option.some_ne_none ip (hip.symm.trans hnone)
  obtain ⟨address, port, ip, n, hsplit, hip, hn, husable, -⟩ :=
    usable_iff_not_bracketsIpv4 uri hhost hcanonical
  have hparts : HostPort.split uri.host = .ok ("::ffff:1.2.3.4".toList, "0080".toList) := rfl
  obtain ⟨rfl, rfl⟩ := Prod.mk.inj (Except.ok.inj (hparts.symm.trans hsplit))
  have haddress : Ip.read? "::ffff:1.2.3.4".toList = some (.v6 (.ofMapped ⟨1, 2, 3, 4⟩)) := by
    decide
  have hnumber : SocketAddr.readPort? "0080".toList = some 80 := by decide
  obtain rfl := Option.some.inj (haddress.symm.trans hip)
  obtain rfl := Option.some.inj (hnumber.symm.trans hn)
  exact ⟨hhost, hcanonical, hplain, husable hplain⟩

/-- The loopback address in brackets is canonical, and the transport turns it down. -/
theorem canonical_bracketed_loopback_turned_down :
    ∃ uri, Uri.parse "tcp://[127.0.0.1]:80".toList = .ok uri ∧ uri.isCanonical = true ∧
      HostPort.split uri.host = .ok ("127.0.0.1".toList, "80".toList) ∧
      Ip.read? "127.0.0.1".toList = some (.v4 .loopback) ∧
      SocketAddr.readPort? "80".toList = some 80 ∧
      hostAddr uri.host = .error (.notLiteralAddress uri.host) ∧
      @settle Unit (.localAddr { uri := uri })
        = .error (.io (.notLiteralAddress uri.host)) :=
  ⟨{ scheme := transportName, host := "[127.0.0.1]:80".toList }, rfl, by decide, rfl, by decide,
    by decide, rfl, rfl⟩

end Switchboard.Tcp
