import Switchboard.Proofs.Address.SocketText
import Switchboard.Proofs.Dialogue
import Switchboard.Proofs.Exchange.Decision

set_option autoImplicit false

/-!
# What canonicalizing asks

To canonicalize a URI, an exchange may ask a discovery mechanism, or the resolver for the addresses
of the host and for the port.  `Canonicalizes` lists what may be asked, what may be answered, and
what comes of it, from the registrations and the URI alone.  Main statement: canonicalizing is one
dialogue, the same for every resolver, and it goes through exactly what the rules list
(`canonicalize_follows_rules`).

In every rule nothing is asked twice, no port is looked up once the lookup of the host has failed,
and neither lookup is made beside a discovery.
-/

namespace Switchboard

open Registration

/-! ## The rules -/

/-- What an exchange may ask while it canonicalizes a URI. -/
inductive Inquiry (m : Type → Type) where
  | discover (finder : Discovery m) (context : Context) (uri : Uri)
  | lookupIp (host : Text)
  | lookupPort (network service : Text)

namespace Inquiry

variable {m : Type → Type}

/-- What is answered to an inquiry. -/
@[reducible] def Answer : Inquiry m → Type
  | .discover .. => Except Fault (List Uri)
  | .lookupIp _ => Except IoFault (List Ip)
  | .lookupPort .. => Except IoFault UInt16

/-- Makes an inquiry, of the discovery mechanism itself or of a resolver. -/
def put (resolver : Resolver m) : (inquiry : Inquiry m) → m inquiry.Answer
  | .discover finder context uri => finder.discover context uri
  | .lookupIp host => resolver.lookupIp host
  | .lookupPort network service => resolver.lookupPort network service

end Inquiry

/-- Inquiries with their answers, in the order in which they were made. -/
abbrev Inquiries (m : Type → Type) : Type := List (Answered (Inquiry m) Inquiry.Answer)

/-- Whether a text is a port number in decimal digits. -/
def IsPortNumber (port : Text) : Prop :=
  Decimal.isNumeral port = true ∧ Decimal.value port ≤ 65535

variable {m : Type → Type}

namespace Inquiry

/-- How the addresses of a host come about. -/
inductive Addresses (host : Text) : Inquiries m → Except IoFault (List Ip) → Prop where
  /-- the host is an address -/
  | literal (ip : Ip) (h : Ip.read? host = some ip) : Addresses host [] (.ok [ip])
  /-- the resolver is asked -/
  | asked (h : Ip.read? host = none) (answer : Except IoFault (List Ip)) :
      Addresses host [⟨.lookupIp host, answer⟩] answer

/-- How the digits of a port come about. -/
inductive PortDigits (network port : Text) : Inquiries m → Except IoFault Text → Prop where
  /-- the port is a number, and its digits stay as they are -/
  | literal (h : IsPortNumber port) : PortDigits network port [] (.ok port)
  /-- the resolver is asked, and knows the port -/
  | known (h : ¬ IsPortNumber port) (n : UInt16) :
      PortDigits network port [⟨.lookupPort network port, .ok n⟩] (.ok (Decimal.digits n.toNat))
  /-- the resolver is asked, and does not know the port -/
  | unknown (h : ¬ IsPortNumber port) (fault : IoFault) :
      PortDigits network port [⟨.lookupPort network port, .error fault⟩] (.error fault)

end Inquiry

/-- What may be asked and answered when a URI is canonicalized after some registrations, and what
comes of it. -/
inductive Canonicalizes (rs : List (Registration m)) (context : Context) (uri : Uri) :
    Inquiries m → Except Fault (List Uri) → Prop where
  /-- a discovery mechanism that was not registered -/
  | undiscovered (named : uri.discovery ≠ [])
      (unknown : last? (asDiscovery? uri.discovery) rs = none) :
      Canonicalizes rs context uri [] (.error (.unknownDiscovery uri.discovery))
  /-- the last discovery mechanism of the name answers in place of the exchange -/
  | discovered (named : uri.discovery ≠ []) (finder : Discovery m)
      (known : last? (asDiscovery? uri.discovery) rs = some finder)
      (answer : Except Fault (List Uri)) :
      Canonicalizes rs context uri [⟨.discover finder context uri, answer⟩] answer
  /-- a URI without a host stands for itself -/
  | hostless (unnamed : uri.discovery = []) (hostless : uri.host = []) :
      Canonicalizes rs context uri [] (.ok [uri])
  /-- a host that is no host and port -/
  | undivided (unnamed : uri.discovery = []) (hosted : uri.host ≠ []) (flaw : HostPort.Flaw)
      (split : HostPort.split uri.host = .error flaw) :
      Canonicalizes rs context uri [] (.error (.badAddress uri.host flaw.message))
  /-- the lookup of the host fails, and no port is looked up -/
  | unaddressed (unnamed : uri.discovery = []) (hosted : uri.host ≠ []) (host port : Text)
      (split : HostPort.split uri.host = .ok (host, port)) (asked : Inquiries m) (fault : IoFault)
      (addresses : Inquiry.Addresses host asked (.error fault)) :
      Canonicalizes rs context uri asked (.error (.io fault))
  /-- the addresses are there, however many they are, and the lookup of the port fails -/
  | unported (unnamed : uri.discovery = []) (hosted : uri.host ≠ []) (host port : Text)
      (split : HostPort.split uri.host = .ok (host, port)) (first second : Inquiries m)
      (ips : List Ip) (fault : IoFault) (addresses : Inquiry.Addresses host first (.ok ips))
      (digits : Inquiry.PortDigits uri.transport port second (.error fault)) :
      Canonicalizes rs context uri (first ++ second) (.error (.io fault))
  /-- one URI for each address, all with the same port, and like the URI in all else -/
  | resolved (unnamed : uri.discovery = []) (hosted : uri.host ≠ []) (host port : Text)
      (split : HostPort.split uri.host = .ok (host, port)) (first second : Inquiries m)
      (ips : List Ip) (number : Text) (addresses : Inquiry.Addresses host first (.ok ips))
      (digits : Inquiry.PortDigits uri.transport port second (.ok number)) :
      Canonicalizes rs context uri (first ++ second)
        (.ok (ips.map fun ip => { uri with host := HostPort.join ip.print number }))

/-! ## The dialogue -/

namespace Inquiry

/-- Asks for the addresses of a host, unless it is one. -/
def addresses (host : Text) : Dialogue (Inquiry m) Answer (Except IoFault (List Ip)) :=
  match Ip.read? host with
  | some ip => .done (.ok [ip])
  | none => .ask (.lookupIp host) .done

/-- Asks for the number of a port, unless it is one. -/
def portDigits (network port : Text) : Dialogue (Inquiry m) Answer (Except IoFault Text) :=
  match SocketAddr.readPort? port with
  | some _ => .done (.ok port)
  | none => .ask (.lookupPort network port) fun answer =>
    .done (answer.map fun n => Decimal.digits n.toNat)

/-- Asks for the addresses and then for the port. -/
def resolve (uri : Uri) (host port : Text) :
    Dialogue (Inquiry m) Answer (Except Fault (List Uri)) :=
  (addresses host).bind fun
    | .error fault => .done (.error (.io fault))
    | .ok ips => (portDigits uri.transport port).bind fun
      | .error fault => .done (.error (.io fault))
      | .ok digits => .done (.ok (ips.map (Exchange.atAddress uri digits)))

/-- All that is asked to canonicalize a URI. -/
def canonicalize (rs : List (Registration m)) (context : Context) (uri : Uri) :
    Dialogue (Inquiry m) Answer (Except Fault (List Uri)) :=
  if uri.discovery ≠ [] then
    match last? (asDiscovery? uri.discovery) rs with
    | none => .done (.error (.unknownDiscovery uri.discovery))
    | some finder => .ask (.discover finder context uri) .done
  else if uri.host = [] then .done (.ok [uri])
  else
    match HostPort.split uri.host with
    | .error flaw => .done (.error (.ofHostPort uri.host flaw))
    | .ok (host, port) => resolve uri host port

/-! ## The exchange carries the dialogue out -/

section

variable [Monad m]

theorem run_portDigits (x : Exchange m) (network port : Text) :
    (portDigits network port).run (put x.resolver) = x.portDigits network port := by
  unfold portDigits Exchange.portDigits
  cases SocketAddr.readPort? port with
  | some n => rfl
  | none =>
    refine bind_congr fun answer => ?_
    cases answer <;> rfl

variable [LawfulMonad m]

theorem run_addresses (x : Exchange m) (host : Text) :
    (addresses host).run (put x.resolver) = x.addresses host := by
  unfold addresses Exchange.addresses
  cases Ip.read? host with
  | some ip => rfl
  | none => exact bind_pure _

theorem run_resolve (x : Exchange m) (uri : Uri) (host port : Text) :
    (resolve uri host port).run (put x.resolver) = x.resolve uri host port := by
  rw [resolve, Dialogue.run_bind, run_addresses, Exchange.resolve]
  refine bind_congr fun found => ?_
  cases found with
  | error fault => rfl
  | ok ips =>
    rw [Dialogue.run_bind, run_portDigits]
    refine bind_congr fun digits => ?_
    cases digits <;> rfl

theorem run_canonicalize (rs : List (Registration m)) (context : Context) (uri : Uri)
    (resolver : Resolver m) :
    (canonicalize rs context uri).run (put resolver)
      = (Exchange.after rs resolver).canonicalize context uri := by
  have hfound : (Exchange.after rs resolver).directory.discovery? uri.discovery
      = last? (asDiscovery? uri.discovery) rs := Directory.discovery?_ofRegistrations rs _
  unfold canonicalize Exchange.canonicalize
  by_cases hnamed : uri.discovery ≠ []
  · rw [if_pos hnamed, if_pos hnamed, hfound]
    cases last? (asDiscovery? uri.discovery) rs with
    | none => rfl
    | some finder => exact bind_pure _
  · rw [if_neg hnamed, if_neg hnamed]
    by_cases hhost : uri.host = []
    · rw [if_pos hhost, if_pos hhost]
      rfl
    · rw [if_neg hhost, if_neg hhost]
      cases HostPort.split uri.host with
      | error flaw => rfl
      | ok sides => exact run_resolve (Exchange.after rs resolver) uri sides.1 sides.2

end

/-! ## The dialogue follows the rules -/

theorem isSome_readPort?_iff {port : Text} :
    (∃ n, SocketAddr.readPort? port = some n) ↔ IsPortNumber port := by
  constructor
  · rintro ⟨n, hn⟩
    obtain ⟨hnumeral, hvalue⟩ := SocketAddr.readPort?_eq_some_iff.1 hn
    have hbound : n.toNat < 65536 := n.toNat_lt
    exact ⟨hnumeral, by omega⟩
  · rintro ⟨hnumeral, hvalue⟩
    refine ⟨UInt16.ofNat (Decimal.value port), SocketAddr.readPort?_eq_some_iff.2 ⟨hnumeral, ?_⟩⟩
    have hbound : Decimal.value port < UInt16.size := Nat.lt_succ_of_le hvalue
    rw [UInt16.toNat_ofNat_of_lt' hbound]

theorem leads_addresses_iff {host : Text} {calls : Inquiries m}
    {found : Except IoFault (List Ip)} :
    (addresses host).Leads calls found ↔ Addresses host calls found := by
  unfold addresses
  cases hread : Ip.read? host with
  | some ip =>
    rw [Dialogue.leads_done_iff]
    constructor
    · rintro ⟨rfl, rfl⟩
      exact .literal ip hread
    · intro h
      cases h with
      | literal other h =>
        obtain rfl := Option.some.inj (hread.symm.trans h)
        exact ⟨rfl, rfl⟩
      | asked h => exact absurd (hread.symm.trans h) (Option.some_ne_none ip)
  | none =>
    rw [Dialogue.leads_ask_iff]
    constructor
    · rintro ⟨answer, rest, rfl, hrest⟩
      obtain ⟨rfl, rfl⟩ := Dialogue.leads_done_iff.1 hrest
      exact .asked hread _
    · intro h
      cases h with
      | literal ip h => exact absurd (h.symm.trans hread) (Option.some_ne_none ip)
      | asked h => exact ⟨found, [], rfl, .done found⟩

theorem leads_portDigits_iff {network port : Text} {calls : Inquiries m}
    {found : Except IoFault Text} :
    (portDigits network port).Leads calls found ↔ PortDigits network port calls found := by
  unfold portDigits
  cases hread : SocketAddr.readPort? port with
  | some n =>
    have hnumber : IsPortNumber port := isSome_readPort?_iff.1 ⟨n, hread⟩
    rw [Dialogue.leads_done_iff]
    constructor
    · rintro ⟨rfl, rfl⟩
      exact .literal hnumber
    · intro h
      cases h with
      | literal h => exact ⟨rfl, rfl⟩
      | known h n => exact absurd hnumber h
      | unknown h fault => exact absurd hnumber h
  | none =>
    have hname : ¬ IsPortNumber port := by
      rw [← isSome_readPort?_iff, hread]
      simp
    rw [Dialogue.leads_ask_iff]
    constructor
    · rintro ⟨answer, rest, rfl, hrest⟩
      obtain ⟨rfl, rfl⟩ := Dialogue.leads_done_iff.1 hrest
      cases answer with
      | error fault => exact .unknown hname fault
      | ok n => exact .known hname n
    · intro h
      cases h with
      | literal h => exact absurd h hname
      | known h n => exact ⟨.ok n, [], rfl, .done _⟩
      | unknown h fault => exact ⟨.error fault, [], rfl, .done _⟩

theorem leads_resolve {rs : List (Registration m)} {context : Context} {uri : Uri}
    (unnamed : uri.discovery = []) (hosted : uri.host ≠ []) {host port : Text}
    (split : HostPort.split uri.host = .ok (host, port)) {calls : Inquiries m}
    {result : Except Fault (List Uri)} (h : (resolve uri host port).Leads calls result) :
    Canonicalizes rs context uri calls result := by
  obtain ⟨first, found, rest, rfl, hfirst, hrest⟩ := Dialogue.leads_bind_iff.1 h
  have haddresses := leads_addresses_iff.1 hfirst
  cases found with
  | error fault =>
    obtain ⟨rfl, rfl⟩ := Dialogue.leads_done_iff.1 hrest
    rw [List.append_nil]
    exact .unaddressed unnamed hosted host port split first fault haddresses
  | ok ips =>
    obtain ⟨second, number, last, rfl, hsecond, hlast⟩ := Dialogue.leads_bind_iff.1 hrest
    have hdigits := leads_portDigits_iff.1 hsecond
    cases number with
    | error fault =>
      obtain ⟨rfl, rfl⟩ := Dialogue.leads_done_iff.1 hlast
      rw [List.append_nil]
      exact .unported unnamed hosted host port split first second ips fault haddresses hdigits
    | ok digits =>
      obtain ⟨rfl, rfl⟩ := Dialogue.leads_done_iff.1 hlast
      rw [List.append_nil]
      exact .resolved unnamed hosted host port split first second ips digits haddresses hdigits

theorem canonicalize_of_named {rs : List (Registration m)} {context : Context} {uri : Uri}
    (named : uri.discovery ≠ []) :
    canonicalize rs context uri = match last? (asDiscovery? uri.discovery) rs with
      | none => .done (.error (.unknownDiscovery uri.discovery))
      | some finder => .ask (.discover finder context uri) .done := if_pos named

theorem canonicalize_of_hostless {rs : List (Registration m)} {context : Context} {uri : Uri}
    (unnamed : uri.discovery = []) (hostless : uri.host = []) :
    canonicalize rs context uri = .done (.ok [uri]) := by
  rw [canonicalize, if_neg (not_not_intro unnamed), if_pos hostless]

theorem canonicalize_of_hosted {rs : List (Registration m)} {context : Context} {uri : Uri}
    (unnamed : uri.discovery = []) (hosted : uri.host ≠ []) :
    canonicalize rs context uri = match HostPort.split uri.host with
      | .error flaw => .done (.error (.ofHostPort uri.host flaw))
      | .ok (host, port) => resolve uri host port := by
  rw [canonicalize, if_neg (not_not_intro unnamed), if_neg hosted]

/-- The dialogue goes through nothing but what the rules list. -/
theorem canonicalizes_of_leads {rs : List (Registration m)} {context : Context} {uri : Uri}
    {calls : Inquiries m} {result : Except Fault (List Uri)}
    (h : (canonicalize rs context uri).Leads calls result) :
    Canonicalizes rs context uri calls result := by
  by_cases named : uri.discovery ≠ []
  · rw [canonicalize_of_named named] at h
    cases hfinder : last? (asDiscovery? uri.discovery) rs with
    | none =>
      rw [hfinder] at h
      obtain ⟨rfl, rfl⟩ := Dialogue.leads_done_iff.1 h
      exact .undiscovered named hfinder
    | some finder =>
      rw [hfinder] at h
      obtain ⟨answer, rest, rfl, hrest⟩ := Dialogue.leads_ask_iff.1 h
      obtain ⟨rfl, rfl⟩ := Dialogue.leads_done_iff.1 hrest
      exact .discovered named finder hfinder _
  · have unnamed : uri.discovery = [] := Classical.not_not.1 named
    by_cases hostless : uri.host = []
    · rw [canonicalize_of_hostless unnamed hostless] at h
      obtain ⟨rfl, rfl⟩ := Dialogue.leads_done_iff.1 h
      exact .hostless unnamed hostless
    · rw [canonicalize_of_hosted unnamed hostless] at h
      cases hsplit : HostPort.split uri.host with
      | error flaw =>
        rw [hsplit] at h
        obtain ⟨rfl, rfl⟩ := Dialogue.leads_done_iff.1 h
        exact .undivided unnamed hostless flaw hsplit
      | ok sides =>
        rw [hsplit] at h
        exact leads_resolve unnamed hostless hsplit h

/-- The dialogue may go through all that the rules list. -/
theorem leads_of_canonicalizes {rs : List (Registration m)} {context : Context} {uri : Uri}
    {calls : Inquiries m} {result : Except Fault (List Uri)}
    (h : Canonicalizes rs context uri calls result) :
    (canonicalize rs context uri).Leads calls result := by
  cases h with
  | undiscovered named unknown =>
    rw [canonicalize_of_named named, unknown]
    exact .done _
  | discovered named finder known =>
    rw [canonicalize_of_named named, known]
    exact Dialogue.leads_ask_iff.2 ⟨result, [], rfl, .done result⟩
  | hostless unnamed hostless =>
    rw [canonicalize_of_hostless unnamed hostless]
    exact .done _
  | undivided unnamed hosted flaw split =>
    rw [canonicalize_of_hosted unnamed hosted, split]
    exact .done _
  | unaddressed unnamed hosted host port split asked fault addresses =>
    rw [canonicalize_of_hosted unnamed hosted, split]
    exact (leads_addresses_iff.2 addresses).bind_done rfl
  | unported unnamed hosted host port split first second ips fault addresses digits =>
    rw [canonicalize_of_hosted unnamed hosted, split]
    refine Dialogue.leads_bind_iff.2
      ⟨first, _, second, rfl, leads_addresses_iff.2 addresses, ?_⟩
    exact (leads_portDigits_iff.2 digits).bind_done rfl
  | resolved unnamed hosted host port split first second ips number addresses digits =>
    rw [canonicalize_of_hosted unnamed hosted, split]
    refine Dialogue.leads_bind_iff.2
      ⟨first, _, second, rfl, leads_addresses_iff.2 addresses, ?_⟩
    exact (leads_portDigits_iff.2 digits).bind_done rfl

end Inquiry

/-- To canonicalize a URI is one dialogue with the discovery mechanisms and with the resolver, which
goes through exactly what the rules list, whatever the resolver is and however it answers. -/
theorem canonicalize_follows_rules [Monad m] [LawfulMonad m] (rs : List (Registration m))
    (context : Context) (uri : Uri) :
    ∃ d : Dialogue (Inquiry m) Inquiry.Answer (Except Fault (List Uri)),
      (∀ calls result, d.Leads calls result ↔ Canonicalizes rs context uri calls result) ∧
      ∀ resolver : Resolver m,
        (Exchange.after rs resolver).canonicalize context uri = d.run (Inquiry.put resolver) := by
  refine ⟨Inquiry.canonicalize rs context uri, ?_, ?_⟩
  · intro calls result
    exact ⟨Inquiry.canonicalizes_of_leads, Inquiry.leads_of_canonicalizes⟩
  · intro resolver
    exact (Inquiry.run_canonicalize rs context uri resolver).symm

/-- A host and a service that are both looked up, where the host has one of its addresses twice. -/
theorem canonicalize_follows_rules_of_names :
    let uri : Uri :=
      { scheme := "tcp+tls".toList, user := some "a".toList, host := "h:http".toList,
        path := "/p".toList, query := "q".toList, fragment := "f".toList }
    let ips : List Ip := [.v4 .loopback, .v6 (.ofMapped ⟨1, 2, 3, 4⟩), .v4 .loopback]
    ∃ d : Dialogue (Inquiry Id) Inquiry.Answer (Except Fault (List Uri)),
      d.Leads [⟨.lookupIp "h".toList, .ok ips⟩, ⟨.lookupPort "tcp".toList "http".toList, .ok 80⟩]
        (.ok (["127.0.0.1:80", "[::ffff:1.2.3.4]:80", "127.0.0.1:80"].map fun h =>
          { scheme := "tcp+tls".toList, user := some "a".toList, host := h.toList,
            path := "/p".toList, query := "q".toList, fragment := "f".toList })) ∧
      ∀ resolver : Resolver Id,
        (Exchange.after [] resolver).canonicalize ⟨⟨0⟩, .never⟩ uri
          = d.run (Inquiry.put resolver) := by
  intro uri ips
  obtain ⟨d, hrules, hrun⟩ := canonicalize_follows_rules (m := Id) [] ⟨⟨0⟩, .never⟩ uri
  have haddresses : Inquiry.Addresses (m := Id) "h".toList [⟨.lookupIp "h".toList, .ok ips⟩]
      (.ok ips) := .asked rfl _
  have hservice : ¬ IsPortNumber "http".toList := fun h => absurd h.1 (by decide)
  have hdigits : Inquiry.PortDigits (m := Id) "tcp".toList "http".toList
      [⟨.lookupPort "tcp".toList "http".toList, .ok 80⟩] (.ok "80".toList) := .known hservice 80
  exact ⟨d, (hrules _ _).2
    (.resolved rfl (by decide) _ _ rfl _ _ ips _ haddresses hdigits), hrun⟩

end Switchboard
