import Switchboard.Proofs.Exchange.Decision
import Switchboard.Proofs.Uri.AddressHost

set_option autoImplicit false

/-!
# What canonicalizing leads to

A URI without discovery, and with a host, is canonicalized into one URI for each address of its
host.  Main statement: each of these is settled (`canonicalize_settled`), so whoever takes it up,
as a text, as a socket address, as a request or to canonicalize it again, sees the address and the
port that the host itself or the resolver supplied.

A resolver answers in an arbitrary monad, so what it supplied is what its lookups can return.
-/

namespace Switchboard

open MonadAttach (CanReturn)

/-- Whether a URI stands for one address and one port, and nothing about it is left to look up. -/
structure Settled (v : Uri) (ip : Ip) (port : UInt16) : Prop where
  /-- it is canonical -/
  canonical : v.isCanonical = true
  /-- the TCP transport reads the address and the port off its host -/
  address : Tcp.hostAddr v.host = .ok (.ofIp port ip)
  /-- it is read back from its text -/
  printed : Uri.parse v.print = .ok v
  /-- an exchange makes itself of it, without a lookup -/
  fixed : ∀ {k : Type → Type} [Monad k] [LawfulMonad k] (y : Exchange k) (context : Context),
    y.canonicalize context v = pure (.ok [v])
  /-- an exchange does not refuse it as one that is not canonical -/
  accepted : ∀ {k : Type → Type} (y : Exchange k) (reason : Text),
    y.decision v ≠ .refuse (.notCanonical reason)
  /-- what an exchange decides about it is the answer to every dial -/
  dialled : ∀ {k : Type → Type} [Monad k] (y : Exchange k) (request : DialRequest k),
    request.uri = v → y.dial request = (y.decision v).dial request
  /-- what an exchange decides about it is the answer to every listen -/
  listened : ∀ {k : Type → Type} [Monad k] (y : Exchange k) (request : ListenRequest k),
    request.uri = v → y.listen request = (y.decision v).listen request

namespace Exchange

section

variable {m : Type → Type}

/-- A canonical URI is never refused as one that is not. -/
theorem decision_ne_notCanonical (y : Exchange m) {v : Uri} (h : v.isCanonical = true)
    (reason : Text) : y.decision v ≠ .refuse (.notCanonical reason) := by
  intro hrefuse
  unfold decision select at hrefuse
  simp only [h, Bool.not_true, Bool.false_eq_true, if_false, noTransport] at hrefuse
  split at hrefuse
  · next fault hselect =>
    simp only [Decision.refuse.injEq] at hrefuse
    subst hrefuse
    repeat' split at hselect
    all_goals simp at hselect
  · simp at hrefuse

variable [Monad m]

theorem addresses_of_read? (y : Exchange m) {host : Text} {ip : Ip} (h : Ip.read? host = some ip) :
    y.addresses host = pure (.ok [ip]) := by
  rw [addresses, h]

theorem portDigits_of_readPort? (y : Exchange m) (network : Text) {port : Text} {n : UInt16}
    (h : SocketAddr.readPort? port = some n) : y.portDigits network port = pure (.ok port) := by
  rw [portDigits, h]

/-- Where the host is an address and the port a number, nothing is looked up. -/
theorem resolve_of_literal [LawfulMonad m] (y : Exchange m) (uri : Uri) {host port : Text}
    {ip : Ip} {n : UInt16} (hip : Ip.read? host = some ip)
    (hport : SocketAddr.readPort? port = some n) :
    y.resolve uri host port = pure (.ok [atAddress uri port ip]) := by
  rw [resolve, addresses_of_read? y hip, portDigits_of_readPort? y uri.transport hport, pure_bind]
  show (pure (Except.ok port) : m (Except IoFault Text)) >>= _ = _
  rw [pure_bind]
  rfl

/-- A URI at an address is canonicalized into itself, but for how the address is written. -/
theorem canonicalize_of_literal [LawfulMonad m] (y : Exchange m) (context : Context) {u : Uri}
    (hdiscovery : u.discovery = []) {host port : Text} {ip : Ip} {n : UInt16}
    (hsplit : HostPort.split u.host = .ok (host, port)) (hip : Ip.read? host = some ip)
    (hport : SocketAddr.readPort? port = some n) :
    y.canonicalize context u = pure (.ok [atAddress u port ip]) := by
  have hhost : u.host ≠ [] := by
    intro hnil
    rw [hnil] at hsplit
    simp [HostPort.split, HostPort.splitPlain] at hsplit
  rw [canonicalize, if_neg (not_not_intro hdiscovery), if_neg hhost, hsplit]
  exact y.resolve_of_literal u hip hport

end

end Exchange

/-- A URI at an address is settled, if the URI itself was read and has a host. -/
theorem settled_atAddress {u : Uri} (hu : Uri.Shaped u) (hdiscovery : u.discovery = [])
    (hhost : u.host ≠ []) {port : Text} {n : UInt16} (hport : SocketAddr.readPort? port = some n)
    (ip : Ip) : Settled (Exchange.atAddress u port ip) ip n := by
  have hip : Ip.read? ip.print = some ip := Ip.read?_print ip
  have hfull : (Exchange.atAddress u port ip).host ≠ [] := HostPort.join_ne_nil ip.print port
  have hcanonical : (Exchange.atAddress u port ip).isCanonical = true := by
    have hnone : (Exchange.atAddress u port ip).discovery = [] := hdiscovery
    have hliteral : Uri.isLiteralHost (Exchange.atAddress u port ip).host = true :=
      Uri.isLiteralHost_join hip hport
    simp [Uri.isCanonical, hnone, hliteral]
  have hshaped : Uri.Shaped (Exchange.atAddress u port ip) := by
    have hbody : u.body = [] := Classical.not_not.1 fun h => hhost (hu.body h).2.2.1
    have hrooted : Uri.Rooted u.path := hu.path.resolve_right fun h => hhost h.2.2.1
    exact (Uri.shaped_withHost_iff hu _).2
      (.inr (.inr ⟨hbody, hfull, Uri.isHostText_join hip hport, hrooted⟩))
  exact
    { canonical := hcanonical
      address := Tcp.hostAddr_join hip hport
      printed := Uri.parse_eq_ok_iff.2 ((Uri.read_print_iff hshaped).2 fun h => hfull h.2.2.1)
      fixed := by
        intro k _ _ y context
        have hsplit : HostPort.split (Exchange.atAddress u port ip).host = .ok (ip.print, port) :=
          SocketAddr.split_join_of_read? hip hport
        have hnone : (Exchange.atAddress u port ip).discovery = [] := hdiscovery
        exact y.canonicalize_of_literal context hnone hsplit hip hport
      accepted := fun y => y.decision_ne_notCanonical hcanonical
      dialled := by
        intro k _ y request huri
        rw [y.dial_eq, huri]
      listened := by
        intro k _ y request huri
        rw [y.listen_eq, huri] }

namespace Exchange

variable {m : Type → Type} [MonadAttach m]

/-- Whether a host has these addresses: itself, if it is one, and else what a lookup can return. -/
def Supplies (x : Exchange m) (host : Text) (ips : List Ip) : Prop :=
  (∃ ip, Ip.read? host = some ip ∧ ips = [ip]) ∨
    Ip.read? host = none ∧ CanReturn (x.resolver.lookupIp host) (.ok ips)

/-- Whether a port has this number: its value, if it is a numeral of one, and else what a lookup can
return. -/
def SuppliesPort (x : Exchange m) (network port : Text) (n : UInt16) : Prop :=
  Decimal.isNumeral port = true ∧ Decimal.value port = n.toNat ∨
    SocketAddr.readPort? port = none ∧ CanReturn (x.resolver.lookupPort network port) (.ok n)

variable [Monad m] [LawfulMonad m] [LawfulMonadAttach m]

theorem not_canReturn_error {ε α : Type} (fault : ε) (a : α) :
    ¬ CanReturn (pure (.error fault) : m (Except ε α)) (.ok a) := by
  intro h
  have heq : Except.error fault = Except.ok a := LawfulMonadAttach.eq_of_canReturn_pure h
  simp at heq

theorem eq_of_canReturn_ok {ε α : Type} {a b : α}
    (h : CanReturn (pure (.ok a) : m (Except ε α)) (.ok b)) : a = b :=
  Except.ok.inj (LawfulMonadAttach.eq_of_canReturn_pure h)

/-- What does not recover from a fault goes on from a result. -/
theorem exists_canReturn_ok {ε δ α β : Type} {c : m (Except ε α)}
    {next : Except ε α → m (Except δ β)} {b : β} (h : CanReturn (c >>= next) (.ok b))
    (hfault : ∀ e, ¬ CanReturn (next (.error e)) (.ok b)) :
    ∃ a, CanReturn c (.ok a) ∧ CanReturn (next (.ok a)) (.ok b) := by
  obtain ⟨result, hresult, hrest⟩ := LawfulMonadAttach.canReturn_bind_imp' h
  cases result with
  | error e => exact absurd hrest (hfault e)
  | ok a => exact ⟨a, hresult, hrest⟩

theorem supplies_of_canReturn {x : Exchange m} {host : Text} {ips : List Ip}
    (h : CanReturn (x.addresses host) (.ok ips)) : x.Supplies host ips := by
  unfold addresses at h
  split at h
  · next ip hip =>
    exact .inl ⟨ip, hip, (eq_of_canReturn_ok h).symm⟩
  · next hnone => exact .inr ⟨hnone, h⟩

theorem suppliesPort_of_canReturn {x : Exchange m} {network port digits : Text}
    (h : CanReturn (x.portDigits network port) (.ok digits)) :
    ∃ n, x.SuppliesPort network port n ∧ SocketAddr.readPort? digits = some n := by
  unfold portDigits at h
  split at h
  · next n hn =>
    obtain rfl : port = digits := eq_of_canReturn_ok h
    exact ⟨n, .inl (SocketAddr.readPort?_eq_some_iff.1 hn), hn⟩
  · next hnone =>
    obtain ⟨n, hanswer, hrest⟩ :=
      exists_canReturn_ok h fun fault => not_canReturn_error fault digits
    obtain rfl : Decimal.digits n.toNat = digits := eq_of_canReturn_ok hrest
    exact ⟨n, .inr ⟨hnone, hanswer⟩, SocketAddr.readPort?_digits n⟩

/-- What resolving returns was made of what was supplied. -/
theorem exists_of_canReturn_resolve {x : Exchange m} {uri : Uri} {host port : Text}
    {vs : List Uri} (h : CanReturn (x.resolve uri host port) (.ok vs)) :
    ∃ ips n digits, x.Supplies host ips ∧ x.SuppliesPort uri.transport port n ∧
      SocketAddr.readPort? digits = some n ∧ vs = ips.map (atAddress uri digits) := by
  obtain ⟨ips, hfound, hrest⟩ :=
    exists_canReturn_ok h fun fault => not_canReturn_error (Fault.io fault) vs
  obtain ⟨digits, hanswer, hlast⟩ :=
    exists_canReturn_ok hrest fun fault => not_canReturn_error (Fault.io fault) vs
  obtain ⟨n, hn, hread⟩ := suppliesPort_of_canReturn hanswer
  have hvs : ips.map (atAddress uri digits) = vs := eq_of_canReturn_ok hlast
  exact ⟨ips, n, digits, supplies_of_canReturn hfound, hn, hread, hvs.symm⟩

end Exchange

/-- Whatever a URI that was read is canonicalized into, if it names no discovery mechanism and has a
host, is one settled URI for each address that the host is or that the resolver supplied for it, in
that order, all with the one port that the URI names or that the resolver supplied. -/
theorem canonicalize_settled {m : Type → Type} [Monad m] [LawfulMonad m] [MonadAttach m]
    [LawfulMonadAttach m] (x : Exchange m) (context : Context) {raw : Text} {u : Uri}
    (hread : Uri.parse raw = .ok u) (hdiscovery : u.discovery = []) (hhost : u.host ≠ [])
    {vs : List Uri} (h : CanReturn (x.canonicalize context u) (.ok vs)) :
    ∃ host port ips n, HostPort.split u.host = .ok (host, port) ∧
      x.Supplies host ips ∧ x.SuppliesPort u.transport port n ∧
      List.Forall₂ (fun ip v => Settled v ip n) ips vs := by
  have hu : Uri.Shaped u := Uri.shaped_of_read (Uri.parse_eq_ok_iff.1 hread)
  have hnone : ¬ u.discovery ≠ [] := fun hne => hne hdiscovery
  rw [Exchange.canonicalize, if_neg hnone, if_neg hhost] at h
  cases hsplit : HostPort.split u.host with
  | error flaw =>
    rw [hsplit] at h
    exact absurd h (Exchange.not_canReturn_error (Fault.ofHostPort u.host flaw) vs)
  | ok sides =>
    obtain ⟨host, port⟩ := sides
    rw [hsplit] at h
    obtain ⟨ips, n, digits, hips, hn, hdigits, rfl⟩ := Exchange.exists_of_canReturn_resolve h
    refine ⟨host, port, ips, n, rfl, hips, hn, ?_⟩
    rw [List.forall₂_map_right_iff, List.forall₂_same]
    intro ip _
    exact settled_atAddress hu hdiscovery hhost hdigits ip

/-- A resolver that knows three addresses for every host, and no service. -/
def phonebook : Resolver Id where
  lookupIp _ := .ok
    [.v4 .loopback, .v6 (.ofMapped ⟨1, 2, 3, 4⟩), .v6 ⟨[0x2001, 0xdb8, 0, 0, 0, 0, 0, 1], rfl⟩]
  lookupPort network service := .error (.unknownPort network service)

/-- A host with an address of each form that is written, and a port with leading zeros. -/
theorem canonicalize_settled_of_phonebook :
    Uri.parse "tcp+tls://a@h:0080/p?q#f".toList = .ok
        { scheme := "tcp+tls".toList, user := some "a".toList, host := "h:0080".toList,
          path := "/p".toList, query := "q".toList, fragment := "f".toList } ∧
      ∃ host port ips n, HostPort.split "h:0080".toList = .ok (host, port) ∧
        (Exchange.after [] phonebook).Supplies host ips ∧
        (Exchange.after [] phonebook).SuppliesPort "tcp".toList port n ∧
        List.Forall₂ (fun ip v => Settled v ip n) ips
          (["127.0.0.1:0080", "[::ffff:1.2.3.4]:0080", "[2001:db8::1]:0080"].map fun h =>
            { scheme := "tcp+tls".toList, user := some "a".toList, host := h.toList,
              path := "/p".toList, query := "q".toList, fragment := "f".toList }) := by
  have hread : Uri.parse "tcp+tls://a@h:0080/p?q#f".toList = .ok
      { scheme := "tcp+tls".toList, user := some "a".toList, host := "h:0080".toList,
        path := "/p".toList, query := "q".toList, fragment := "f".toList } := rfl
  exact ⟨hread, canonicalize_settled (Exchange.after [] phonebook) ⟨⟨0⟩, .never⟩ hread rfl
    (by decide) rfl⟩

end Switchboard
