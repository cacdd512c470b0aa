import Switchboard.Proofs.Exchange.Canonicalization

set_option autoImplicit false

/-!
# URIs that need no resolver

Whether a URI is canonical can be told from its text, and it can be found out by canonicalizing it
with a resolver that is of no help.  Main statement: the two agree (`isCanonical_iff_unaided`).  A
canonical URI is canonicalized without a single lookup, into one URI that is the same up to the
spelling of its address; any other, over a resolver that knows nothing, comes to a fault.

Resolvers act in an arbitrary monad.  That nothing is looked up is said by an equation with a pure
computation, and that a lookup ends in a fault by an equation with a computation of faults: whatever
else a lookup does on its way there, it may do.
-/

namespace Switchboard

variable {m : Type → Type} [Monad m]

/-! ## Computations that come to a fault -/

/-- A computation that comes to a fault, if it comes to an end. -/
def ComesToFault {ε α : Type} (c : m (Except ε α)) : Prop :=
  ∃ fault : m ε, c = Except.error <$> fault

/-- A resolver whose every lookup comes to a fault. -/
structure Resolver.IsHelpless (resolver : Resolver m) : Prop where
  lookupIp : ∀ host, ComesToFault (resolver.lookupIp host)
  lookupPort : ∀ network service, ComesToFault (resolver.lookupPort network service)

section

variable [LawfulMonad m] {ε δ α β : Type}

theorem comesToFault_error (fault : ε) : ComesToFault (pure (.error fault) : m (Except ε α)) :=
  ⟨pure fault, (map_pure _ _).symm⟩

/-- What passes a fault on comes to a fault where what it follows does. -/
theorem ComesToFault.bind {c : m (Except ε α)} (h : ComesToFault c) (g : ε → δ)
    {next : Except ε α → m (Except δ β)} (hnext : ∀ e, next (.error e) = pure (.error (g e))) :
    ComesToFault (c >>= next) := by
  obtain ⟨fault, rfl⟩ := h
  refine ⟨g <$> fault, ?_⟩
  rw [bind_map_left, Functor.map_map, ← bind_pure_comp]
  exact bind_congr hnext

/-- In no monad that can tell two computations apart is a success a fault. -/
theorem not_comesToFault_ok [Nontrivial (m Bool)] (a : α) :
    ¬ ComesToFault (pure (.ok a) : m (Except ε α)) := by
  rintro ⟨fault, heq⟩
  obtain ⟨x, y, hne⟩ := exists_pair_ne (m Bool)
  have hfault : ∀ z : m Bool, z = fault >>= fun _ => y := by
    intro z
    calc z = (pure (.ok a) : m (Except ε α)) >>= (fun r => bif r.isOk then z else y) := by
          rw [pure_bind]
          rfl
      _ = (Except.error <$> fault) >>= (fun r => bif r.isOk then z else y) := by rw [heq]
      _ = fault >>= fun _ => y := bind_map_left _ _ _
  exact hne ((hfault x).trans (hfault y).symm)

end

/-! ## Spellings of a host -/

/-- Two URIs that differ in nothing, or in how the IP address of the host is written. -/
structure Respelled (u v : Uri) : Prop where
  rest : v = { u with host := v.host }
  host : v.host = u.host ∨ ∃ address spelling port ip,
    HostPort.split u.host = .ok (address, port) ∧ HostPort.split v.host = .ok (spelling, port) ∧
      Ip.read? address = some ip ∧ Ip.read? spelling = some ip

theorem respelled_atAddress {u : Uri} {address port : Text} {ip : Ip} {n : UInt16}
    (hsplit : HostPort.split u.host = .ok (address, port)) (hip : Ip.read? address = some ip)
    (hport : SocketAddr.readPort? port = some n) : Respelled u (Exchange.atAddress u port ip) where
  rest := rfl
  host := by
    have hprinted := Ip.read?_print ip
    exact .inr ⟨address, ip.print, port, ip, hsplit,
      SocketAddr.split_join_of_read? hprinted hport, hip, hprinted⟩

namespace Exchange

variable [LawfulMonad m]

/-! ## With and without help -/

/-- A canonical URI is canonicalized without help. -/
theorem canonicalize_of_isCanonical {u : Uri} (h : u.isCanonical = true) :
    ∃ v, v.isCanonical = true ∧ Respelled u v ∧
      ∀ {k : Type → Type} [Monad k] [LawfulMonad k] (x : Exchange k) (context : Context),
        x.canonicalize context u = pure (.ok [v]) := by
  obtain ⟨hdiscovery, hhost | hliteral⟩ := Uri.isCanonical_iff.1 h
  · refine ⟨u, h, ⟨rfl, .inl rfl⟩, ?_⟩
    intro k _ _ x context
    rw [canonicalize, if_neg (not_not_intro hdiscovery), if_pos hhost]
  · obtain ⟨address, port, ip, n, hsplit, hip, hport⟩ := Uri.isLiteralHost_iff.1 hliteral
    have hprinted : Uri.isLiteralHost (HostPort.join ip.print port) = true :=
      Uri.isLiteralHost_join (Ip.read?_print ip) hport
    refine ⟨atAddress u port ip, Uri.isCanonical_iff.2 ⟨hdiscovery, .inr hprinted⟩,
      respelled_atAddress hsplit hip hport, ?_⟩
    intro k _ _ x context
    exact x.canonicalize_of_literal context hdiscovery hsplit hip hport

theorem portDigits_of_isHelpless {x : Exchange m} (helpless : x.resolver.IsHelpless)
    (network : Text) {port : Text} (hport : SocketAddr.readPort? port = none) :
    ComesToFault (x.portDigits network port) := by
  rw [portDigits, hport]
  exact (helpless.lookupPort network port).bind id fun fault => rfl

/-- Where the host is no address, or the port no number, no help leads to a fault. -/
theorem resolve_of_isHelpless {x : Exchange m} (helpless : x.resolver.IsHelpless) (u : Uri)
    {host port : Text} (h : Ip.read? host = none ∨ SocketAddr.readPort? port = none) :
    ComesToFault (x.resolve u host port) := by
  cases hip : Ip.read? host with
  | none =>
    have hasked : x.addresses host = x.resolver.lookupIp host := by rw [addresses, hip]
    rw [resolve, hasked]
    exact (helpless.lookupIp host).bind Fault.io fun fault => rfl
  | some ip =>
    have hport : SocketAddr.readPort? port = none := by simpa [hip] using h
    rw [resolve, addresses_of_read? x hip, pure_bind]
    exact (portDigits_of_isHelpless helpless u.transport hport).bind Fault.io fun fault => rfl

/-- Any other URI, without discovery, cannot do without help. -/
theorem canonicalize_of_isHelpless {x : Exchange m} (helpless : x.resolver.IsHelpless)
    (context : Context) {u : Uri} (hdiscovery : u.discovery = []) (h : u.isCanonical = false) :
    ComesToFault (x.canonicalize context u) := by
  have hnot : ¬ (u.discovery = [] ∧ (u.host = [] ∨ Uri.isLiteralHost u.host = true)) := by
    rw [← Uri.isCanonical_iff, h]
    exact Bool.false_ne_true
  have hhost : u.host ≠ [] := fun hnil => hnot ⟨hdiscovery, .inl hnil⟩
  rw [canonicalize, if_neg (not_not_intro hdiscovery), if_neg hhost]
  cases hsplit : HostPort.split u.host with
  | error flaw => exact comesToFault_error (Fault.ofHostPort u.host flaw)
  | ok sides =>
    obtain ⟨host, port⟩ := sides
    refine resolve_of_isHelpless helpless u ?_
    cases hip : Ip.read? host with
    | none => exact .inl rfl
    | some ip =>
      cases hport : SocketAddr.readPort? port with
      | none => exact .inr rfl
      | some n =>
        have hliteral := Uri.isLiteralHost_iff.2 ⟨host, port, ip, n, hsplit, hip, hport⟩
        exact absurd ⟨hdiscovery, .inr hliteral⟩ hnot

end Exchange

/-- A URI without discovery is canonical exactly if it is canonicalized over a resolver that is of
no help, and it comes to a fault there exactly if it is not.  Over whatever resolver, a canonical
URI is canonicalized into one and the same URI, without a lookup; that one is canonical, and differs
at most in how the address is written.  A URI that names a discovery mechanism is never
canonical. -/
theorem isCanonical_iff_unaided (u : Uri) :
    (u.discovery = [] →
      (∀ {m : Type → Type} [Monad m] [LawfulMonad m] [Nontrivial (m Bool)] (x : Exchange m)
        (context : Context), x.resolver.IsHelpless →
          (u.isCanonical = true ↔ ∃ vs, x.canonicalize context u = pure (.ok vs)) ∧
          (u.isCanonical = false ↔ ComesToFault (x.canonicalize context u))) ∧
      (u.isCanonical = true → ∃ v, v.isCanonical = true ∧ Respelled u v ∧
        ∀ {m : Type → Type} [Monad m] [LawfulMonad m] (x : Exchange m) (context : Context),
          x.canonicalize context u = pure (.ok [v]))) ∧
    (u.discovery ≠ [] → u.isCanonical = false) := by
  refine ⟨?_, Uri.not_isCanonical_of_discovery⟩
  intro hdiscovery
  refine ⟨?_, Exchange.canonicalize_of_isCanonical⟩
  intro m _ _ _ x context helpless
  cases hcanonical : u.isCanonical with
  | true =>
    obtain ⟨v, -, -, hunaided⟩ := Exchange.canonicalize_of_isCanonical hcanonical
    rw [hunaided x context]
    exact ⟨⟨fun _ => ⟨[v], rfl⟩, fun _ => rfl⟩, by simp [not_comesToFault_ok]⟩
  | false =>
    have hfault := Exchange.canonicalize_of_isHelpless helpless context hdiscovery hcanonical
    refine ⟨?_, by simp [hfault]⟩
    simp only [Bool.false_eq_true, false_iff, not_exists]
    intro vs hvs
    rw [hvs] at hfault
    exact not_comesToFault_ok vs hfault

/-- A resolver that notes what it is asked for, and knows nothing. -/
def forgetful : Resolver (StateM (List Text)) where
  lookupIp host := modifyGet fun asked => (.error (.system .notFound), asked ++ [host])
  lookupPort _ service := modifyGet fun asked => (.error (.system .notFound), asked ++ [service])

theorem isHelpless_forgetful : forgetful.IsHelpless where
  lookupIp host := ⟨modifyGet fun asked => (.system .notFound, asked ++ [host]), rfl⟩
  lookupPort _ service := ⟨modifyGet fun asked => (.system .notFound, asked ++ [service]), rfl⟩

/-- Brackets that an IPv4 address does not need, and leading zeros of the port; and the same host
behind a scheme that names a discovery mechanism. -/
theorem isCanonical_iff_unaided_of_bracketed :
    let u : Uri := { scheme := "tcp".toList, host := "[127.0.0.1]:0080".toList }
    let w : Uri := { scheme := "tcp.dns".toList, host := "[127.0.0.1]:0080".toList }
    let x := Exchange.after [] forgetful
    u.discovery = [] ∧ x.resolver.IsHelpless ∧ u.isCanonical = true ∧
      (u.isCanonical = true ↔ ∃ vs, x.canonicalize ⟨⟨0⟩, .never⟩ u = pure (.ok vs)) ∧
      (u.isCanonical = false ↔ ComesToFault (x.canonicalize ⟨⟨0⟩, .never⟩ u)) ∧
      (∃ v, v.isCanonical = true ∧ Respelled u v ∧
        x.canonicalize ⟨⟨0⟩, .never⟩ u = pure (.ok [v])) ∧
      w.discovery ≠ [] ∧ w.isCanonical = false := by
  intro u w x
  have hdiscovery : u.discovery = [] := rfl
  have hcanonical : u.isCanonical = true := by decide
  have hnamed : w.discovery ≠ [] := by decide
  have hapart : Nontrivial (StateM (List Text) Bool) :=
    ⟨pure true, pure false, fun h => Bool.noConfusion (congrArg Prod.fst (congrFun h []))⟩
  obtain ⟨hunaided, hsame⟩ := (isCanonical_iff_unaided u).1 hdiscovery
  obtain ⟨hsuccess, hfault⟩ := hunaided x ⟨⟨0⟩, .never⟩ isHelpless_forgetful
  obtain ⟨v, hv, hrespelled, hresult⟩ := hsame hcanonical
  exact ⟨hdiscovery, isHelpless_forgetful, hcanonical, hsuccess, hfault,
    ⟨v, hv, hrespelled, hresult x _⟩, hnamed, (isCanonical_iff_unaided w).2 hnamed⟩

end Switchboard
