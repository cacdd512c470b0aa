import Switchboard.Proofs.Exchange.Canonicalization
import Switchboard.Proofs.Tcp.LiteralHosts

set_option autoImplicit false

/-!
# Addresses that the TCP transport reports

The transport reports socket addresses as URIs: the local address of a dial, the address of a
listener, and the address of the other end of a connection that was accepted.  An exchange takes
such a URI again if the address has no zone, and only then: a zone makes the host another text than
that of an IP address, though the transport itself can read it.  Main statement:
`reported_canonical_iff_zoneless`.

A host answers in an arbitrary monad, so what it reported is what its operations can return.
-/

namespace Switchboard

/-- The zone of a socket address; an IPv4 address has none, which is zero. -/
def SocketAddr.zone : SocketAddr → UInt32
  | .v4 .. => 0
  | .v6 _ _ zone => zone

namespace Uri

/-! ## The hosts -/

theorem split_print_v6 (ip : Ipv6) (port : UInt16) (zone : UInt32) :
    HostPort.split (SocketAddr.v6 ip port zone).print
      = .ok (ip.print ++ SocketAddr.printZone zone, Decimal.digits port.toNat) := by
  have hport := SocketAddr.readPort?_digits port
  have hunmarked : HostPort.Unmarked (Decimal.digits port.toNat) :=
    ⟨SocketAddr.not_mem_of_readPort? hport rfl, SocketAddr.not_mem_of_readPort? hport rfl,
      SocketAddr.not_mem_of_readPort? hport rfl⟩
  exact HostPort.split_eq_ok_iff.2
    (.inr ⟨SocketAddr.bracketless_zoned ip zone, hunmarked, rfl⟩)

/-- A zone is no part of an IP address. -/
theorem read?_zoned_iff (ip : Ipv6) (zone : UInt32) :
    (∃ other, Ip.read? (ip.print ++ SocketAddr.printZone zone) = some other) ↔ zone = 0 := by
  constructor
  · rintro ⟨other, hread⟩
    by_contra hzone
    have hpercent : '%' ∉ ip.print ++ SocketAddr.printZone zone := Ip.not_mem_of_read? hread rfl
    simp [SocketAddr.printZone, hzone] at hpercent
  · rintro rfl
    refine ⟨.v6 ip, ?_⟩
    rw [SocketAddr.printZone, if_pos rfl, List.append_nil]
    exact Ip.read?_print (.v6 ip)

/-- The text of a socket address is an IP address and a port number, unless it has a zone. -/
theorem isLiteralHost_print_iff (addr : SocketAddr) :
    isLiteralHost addr.print = true ↔ addr.zone = 0 := by
  cases addr with
  | v4 ip port =>
    rw [SocketAddr.print_v4_eq_join]
    exact ⟨fun _ => rfl,
      fun _ => isLiteralHost_join (Ip.read?_print (.v4 ip)) (SocketAddr.readPort?_digits port)⟩
  | v6 ip port zone =>
    have hport := SocketAddr.readPort?_digits port
    rw [isLiteralHost_iff, split_print_v6]
    refine Iff.trans ?_ (read?_zoned_iff ip zone)
    constructor
    · rintro ⟨address, digits, other, n, heq, hread, -⟩
      obtain ⟨rfl, rfl⟩ := Prod.mk.inj (Except.ok.inj heq)
      exact ⟨other, hread⟩
    · rintro ⟨other, hread⟩
      exact ⟨_, _, other, port, rfl, hread, hport⟩

end Uri

namespace Tcp

theorem isCanonical_addrUri_iff (addr : SocketAddr) :
    (addrUri addr).isCanonical = true ↔ addr.zone = 0 := by
  have hdiscovery : (addrUri addr).discovery = [] := rfl
  have hhost : (addrUri addr).host ≠ [] := addr.print_ne_nil
  rw [Uri.isCanonical_iff, ← Uri.isLiteralHost_print_iff]
  simp only [hdiscovery, hhost, true_and, false_or]
  rfl

/-! ## What becomes of the URIs -/

/-- A URI was reported for an address, and is then dialled or listened on. -/
structure Reported (addr : SocketAddr) (uri : Uri) : Prop where
  made : uri = addrUri addr
  canonical : uri.isCanonical = true ↔ addr.zone = 0
  /-- without a zone, no exchange refuses it as one that is not canonical -/
  accepted : addr.zone = 0 → ∀ {k : Type → Type} (y : Exchange k) (reason : Text),
    y.decision uri ≠ .refuse (.notCanonical reason)
  /-- with a zone, every exchange does -/
  refused : addr.zone ≠ 0 → ∀ {k : Type → Type} (y : Exchange k),
    y.decision uri = .refuse (.notCanonical uri.print)
  /-- what an exchange decides about it is the answer to every dial -/
  dialled : ∀ {k : Type → Type} [Monad k] (y : Exchange k) (request : DialRequest k),
    request.uri = uri → y.dial request = (y.decision uri).dial request
  /-- what an exchange decides about it is the answer to every listen -/
  listened : ∀ {k : Type → Type} [Monad k] (y : Exchange k) (request : ListenRequest k),
    request.uri = uri → y.listen request = (y.decision uri).listen request

theorem reported_addrUri (addr : SocketAddr) : Reported addr (addrUri addr) where
  made := rfl
  canonical := isCanonical_addrUri_iff addr
  accepted hzone k y := y.decision_ne_notCanonical ((isCanonical_addrUri_iff addr).2 hzone)
  refused hzone k y := by
    have hnot : (addrUri addr).isCanonical = false :=
      Bool.eq_false_iff.2 fun h => hzone ((isCanonical_addrUri_iff addr).1 h)
    simp [Exchange.decision, Exchange.select, hnot]
  dialled y request huri := by rw [y.dial_eq, huri]
  listened y request huri := by rw [y.listen_eq, huri]

open MonadAttach (CanReturn)
open LawfulMonadAttach (canReturn_bind_imp' eq_of_canReturn_pure)
open Exchange (not_canReturn_error eq_of_canReturn_ok exists_canReturn_ok)

variable {m : Type → Type} [Monad m] [LawfulMonad m] [MonadAttach m] [LawfulMonadAttach m]

/-! ## What can be returned past a fault -/

section

variable {ε α β γ : Type}

theorem not_canReturn_waiting (a : α) : ¬ CanReturn (pure .waiting : m (Progress α)) (.done a) := by
  intro h
  have heq := eq_of_canReturn_pure h
  simp at heq

theorem not_canReturn_done_error (fault : ε) (a : α) :
    ¬ CanReturn (pure (.done (.error fault)) : m (Progress (Except ε α))) (.done (.ok a)) := by
  intro h
  have heq := eq_of_canReturn_pure h
  simp at heq

/-- Whatever is cleared up before a fault is given. -/
theorem not_canReturn_error_after (clear : m γ) (fault : ε) (a : α) :
    ¬ CanReturn (do let _ ← clear; pure (.error fault) : m (Except ε α)) (.ok a) := by
  intro h
  obtain ⟨-, -, h⟩ := canReturn_bind_imp' h
  exact not_canReturn_error fault a h

theorem exceptT_canReturn_bind {x : ExceptT ε m α} {f : α → ExceptT ε m β} {b : β}
    (h : CanReturn (x >>= f).run (.ok b)) :
    ∃ a, CanReturn x.run (.ok a) ∧ CanReturn (f a).run (.ok b) :=
  canReturn_bind_imp' (m := ExceptT ε m) h

/-- The result that looking again and again comes to is that of one look. -/
theorem canReturn_of_await {look : m (Progress α)} {patience : Nat} {result : α}
    (h : CanReturn (Progress.await look patience) (.done result)) :
    CanReturn look (.done result) := by
  induction patience with
  | zero => exact absurd h (not_canReturn_waiting result)
  | succ patience ih =>
    obtain ⟨seen, hseen, h⟩ := canReturn_bind_imp' h
    cases seen with
    | waiting => exact ih h
    | done first =>
      obtain rfl := Progress.done.inj (eq_of_canReturn_pure h)
      exact hseen

end

/-! ## Where the transport reports them -/

theorem canReturn_of_onSocket {α : Type} {operation : m (Except IoFault α)} {a : α}
    (h : CanReturn (onSocket operation).run (.ok a)) : CanReturn operation (.ok a) := by
  obtain ⟨result, hresult, hpure⟩ := canReturn_bind_imp' h
  obtain rfl := mapError_io_eq_ok_iff.1 (eq_of_canReturn_pure hpure)
  exact hresult

/-- The address of a connection is the one that its socket reports in the end. -/
theorem canReturn_of_connect {p : Platform m} {prep : Preparation m} {context : Context}
    {socket : Socket} {addr : SocketAddr}
    (h : CanReturn (connect p prep context socket) (.ok addr)) :
    CanReturn (p.localAddr socket) (.ok addr) := by
  obtain ⟨_, -, h⟩ := exceptT_canReturn_bind h
  obtain ⟨_, -, h⟩ := exceptT_canReturn_bind h
  obtain ⟨_, -, h⟩ := exceptT_canReturn_bind h
  obtain ⟨_, -, h⟩ := exceptT_canReturn_bind h
  obtain ⟨_, -, h⟩ := exceptT_canReturn_bind h
  obtain ⟨_, -, h⟩ := exceptT_canReturn_bind h
  exact canReturn_of_onSocket h

theorem canReturn_of_carryOut {p : Platform m} {prep : Preparation m} {context : Context}
    {ends : Socket × SocketAddr} (h : CanReturn (carryOut p prep context) (.ok ends)) :
    CanReturn (p.localAddr ends.1) (.ok ends.2) := by
  obtain ⟨socket, -, h⟩ := exists_canReturn_ok h fun _ => not_canReturn_error _ ends
  obtain ⟨addr, hconnected, h⟩ :=
    exists_canReturn_ok h fun _ => not_canReturn_error_after _ _ ends
  obtain rfl := eq_of_canReturn_ok h
  exact canReturn_of_connect hconnected

/-- A circuit that was dialled knows the local address of its socket, and the URI that was
dialled. -/
theorem exists_active_of_dial {p : Platform m} {request : DialRequest m} {circuit : Circuit m}
    (h : CanReturn (dial p request) (.ok circuit)) :
    ∃ socket addr, CanReturn (p.localAddr socket) (.ok addr) ∧
      circuit = .active (addrUri addr) request.uri (p.link socket) := by
  unfold dial at h
  split at h
  · exact absurd h (not_canReturn_error _ circuit)
  · obtain ⟨context, -, h⟩ := canReturn_bind_imp' h
    obtain ⟨now, -, h⟩ := canReturn_bind_imp' h
    split at h
    · exact absurd h (not_canReturn_error _ circuit)
    · obtain ⟨outcome, hcarried, h⟩ := canReturn_bind_imp' h
      have hcircuit := eq_of_canReturn_pure h
      cases outcome with
      | error fault => exact nomatch hcircuit
      | ok ends =>
        exact ⟨ends.1, ends.2, canReturn_of_carryOut hcarried, (Except.ok.inj hcircuit).symm⟩

theorem canReturn_of_dial {p : Platform m} {request : DialRequest m} {circuit : Circuit m}
    (h : CanReturn (dial p request) (.ok circuit)) :
    ∃ socket addr, CanReturn (p.localAddr socket) (.ok addr) ∧
      circuit.localUri = addrUri addr := by
  obtain ⟨socket, addr, haddr, rfl⟩ := exists_active_of_dial h
  exact ⟨socket, addr, haddr, rfl⟩

/-- The address of a listener is the one that its socket reports once it is bound. -/
theorem canReturn_of_occupy {p : Platform m} {control : Option (Hook m)} {wanted bound : SocketAddr}
    {socket : Socket} (h : CanReturn (occupy p control wanted socket) (.ok bound)) :
    CanReturn (p.localAddr socket) (.ok bound) := by
  obtain ⟨_, -, h⟩ := exceptT_canReturn_bind h
  obtain ⟨_, -, h⟩ := exceptT_canReturn_bind h
  obtain ⟨_, -, h⟩ := exceptT_canReturn_bind h
  obtain ⟨_, -, h⟩ := exceptT_canReturn_bind h
  obtain ⟨_, -, h⟩ := exceptT_canReturn_bind h
  exact canReturn_of_onSocket h

theorem canReturn_of_openPost {p : Platform m} {request : ListenRequest m} {post : Post}
    (h : CanReturn (openPost p request) (.ok post)) :
    ∃ socket addr, CanReturn (p.localAddr socket) (.ok addr) ∧ post.addr = addrUri addr := by
  obtain ⟨moment, -, h⟩ := canReturn_bind_imp' h
  split at h
  · exact absurd h (not_canReturn_error _ post)
  · obtain ⟨⟨socket, wanted⟩, -, h⟩ :=
      exists_canReturn_ok h fun _ => not_canReturn_error _ post
    obtain ⟨bound, hbound, h⟩ :=
      exists_canReturn_ok h fun _ => not_canReturn_error_after _ _ post
    obtain ⟨-, -, h⟩ := canReturn_bind_imp' h
    obtain rfl := eq_of_canReturn_ok h
    exact ⟨socket, bound, canReturn_of_occupy hbound, rfl⟩

/-- What an accept finds came out of the queue of the native listener. -/
theorem canReturn_of_find {p : Platform m} {post : Post} {native : Socket} {heard : Bool}
    {arrival : Arrival} (h : CanReturn (post.find p native heard) (.done (.ok arrival))) :
    CanReturn (p.takeQueued native) (.done (.ok (arrival.socket, arrival.peer))) := by
  rw [Post.find] at h
  split at h
  · exact absurd h (not_canReturn_done_error _ arrival)
  · obtain ⟨taken, htaken, h⟩ := canReturn_bind_imp' h
    split at h
    · exact absurd h (not_canReturn_waiting _)
    · exact absurd h (not_canReturn_done_error _ arrival)
    · obtain rfl := Except.ok.inj (Progress.done.inj (eq_of_canReturn_pure h))
      exact htaken

/-- What an accept takes in is what it found. -/
theorem eq_of_canReturn_receive {p : Platform m} {post : Post} {arrival taken : Arrival}
    (h : CanReturn (post.receive p arrival) (.ok taken)) : arrival = taken := by
  obtain ⟨_, -, h⟩ := exists_canReturn_ok h fun _ => not_canReturn_error_after _ _ taken
  exact eq_of_canReturn_ok h

theorem canReturn_of_look {p : Platform m} {post : Post} {native : Socket} {heard : Bool}
    {arrival : Arrival} (h : CanReturn (post.look p native heard) (.done (.ok arrival))) :
    CanReturn (p.takeQueued native) (.done (.ok (arrival.socket, arrival.peer))) := by
  obtain ⟨found, hfound, h⟩ := canReturn_bind_imp' h
  split at h
  · exact absurd h (not_canReturn_waiting _)
  · obtain ⟨-, -, h⟩ := canReturn_bind_imp' h
    exact absurd h (not_canReturn_done_error _ arrival)
  · obtain ⟨-, -, h⟩ := canReturn_bind_imp' h
    obtain ⟨received, hreceived, h⟩ := canReturn_bind_imp' h
    obtain rfl := Progress.done.inj (eq_of_canReturn_pure h)
    obtain rfl := eq_of_canReturn_receive hreceived
    exact canReturn_of_find hfound

theorem canReturn_of_watch {p : Platform m} {post : Post} {native : Socket} {circuit : Circuit m}
    (h : CanReturn (post.watch p native) (.done (.ok circuit))) :
    ∃ arrival, CanReturn (p.takeQueued native) (.done (.ok (arrival.socket, arrival.peer))) ∧
      circuit = post.circuit p arrival := by
  obtain ⟨gate, -, h⟩ := canReturn_bind_imp' h
  obtain ⟨found, hfound, h⟩ := canReturn_bind_imp' h
  have heq := eq_of_canReturn_pure h
  match found with
  | .waiting => simp [Progress.map] at heq
  | .done (.error fault) => simp [Progress.map, Except.map] at heq
  | .done (.ok arrival) =>
    refine ⟨arrival, canReturn_of_look hfound, ?_⟩
    simpa [Progress.map, Except.map] using heq.symm

/-- Whoever joins those who wait has a share of a native listener to watch. -/
theorem exists_watch_of_join {p : Platform m} {post : Post}
    {waiting : Waiting m (Except Fault (Circuit m))}
    (h : CanReturn (post.join p) (.ok waiting)) :
    ∃ native, waiting.look = post.watch p native := by
  obtain ⟨entered, -, h⟩ := canReturn_bind_imp' h
  have heq := eq_of_canReturn_pure h
  cases entered with
  | error fault => simp [Except.map] at heq
  | ok native =>
    obtain rfl := Except.ok.inj heq
    exact ⟨native, rfl⟩

/-- A circuit that was accepted knows the address of the listener, and the one that came out of the
queue with its socket. -/
theorem exists_passive_of_accept {p : Platform m} {post : Post} {patience : Nat}
    {circuit : Circuit m}
    (h : CanReturn ((post.listener p).accept patience) (.done (.ok circuit))) :
    ∃ native arrival,
      CanReturn (p.takeQueued native) (.done (.ok (arrival.socket, arrival.peer))) ∧
        circuit = post.circuit p arrival := by
  obtain ⟨joined, hjoined, h⟩ := canReturn_bind_imp' h
  split at h
  · exact absurd h (not_canReturn_done_error _ circuit)
  · next waiting =>
    obtain ⟨native, hlook⟩ := exists_watch_of_join hjoined
    obtain ⟨seen, hseen, h⟩ := canReturn_bind_imp' h
    split at h
    · obtain rfl := Progress.done.inj (eq_of_canReturn_pure h)
      rw [hlook] at hseen
      exact ⟨native, canReturn_of_watch (canReturn_of_await hseen)⟩
    · obtain ⟨-, -, h⟩ := canReturn_bind_imp' h
      exact absurd h (not_canReturn_waiting _)

theorem canReturn_of_accept {p : Platform m} {post : Post} {patience : Nat} {circuit : Circuit m}
    (h : CanReturn ((post.listener p).accept patience) (.done (.ok circuit))) :
    ∃ native socket peer, CanReturn (p.takeQueued native) (.done (.ok (socket, peer))) ∧
      circuit.remoteUri = addrUri peer := by
  obtain ⟨native, arrival, htaken, rfl⟩ := exists_passive_of_accept h
  exact ⟨native, arrival.socket, arrival.peer, htaken, rfl⟩

/-- What a listen gives is the listener of a post that it opened. -/
theorem exists_post_of_listen {p : Platform m} {lower : Option (Layer m)}
    {request : ListenRequest m} {listener : Listener m}
    (h : CanReturn ((mechanism p).listen lower request) (.ok listener)) :
    ∃ post, CanReturn (openPost p request) (.ok post) ∧ listener = post.listener p := by
  obtain ⟨opened, hopened, h⟩ := canReturn_bind_imp' h
  have heq := eq_of_canReturn_pure h
  cases opened with
  | error fault => simp [Except.map] at heq
  | ok post => exact ⟨post, hopened, (Except.ok.inj heq).symm⟩

/-- The URI of a socket address is canonical, and taken by every exchange, if the address has no
zone, and else it is neither.  The transport makes one of every address that it reports: the local
address of a circuit that was dialled, the address of a listener, and the address of the other end
of a circuit that was accepted. -/
theorem reported_canonical_iff_zoneless (p : Platform m) :
    (∀ addr, Reported addr (addrUri addr)) ∧
    (∀ lower request circuit, CanReturn ((mechanism p).dial lower request) (.ok circuit) →
      ∃ socket addr, CanReturn (p.localAddr socket) (.ok addr) ∧
        Reported addr circuit.localUri) ∧
    (∀ lower request listener, CanReturn ((mechanism p).listen lower request) (.ok listener) →
      (∃ socket addr, CanReturn (p.localAddr socket) (.ok addr) ∧
        Reported addr listener.addr) ∧
      ∀ patience circuit, CanReturn (listener.accept patience) (.done (.ok circuit)) →
        ∃ native socket peer, CanReturn (p.takeQueued native) (.done (.ok (socket, peer))) ∧
          Reported peer circuit.remoteUri) := by
  refine ⟨reported_addrUri, ?_, ?_⟩
  · intro lower request circuit h
    obtain ⟨socket, addr, haddr, huri⟩ := canReturn_of_dial h
    exact ⟨socket, addr, haddr, huri ▸ reported_addrUri addr⟩
  · intro lower request listener h
    obtain ⟨post, hpost, rfl⟩ := exists_post_of_listen h
    obtain ⟨socket, addr, haddr, huri⟩ := canReturn_of_openPost hpost
    have hlistener : (post.listener p).addr = addrUri addr := huri
    refine ⟨⟨socket, addr, haddr, hlistener ▸ reported_addrUri addr⟩, ?_⟩
    intro patience circuit haccepted
    obtain ⟨native, taken, peer, hpeer, hremote⟩ := canReturn_of_accept haccepted
    exact ⟨native, taken, peer, hpeer, hremote ▸ reported_addrUri peer⟩

/-- An address that has its meaning on one link only, with the zone of a link. -/
def linkLocal : SocketAddr := .v6 ⟨[0xfe80, 0, 0, 0, 0, 0, 0, 1], rfl⟩ 80 3

/-- A host on that link, where all goes well; its neighbour is known by an IPv4 address. -/
def linked : Platform Option where
  moment := some ⟨0, {}⟩
  looks _ := 1
  sight _ _ := some { cancelled := false, timeUp := false }
  never := none
  create _ := some (.ok ⟨1⟩)
  reuseAddress _ := some (.ok ())
  bothFamilies _ := some (.ok ())
  stopProbing _ := some (.ok ())
  probeAfter _ _ := some (.ok ())
  noDelay _ _ := some (.ok ())
  bind _ _ := some (.ok ())
  nonBlocking _ := some (.ok ())
  listen _ := some (.ok ())
  register _ := some (.ok ())
  connect _ _ := some (.done (.ok ()))
  localAddr _ := some (.ok linkLocal)
  takeQueued _ := some (.done (.ok (⟨2⟩, .v4 .loopback 7)))
  link _ := .idle
  hold _ := some ()
  release _ := some ()
  gate _ := some { native := some ⟨1⟩ }
  setGate _ _ := some ()

/-- A dial of the host to its own address, and an accept there: the URIs with the zone are not
canonical, and the one without is. -/
theorem reported_canonical_iff_zoneless_of_linked :
    ∃ dialled listener accepted,
      (mechanism linked).dial none ⟨⟨⟨0⟩, .never⟩, .empty, addrUri linkLocal, []⟩
        = some (.ok dialled) ∧
      (mechanism linked).listen none ⟨⟨⟨0⟩, .never⟩, .empty, addrUri linkLocal, []⟩
        = some (.ok listener) ∧
      listener.accept 1 = some (.done (.ok accepted)) ∧
      Reported linkLocal dialled.localUri ∧ Reported linkLocal listener.addr ∧
      Reported (.v4 .loopback 7) accepted.remoteUri ∧
      dialled.localUri.isCanonical = false ∧ listener.addr.isCanonical = false ∧
      accepted.remoteUri.isCanonical = true := by
  refine ⟨_, _, _, rfl, rfl, rfl, ?_⟩
  have hzone : ¬ linkLocal.zone = 0 := by decide
  obtain ⟨-, hdial, hlisten⟩ := reported_canonical_iff_zoneless linked
  obtain ⟨_, addr, haddr, hdialled⟩ :=
    hdial none ⟨⟨⟨0⟩, .never⟩, .empty, addrUri linkLocal, []⟩ _ rfl
  obtain ⟨⟨_, bound, hbound, hlistener⟩, haccept⟩ :=
    hlisten none ⟨⟨⟨0⟩, .never⟩, .empty, addrUri linkLocal, []⟩ _ rfl
  obtain ⟨_, _, peer, hpeer, haccepted⟩ := haccept 1 _ rfl
  obtain rfl : linkLocal = addr := Except.ok.inj (Option.some.inj haddr)
  obtain rfl : linkLocal = bound := Except.ok.inj (Option.some.inj hbound)
  obtain rfl : .v4 .loopback 7 = peer :=
    (Prod.mk.inj (Except.ok.inj (Progress.done.inj (Option.some.inj hpeer)))).2
  exact ⟨hdialled, hlistener, haccepted,
    Bool.eq_false_iff.2 fun h => hzone (hdialled.canonical.1 h),
    Bool.eq_false_iff.2 fun h => hzone (hlistener.canonical.1 h),
    haccepted.canonical.2 rfl⟩

/-- The transport reads the address back from the host of its URI; the URI is not canonical. -/
theorem not_isCanonical_addrUri_linkLocal :
    (addrUri linkLocal).print = "tcp://[fe80::1%3]:80".toList ∧
      hostAddr (addrUri linkLocal).host = .ok linkLocal ∧
      (addrUri linkLocal).isCanonical = false :=
  ⟨by decide, by decide, by decide⟩

end Tcp

end Switchboard
