import Switchboard.Proofs.Tcp.ReportedAddresses
import Switchboard.Proofs.Uri.Spelling
import Switchboard.Scripted.World

set_option autoImplicit false

/-!
# The URIs at the two ends of a connection

Each end of a connection has a URI for itself and one for the other end.  Three of the four are made
of socket addresses that the host reported; the URI that a dialled circuit has for the other end is
the one that was dialled.  So what the two ends say of the dialling end is the same text wherever
the host reports the same address to both, but what they say of the listening end is the same text
only if the URI was dialled in the spelling that the transport prints.  Main statement:
`same_text_iff_spelled_alike`.
-/

namespace Switchboard.Tcp

open MonadAttach (CanReturn)
open LawfulMonadAttach (canReturn_bind_imp' eq_of_canReturn_pure)

/-- Whether a URI is spelled as the transport prints a socket address. -/
def IsSpelledPlainly (uri : Uri) : Prop := ∃ addr, uri = addrUri addr

/-- The URIs at the two ends of a connection, the URI that was dialled, and the addresses that the
host reported: the local address of the dialling socket, the address that the listener was bound to,
and the address of the other end that came with the accepted socket. -/
structure Ends {m : Type → Type} (dialled accepted : Circuit m) (uri : Uri)
    (own bound peer : SocketAddr) : Prop where
  dialledLocal : dialled.localUri = addrUri own
  dialledRemote : dialled.remoteUri = uri
  acceptedLocal : accepted.localUri = addrUri bound
  acceptedRemote : accepted.remoteUri = addrUri peer

/-- Different addresses have URIs with different texts. -/
theorem print_addrUri_inj {addr other : SocketAddr} :
    (addrUri addr).print = (addrUri other).print ↔ addr = other := by
  constructor
  · intro h
    have huri : addrUri addr = addrUri other :=
      (Uri.print_eq_ofSocketAddr_iff (.ofSocketAddr transportName addr) rfl other).1 h
    have hhost : addr.print = other.print := congrArg Uri.host huri
    have hread := SocketAddr.read?_print addr
    rw [hhost, SocketAddr.read?_print] at hread
    exact (Option.some.inj hread).symm
  · rintro rfl
    rfl

/-- A URI that leads to an address is spelled plainly only if it is the one of that address. -/
theorem isSpelledPlainly_iff {uri : Uri} {addr : SocketAddr} (h : hostAddr uri.host = .ok addr) :
    IsSpelledPlainly uri ↔ uri = addrUri addr := by
  constructor
  · rintro ⟨other, rfl⟩
    have hother : hostAddr other.print = .ok addr := h
    rw [hostAddr_print] at hother
    obtain rfl := Except.ok.inj hother
    rfl
  · intro huri
    exact ⟨addr, huri⟩

variable {m : Type → Type} [Monad m] [LawfulMonad m] [MonadAttach m] [LawfulMonadAttach m]

/-- Whatever the host is, what the two ends of a connection say of the dialling end is the same text
exactly if the host reported the same address to both, and what they say of the listening end is the
same text exactly if the URI of the bound address itself was dialled.  A URI that leads to the bound
address is that one only if it is spelled plainly. -/
theorem same_text_iff_spelled_alike (p : Platform m) {listenLower dialLower : Option (Layer m)}
    {opening : ListenRequest m} {listener : Listener m} {request : DialRequest m}
    {dialled accepted : Circuit m} {patience : Nat}
    (hlisten : CanReturn ((mechanism p).listen listenLower opening) (.ok listener))
    (hdial : CanReturn ((mechanism p).dial dialLower request) (.ok dialled))
    (haccept : CanReturn (listener.accept patience) (.done (.ok accepted)))
    (obtained : request.uri.Obtained) :
    ∃ own bound peer,
      (∃ socket, CanReturn (p.localAddr socket) (.ok own)) ∧
      (∃ socket, CanReturn (p.localAddr socket) (.ok bound)) ∧
      (∃ native socket, CanReturn (p.takeQueued native) (.done (.ok (socket, peer)))) ∧
      listener.addr = addrUri bound ∧ Ends dialled accepted request.uri own bound peer ∧
      (accepted.remoteUri.print = dialled.localUri.print ↔ peer = own) ∧
      (dialled.remoteUri.print = accepted.localUri.print ↔ request.uri = addrUri bound) ∧
      (hostAddr request.uri.host = .ok bound →
        (dialled.remoteUri.print = accepted.localUri.print ↔ IsSpelledPlainly request.uri)) := by
  obtain ⟨dialling, own, hown, rfl⟩ := exists_active_of_dial hdial
  obtain ⟨post, hpost, rfl⟩ := exists_post_of_listen hlisten
  obtain ⟨listening, bound, hbound, haddr⟩ := canReturn_of_openPost hpost
  obtain ⟨native, arrival, htaken, rfl⟩ := exists_passive_of_accept haccept
  have hremote : request.uri.print = post.addr.print ↔ request.uri = addrUri bound := by
    rw [haddr]
    exact Uri.print_eq_ofSocketAddr_iff obtained rfl bound
  refine ⟨own, bound, arrival.peer, ⟨dialling, hown⟩, ⟨listening, hbound⟩,
    ⟨native, arrival.socket, htaken⟩, haddr, ⟨rfl, rfl, haddr, rfl⟩, print_addrUri_inj, hremote, ?_⟩
  intro htarget
  exact hremote.trans (isSpelledPlainly_iff htarget).symm

/-! ## A listener on one address, dialled in several ways -/

/-- Opens a listener, dials, and accepts: the circuits at the two ends of the connection. -/
def encounter {m : Type → Type} [Monad m] (p : Platform m) (opening : ListenRequest m)
    (request : DialRequest m) : m (Option (Circuit m × Circuit m)) := do
  match ← (mechanism p).listen none opening with
  | .error _ => pure none
  | .ok listener =>
    match ← (mechanism p).dial none request with
    | .error _ => pure none
    | .ok dialled =>
      match ← listener.accept 1 with
      | .done (.ok accepted) => pure (some (dialled, accepted))
      | _ => pure none

theorem exists_listener_of_encounter {p : Platform m} {opening : ListenRequest m}
    {request : DialRequest m} {dialled accepted : Circuit m}
    (h : CanReturn (encounter p opening request) (some (dialled, accepted))) :
    ∃ listener, CanReturn ((mechanism p).listen none opening) (.ok listener) ∧
      CanReturn ((mechanism p).dial none request) (.ok dialled) ∧
      CanReturn (listener.accept 1) (.done (.ok accepted)) := by
  have hnone : ¬ CanReturn (pure none : m (Option (Circuit m × Circuit m)))
      (some (dialled, accepted)) := by
    intro h
    have heq := eq_of_canReturn_pure h
    simp at heq
  obtain ⟨opened, hopened, h⟩ := canReturn_bind_imp' h
  cases opened with
  | error fault => exact absurd h hnone
  | ok listener =>
    obtain ⟨made, hmade, h⟩ := canReturn_bind_imp' h
    cases made with
    | error fault => exact absurd h hnone
    | ok circuit =>
      obtain ⟨seen, hseen, h⟩ := canReturn_bind_imp' h
      split at h
      · have heq := eq_of_canReturn_pure h
        obtain ⟨rfl, rfl⟩ := Prod.mk.inj (Option.some.inj heq)
        exact ⟨listener, hopened, hmade, hseen⟩
      · exact absurd h hnone

/-- A request to listen on a port of 127.0.0.1 that the host gives out. -/
def loopbackOpening : ListenRequest Scripted.Run :=
  ⟨⟨⟨0⟩, .never⟩, .empty, { scheme := transportName, host := "127.0.0.1:0".toList }, []⟩

/-- A request to dial a URI. -/
def plainDial (uri : Uri) : DialRequest Scripted.Run := ⟨⟨⟨0⟩, .never⟩, .empty, uri, []⟩

/-- An encounter on a host that is up and on which nothing has happened yet. -/
def meeting (uri : Uri) : Option (Circuit Scripted.Run × Circuit Scripted.Run) :=
  ((encounter Scripted.World.platform loopbackOpening (plainDial uri)).run.run (.start true)).1.join

/-- The texts of the URIs at the two ends. -/
def textsOf {m : Type → Type} (ends : Circuit m × Circuit m) : List Text :=
  [ends.1.localUri.print, ends.1.remoteUri.print, ends.2.localUri.print, ends.2.remoteUri.print]

theorem canReturn_of_meeting {uri : Uri} {ends : Circuit Scripted.Run × Circuit Scripted.Run}
    (h : meeting uri = some ends) :
    CanReturn (encounter Scripted.World.platform loopbackOpening (plainDial uri)) (some ends) := by
  have hrun := Option.join_eq_some_iff.1 h
  exact ⟨.start true, _, Prod.ext hrun rfl⟩

/-- The listener has the first port that the host gives out, 41873, and is dialled as it prints its
address: the ends agree on both. -/
theorem same_text_iff_spelled_alike_of_own_spelling :
    let request := plainDial (addrUri (.v4 .loopback 41873))
    ∃ listener dialled accepted own bound peer,
      CanReturn ((mechanism Scripted.World.platform).listen none loopbackOpening) (.ok listener) ∧
      CanReturn ((mechanism Scripted.World.platform).dial none request) (.ok dialled) ∧
      CanReturn (listener.accept 1) (.done (.ok accepted)) ∧ request.uri.Obtained ∧
      Ends dialled accepted request.uri own bound peer ∧
      bound = .v4 .loopback 41873 ∧ own = .v4 .loopback 41874 ∧ peer = own ∧
      dialled.remoteUri.print = accepted.localUri.print ∧
      accepted.remoteUri.print = dialled.localUri.print ∧ IsSpelledPlainly request.uri := by
  intro request
  have htexts : (meeting (addrUri (.v4 .loopback 41873))).map textsOf
      = some ["tcp://127.0.0.1:41874".toList, "tcp://127.0.0.1:41873".toList,
        "tcp://127.0.0.1:41873".toList, "tcp://127.0.0.1:41874".toList] := by decide +kernel
  obtain ⟨⟨dialled, accepted⟩, hmeeting, htexts⟩ := Option.map_eq_some_iff.1 htexts
  obtain ⟨listener, hlisten, hdial, haccept⟩ :=
    exists_listener_of_encounter (canReturn_of_meeting hmeeting)
  have obtained : request.uri.Obtained := .ofSocketAddr transportName (.v4 .loopback 41873)
  obtain ⟨own, bound, peer, -, -, -, -, hends, hdialling, hlistening, hspelling⟩ :=
    same_text_iff_spelled_alike Scripted.World.platform hlisten hdial haccept obtained
  simp only [textsOf, List.cons.injEq, and_true] at htexts
  obtain ⟨hlocal, -, hbound, hremote⟩ := htexts
  rw [hends.dialledLocal] at hlocal
  rw [hends.acceptedLocal] at hbound
  obtain rfl : own = .v4 .loopback 41874 := print_addrUri_inj.1 (hlocal.trans (by decide))
  obtain rfl : bound = .v4 .loopback 41873 := print_addrUri_inj.1 (hbound.trans (by decide))
  obtain rfl : peer = .v4 .loopback 41874 := by
    rw [hends.acceptedRemote] at hremote
    exact print_addrUri_inj.1 (hremote.trans (by decide))
  refine ⟨listener, dialled, accepted, _, _, _, hlisten, hdial, haccept, obtained, hends, rfl, rfl,
    rfl, hlistening.2 rfl, hdialling.2 rfl, ?_⟩
  exact (hspelling (hostAddr_print (.v4 .loopback 41873))).1 (hlistening.2 rfl)

/-- A text that is a canonical URI and, dialled, leads to the listener on 127.0.0.1; what the ends
say of the dialling end is the same text, but what they say of the listening end is not. -/
def DiffersOver (raw : Text) : Prop :=
  ∃ uri dialled accepted, Uri.parse raw = .ok uri ∧ uri.isCanonical = true ∧
    meeting uri = some (dialled, accepted) ∧
    accepted.localUri.print = "tcp://127.0.0.1:41873".toList ∧
    accepted.remoteUri.print = dialled.localUri.print ∧
    dialled.remoteUri.print ≠ accepted.localUri.print

theorem differsOver_of_texts {raw : Text}
    (hother : raw ≠ "tcp://127.0.0.1:41873".toList)
    (h : (do
        let uri ← (Uri.parse raw).toOption
        guard (uri.isCanonical = true)
        return textsOf (← meeting uri))
      = some ["tcp://127.0.0.1:41874".toList, raw, "tcp://127.0.0.1:41873".toList,
        "tcp://127.0.0.1:41874".toList]) : DiffersOver raw := by
  obtain ⟨uri, hparse, h⟩ := Option.bind_eq_some_iff.1 h
  obtain ⟨_, hguard, h⟩ := Option.bind_eq_some_iff.1 h
  obtain ⟨⟨dialled, accepted⟩, hends, htexts⟩ := Option.bind_eq_some_iff.1 h
  have htexts := Option.some.inj htexts
  simp only [textsOf, List.cons.injEq, and_true] at htexts
  obtain ⟨hlocal, hremote, hlistening, hpeer⟩ := htexts
  refine ⟨uri, dialled, accepted, ?_, ?_, hends, hlistening, hpeer.trans hlocal.symm, ?_⟩
  · cases hread : Uri.parse raw with
    | error fault => simp [hread, Except.toOption] at hparse
    | ok read =>
      obtain rfl : read = uri := by simpa [hread, Except.toOption] using hparse
      rfl
  · by_contra hcanonical
    simp [guard, hcanonical] at hguard
  · rw [hremote, hlistening]
    exact hother

/-- The same listener, dialled as every address of the host, with a zero in front of the port, and
with a path. -/
theorem texts_differ_of_other_spellings :
    DiffersOver "tcp://0.0.0.0:41873".toList ∧ DiffersOver "tcp://127.0.0.1:041873".toList ∧
      DiffersOver "tcp://127.0.0.1:41873/".toList :=
  ⟨differsOver_of_texts (by decide) (by decide +kernel),
    differsOver_of_texts (by decide) (by decide +kernel),
    differsOver_of_texts (by decide) (by decide +kernel)⟩

end Switchboard.Tcp
