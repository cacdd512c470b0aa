import Switchboard.Exchange
import Switchboard.Proofs.Directory.Registration

set_option autoImplicit false

/-!
# What an exchange decides

`Decides` says, from the registrations alone, what becomes of a request for a URI: it is refused
with a fault, or it is handed over to one mechanism.  The rules are listed in the order in which
they are tried.  Main statement: a dial and a listen carry out the one decision that the rules give,
whatever the resolver is and whatever was registered for discovery (`requests_follow_decision`).

Both sides of that statement are computations in an arbitrary monad.  Where a request is refused,
the computation is a pure one, so nothing was called; where it is handed over, it is the one call of
the mechanism and nothing else.
-/

namespace Switchboard

variable {m : Type → Type}

/-- What becomes of a request. -/
inductive Decision (m : Type → Type) where
  /-- a fault is the answer, and nothing is called -/
  | refuse (fault : Fault)
  /-- a mechanism is called, on top of a layer or of none -/
  | handOver (mechanism : Mechanism m) (lower : Option (Layer m))

namespace Decision

variable [Monad m]

/-- A dial that follows a decision. -/
def dial (decision : Decision m) (request : DialRequest m) : m (Except Fault (Circuit m)) :=
  match decision with
  | .refuse fault => pure (.error fault)
  | .handOver mechanism lower => mechanism.dial lower request

/-- A listen that follows a decision. -/
def listen (decision : Decision m) (request : ListenRequest m) : m (Except Fault (Listener m)) :=
  match decision with
  | .refuse fault => pure (.error fault)
  | .handOver mechanism lower => mechanism.listen lower request

end Decision

open Registration

/-- What becomes of a request for a URI after some registrations. -/
inductive Decides (rs : List (Registration m)) (uri : Uri) : Decision m → Prop where
  /-- a URI that is not canonical -/
  | notCanonical (canonical : uri.isCanonical = false) :
      Decides rs uri (.refuse (.notCanonical uri.print))
  /-- a scheme that names no transport -/
  | nameless (canonical : uri.isCanonical = true) (nameless : uri.transport = []) :
      Decides rs uri (.refuse (.unknownTransport uri.print uri.transport))
  /-- a security layer that was not registered -/
  | unknownSecurity (canonical : uri.isCanonical = true) (named : uri.transport ≠ [])
      (secured : uri.security ≠ []) (unknown : last? (asSecurity? uri.security) rs = none) :
      Decides rs uri (.refuse (.unknownSecurity uri.print uri.security))
  /-- a transport that was not registered, below a security layer that was, if one is named -/
  | unknownTransport (canonical : uri.isCanonical = true) (named : uri.transport ≠ [])
      (known : uri.security ≠ [] → last? (asSecurity? uri.security) rs ≠ none)
      (unknown : last? (asTransport? uri.transport) rs = none) :
      Decides rs uri (.refuse (.unknownTransport uri.print uri.transport))
  /-- the security layer is called, on top of the transport -/
  | secured (canonical : uri.isCanonical = true) (named : uri.transport ≠ [])
      (secured : uri.security ≠ []) (security transport : Mechanism m)
      (above : last? (asSecurity? uri.security) rs = some security)
      (below : last? (asTransport? uri.transport) rs = some transport) :
      Decides rs uri (.handOver security (some transport.toLayer))
  /-- the transport is called, on top of nothing -/
  | plain (canonical : uri.isCanonical = true) (named : uri.transport ≠ [])
      (unsecured : uri.security = []) (transport : Mechanism m)
      (found : last? (asTransport? uri.transport) rs = some transport) :
      Decides rs uri (.handOver transport none)

/-- Whether a registration is of a mechanism that can be called with a request. -/
def Registration.isMechanism : Registration m → Bool
  | .discovery .. => false
  | _ => true

theorem asTransport?_of_not_isMechanism (name : Text) (r : Registration m)
    (h : r.isMechanism = false) : r.asTransport? name = none := by
  cases r with
  | transport key mechanism => simp [isMechanism] at h
  | security key mechanism => rfl
  | discovery key finder => rfl

theorem asSecurity?_of_not_isMechanism (name : Text) (r : Registration m)
    (h : r.isMechanism = false) : r.asSecurity? name = none := by
  cases r with
  | transport key mechanism => rfl
  | security key mechanism => simp [isMechanism] at h
  | discovery key finder => rfl

/-- The rules do not look at what was registered for discovery. -/
theorem decides_of_same_mechanisms {rs others : List (Registration m)} {uri : Uri}
    {d : Decision m} (same : others.filter isMechanism = rs.filter isMechanism)
    (h : Decides rs uri d) : Decides others uri d := by
  have htransport : ∀ name, last? (asTransport? name) others = last? (asTransport? name) rs := by
    intro name
    have hskip := asTransport?_of_not_isMechanism (m := m) name
    rw [← last?_filter hskip others, same, last?_filter hskip rs]
  have hsecurity : ∀ name, last? (asSecurity? name) others = last? (asSecurity? name) rs := by
    intro name
    have hskip := asSecurity?_of_not_isMechanism (m := m) name
    rw [← last?_filter hskip others, same, last?_filter hskip rs]
  cases h with
  | notCanonical canonical => exact .notCanonical canonical
  | nameless canonical nameless => exact .nameless canonical nameless
  | unknownSecurity canonical named secured unknown =>
    exact .unknownSecurity canonical named secured ((hsecurity _).trans unknown)
  | unknownTransport canonical named known unknown =>
    refine .unknownTransport canonical named ?_ ((htransport _).trans unknown)
    intro hs
    rw [hsecurity]
    exact known hs
  | secured canonical named secured security transport above below =>
    exact .secured canonical named secured security transport ((hsecurity _).trans above)
      ((htransport _).trans below)
  | plain canonical named unsecured transport found =>
    exact .plain canonical named unsecured transport ((htransport _).trans found)

namespace Exchange

/-- The exchange with the directory that some registrations lead to. -/
def after (rs : List (Registration m)) (resolver : Resolver m) : Exchange m :=
  { directory := .ofRegistrations rs, resolver := resolver }

theorem transport?_after (rs : List (Registration m)) (resolver : Resolver m) (name : Text) :
    (after rs resolver).directory.transport? name = last? (asTransport? name) rs :=
  Directory.transport?_ofRegistrations rs name

theorem security?_after (rs : List (Registration m)) (resolver : Resolver m) (name : Text) :
    (after rs resolver).directory.security? name = last? (asSecurity? name) rs :=
  Directory.security?_ofRegistrations rs name

/-- The decision that an exchange comes to. -/
def decision (x : Exchange m) (uri : Uri) : Decision m :=
  match x.select uri with
  | .error fault => .refuse fault
  | .ok (mechanism, lower) => .handOver mechanism lower

/-- The exchange follows the rules. -/
theorem decision_of_decides {rs : List (Registration m)} {uri : Uri} {d : Decision m}
    (h : Decides rs uri d) (resolver : Resolver m) : (after rs resolver).decision uri = d := by
  cases h with
  | notCanonical canonical => simp [decision, select, canonical]
  | nameless canonical nameless => simp [decision, select, canonical, nameless, noTransport]
  | unknownSecurity canonical named secured unknown =>
    simp [decision, select, canonical, named, secured, security?_after, unknown]
  | unknownTransport canonical named known unknown =>
    by_cases hs : uri.security = []
    · simp [decision, select, canonical, named, hs, transport?_after, unknown, noTransport]
    · obtain ⟨security, hsecurity⟩ := Option.ne_none_iff_exists'.1 (known hs)
      simp [decision, select, canonical, named, hs, transport?_after, security?_after, hsecurity,
        unknown, noTransport]
  | secured canonical named secured security transport above below =>
    simp [decision, select, canonical, named, secured, transport?_after, security?_after, above,
      below]
  | plain canonical named unsecured transport found =>
    simp [decision, select, canonical, named, unsecured, transport?_after, found]

variable [Monad m]

theorem dial_eq (x : Exchange m) (request : DialRequest m) :
    x.dial request = (x.decision request.uri).dial request := by
  unfold dial decision
  cases x.select request.uri with
  | error fault => rfl
  | ok chosen => rfl

theorem listen_eq (x : Exchange m) (request : ListenRequest m) :
    x.listen request = (x.decision request.uri).listen request := by
  unfold listen decision
  cases x.select request.uri with
  | error fault => rfl
  | ok chosen => rfl

end Exchange

/-- Some rule applies to every URI. -/
theorem exists_decides (rs : List (Registration m)) (uri : Uri) : ∃ d, Decides rs uri d := by
  cases hcanonical : uri.isCanonical with
  | false => exact ⟨_, .notCanonical hcanonical⟩
  | true =>
    by_cases hnamed : uri.transport = []
    · exact ⟨_, .nameless hcanonical hnamed⟩
    · cases htransport : last? (asTransport? uri.transport) rs with
      | none =>
        cases hsecurity : last? (asSecurity? uri.security) rs with
        | none =>
          by_cases hs : uri.security = []
          · exact ⟨_, .unknownTransport hcanonical hnamed (fun h => absurd hs h) htransport⟩
          · exact ⟨_, .unknownSecurity hcanonical hnamed hs hsecurity⟩
        | some security =>
          exact ⟨_, .unknownTransport hcanonical hnamed (fun _ => by simp [hsecurity]) htransport⟩
      | some transport =>
        by_cases hs : uri.security = []
        · exact ⟨_, .plain hcanonical hnamed hs transport htransport⟩
        · cases hsecurity : last? (asSecurity? uri.security) rs with
          | none => exact ⟨_, .unknownSecurity hcanonical hnamed hs hsecurity⟩
          | some security =>
            exact ⟨_, .secured hcanonical hnamed hs security transport hsecurity htransport⟩

/-- No two rules disagree. -/
theorem decides_unique [Monad m] {rs : List (Registration m)} {uri : Uri} {d e : Decision m}
    (hd : Decides rs uri d) (he : Decides rs uri e) : d = e := by
  -- both are what the exchange decides, over any resolver
  let resolver : Resolver m :=
    { lookupIp := fun _ => pure (.ok []), lookupPort := fun _ _ => pure (.ok 0) }
  have hdecision := Exchange.decision_of_decides hd resolver
  rw [← hdecision]
  exact Exchange.decision_of_decides he resolver

/-- Every dial and every listen carries out the one decision that the rules give for its URI.  The
resolver and the registrations for discovery make no difference.  A text that stands for the URI
leads to the same, and a text that stands for none is refused before anything is called. -/
theorem requests_follow_decision [Monad m] (rs : List (Registration m)) (uri : Uri) :
    ∃ d : Decision m, Decides rs uri d ∧ (∀ e, Decides rs uri e → e = d) ∧
      ∀ (others : List (Registration m)) (resolver : Resolver m) (context : Context)
        (config : Config) (raw : Text),
        others.filter isMechanism = rs.filter isMechanism →
        (∀ options, (Exchange.after others resolver).dial ⟨context, config, uri, options⟩
            = d.dial ⟨context, config, uri, options⟩) ∧
        (∀ options, (Exchange.after others resolver).listen ⟨context, config, uri, options⟩
            = d.listen ⟨context, config, uri, options⟩) ∧
        (Uri.parse raw = .ok uri →
          (∀ options, (Exchange.after others resolver).dialText context config raw options
              = d.dial ⟨context, config, uri, options⟩) ∧
          ∀ options, (Exchange.after others resolver).listenText context config raw options
              = d.listen ⟨context, config, uri, options⟩) ∧
        ∀ fault, Uri.parse raw = .error fault →
          (∀ options, (Exchange.after others resolver).dialText context config raw options
              = pure (.error fault)) ∧
          ∀ options, (Exchange.after others resolver).listenText context config raw options
              = pure (.error fault) := by
  obtain ⟨d, hd⟩ := exists_decides rs uri
  refine ⟨d, hd, fun e he => decides_unique he hd, ?_⟩
  intro others resolver context config raw same
  have hdecision := Exchange.decision_of_decides (decides_of_same_mechanisms same hd) resolver
  have hdial : ∀ options, (Exchange.after others resolver).dial ⟨context, config, uri, options⟩
      = d.dial ⟨context, config, uri, options⟩ := by
    intro options
    rw [Exchange.dial_eq, hdecision]
  have hlisten : ∀ options, (Exchange.after others resolver).listen ⟨context, config, uri, options⟩
      = d.listen ⟨context, config, uri, options⟩ := by
    intro options
    rw [Exchange.listen_eq, hdecision]
  refine ⟨hdial, hlisten, ?_, ?_⟩
  · intro hraw
    constructor
    · intro options
      rw [Exchange.dialText, hraw]
      exact hdial options
    · intro options
      rw [Exchange.listenText, hraw]
      exact hlisten options
  · intro fault hraw
    constructor
    · intro options
      rw [Exchange.dialText, hraw]
    · intro options
      rw [Exchange.listenText, hraw]

end Switchboard
