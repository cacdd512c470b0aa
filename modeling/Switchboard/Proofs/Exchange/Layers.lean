import Switchboard.Proofs.Exchange.Decision
import Switchboard.Proofs.Uri.SchemeParts

set_option autoImplicit false

/-!
# Whether a scheme names the layers that are called

Where a text is dialled or listened on, the mechanisms that are called are those of its scheme.
The scheme is exactly their names, with a plus sign between them, unless it ends in a separator with
nothing behind it: such a separator is dropped, and the call is made as if it were not there
(`scheme_names_called_layers_iff`).
-/

namespace Switchboard

open Registration

variable {m : Type → Type} [Monad m]

namespace Exchange

/-- A text whose dials and listens are all refused. -/
def Refuses (x : Exchange m) (raw : Text) (fault : Fault) : Prop :=
  ∀ context config,
    (∀ options, x.dialText context config raw options = pure (.error fault)) ∧
    ∀ options, x.listenText context config raw options = pure (.error fault)

/-- A text that stands for a URI, and whose dials and listens are all handed over to a mechanism. -/
def HandsOver (x : Exchange m) (raw : Text) (uri : Uri) (mechanism : Mechanism m)
    (lower : Option (Layer m)) : Prop :=
  Uri.parse raw = .ok uri ∧ ∀ context config,
    (∀ options, x.dialText context config raw options
      = mechanism.dial lower ⟨context, config, uri, options⟩) ∧
    ∀ options, x.listenText context config raw options
      = mechanism.listen lower ⟨context, config, uri, options⟩

theorem refuses_of_parse_error (x : Exchange m) {raw : Text} {fault : Fault}
    (h : Uri.parse raw = .error fault) : x.Refuses raw fault := by
  intro context config
  constructor
  · intro options
    rw [dialText, h]
  · intro options
    rw [listenText, h]

theorem refuses_of_decision {x : Exchange m} {raw : Text} {uri : Uri} {fault : Fault}
    (hraw : Uri.parse raw = .ok uri) (h : x.decision uri = .refuse fault) :
    x.Refuses raw fault := by
  intro context config
  constructor
  · intro options
    rw [dialText, hraw]
    exact (x.dial_eq _).trans (by rw [h]; rfl)
  · intro options
    rw [listenText, hraw]
    exact (x.listen_eq _).trans (by rw [h]; rfl)

theorem handsOver_of_decision {x : Exchange m} {raw : Text} {uri : Uri} {mechanism : Mechanism m}
    {lower : Option (Layer m)} (hraw : Uri.parse raw = .ok uri)
    (h : x.decision uri = .handOver mechanism lower) : x.HandsOver raw uri mechanism lower := by
  refine ⟨hraw, ?_⟩
  intro context config
  constructor
  · intro options
    rw [dialText, hraw]
    exact (x.dial_eq _).trans (by rw [h]; rfl)
  · intro options
    rw [listenText, hraw]
    exact (x.listen_eq _).trans (by rw [h]; rfl)

end Exchange

theorem discovery_eq_nil_of_isCanonical {uri : Uri} (h : uri.isCanonical = true) :
    Scheme.discovery uri.scheme = [] := by
  by_cases hd : uri.discovery = []
  · exact hd
  · rw [Uri.not_isCanonical_of_discovery hd] at h
    cases h

/-- Every text is refused, or handed over to the transport of its scheme, or handed over to the
security layer of its scheme on top of the transport.  The scheme is exactly the name of the
transport, or the two names with a plus sign between them, if and only if it does not end in a
separator with nothing behind it. -/
theorem scheme_names_called_layers_iff (rs : List (Registration m)) (resolver : Resolver m)
    (raw : Text) :
    (∃ fault, (Exchange.after rs resolver).Refuses raw fault) ∨
    (∃ uri transport, (Exchange.after rs resolver).HandsOver raw uri transport none ∧
      last? (asTransport? uri.transport) rs = some transport ∧
      (uri.scheme = uri.transport ↔ ¬ Scheme.Dangling uri.scheme)) ∨
    ∃ uri security transport,
      (Exchange.after rs resolver).HandsOver raw uri security (some transport.toLayer) ∧
      last? (asTransport? uri.transport) rs = some transport ∧
      last? (asSecurity? uri.security) rs = some security ∧
      (uri.scheme = uri.transport ++ '+' :: uri.security ↔ ¬ Scheme.Dangling uri.scheme) := by
  cases hraw : Uri.parse raw with
  | error fault => exact .inl ⟨fault, Exchange.refuses_of_parse_error _ hraw⟩
  | ok uri =>
    obtain ⟨d, hd⟩ := exists_decides rs uri
    have hdecision := Exchange.decision_of_decides hd resolver
    cases hd with
    | notCanonical canonical => exact .inl ⟨_, Exchange.refuses_of_decision hraw hdecision⟩
    | nameless canonical nameless => exact .inl ⟨_, Exchange.refuses_of_decision hraw hdecision⟩
    | unknownSecurity canonical named secured unknown =>
      exact .inl ⟨_, Exchange.refuses_of_decision hraw hdecision⟩
    | unknownTransport canonical named known unknown =>
      exact .inl ⟨_, Exchange.refuses_of_decision hraw hdecision⟩
    | secured canonical named secured security transport above below =>
      have hparts := Scheme.join_parts_eq_iff_not_dangling
        (discovery_eq_nil_of_isCanonical canonical)
      have hjoin : Scheme.join uri.transport uri.security []
          = uri.transport ++ '+' :: uri.security := by
        simp [Scheme.join, secured]
      refine .inr (.inr ⟨uri, security, transport, ?_, below, above, ?_⟩)
      · exact Exchange.handsOver_of_decision hraw hdecision
      · rw [← hparts, ← hjoin]
        exact eq_comm
    | plain canonical named unsecured transport found =>
      have hparts := Scheme.join_parts_eq_iff_not_dangling
        (discovery_eq_nil_of_isCanonical canonical)
      have hjoin : Scheme.join uri.transport uri.security [] = uri.transport := by
        simp [Scheme.join, unsecured]
      refine .inr (.inl ⟨uri, transport, ?_, found, ?_⟩)
      · exact Exchange.handsOver_of_decision hraw hdecision
      · rw [← hparts]
        exact ⟨fun h => hjoin.trans h.symm, fun h => h.symm.trans hjoin⟩

/-- A mechanism that tells whether it was called on top of a layer. -/
def teller : Mechanism Id where
  label := "teller"
  dial lower _ := .error (.mechanism "teller" (if lower.isSome then "lower" else "plain"))
  listen lower _ := .error (.mechanism "teller" (if lower.isSome then "lower" else "plain"))

/-- The scheme asks for a layer above the transport, but the transport is called on its own. -/
theorem dangling_plus_calls_plain_transport :
    (Exchange.after [.transport "tcp".toList teller]
        ⟨fun _ => .ok [], fun _ _ => .ok 0⟩).dialText ⟨⟨0⟩, .never⟩ {}
        "tcp+://127.0.0.1:80".toList []
      = (Except.error (.mechanism "teller" "plain") : Except Fault (Circuit Id)) ∧
    (Uri.parse "tcp+://127.0.0.1:80".toList).map (·.scheme) = .ok "tcp+".toList ∧
    last? (asTransport? "tcp".toList) [.transport "tcp".toList teller] = some teller ∧
    last? (asTransport? "tcp+".toList) [.transport "tcp".toList teller] = none := by
  refine ⟨rfl, rfl, rfl, rfl⟩

end Switchboard
