import Switchboard.Proofs.Uri.SchemeParts

set_option autoImplicit false

/-!
# Schemes made of parts

A scheme is put together with a separator in front of each part that is not empty.  Taking the parts
out of it again is not always possible: a dot in the layers is taken for the one in front of the
discovery mechanism where there is none, and a plus sign in the transport for the one in front of
the security layer.  Main statement: which parts can be taken out of the scheme that they make up,
and which schemes are made up of their parts (`parts_and_scheme_iff`).
-/

namespace Switchboard.Scheme

variable {name layer mechanism : Text}

theorem dot_mem_join_iff : '.' ∈ join name layer [] ↔ '.' ∈ name ∨ '.' ∈ layer := by
  by_cases h : layer = []
  · simp [join, h]
  · simp [join, h]

theorem splitSecurity_join (h : '+' ∉ name) (layer : Text) :
    splitSecurity (join name layer []) = (name, layer) := by
  by_cases hnil : layer = []
  · subst hnil
    simpa [join] using splitSecurity_of_not_mem h
  · simpa [join, hnil] using splitSecurity_append layer h

theorem splitDiscovery_join (hno : '.' ∉ mechanism)
    (h : mechanism ≠ [] ∨ '.' ∉ name ∧ '.' ∉ layer) :
    splitDiscovery (join name layer mechanism) = (join name layer [], mechanism) := by
  rw [join_eq_append]
  by_cases hnil : mechanism = []
  · have hdot : '.' ∉ join name layer [] := by
      rw [dot_mem_join_iff, not_or]
      exact h.resolve_left (absurd hnil)
    simp only [hnil, if_true, List.append_nil]
    exact splitDiscovery_of_not_mem hdot
  · rw [if_neg hnil]
    exact splitDiscovery_append _ hno

/-- A dot in layers that are taken out of their scheme again is the one in front of a discovery
mechanism. -/
theorem dot_not_mem_of_parts_join (hname : transport (join name layer []) = name)
    (hlayer : security (join name layer []) = layer) (h : discovery (join name layer []) = []) :
    '.' ∉ join name layer [] := by
  have hparts := @join_parts_eq_iff (join name layer [])
  rw [hname, hlayer, h] at hparts
  have hlast := (hparts.1 rfl).1
  rcases splitDiscovery_spec (join name layer []) with ⟨hno, -⟩ | ⟨stack, other, hsplit, heq, -⟩
  · exact hno
  · obtain rfl : other = [] := by rwa [discovery, hsplit] at h
    rw [heq, List.getLast?_append] at hlast
    simp at hlast

/-- Parts can be taken out of the scheme that they make up exactly if the transport holds no plus
sign, the discovery mechanism no dot, and the layers no dot either where no discovery mechanism
follows them. -/
theorem parts_join_iff :
    (transport (join name layer mechanism) = name ∧ security (join name layer mechanism) = layer ∧
        discovery (join name layer mechanism) = mechanism) ↔
      '+' ∉ name ∧ '.' ∉ mechanism ∧ (mechanism ≠ [] ∨ '.' ∉ name ∧ '.' ∉ layer) := by
  constructor
  · rintro ⟨hname, hlayer, hmechanism⟩
    obtain ⟨hplus, hdot⟩ := separator_not_mem (join name layer mechanism)
    rw [hname] at hplus
    rw [hmechanism] at hdot
    refine ⟨hplus, hdot, ?_⟩
    by_cases hnil : mechanism = []
    · subst hnil
      have hdotless := dot_not_mem_of_parts_join hname hlayer hmechanism
      rw [dot_mem_join_iff, not_or] at hdotless
      exact .inr hdotless
    · exact .inl hnil
  · rintro ⟨hplus, hdot, h⟩
    have hstack := splitDiscovery_join hdot h
    refine ⟨?_, ?_, ?_⟩
    · rw [transport, hstack, splitSecurity_join hplus]
    · rw [security, hstack, splitSecurity_join hplus]
    · rw [discovery, hstack]

/-- Parts can be taken out of the scheme that they make up exactly if no separator in them is taken
for another one, and the scheme of a URI is made up of its parts exactly if it does not end in a
dot, and something follows the first plus sign of its layers, if there is one. -/
theorem parts_and_scheme_iff :
    (∀ name layer mechanism : Text,
      (transport (join name layer mechanism) = name ∧
          security (join name layer mechanism) = layer ∧
          discovery (join name layer mechanism) = mechanism) ↔
        '+' ∉ name ∧ '.' ∉ mechanism ∧ (mechanism ≠ [] ∨ '.' ∉ name ∧ '.' ∉ layer)) ∧
    ∀ u : Uri, join u.transport u.security u.discovery = u.scheme ↔
      u.scheme.getLast? ≠ some '.' ∧ ∃ stack, Stack u.scheme stack ∧ PlusFollowed stack := by
  constructor
  · intro name layer mechanism
    exact parts_join_iff
  · intro u
    exact join_parts_eq_iff

end Switchboard.Scheme
