import Switchboard.Uri.Basic

set_option autoImplicit false

/-!
# The parts of a scheme

A scheme is cut at its last dot and at the first plus sign before that.  A separator with nothing
behind it is cut off like any other, but the empty part that it leaves is not told from a part that
is missing.  Main statements: the parts of a scheme make it up exactly if it does not end in a dot,
and something follows the first plus sign before the last dot (`join_parts_eq_iff`); for a scheme
that names no discovery mechanism, exactly if it does not end in a separator with nothing behind it
(`join_parts_eq_iff_not_dangling`).
-/

namespace Switchboard.Scheme

/-- A scheme that ends in a separator with nothing behind it: in a dot, or in the only plus sign. -/
def Dangling (scheme : Text) : Prop :=
  (∃ stack, scheme = stack ++ ['.']) ∨ ∃ name, '+' ∉ name ∧ scheme = name ++ ['+']

/-- What a scheme says of its layers: the text before its last dot, or all of it. -/
inductive Stack : Text → Text → Prop where
  | undotted {scheme : Text} (h : '.' ∉ scheme) : Stack scheme scheme
  | dotted (stack : Text) {name : Text} (h : '.' ∉ name) : Stack (stack ++ '.' :: name) stack

/-- A text in which something follows the first plus sign, if there is one. -/
def PlusFollowed (stack : Text) : Prop :=
  '+' ∉ stack ∨ ∃ name c rest, '+' ∉ name ∧ stack = name ++ '+' :: c :: rest

/-! ## The two cuts -/

theorem splitDiscovery_of_not_mem {scheme : Text} (h : '.' ∉ scheme) :
    splitDiscovery scheme = (scheme, []) := by
  rw [splitDiscovery, Text.cutLast?_eq_none_iff.2 h]
  rfl

theorem splitDiscovery_append (stack : Text) {name : Text} (h : '.' ∉ name) :
    splitDiscovery (stack ++ '.' :: name) = (stack, name) := by
  rw [splitDiscovery, Text.cutLast?_append_cons stack h]
  rfl

theorem splitSecurity_of_not_mem {stack : Text} (h : '+' ∉ stack) :
    splitSecurity stack = (stack, []) := by
  rw [splitSecurity, Text.cut?_eq_none_iff.2 h]
  rfl

theorem splitSecurity_append {name : Text} (layer : Text) (h : '+' ∉ name) :
    splitSecurity (name ++ '+' :: layer) = (name, layer) := by
  rw [splitSecurity, Text.cut?_append_cons layer h]
  rfl

/-- What the discovery mechanism is cut from. -/
theorem splitDiscovery_spec (scheme : Text) :
    '.' ∉ scheme ∧ splitDiscovery scheme = (scheme, []) ∨
      ∃ stack name, splitDiscovery scheme = (stack, name) ∧ scheme = stack ++ '.' :: name ∧
        '.' ∉ name := by
  cases hcut : Text.cutLast? '.' scheme with
  | none =>
    have hno := Text.cutLast?_eq_none_iff.1 hcut
    exact .inl ⟨hno, splitDiscovery_of_not_mem hno⟩
  | some sides =>
    obtain ⟨stack, name⟩ := sides
    obtain ⟨rfl, hno⟩ := Text.cutLast?_eq_some_iff.1 hcut
    exact .inr ⟨stack, name, splitDiscovery_append stack hno, rfl, hno⟩

/-- What the security layer is cut from. -/
theorem splitSecurity_spec (stack : Text) :
    '+' ∉ stack ∧ splitSecurity stack = (stack, []) ∨
      ∃ name layer, splitSecurity stack = (name, layer) ∧ stack = name ++ '+' :: layer ∧
        '+' ∉ name := by
  cases hcut : Text.cut? '+' stack with
  | none =>
    have hno := Text.cut?_eq_none_iff.1 hcut
    exact .inl ⟨hno, splitSecurity_of_not_mem hno⟩
  | some sides =>
    obtain ⟨name, layer⟩ := sides
    obtain ⟨rfl, hno⟩ := Text.cut?_eq_some_iff.1 hcut
    exact .inr ⟨name, layer, splitSecurity_append layer hno, rfl, hno⟩

theorem stack_iff {scheme stack : Text} :
    Stack scheme stack ↔ (splitDiscovery scheme).1 = stack := by
  constructor
  · rintro (hno | ⟨_, hno⟩)
    · rw [splitDiscovery_of_not_mem hno]
    · rw [splitDiscovery_append _ hno]
  · rintro rfl
    rcases splitDiscovery_spec scheme with ⟨hno, hsplit⟩ | ⟨stack, name, hsplit, rfl, hno⟩
    · rw [hsplit]
      exact .undotted hno
    · rw [hsplit]
      exact .dotted stack hno

/-- The parts of a scheme hold no separator that they are cut at. -/
theorem separator_not_mem (scheme : Text) : '+' ∉ transport scheme ∧ '.' ∉ discovery scheme := by
  constructor
  · rcases splitSecurity_spec (splitDiscovery scheme).1 with
      ⟨hno, hsplit⟩ | ⟨name, layer, hsplit, -, hno⟩
    · rw [transport, hsplit]
      exact hno
    · rw [transport, hsplit]
      exact hno
  · rcases splitDiscovery_spec scheme with ⟨-, hsplit⟩ | ⟨stack, name, hsplit, -, hno⟩
    · rw [discovery, hsplit]
      exact List.not_mem_nil
    · rw [discovery, hsplit]
      exact hno

/-! ## Putting the parts together again -/

theorem join_eq_append (name layer mechanism : Text) :
    join name layer mechanism
      = join name layer [] ++ if mechanism = [] then [] else '.' :: mechanism := by
  simp [join]

/-- Two layers never make up more than the text that they were cut from. -/
theorem length_join_layers_le (stack : Text) :
    (join (splitSecurity stack).1 (splitSecurity stack).2 []).length ≤ stack.length := by
  rcases splitSecurity_spec stack with ⟨-, hsplit⟩ | ⟨name, layer, hsplit, rfl, -⟩
  · rw [hsplit]
    simp [join]
  · rw [hsplit]
    by_cases hnil : layer = []
    · simp [join, hnil]
    · simp [join, hnil]

theorem plusFollowed_iff {stack : Text} :
    PlusFollowed stack ↔ ¬ ∃ name, '+' ∉ name ∧ stack = name ++ ['+'] := by
  constructor
  · rintro (hno | ⟨name, c, rest, hname, rfl⟩) ⟨other, hother, heq⟩
    · simp [heq] at hno
    · have hcut := Text.cut?_append_cons (c :: rest) hname
      rw [heq, Text.cut?_append_cons [] hother] at hcut
      simp at hcut
  · intro hend
    rcases splitSecurity_spec stack with ⟨hno, -⟩ | ⟨name, layer, -, rfl, hno⟩
    · exact .inl hno
    · cases layer with
      | nil => exact absurd ⟨name, hno, rfl⟩ hend
      | cons c rest => exact .inr ⟨name, c, rest, hno, rfl⟩

/-- Two layers make up the text that they were cut from, unless it ends in its only plus sign. -/
theorem join_layers_eq_iff {stack : Text} :
    join (splitSecurity stack).1 (splitSecurity stack).2 [] = stack ↔ PlusFollowed stack := by
  rcases splitSecurity_spec stack with ⟨hno, hsplit⟩ | ⟨name, layer, hsplit, rfl, hno⟩
  · rw [hsplit]
    refine iff_of_true ?_ (.inl hno)
    simp [join]
  · rw [hsplit]
    cases layer with
    | nil =>
      refine iff_of_false ?_ fun h => plusFollowed_iff.1 h ⟨name, hno, rfl⟩
      simp [join]
    | cons c rest =>
      refine iff_of_true ?_ (.inr ⟨name, c, rest, hno, rfl⟩)
      simp [join]

/-- A scheme is made up of its parts exactly if it does not end in a dot, and something follows the
first plus sign of its layers, if there is one. -/
theorem join_parts_eq_iff {scheme : Text} :
    join (transport scheme) (security scheme) (discovery scheme) = scheme ↔
      scheme.getLast? ≠ some '.' ∧ ∃ stack, Stack scheme stack ∧ PlusFollowed stack := by
  simp only [stack_iff, exists_eq_left', transport, security, discovery]
  rw [join_eq_append, ← join_layers_eq_iff]
  rcases splitDiscovery_spec scheme with ⟨hno, hsplit⟩ | ⟨stack, name, hsplit, rfl, hno⟩
  · have hlast : scheme.getLast? ≠ some '.' := fun h => hno (List.mem_of_getLast? h)
    simp [hsplit, hlast]
  · simp only [hsplit]
    by_cases hnil : name = []
    · -- the dot at the end is not put back
      subst hnil
      have hshort := length_join_layers_le stack
      refine iff_of_false ?_ (by simp)
      intro heq
      have hlong := congrArg List.length heq
      simp at hlong
      omega
    · have hlast : (stack ++ '.' :: name).getLast? ≠ some '.' := by
        have hname : name.getLast? = some (name.getLast hnil) := List.getLast?_eq_some_getLast hnil
        rw [List.getLast?_append, List.getLast?_cons, hname]
        intro h
        exact hno (Option.some.inj h ▸ List.getLast_mem hnil)
      rw [if_neg hnil, List.append_cancel_right_eq]
      exact ⟨fun heq => ⟨hlast, heq⟩, And.right⟩

/-- A scheme that names no discovery mechanism is made up of its transport and its security layer
exactly if it does not end in a separator with nothing behind it. -/
theorem join_parts_eq_iff_not_dangling {scheme : Text} (h : discovery scheme = []) :
    join (transport scheme) (security scheme) [] = scheme ↔ ¬ Dangling scheme := by
  have hparts := @join_parts_eq_iff scheme
  rw [h] at hparts
  rw [hparts, Dangling, not_or, ← plusFollowed_iff, ← List.getLast?_eq_some_iff]
  refine and_congr_right fun hlast => ?_
  simp only [stack_iff, exists_eq_left']
  rcases splitDiscovery_spec scheme with ⟨-, hsplit⟩ | ⟨stack, name, hsplit, rfl, -⟩
  · rw [hsplit]
  · -- with no discovery mechanism behind it, the dot would be the last character
    obtain rfl : name = [] := by rwa [discovery, hsplit] at h
    simp at hlast

end Switchboard.Scheme
