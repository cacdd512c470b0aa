import Switchboard.Proofs.Address.SocketText

set_option autoImplicit false

/-!
# The two ways to write a host and a port

A text is divided into a host and a port exactly if it is the two with a colon between them, or with
brackets around the host as well (`HostPort.split_eq_ok_iff`).  The second way is open to every host
without brackets, whether it holds a colon or not: brackets that were not needed are taken off too.
Joining chooses the second way only for a host with a colon, so it brings back every text but those
with needless brackets (`HostPort.split_join_and_join_split`).
-/

namespace Switchboard.HostPort

/-- A text without the characters that mark where a host and a port begin and end. -/
def Unmarked (s : Text) : Prop := ':' ∉ s ∧ '[' ∉ s ∧ ']' ∉ s

theorem splitPlain_eq_ok_iff {s host port : Text} :
    splitPlain s = .ok (host, port) ↔
      s = host ++ ':' :: port ∧ Unmarked host ∧ Unmarked port := by
  constructor
  · intro h
    unfold splitPlain at h
    split at h
    · simp at h
    · next a b hcut =>
      obtain ⟨rfl, hport⟩ := Text.cutLast?_eq_some_iff.1 hcut
      repeat' split at h
      all_goals simp only [reduceCtorEq, Except.ok.injEq, Prod.mk.injEq] at h
      obtain ⟨rfl, rfl⟩ := h
      next hhost hopen hclose =>
      simp only [List.mem_append, List.mem_cons, not_or] at hopen hclose
      exact ⟨rfl, ⟨hhost, hopen.1, hclose.1⟩, hport, hopen.2.2, hclose.2.2⟩
  · rintro ⟨rfl, hhost, hport⟩
    rw [splitPlain, Text.cutLast?_append_cons host hport.1]
    simp [hhost.1, hhost.2.1, hhost.2.2, hport.2.1, hport.2.2]

theorem splitBracketed_eq_ok_iff {inner host port : Text} :
    splitBracketed inner = .ok (host, port) ↔
      inner = host ++ ']' :: ':' :: port ∧ ('[' ∉ host ∧ ']' ∉ host) ∧ Unmarked port := by
  constructor
  · intro h
    unfold splitBracketed at h
    split at h
    · simp at h
    · next a b hcut =>
      obtain ⟨rfl, hhost⟩ := Text.cut?_eq_some_iff.1 hcut
      repeat' split at h
      all_goals simp only [reduceCtorEq, Except.ok.injEq, Prod.mk.injEq] at h
      obtain ⟨rfl, rfl⟩ := h
      next hcolon hopen hclose =>
      simp only [List.mem_append, List.mem_cons, not_or] at hopen
      exact ⟨rfl, ⟨hopen.1, hhost⟩, hcolon, hopen.2.2.2, hclose⟩
    · simp at h
  · rintro ⟨rfl, hhost, hport⟩
    rw [splitBracketed, Text.cut?_append_cons (':' :: port) hhost.2]
    simp [hhost.1, hport.1, hport.2.1, hport.2.2]

theorem split_of_head?_ne {s : Text} (h : s.head? ≠ some '[') : split s = splitPlain s := by
  unfold split
  split
  · simp at h
  · rfl

/-- A text without a colon has no port, whatever brackets it holds. -/
theorem split_of_not_mem {s : Text} (h : ':' ∉ s) : split s = .error .missingPort := by
  by_cases hs : s.head? = some '['
  · obtain ⟨inner, rfl⟩ := List.head?_eq_some_iff.1 hs
    have hinner : ':' ∉ inner := fun hmem => h (List.mem_cons_of_mem _ hmem)
    rw [split_cons_bracket]
    unfold splitBracketed
    split
    · rw [if_neg hinner]
    · next hcut =>
      obtain ⟨rfl, -⟩ := Text.cut?_eq_some_iff.1 hcut
      exact absurd (by simp) hinner
    · rfl
  · rw [split_of_head?_ne hs, splitPlain, Text.cutLast?_eq_none_iff.2 h]

/-- A text is a host and a port in one of the two ways, and in no other. -/
theorem split_eq_ok_iff {s host port : Text} :
    split s = .ok (host, port) ↔
      Unmarked host ∧ Unmarked port ∧ s = host ++ ':' :: port ∨
        ('[' ∉ host ∧ ']' ∉ host) ∧ Unmarked port ∧ s = '[' :: host ++ ']' :: ':' :: port := by
  by_cases hs : s.head? = some '['
  · obtain ⟨inner, rfl⟩ := List.head?_eq_some_iff.1 hs
    rw [split_cons_bracket, splitBracketed_eq_ok_iff]
    constructor
    · rintro ⟨rfl, hhost, hport⟩
      exact .inr ⟨hhost, hport, rfl⟩
    · rintro (⟨hhost, -, heq⟩ | ⟨hhost, hport, heq⟩)
      · -- the bracket would be the first character of the host
        cases host with
        | nil => simp at heq
        | cons c rest =>
          obtain rfl : '[' = c := (List.cons.inj heq).1
          exact absurd hhost.2.1 (by simp)
      · exact ⟨(List.cons.inj heq).2, hhost, hport⟩
  · rw [split_of_head?_ne hs, splitPlain_eq_ok_iff]
    constructor
    · rintro ⟨rfl, hhost, hport⟩
      exact .inl ⟨hhost, hport, rfl⟩
    · rintro (⟨hhost, hport, rfl⟩ | ⟨-, -, rfl⟩)
      · exact ⟨rfl, hhost, hport⟩
      · simp at hs

/-! ## Joining and splitting -/

/-- The sides of a text hold no brackets, and the port no colon. -/
theorem unbracketed_of_split {s host port : Text} (h : split s = .ok (host, port)) :
    ('[' ∉ host ∧ ']' ∉ host) ∧ Unmarked port := by
  rcases split_eq_ok_iff.1 h with ⟨hhost, hport, -⟩ | ⟨hhost, hport, -⟩
  · exact ⟨hhost.2, hport⟩
  · exact ⟨hhost, hport⟩

/-- What was joined is divided again, if no character of it is taken for a mark that it is not. -/
theorem split_join_iff {host port : Text} :
    split (join host port) = .ok (host, port) ↔ ('[' ∉ host ∧ ']' ∉ host) ∧ Unmarked port := by
  constructor
  · exact unbracketed_of_split
  · rintro ⟨hhost, hport⟩
    rw [split_eq_ok_iff]
    by_cases hcolon : ':' ∈ host
    · exact .inr ⟨hhost, hport, join_of_mem hcolon port⟩
    · exact .inl ⟨⟨hcolon, hhost⟩, hport, join_of_not_mem hcolon port⟩

/-- The sides of a text make it up again, unless it has brackets around a host without a colon. -/
theorem join_eq_iff_of_split {s host port : Text} (h : split s = .ok (host, port)) :
    join host port = s ↔ ¬ (s.head? = some '[' ∧ ':' ∉ host) := by
  rcases split_eq_ok_iff.1 h with ⟨hhost, -, rfl⟩ | ⟨hhost, -, rfl⟩
  · rw [join_of_not_mem hhost.1]
    refine iff_of_true rfl ?_
    rintro ⟨hhead, -⟩
    cases host with
    | nil => simp at hhead
    | cons c rest =>
      obtain rfl : c = '[' := by simpa using hhead
      exact hhost.2.1 List.mem_cons_self
  · by_cases hcolon : ':' ∈ host
    · rw [join_of_mem hcolon]
      simp [hcolon]
    · refine iff_of_false ?_ (by simp [hcolon])
      intro heq
      have hlength := congrArg List.length heq
      rw [join_of_not_mem hcolon] at hlength
      simp at hlength
      omega

/-- A host and a port are what their joined text is divided into, exactly if they hold no brackets
and the port no colon.  The two sides of a text, joined, are the text again, exactly if it has no
needless brackets; and they are the two sides of their joined text in any case. -/
theorem split_join_and_join_split :
    (∀ host port : Text, split (join host port) = .ok (host, port) ↔
      ('[' ∉ host ∧ ']' ∉ host) ∧ Unmarked port) ∧
    ∀ s host port : Text, split s = .ok (host, port) →
      (join host port = s ↔ ¬ (s.head? = some '[' ∧ ':' ∉ host)) ∧
        split (join host port) = .ok (host, port) := by
  refine ⟨?_, ?_⟩
  · intro host port
    exact split_join_iff
  · intro s host port h
    exact ⟨join_eq_iff_of_split h, split_join_iff.2 (unbracketed_of_split h)⟩

/-- Brackets around a host without a colon are not put back. -/
theorem split_join_and_join_split_of_needless_brackets :
    split "[a]:b".toList = .ok ("a".toList, "b".toList) ∧
      join "a".toList "b".toList ≠ "[a]:b".toList ∧
      split (join "a".toList "b".toList) = .ok ("a".toList, "b".toList) := by
  have h : split "[a]:b".toList = .ok ("a".toList, "b".toList) := rfl
  obtain ⟨hjoin, hsplit⟩ := split_join_and_join_split.2 _ _ _ h
  exact ⟨h, fun heq => hjoin.1 heq ⟨rfl, by decide⟩, hsplit⟩

end Switchboard.HostPort
