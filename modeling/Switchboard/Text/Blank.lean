import Switchboard.Text.Basic

set_option autoImplicit false

/-!
# Blank characters and words

A blank is a character with the Unicode property `White_Space`; a word is a longest run of
characters that are not blank.
-/

namespace Switchboard.Text

/-- The code points with the property `White_Space`. -/
def isBlank (c : Char) : Bool :=
  let n := c.toNat
  (0x9 ≤ n && n ≤ 0xD) || n == 0x20 || n == 0x85 || n == 0xA0 || n == 0x1680
    || (0x2000 ≤ n && n ≤ 0x200A) || n == 0x2028 || n == 0x2029 || n == 0x202F || n == 0x205F
    || n == 0x3000

/-- The words of a text, in order: the pieces between blanks that are not empty. -/
def words (s : Text) : List Text := (piecesBy isBlank s).filter fun w => !w.isEmpty

/-- A blank ends a word: the words on its two sides are found apart. -/
theorem words_append_cons {c : Char} (hc : isBlank c = true) (a b : Text) :
    words (a ++ c :: b) = words a ++ words b := by
  simp [words, piecesBy_append_cons hc]

end Switchboard.Text
