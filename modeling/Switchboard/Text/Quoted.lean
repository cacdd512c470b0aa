import Switchboard.Text.Unshown
import Switchboard.Text.Basic

set_option autoImplicit false

/-!
# Quoted text

Messages show a text between quotation marks and a single character between apostrophes.  Inside,
a backslash goes before the mark that ends the quotation and before another backslash; NUL, tab,
line feed and carriage return have a letter each; any other character without a shape of its own
is written as its code point in lower-case hexadecimal digits.
-/

namespace Switchboard.Quoted

/-- One character as it stands inside a quotation that `mark` ends. -/
def escape (mark c : Char) : Text :=
  if c = mark ∨ c = '\\' then ['\\', c]
  else if c = '\x00' then ['\\', '0']
  else if c = '\t' then ['\\', 't']
  else if c = '\n' then ['\\', 'n']
  else if c = '\r' then ['\\', 'r']
  else if Text.isUnshown c then
    ['\\', 'u', '\x7b'] ++ Nat.toDigits 16 c.toNat ++ ['\x7d']
  else [c]

/-- A text between two `mark`s. -/
def between (mark : Char) (s : Text) : Text :=
  mark :: s.flatMap (escape mark) ++ [mark]

/-- A text in quotation marks. -/
def text (s : Text) : Text := between '\x22' s

/-- A character in apostrophes. -/
def char (c : Char) : Text := between '\x27' [c]

end Switchboard.Quoted
