import Switchboard.Text.Basic
import Switchboard.Address.Ip

set_option autoImplicit false

/-!
# Strings of a configuration

A string stands between quotation marks or between apostrophes; three of either let it run over
several lines.  Between quotation marks a backslash starts an escape, between apostrophes it stands
for itself.  Each function reads what follows the opening marks, and gives the string and the text
behind the closing marks.
-/

namespace Switchboard.Toml

/-- Whether a character may stand in a comment or, apart from marks, in a string. -/
def isPlain (c : Char) : Bool := c == '\t' || (0x20 ≤ c.toNat && c.toNat != 0x7F)

/-- Whether a character is a space or a tab. -/
def isSpace (c : Char) : Bool := c == ' ' || c == '\t'

/-- A text without the spaces and tabs at its front. -/
def skipSpaces (s : Text) : Text := s.dropWhile isSpace

/-- The character that one letter behind a backslash stands for. -/
def simpleEscape? (c : Char) : Option Char :=
  match c with
  | 'b' => some '\x08'
  | 't' => some '\t'
  | 'n' => some '\n'
  | 'f' => some '\x0c'
  | 'r' => some '\r'
  | '\x22' => some '\x22'
  | '\\' => some '\\'
  | _ => none

/-- The character whose code point some hexadecimal digits give. -/
def scalar? (digits : Text) : Option Char :=
  (Ipv6.hexValue? 0 digits).bind fun n =>
    if n.isValidChar then some (Char.ofNat n) else none

/-- Puts a character in front of a string that was read. -/
def consTo (c : Char) (r : Text × Text) : Text × Text := (c :: r.1, r.2)

/-- A string on one line between quotation marks. -/
def readBasic? : Text → Option (Text × Text)
  | [] => none
  | '\x22' :: rest => some ([], rest)
  | '\\' :: 'u' :: a :: b :: c :: d :: rest => do
    let x ← scalar? [a, b, c, d]
    return consTo x (← readBasic? rest)
  | '\\' :: 'U' :: a :: b :: c :: d :: e :: f :: g :: h :: rest => do
    let x ← scalar? [a, b, c, d, e, f, g, h]
    return consTo x (← readBasic? rest)
  | '\\' :: c :: rest => do
    let x ← simpleEscape? c
    return consTo x (← readBasic? rest)
  | c :: rest => if isPlain c && c != '\\' then (readBasic? rest).map (consTo c) else none

/-- A string on one line between apostrophes. -/
def readLiteral? : Text → Option (Text × Text)
  | [] => none
  | '\x27' :: rest => some ([], rest)
  | c :: rest => if isPlain c then (readLiteral? rest).map (consTo c) else none

/-- Whether a text starts with a line break, spaces and tabs aside. -/
def startsWithBreak (s : Text) : Bool :=
  match skipSpaces s with
  | '\n' :: _ => true
  | '\r' :: '\n' :: _ => true
  | _ => false

/-- A string over several lines between quotation marks.  While `skipping`, white space is left
out, as it is behind a backslash at the end of a line. -/
def readMultiBasic? (skipping : Bool) : Text → Option (Text × Text)
  | [] => none
  | '\x22' :: '\x22' :: '\x22' :: '\x22' :: '\x22' :: rest => some (['\x22', '\x22'], rest)
  | '\x22' :: '\x22' :: '\x22' :: '\x22' :: rest => some (['\x22'], rest)
  | '\x22' :: '\x22' :: '\x22' :: rest => some ([], rest)
  | '\r' :: '\n' :: rest =>
    if skipping then readMultiBasic? true rest
    else (readMultiBasic? false rest).map (consTo '\n')
  | '\n' :: rest =>
    if skipping then readMultiBasic? true rest
    else (readMultiBasic? false rest).map (consTo '\n')
  | '\\' :: 'u' :: a :: b :: c :: d :: rest => do
    let x ← scalar? [a, b, c, d]
    return consTo x (← readMultiBasic? false rest)
  | '\\' :: 'U' :: a :: b :: c :: d :: e :: f :: g :: h :: rest => do
    let x ← scalar? [a, b, c, d, e, f, g, h]
    return consTo x (← readMultiBasic? false rest)
  | '\\' :: c :: rest =>
    if startsWithBreak (c :: rest) then readMultiBasic? true (c :: rest)
    else do
      let x ← simpleEscape? c
      return consTo x (← readMultiBasic? false rest)
  | c :: rest =>
    if skipping && isSpace c then readMultiBasic? true rest
    else if isPlain c && c != '\\' then (readMultiBasic? false rest).map (consTo c)
    else none

/-- A string over several lines between apostrophes. -/
def readMultiLiteral? : Text → Option (Text × Text)
  | [] => none
  | '\x27' :: '\x27' :: '\x27' :: '\x27' :: '\x27' :: rest => some (['\x27', '\x27'], rest)
  | '\x27' :: '\x27' :: '\x27' :: '\x27' :: rest => some (['\x27'], rest)
  | '\x27' :: '\x27' :: '\x27' :: rest => some ([], rest)
  | '\r' :: '\n' :: rest => (readMultiLiteral? rest).map (consTo '\n')
  | '\n' :: rest => (readMultiLiteral? rest).map (consTo '\n')
  | c :: rest => if isPlain c then (readMultiLiteral? rest).map (consTo c) else none

/-- A text without the line break at its front. -/
def skipBreak : Text → Text
  | '\n' :: rest => rest
  | '\r' :: '\n' :: rest => rest
  | s => s

/-- A string of any of the four forms, from its opening marks on. -/
def readString? : Text → Option (Text × Text)
  | '\x22' :: '\x22' :: '\x22' :: rest => readMultiBasic? false (skipBreak rest)
  | '\x22' :: rest => readBasic? rest
  | '\x27' :: '\x27' :: '\x27' :: rest => readMultiLiteral? (skipBreak rest)
  | '\x27' :: rest => readLiteral? rest
  | _ => none

end Switchboard.Toml
