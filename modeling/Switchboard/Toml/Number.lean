import Switchboard.Address.Ip
import Switchboard.Text.Binary64
import Switchboard.Toml.Value

set_option autoImplicit false

/-!
# Numbers of a configuration

An integer is written in decimal digits with an optional sign and without leading zeros, or in
hexadecimal, octal or binary digits behind `0x`, `0o` and `0b`.  A number with a point or an
exponent is a float; so are `inf` and `nan`.  Single underscores may stand between digits.

Every function reads a whole text.
-/

namespace Switchboard.Toml

/-- Whether a text is a run of digits, with single underscores between digits at most. -/
def isDigitRun (isDigit : Char → Bool) : Text → Bool
  | [] => false
  | [c] => isDigit c
  | c :: '_' :: rest => isDigit c && isDigitRun isDigit rest
  | c :: rest => isDigit c && isDigitRun isDigit rest

/-- A run of digits without its underscores. -/
def withoutUnderscores (s : Text) : Text := s.filter (· != '_')

/-- Whether a run of decimal digits has no leading zero. -/
def hasNoLeadingZero : Text → Bool
  | '0' :: _ :: _ => false
  | _ => true

/-- The sign at the front of a text: whether it is negative, and the rest. -/
def splitSign : Text → Bool × Text
  | '-' :: rest => (true, rest)
  | '+' :: rest => (false, rest)
  | s => (false, s)

/-- The value of a run of digits of a base. -/
def runValue (base : Nat) (s : Text) : Nat :=
  (withoutUnderscores s).foldl (fun n c => base * n + (Ipv6.hexDigit? c).getD 0) 0

/-- An integer in digits of a base other than ten. -/
def readBased? (base : Nat) (isDigit : Char → Bool) (s : Text) : Option Value :=
  if isDigitRun isDigit s then Value.ofInt? (runValue base s) else none

/-- A decimal integer. -/
def readDecimalInteger? (s : Text) : Option Value :=
  let (negative, digits) := splitSign s
  if isDigitRun Char.isDigit digits && hasNoLeadingZero digits then
    Value.ofInt? (if negative then -(runValue 10 digits : Int) else runValue 10 digits)
  else none

/-- An integer of any base. -/
def readInteger? : Text → Option Value
  | '0' :: 'x' :: rest => readBased? 16 (fun c => (Ipv6.hexDigit? c).isSome) rest
  | '0' :: 'o' :: rest => readBased? 8 (fun c => '0' ≤ c && c ≤ '7') rest
  | '0' :: 'b' :: rest => readBased? 2 (fun c => c == '0' || c == '1') rest
  | s => readDecimalInteger? s

/-- The exponent behind an `e`, in digits that may have leading zeros. -/
def readExponent? (s : Text) : Option Int :=
  let (negative, digits) := splitSign s
  if isDigitRun Char.isDigit digits then
    some (if negative then -(runValue 10 digits : Int) else runValue 10 digits)
  else none

/-- The bits of a float with a sign. -/
def signed (negative : Bool) (bits : Nat) : Value :=
  .float (if negative then Binary64.signBit + bits else bits)

/-- A decimal with a sign as a float.  A positive one beyond the range is refused, a negative one
becomes negative infinity. -/
def floatOf? (negative : Bool) (significand : Nat) (exponent : Int) : Option Value :=
  let bits := Binary64.ofDecimal significand exponent
  if !negative && bits == Binary64.infinity then none else some (signed negative bits)

/-- A float in digits: a whole part, then a fraction, an exponent, or both. -/
def readDigitFloat? (s : Text) : Option Value := do
  let (negative, unsigned) := splitSign s
  let isE := fun c : Char => c == 'e' || c == 'E'
  let mantissa := unsigned.takeWhile (!isE ·)
  let exponent ←
    match unsigned.dropWhile (!isE ·) with
    | [] => some none
    | _ :: digits => (readExponent? digits).map some
  let (whole, fraction) ←
    match Text.cut? '.' mantissa with
    | none => if exponent.isSome then some (mantissa, []) else none
    | some (whole, fraction) =>
      if isDigitRun Char.isDigit fraction then some (whole, fraction) else none
  if isDigitRun Char.isDigit whole && hasNoLeadingZero whole then
    let places := (withoutUnderscores fraction).length
    floatOf? negative (runValue 10 (whole ++ fraction)) (exponent.getD 0 - places)
  else none

/-- A float of any form. -/
def readFloat? (s : Text) : Option Value :=
  let (negative, unsigned) := splitSign s
  if unsigned = ['i', 'n', 'f'] then some (signed negative Binary64.infinity)
  else if unsigned = ['n', 'a', 'n'] then some (signed negative Binary64.notANumber)
  else readDigitFloat? s

/-- A truth value, a date or time, a float or an integer. -/
def readWord? (s : Text) : Option Value :=
  if s = ['t', 'r', 'u', 'e'] then some (.boolean true)
  else if s = ['f', 'a', 'l', 's', 'e'] then some (.boolean false)
  else
    (Datetime.read? s).map .datetime |>.or (readFloat? s) |>.or (readInteger? s)

end Switchboard.Toml
