import Switchboard.Text.Decimal

set_option autoImplicit false

/-!
# Dates and times

A moment is written as a date, a time, or both with a `T` between them; a date with a time may have
an offset from universal time behind it.  Reading also accepts a small `t`, a space in its place and
a small `z`; digits of a second beyond the ninth are dropped.  The day has to exist in its month.
-/

namespace Switchboard.Toml

/-- A day of the calendar. -/
structure Date where
  year : Nat
  month : Nat
  day : Nat
  deriving DecidableEq, Repr, Inhabited

/-- A time of day, to the nanosecond. -/
structure Time where
  hour : Nat
  minute : Nat
  second : Nat
  nanosecond : Nat := 0
  deriving DecidableEq, Repr, Inhabited

/-- An offset from universal time; `universal` is written as a letter. -/
inductive Offset where
  | universal
  | minutes (n : Int)
  deriving DecidableEq, Repr, Inhabited

/-- A date, a time, or a date with a time and perhaps an offset. -/
structure Datetime where
  date : Option Date := none
  time : Option Time := none
  offset : Option Offset := none
  deriving DecidableEq, Repr, Inhabited

/-! ## Writing -/

/-- A number in at least `width` digits. -/
def padded (width n : Nat) : Text :=
  let digits := Decimal.digits n
  List.replicate (width - digits.length) '0' ++ digits

/-- A text without the zeros at its end. -/
def withoutTrailingZeros (s : Text) : Text := (s.reverse.dropWhile (· == '0')).reverse

/-- A date with hyphens. -/
def Date.print (d : Date) : Text :=
  padded 4 d.year ++ '-' :: (padded 2 d.month ++ '-' :: padded 2 d.day)

/-- A time with colons, and with as many digits of a second as are needed. -/
def Time.print (t : Time) : Text :=
  padded 2 t.hour ++ ':' :: (padded 2 t.minute ++ ':' :: padded 2 t.second)
    ++ (if t.nanosecond = 0 then []
        else '.' :: withoutTrailingZeros (padded 9 t.nanosecond))

/-- An offset with its sign. -/
def Offset.print : Offset → Text
  | .universal => ['Z']
  | .minutes n =>
    (if n < 0 then '-' else '+') ::
      (padded 2 (n.natAbs / 60) ++ ':' :: padded 2 (n.natAbs % 60))

/-- The text of a date, a time or both. -/
def Datetime.print (d : Datetime) : Text :=
  (d.date.map Date.print).getD []
    ++ (if d.date.isSome && d.time.isSome then ['T'] else [])
    ++ (d.time.map Time.print).getD []
    ++ (d.offset.map Offset.print).getD []

/-! ## Reading -/

/-- Whether a year has a leap day. -/
def isLeapYear (year : Nat) : Bool := year % 4 == 0 && (year % 100 != 0 || year % 400 == 0)

/-- The number of days of a month. -/
def daysInMonth (year month : Nat) : Nat :=
  if month = 2 then if isLeapYear year then 29 else 28
  else if month ∈ [4, 6, 9, 11] then 30
  else 31

/-- The number that some characters stand for, if they are digits. -/
def digits? (s : Text) : Option Nat := if Decimal.isNumeral s then some (Decimal.value s) else none

/-- The number that some digits stand for, if it is between two bounds. -/
def between? (low high : Nat) (s : Text) : Option Nat :=
  (digits? s).filter fun n => low ≤ n && n ≤ high

/-- The date at the front of a text, and the rest. -/
def readDate? : Text → Option (Date × Text)
  | a :: b :: c :: d :: '-' :: e :: f :: '-' :: g :: h :: rest => do
    let year ← digits? [a, b, c, d]
    let month ← between? 1 12 [e, f]
    let day ← between? 1 (daysInMonth year month) [g, h]
    return ({ year := year, month := month, day := day }, rest)
  | _ => none

/-- The nanoseconds that the digits behind a point stand for. -/
def nanoseconds (digits : Text) : Nat :=
  Decimal.value ((digits ++ List.replicate 9 '0').take 9)

/-- The nanoseconds at the front of a text, if it starts with a point, and the rest. -/
def readFraction? : Text → Option (Nat × Text)
  | '.' :: rest =>
    let digits := rest.takeWhile Char.isDigit
    if digits = [] then none else some (nanoseconds digits, rest.dropWhile Char.isDigit)
  | rest => some (0, rest)

/-- The time at the front of a text, and the rest. -/
def readTime? : Text → Option (Time × Text)
  | a :: b :: ':' :: c :: d :: ':' :: e :: f :: rest => do
    let hour ← between? 0 23 [a, b]
    let minute ← between? 0 59 [c, d]
    let second ← between? 0 60 [e, f]
    let (nanosecond, rest) ← readFraction? rest
    return ({ hour := hour, minute := minute, second := second, nanosecond := nanosecond }, rest)
  | _ => none

/-- The offset that a whole text stands for, where no text is no offset. -/
def readOffset? : Text → Option (Option Offset)
  | [] => some none
  | ['Z'] => some (some .universal)
  | ['z'] => some (some .universal)
  | [sign, a, b, ':', c, d] => do
    let hours ← between? 0 23 [a, b]
    let minutes ← between? 0 59 [c, d]
    let n : Int := hours * 60 + minutes
    if sign = '+' then some (some (.minutes n))
    else if sign = '-' then some (some (.minutes (-n)))
    else none
  | _ => none

/-- The time and the offset that a whole text stands for, behind a date. -/
def readClock? (date : Date) (s : Text) : Option Datetime := do
  let (time, rest) ← readTime? s
  let offset ← readOffset? rest
  return { date := some date, time := some time, offset := offset }

/-- The date, the time or both that a whole text stands for. -/
def Datetime.read? (s : Text) : Option Datetime :=
  match readDate? s with
  | some (date, []) => some { date := some date }
  | some (date, c :: rest) =>
    if c = 'T' ∨ c = 't' ∨ c = ' ' then readClock? date rest else none
  | none =>
    match readTime? s with
    | some (time, []) => some { time := some time }
    | _ => none

end Switchboard.Toml
