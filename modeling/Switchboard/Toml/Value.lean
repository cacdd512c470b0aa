import Switchboard.Toml.Datetime

set_option autoImplicit false

/-!
# Values of a configuration

A configuration is a table: values under names, each name once.  A value is a text, a signed
integer of 64 bits, a binary64 number (given by its bits), a truth value, a date or time, an array
or a table.
-/

namespace Switchboard.Toml

/-- A value of a configuration. -/
inductive Value where
  | string (s : Text)
  | integer (n : Int)
  | float (bits : Nat)
  | boolean (b : Bool)
  | datetime (d : Datetime)
  | array (items : List Value)
  | table (entries : List (Text × Value))
  deriving Repr, Inhabited

/-- Values under names. -/
abbrev Table : Type := List (Text × Value)

/-- The value of a name in a table. -/
def Table.find? (t : Table) (name : Text) : Option Value :=
  (List.find? (fun e => e.1 == name) t).map (·.2)

/-- The least and the greatest integer. -/
def minInteger : Int := -9223372036854775808

/-- The greatest integer. -/
def maxInteger : Int := 9223372036854775807

/-- The integer as a value, if it fits into 64 bits. -/
def Value.ofInt? (n : Int) : Option Value :=
  if minInteger ≤ n ∧ n ≤ maxInteger then some (.integer n) else none

/-! ## Dates and times as tables -/

/-- The name under which a date or time stands when it is read as a table. -/
def datetimeName : Text := "$__toml_private_datetime".toList

/-- A value read as a table: a table itself, or a date or time under a name of its own. -/
def Value.table? : Value → Option Table
  | .table entries => some entries
  | .datetime d => some [(datetimeName, .string d.print)]
  | _ => none

/-- The date or time that a value is the text of. -/
def Value.datetime? : Value → Option Datetime
  | .string s => Datetime.read? s
  | _ => none

/-- Whether a table starts with the name that a date or time has in a table. -/
def Table.startsWithDate (t : Table) : Bool := t.head?.any fun e => e.1 == datetimeName

mutual

/-- A value in which each table that starts with the name of a date or time is replaced by that date
or time, whatever else the table holds.  There is none if the name has not the text of a date or
time. -/
def Value.withDates? : Value → Option Value
  | .array items => (Value.itemsWithDates? items).map .array
  | .table entries =>
    if Table.startsWithDate entries then
      ((Table.find? entries datetimeName).bind Value.datetime?).map .datetime
    else (Table.withDates? entries).map .table
  | value => some value

/-- The items of an array with the dates and times in them. -/
def Value.itemsWithDates? : List Value → Option (List Value)
  | [] => some []
  | value :: rest => do return (← value.withDates?) :: (← Value.itemsWithDates? rest)

/-- A table with the dates and times in the values of its names. -/
def Table.withDates? : List (Text × Value) → Option (List (Text × Value))
  | [] => some []
  | (name, value) :: rest => do return (name, ← value.withDates?) :: (← Table.withDates? rest)

end

end Switchboard.Toml
