import Switchboard.Fault
import Switchboard.NameMap
import Switchboard.Toml.Document

set_option autoImplicit false

/-!
# Configuration of mechanisms

A configuration has a section for each transport and for each security layer that it has something
to say about.  A section is a table whose meaning is up to the mechanism; only dates and times that
are written as tables are recognised in its values.  Everything else in the text of a configuration
is left aside.
-/

namespace Switchboard

/-- The sections of a configuration, by the names of transports and of security layers. -/
structure Config where
  transports : NameMap Toml.Table := .empty
  securities : NameMap Toml.Table := .empty
  deriving Inhabited

namespace Config

/-- The configuration that says nothing. -/
def empty : Config := {}

/-- The section of a transport. -/
def forTransport (c : Config) (name : Text) : Option Toml.Table := c.transports.find? name

/-- The section of a security layer. -/
def forSecurity (c : Config) (name : Text) : Option Toml.Table := c.securities.find? name

/-- Whether a configuration says nothing. -/
def isEmpty (c : Config) : Bool := c.transports.entries.isEmpty && c.securities.entries.isEmpty

/-- The section that a value is. -/
def section? (value : Toml.Value) : Option Toml.Table := value.table?.bind Toml.Table.withDates?

/-- The sections in a table of tables. -/
def sections? (table : Toml.Table) : Option (NameMap Toml.Table) :=
  (table.mapM fun e => (section? e.2).map (e.1, ·)).map .ofList

/-- The sections under a name; none, if the name is missing. -/
def sectionsUnder? (document : Toml.Table) (name : Text) : Option (NameMap Toml.Table) :=
  match document.find? name with
  | none => some .empty
  | some value => value.table?.bind sections?

/-- The configuration that a table describes. -/
def ofTable? (document : Toml.Table) : Option Config := do
  let transports ← sectionsUnder? document "transport".toList
  let securities ← sectionsUnder? document "security".toList
  return { transports := transports, securities := securities }

/-- The configuration that a text describes. -/
def parse (text : Text) : Except Fault Config :=
  match Toml.read? text with
  | none => .error (.config [] "the text is not a TOML document")
  | some document =>
    match ofTable? document with
    | none => .error (.config [] "a section cannot be read")
    | some config => .ok config

end Config

end Switchboard
