import Switchboard.Config

set_option autoImplicit false

/-!
# Settings of the TCP transport

The section of the TCP transport may say whether small writes are sent at once, and how many
milliseconds a connection attempt may take.  Other names in the section mean nothing.
-/

namespace Switchboard.Tcp

/-- The name of the TCP transport. -/
def transportName : Text := ['t', 'c', 'p']

/-- What the section of the TCP transport says. -/
structure Settings where
  noDelay : Bool := true
  connectTimeout : Option Nat := none
  deriving DecidableEq, Repr, Inhabited

namespace Settings

/-- The fault of a section that cannot be read. -/
def fault (message : String) : Fault := .config "transport.tcp".toList message

/-- Whether small writes are sent at once; they are, unless the section says otherwise. -/
def readNoDelay (table : Toml.Table) : Except Fault Bool :=
  match table.find? "nodelay".toList with
  | none => .ok true
  | some (.boolean b) => .ok b
  | some _ => .error (fault "nodelay is not a boolean")

/-- How long a connection attempt may take; no limit, unless the section gives one. -/
def readConnectTimeout (table : Toml.Table) : Except Fault (Option Nat) :=
  match table.find? "connect_timeout_ms".toList with
  | none => .ok none
  | some (.integer n) =>
    if 0 ≤ n then .ok (some n.toNat) else .error (fault "connect_timeout_ms is negative")
  | some _ => .error (fault "connect_timeout_ms is not an integer")

/-- The settings that a section describes. -/
def ofTable (table : Toml.Table) : Except Fault Settings := do
  let noDelay ← readNoDelay table
  let connectTimeout ← readConnectTimeout table
  return { noDelay := noDelay, connectTimeout := connectTimeout }

/-- The settings in a configuration; without a section, the usual ones. -/
def ofConfig (config : Config) : Except Fault Settings :=
  match config.forTransport transportName with
  | none => .ok {}
  | some table => ofTable table

end Settings

end Switchboard.Tcp
