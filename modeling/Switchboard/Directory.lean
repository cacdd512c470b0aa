import Switchboard.Mechanism
import Switchboard.NameMap

set_option autoImplicit false

/-!
# The directory of mechanisms

Transports, security layers and discovery mechanisms are known by their names, in three domains
that do not touch one another.  Entering a mechanism under a name replaces the one that was known
by it before, and gives that one back.
-/

namespace Switchboard

/-- The mechanisms that are known, by domain and name. -/
structure Directory (m : Type → Type) where
  transports : NameMap (Mechanism m) := .empty
  securities : NameMap (Mechanism m) := .empty
  discoveries : NameMap (Discovery m) := .empty

namespace Directory

variable {m : Type → Type}

/-- The directory without mechanisms. -/
def empty : Directory m := {}

/-- The transport of a name. -/
def transport? (d : Directory m) (name : Text) : Option (Mechanism m) := d.transports.find? name

/-- The security layer of a name. -/
def security? (d : Directory m) (name : Text) : Option (Mechanism m) := d.securities.find? name

/-- The discovery mechanism of a name. -/
def discovery? (d : Directory m) (name : Text) : Option (Discovery m) := d.discoveries.find? name

/-- Enters a transport; gives back the one it replaces. -/
def enterTransport (d : Directory m) (name : Text) (mechanism : Mechanism m) :
    Directory m × Option (Mechanism m) :=
  ({ d with transports := d.transports.insert name mechanism }, d.transport? name)

/-- Enters a security layer; gives back the one it replaces. -/
def enterSecurity (d : Directory m) (name : Text) (mechanism : Mechanism m) :
    Directory m × Option (Mechanism m) :=
  ({ d with securities := d.securities.insert name mechanism }, d.security? name)

/-- Enters a discovery mechanism; gives back the one it replaces. -/
def enterDiscovery (d : Directory m) (name : Text) (discovery : Discovery m) :
    Directory m × Option (Discovery m) :=
  ({ d with discoveries := d.discoveries.insert name discovery }, d.discovery? name)

/-- Texts with commas between them. -/
def commas : List Text → Text
  | [] => []
  | [s] => s
  | s :: rest => s ++ ',' :: ' ' :: commas rest

/-- Quoted names in brackets. -/
def describeNames (names : List Text) : Text :=
  '[' :: commas (names.map Quoted.text) ++ [']']

/-- The description of a directory: the names of each domain in ascending order. -/
def describe (d : Directory m) : Text :=
  "Registry \x7b transports: ".toList ++ describeNames d.transports.names
    ++ ", securities: ".toList ++ describeNames d.securities.names
    ++ ", discoveries: ".toList ++ describeNames d.discoveries.names ++ " \x7d".toList

end Directory

end Switchboard
