import Switchboard.Toml.Statement

set_option autoImplicit false

/-!
# The table of a configuration

The statements are followed in order.  A setting goes into the table of the header before it, or
into the outermost table when there is none.
-/

namespace Switchboard.Toml

/-- A configuration of which some statements have been followed: the outermost table, and the path
to the table that settings go into. -/
structure Draft where
  root : Tree := {}
  here : List Text := []
  deriving Inhabited

namespace Draft

/-- Follows the header of a table: `change` opens the table under the last name of its path. -/
def enter? (d : Draft) (path : List Text) (change : Text → Tree → Option Tree) :
    Option Draft := do
  let name ← path.getLast?
  let root ← Tree.update? false (change name) path.dropLast d.root
  return { root := root, here := path }

/-- Follows one statement. -/
def follow? (d : Draft) : Statement → Option Draft
  | .table path => d.enter? path Tree.open?
  | .arrayTable path => d.enter? path Tree.extend?
  | .assign path name value => do
    let root ← Tree.update? false (Tree.assign? path name value) d.here d.root
    return { d with root := root }

end Draft

/-- The table that a text describes, if it is a configuration. -/
def read? (s : Text) : Option Table := do
  let statements ← Statement.read? s
  let draft ← statements.foldlM Draft.follow? {}
  return draft.root.toTable

end Switchboard.Toml
