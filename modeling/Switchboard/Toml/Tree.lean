import Switchboard.Toml.Value

set_option autoImplicit false

/-!
# Tables under construction

While a configuration is read, a table remembers how it came about.  It is implicit until its own
header has been read, and dotted if a path in front of a name made it.  The rules of definition are
those of the format: a header names a table that is new or still implicit and not dotted; a path in
front of a name may pass through implicit tables only, and must end in a dotted one; a name is set
once.  A path leads through the last table of an array of tables.  The names of a table keep the
order in which they were first set or opened.
-/

namespace Switchboard.Toml

/-- What stands under a name while a configuration is read. -/
inductive Node where
  | value (v : Value)
  | table (implicit dotted : Bool) (entries : List (Text × Node))
  | tables (elements : List (List (Text × Node)))
  deriving Inhabited

/-- A table while a configuration is read. -/
structure Tree where
  implicit : Bool := false
  dotted : Bool := false
  entries : List (Text × Node) := []
  deriving Inhabited

/-! ## The finished values -/

mutual

/-- The value that a node stands for. -/
def Node.toValue : Node → Value
  | .value v => v
  | .table _ _ entries => .table (Node.toEntries entries)
  | .tables elements => .array (Node.toItems elements)

/-- The values that the nodes of a table stand for. -/
def Node.toEntries : List (Text × Node) → List (Text × Value)
  | [] => []
  | (name, node) :: rest => (name, node.toValue) :: Node.toEntries rest

/-- The values that the tables of an array stand for. -/
def Node.toItems : List (List (Text × Node)) → List Value
  | [] => []
  | entries :: rest => .table (Node.toEntries entries) :: Node.toItems rest

end

namespace Tree

/-- The table that has been built. -/
def toTable (t : Tree) : Table := Node.toEntries t.entries

/-- What stands under a name. -/
def find? (t : Tree) (name : Text) : Option Node :=
  (List.find? (fun e => e.1 == name) t.entries).map (·.2)

/-- The entries with a name set to a node. -/
def setIn (name : Text) (node : Node) : List (Text × Node) → List (Text × Node)
  | [] => [(name, node)]
  | (key, old) :: rest =>
    if key = name then (name, node) :: rest else (key, old) :: setIn name node rest

/-- The table with a name set to a node. -/
def set (t : Tree) (name : Text) (node : Node) : Tree :=
  { t with entries := setIn name node t.entries }

/-- The table without a name. -/
def erase (t : Tree) (name : Text) : Tree :=
  { t with entries := t.entries.filter fun e => e.1 != name }

/-- A table as a node. -/
def toNode (t : Tree) : Node := .table t.implicit t.dotted t.entries

/-- The tables before the last one of an array, and the last one. -/
def lastOf? (elements : List (List (Text × Node))) :
    Option (List (List (Text × Node)) × Tree) :=
  elements.getLast?.map fun last => (elements.dropLast, { entries := last })

/-- Changes the table at the end of a path, and makes the tables on the way that are missing.
`dotted` tells a path in front of a name from the path of a header. -/
def update? (dotted : Bool) (change : Tree → Option Tree) : List Text → Tree → Option Tree
  | [], t => change t
  | name :: path, t =>
    match t.find? name with
    | none => do
      let child ← update? dotted change path { implicit := true, dotted := dotted }
      return t.set name child.toNode
    | some (.value _) => none
    | some (.table implicit isDotted entries) =>
      if dotted && !implicit then none
      else do
        let child ← update? dotted change path
          { implicit := implicit, dotted := isDotted, entries := entries }
        return t.set name child.toNode
    | some (.tables elements) => do
      let (before, last) ← lastOf? elements
      let child ← update? dotted change path last
      return t.set name (.tables (before ++ [child.entries]))

/-- Sets a name in the table at the end of a path in front of it. -/
def assign? (path : List Text) (name : Text) (value : Value) (t : Tree) : Option Tree :=
  update? true
    (fun inner =>
      if inner.dotted = path.isEmpty ∨ (inner.find? name).isSome then none
      else some (inner.set name (.value value)))
    path t

/-- Opens the table that a header names.  One that was implicit moves behind the names that have
been set before it is opened. -/
def open? (name : Text) (t : Tree) : Option Tree :=
  match t.find? name with
  | none => some (t.set name (.table false false []))
  | some (.table true false entries) =>
    some ((t.erase name).set name (.table false false entries))
  | some _ => none

/-- Opens a further table of the array that a header names. -/
def extend? (name : Text) (t : Tree) : Option Tree :=
  match t.find? name with
  | none => some (t.set name (.tables [[]]))
  | some (.tables elements) => some (t.set name (.tables (elements ++ [[]])))
  | some _ => none

/-- The table that settings in braces make. -/
def ofSettings? (settings : List (List Text × Text × Value)) : Option Tree :=
  settings.foldlM (fun t (path, name, value) => assign? path name value t) {}

end Tree

end Switchboard.Toml
