import Switchboard.Toml.Number
import Switchboard.Toml.Quote
import Switchboard.Toml.Tree

set_option autoImplicit false

/-!
# Statements of a configuration

A configuration is written as a sequence of statements on lines of their own: the header of a
table, the header of a table in an array of tables, and the setting of a name.  Blank lines and
comments may stand between them.  Names are bare or quoted, and dots join them to paths.

A function that reads a part of a text gives what it read and the text behind it.  Arrays and
tables inside a value nest up to a fixed depth.
-/

namespace Switchboard.Toml

/-- One statement. -/
inductive Statement where
  /-- the header of a table -/
  | table (path : List Text)
  /-- the header of a further table in an array -/
  | arrayTable (path : List Text)
  /-- a value for the name at the end of a path -/
  | assign (path : List Text) (name : Text) (value : Value)
  deriving Repr

/-- How deep arrays and tables may nest inside a value, and how long a path may be. -/
def maxDepth : Nat := 79

/-! ## Space between things -/

/-- A text without the blank lines and comments at its front; nothing if a comment holds a
character that it must not hold. -/
def skipBlank (inComment : Bool) : Text → Option Text
  | [] => some []
  | '\n' :: rest => skipBlank false rest
  | '\r' :: '\n' :: rest => skipBlank false rest
  | c :: rest =>
    if inComment then if isPlain c then skipBlank true rest else none
    else if isSpace c then skipBlank false rest
    else if c = '#' then skipBlank true rest
    else some (c :: rest)

/-- The text behind the end of a line, where only a comment may stand before the end. -/
def endLine (s : Text) : Option Text :=
  match skipSpaces s with
  | [] => some []
  | '\n' :: rest => some rest
  | '\r' :: '\n' :: rest => some rest
  | '#' :: rest => skipBlank true rest
  | _ => none

/-! ## Names -/

/-- Whether a character may stand in a bare name. -/
def isBare (c : Char) : Bool := c.isAlphanum || c == '_' || c == '-'

/-- One name, bare or quoted. -/
def readName? (s : Text) : Option (Text × Text) :=
  match s with
  | '\x22' :: rest => readBasic? rest
  | '\x27' :: rest => readLiteral? rest
  | _ =>
    let name := s.takeWhile isBare
    if name = [] then none else some (name, s.dropWhile isBare)

/-- Names joined by dots, with spaces around each. -/
def readNames? : Nat → Text → Option (List Text × Text)
  | 0, _ => none
  | fuel + 1, s => do
    let (name, rest) ← readName? (skipSpaces s)
    match skipSpaces rest with
    | '.' :: rest =>
      let (names, rest) ← readNames? fuel rest
      return (name :: names, rest)
    | rest => return ([name], rest)

/-- A path of at least one name and at most `maxDepth`. -/
def readPath? (s : Text) : Option (List Text × Text) :=
  (readNames? (s.length + 1) s).filter fun r => r.1.length ≤ maxDepth

/-! ## Values -/

/-- Whether a character may stand in a value that is written without marks. -/
def isWordChar (c : Char) : Bool :=
  c.isAlphanum || c == '+' || c == '-' || c == '_' || c == '.' || c == ':'

/-- The word at the front of a text.  A date takes the time behind one space with it. -/
def takeWord (s : Text) : Text × Text :=
  let word := s.takeWhile isWordChar
  let rest := s.dropWhile isWordChar
  match readDate? word, rest with
  | some (_, []), ' ' :: c :: more =>
    if c.isDigit then
      (word ++ 'T' :: (c :: more).takeWhile isWordChar, (c :: more).dropWhile isWordChar)
    else (word, rest)
  | _, _ => (word, rest)

/-- A value that is neither an array nor a table. -/
def readScalar? (s : Text) : Option (Value × Text) :=
  match s with
  | '\x22' :: _ => (readString? s).map fun r => (.string r.1, r.2)
  | '\x27' :: _ => (readString? s).map fun r => (.string r.1, r.2)
  | _ =>
    let (word, rest) := takeWord s
    (readWord? word).map (·, rest)

/-- The items of an array up to its closing bracket, and the text behind it. -/
def readItems? (readItem : Text → Option (Value × Text)) : Nat → Text →
    Option (List Value × Text)
  | 0, _ => none
  | fuel + 1, s => do
    let s ← skipBlank false s
    if s.head? = some ']' then return ([], s.drop 1)
    let (item, rest) ← readItem s
    match ← skipBlank false rest with
    | ',' :: rest =>
      let (items, rest) ← readItems? readItem fuel rest
      return (item :: items, rest)
    | ']' :: rest => return ([item], rest)
    | _ => none

/-- A path, an equals sign and a value. -/
def readAssignment? (readItem : Text → Option (Value × Text)) (s : Text) :
    Option ((List Text × Text × Value) × Text) := do
  let (path, rest) ← readPath? s
  match rest with
  | '=' :: rest =>
    let (value, rest) ← readItem (skipSpaces rest)
    let name ← path.getLast?
    return ((path.dropLast, name, value), skipSpaces rest)
  | _ => none

/-- The settings inside a table in braces up to its closing brace, and the text behind it. -/
def readSettings? (readItem : Text → Option (Value × Text)) : Nat → Text →
    Option (List (List Text × Text × Value) × Text)
  | 0, _ => none
  | fuel + 1, s => do
    let (setting, rest) ← readAssignment? readItem s
    match rest with
    | ',' :: rest =>
      let (settings, rest) ← readSettings? readItem fuel rest
      return (setting :: settings, rest)
    | '\x7d' :: rest => return ([setting], rest)
    | _ => none

/-- A value whose arrays and tables nest at most `depth` deep. -/
def readValue? : Nat → Text → Option (Value × Text)
  | 0, s =>
    match s with
    | '[' :: _ => none
    | '\x7b' :: _ => none
    | _ => readScalar? s
  | depth + 1, s =>
    match s with
    | '[' :: rest =>
      (readItems? (readValue? depth) (rest.length + 1) rest).map fun r => (.array r.1, r.2)
    | '\x7b' :: rest =>
      match skipSpaces rest with
      | '\x7d' :: rest => some (.table [], rest)
      | _ => do
        let (settings, rest) ← readSettings? (readValue? depth) (rest.length + 1) rest
        let root ← Tree.ofSettings? settings
        return (.table root.toTable, rest)
    | _ => readScalar? s

/-! ## Statements -/

/-- A statement without the end of its line. -/
def readStatement? (s : Text) : Option (Statement × Text) :=
  match s with
  | '[' :: '[' :: rest => do
    let (path, rest) ← readPath? rest
    match rest with
    | ']' :: ']' :: rest => return (.arrayTable path, rest)
    | _ => none
  | '[' :: rest => do
    let (path, rest) ← readPath? rest
    match rest with
    | ']' :: rest => return (.table path, rest)
    | _ => none
  | _ => do
    let ((path, name, value), rest) ← readAssignment? (readValue? maxDepth) s
    return (.assign path name value, rest)

/-- The statements of a text. -/
def readStatements? : Nat → Text → Option (List Statement)
  | 0, _ => none
  | fuel + 1, s => do
    match ← skipBlank false s with
    | [] => return []
    | s =>
      let (statement, rest) ← readStatement? s
      let rest ← endLine rest
      return statement :: (← readStatements? fuel rest)

/-- The statements of a configuration; a byte order mark in front is left out. -/
def Statement.read? (s : Text) : Option (List Statement) :=
  let s := if s.head? = some '\ufeff' then s.drop 1 else s
  readStatements? (s.length + 1) s

end Switchboard.Toml
