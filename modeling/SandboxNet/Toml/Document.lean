import SandboxNet.Toml.Scalar

/-! # TOML documents

A document is a list of statements, a line each. Reading it gives the table that its statements
make, or nothing if it is no document.
-/

namespace SandboxNet.Toml

open Reader

/-- An array of values. Lines may end between its items, and a comma may follow the last. -/
def array (item : Reader Value) : Reader Value := do
  exactly '['
  let items ← opt (separated (wideGap *> item <* wideGap) (exactly ','))
  if items.isSome then
    let _ ← opt (exactly ',')
  wideGap
  exactly ']'
  return .array (items.getD [])

/-- A dotted key and its value. -/
def keyed (item : Reader Value) : Reader ((List String × String) × Value) := do
  let key ← dottedKey
  exactly '='
  let value ← gap *> item <* gap
  return (key, value)

/-- A table between braces, on one line. -/
def inlineTable (item : Reader Value) : Reader Value := do
  exactly '\x7b'
  let entries ← opt (separated (keyed item) (exactly ','))
  let _ ← gap
  exactly '\x7d'
  StateT.lift ((Table.ofEntries? (entries.getD [])).map .table)

/-- How deep arrays and inline tables may stand in each other. -/
def deepest : Nat := 79

/-- A value with at most `depth` arrays and tables in each other. -/
def value : (depth : Nat) → Reader Value
  | 0 => scalar
  | depth + 1 => scalar <|> array (value depth) <|> inlineTable (value depth)

def header : Reader Statement := do
  exactly '['
  let (path, key) ← dottedKey
  exactly ']'
  return .header path key

def doubleHeader : Reader Statement := do
  phrase "[["
  let (path, key) ← dottedKey
  phrase "]]"
  return .doubleHeader path key

def entry : Reader Statement := do
  let ((path, key), value) ← keyed (value deepest)
  return .entry path key value

/-- A line, with a statement or without one. -/
def line : Reader (Option Statement) := do
  let _ ← gap
  let statement ← opt (doubleHeader <|> header <|> entry)
  lineEnd
  return statement

/-- A text without the mark of byte order that it may start with. -/
def dropMark : List Char → List Char
  | '\uFEFF' :: rest => rest
  | cs => cs

def Table.ofDocument? (text : String) : Option Table := do
  let statements ← (many line).whole? (dropMark text.toList)
  Table.ofStatements? (statements.filterMap id)

end SandboxNet.Toml
