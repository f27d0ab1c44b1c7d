/-! # TOML values

A table remembers how it came about, because that decides what may still be added to it. Values that
no setting takes, floating numbers and dates, are known by their kind alone.
-/

namespace SandboxNet.Toml

/-- How a table came about. -/
inductive Origin where
  /-- By a header of its own; the table of the document counts as such. -/
  | header
  /-- As a part of a longer header. -/
  | passing
  /-- As a part of a dotted key. -/
  | dotted
  /-- Between braces, which closes it. -/
  | inline
  deriving DecidableEq, Repr

/-- A table with values of type `α`, its entries in the order in which they were made. -/
structure TableOf (α : Type) where
  origin : Origin
  entries : List (String × α)
  deriving Repr

inductive Value where
  | text (s : String)
  | integer (n : Int)
  | float
  | boolean (b : Bool)
  | dateTime
  | array (items : List Value)
  | table (t : TableOf Value)
  | tables (ts : List (TableOf Value))
  deriving Repr

abbrev Table := TableOf Value

namespace Table

/-- The table of a document without statements. -/
def root : Table := ⟨.header, []⟩

def get? (t : Table) (key : String) : Option Value :=
  t.entries.lookup key

/-- Puts a value under a key, in the place of the old one if there is one. -/
def set (t : Table) (key : String) (value : Value) : Table :=
  { t with
    entries :=
      if (t.get? key).isSome then
        t.entries.map fun entry => if entry.1 == key then (key, value) else entry
      else t.entries ++ [(key, value)] }

/-- Whether the keys of statements may lead through a table, when missing tables are made as
`fresh` says: dotted keys keep out of tables that have a header. -/
def admits (fresh : Origin) (t : Table) : Bool :=
  t.origin ≠ .inline && !(fresh = .dotted && t.origin = .header)

/-- Changes the table at the end of a path. Tables that are missing on the way are made as `fresh`
says, and of the tables of a double header the path takes the last. -/
def within (fresh : Origin) (change : Table → Option Table) : List String → Table → Option Table
  | [], t => change t
  | key :: path, t =>
      match t.get? key with
      | none => (within fresh change path ⟨fresh, []⟩).map fun inner => t.set key (.table inner)
      | some (.table inner) =>
          if admits fresh inner then
            (within fresh change path inner).map fun inner => t.set key (.table inner)
          else none
      | some (.tables ts) =>
          ts.getLast?.bind fun last =>
            (within fresh change path last).map fun last =>
              t.set key (.tables (ts.dropLast ++ [last]))
      | some _ => none

/-- Adds a value under a dotted key. The key must be free, and the tables that it names must be made
by dotted keys alone. -/
def put (path : List String) (key : String) (value : Value) : Table → Option Table :=
  within .dotted
    (fun t =>
      if (path.isEmpty || t.origin = .dotted) && (t.get? key).isNone then some (t.set key value)
      else none)
    path

/-- Opens the table of a header, which may have been a part of longer headers so far. -/
def openTable (path : List String) (key : String) : Table → Option Table :=
  within .passing
    (fun t =>
      match t.get? key with
      | none => some (t.set key (.table ⟨.header, []⟩))
      | some (.table inner) =>
          if inner.origin = .passing then some (t.set key (.table { inner with origin := .header }))
          else none
      | some _ => none)
    path

/-- Opens one more table of a double header. -/
def pushTable (path : List String) (key : String) : Table → Option Table :=
  within .passing
    (fun t =>
      match t.get? key with
      | none => some (t.set key (.tables [⟨.header, []⟩]))
      | some (.tables ts) => some (t.set key (.tables (ts ++ [⟨.header, []⟩])))
      | some _ => none)
    path

end Table

/-- A statement of a document. -/
inductive Statement where
  | entry (path : List String) (key : String) (value : Value)
  | header (path : List String) (key : String)
  | doubleHeader (path : List String) (key : String)

/-- The table that statements make, and the path of the header they stand under. -/
structure Draft where
  root : Table
  current : List String

namespace Draft

def start : Draft := ⟨Table.root, []⟩

/-- The draft after one more statement, unless the statement is at odds with those before. -/
def add (d : Draft) : Statement → Option Draft
  | .entry path key value =>
      (d.root.within .passing (Table.put path key value) d.current).map fun root =>
        ⟨root, d.current⟩
  | .header path key => (d.root.openTable path key).map fun root => ⟨root, path ++ [key]⟩
  | .doubleHeader path key => (d.root.pushTable path key).map fun root => ⟨root, path ++ [key]⟩

end Draft

/-- The table that statements make. -/
def Table.ofStatements? (statements : List Statement) : Option Table :=
  (statements.foldlM Draft.add Draft.start).map (·.root)

/-- The table between braces that dotted keys with values make. -/
def Table.ofEntries? (entries : List ((List String × String) × Value)) : Option Table :=
  (entries.foldlM (fun t ((path, key), value) => Table.put path key value t) Table.root).map
    fun (t : Table) => { t with origin := .inline }

end SandboxNet.Toml
