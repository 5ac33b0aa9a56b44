/-!
TOML values, and how the statements of a document make up its tables. Numbers with a fraction and
dates stay as they were written. A table is defined once: by its header, or by dotted keys. A header
may still define a table that so far only stood in a longer header.
-/

namespace ClusterAccess

inductive Toml where
  | text (value : String)
  | integer (value : Int)
  | float (written : String)
  | boolean (value : Bool)
  | dateTime (written : String)
  | array (items : List Toml)
  | table (entries : List (String × Toml))
  deriving Inhabited

namespace Toml

/-- How a table has come about: by its header, as part of a longer header, by a dotted key. -/
inductive Origin where
  | header
  | implied
  | dotted
  deriving DecidableEq

/-- A place in a document that is still being read: a finished value, a table, or the tables of
an array of which the last one can still grow. -/
inductive Node where
  | value (v : Toml)
  | table (origin : Origin) (entries : List (String × Node))
  | tables (items : List (List (String × Node)))

abbrev Entries := List (String × Node)

mutual

def Node.finish : Node → Toml
  | .value v => v
  | .table _ entries => .table (finishEntries entries)
  | .tables items => .array (finishTables items)

def finishEntries : List (String × Node) → List (String × Toml)
  | [] => []
  | (key, node) :: rest => (key, node.finish) :: finishEntries rest

def finishTables : List (List (String × Node)) → List Toml
  | [] => []
  | entries :: rest => .table (finishEntries entries) :: finishTables rest

end

namespace Entries

/-- The entries with this node under the key, in the place of the one that was there. -/
def put (key : String) (node : Node) : Entries → Entries
  | [] => [(key, node)]
  | (k, n) :: rest => if k = key then (key, node) :: rest else (k, n) :: put key node rest

/-- Goes down a path, making the tables that are missing, and acts on the table at its end. A
dotted path does not go into a table that has a header. -/
def descend (byDots : Bool) (act : Origin → Entries → Option Entries) :
    List String → Origin → Entries → Option Entries
  | [], origin, entries => act origin entries
  | key :: path, _, entries => match entries.lookup key with
    | none => do
      let origin := if byDots then Origin.dotted else .implied
      let below ← descend byDots act path origin []
      return put key (.table origin below) entries
    | some (.value _) => none
    | some (.table origin below) => do
      if byDots ∧ origin = .header then none
      let below ← descend byDots act path origin below
      return put key (.table origin below) entries
    | some (.tables items) => do
      let below ← descend byDots act path .header (← items.getLast?)
      return put key (.tables (items.dropLast ++ [below])) entries

def set (key : String) (v : Toml) (entries : Entries) : Option Entries :=
  match entries.lookup key with
  | none => some (put key (.value v) entries)
  | some _ => none

/-- Sets a dotted key. A table in it must be there for dotted keys alone. -/
def setDotted (path : List String) (key : String) (v : Toml) (entries : Entries) :
    Option Entries :=
  descend true (fun origin below =>
    if path ≠ [] ∧ origin ≠ .dotted then none else set key v below) path .header entries

def openTable (key : String) (entries : Entries) : Option Entries :=
  match entries.lookup key with
  | none => some (put key (.table .header []) entries)
  | some (.table .implied below) => some (put key (.table .header below) entries)
  | some _ => none

def openElement (key : String) (entries : Entries) : Option Entries :=
  match entries.lookup key with
  | none => some (put key (.tables [[]]) entries)
  | some (.tables items) => some (put key (.tables (items ++ [[]])) entries)
  | some _ => none

end Entries

/-- A dotted key: the tables it goes through, and the name in the last of them. -/
structure Key where
  path : List String
  name : String

def Key.full (k : Key) : List String := k.path ++ [k.name]

inductive Statement where
  | blank
  | header (key : Key)
  | element (key : Key)
  | entry (key : Key) (v : Toml)

/-- What has been read of a document, and the path of the table that entries now go to. -/
structure Draft where
  entries : Entries := []
  current : List String := []

def Draft.apply (d : Draft) : Statement → Option Draft
  | .blank => some d
  | .header key => do
    let entries ← d.entries.descend false (fun _ es => es.openTable key.name) key.path .header
    return ⟨entries, key.full⟩
  | .element key => do
    let entries ← d.entries.descend false (fun _ es => es.openElement key.name) key.path .header
    return ⟨entries, key.full⟩
  | .entry key v => do
    let entries ← d.entries.descend false (fun _ es => es.setDotted key.path key.name v) d.current
      .header
    return { d with entries }

def ofStatements (statements : List Statement) : Option Toml := do
  let draft ← statements.foldlM Draft.apply {}
  return .table (finishEntries draft.entries)

def ofEntries (entries : List (Key × Toml)) : Option Toml :=
  ofStatements (entries.map fun (key, v) => .entry key v)

end Toml

end ClusterAccess
