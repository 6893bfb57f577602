import GrantKeeper.Toml.Value

/-! The tables of a TOML document, while its statements come in. How a table came to be decides
what may still be added to it: each table is given once, by its header or by dotted keys, and
what is written in line is complete. -/
namespace GrantKeeper.Toml

/-- A key: where its table is, and its name there. -/
structure Key where
  path : List String
  name : String
deriving DecidableEq, Repr

def Key.ofParts? (parts : List String) : Option Key :=
  parts.getLast?.map fun name => ⟨parts.dropLast, name⟩

inductive Origin
  /-- By a header of its own. -/
  | given
  /-- By the headers of tables in it. -/
  | implied
  /-- By dotted keys, or by headers of tables in it before dotted keys. -/
  | dotted
deriving DecidableEq, Repr

/-- The origin of a table that a path passes through. Dotted keys make a table their own, unless a
header gave it. -/
def Origin.passed? (made origin : Origin) : Option Origin :=
  if made = .dotted then if origin = .given then none else some .dotted else some origin

inductive Node
  /-- A complete value. -/
  | value (value : Value)
  | table (origin : Origin) (members : List (String × Node))
  /-- An array of tables, the latest of them apart. -/
  | series (earlier : List Value) (latest : List (String × Node))
deriving Inhabited

mutual
def Node.toValue : Node → Value
  | .value value => value
  | .table _ members => .table (memberValues members)
  | .series earlier latest => .array (earlier ++ [.table (memberValues latest)])

def memberValues : List (String × Node) → List (String × Value)
  | [] => []
  | (name, node) :: rest => (name, node.toValue) :: memberValues rest
end

structure Table where
  origin : Origin := .given
  members : List (String × Node) := []
deriving Inhabited

namespace Table

def value (table : Table) : Value := .table (memberValues table.members)

def put (table : Table) (name : String) (node : Node) : Table :=
  if (table.members.lookup name).isSome then
    { table with
      members := table.members.map fun (other, old) => (other, if other = name then node else old) }
  else { table with members := table.members ++ [(name, node)] }

/-- Changes the table at the end of a path. Tables that are missing on the way are made, with the
origin that is said. -/
def change (made : Origin) (step : Table → Option Table) : List String → Table → Option Table
  | [], table => step table
  | name :: path, table =>
    match table.members.lookup name with
    | none => do
      let inner ← change made step path ⟨made, []⟩
      return table.put name (.table inner.origin inner.members)
    | some (.table origin members) => do
      let inner ← change made step path ⟨← made.passed? origin, members⟩
      return table.put name (.table inner.origin inner.members)
    | some (.series earlier latest) => do
      let inner ← change made step path ⟨.given, latest⟩
      return table.put name (.series earlier inner.members)
    | some (.value _) => none

/-- Adds a value under a key. The last table on a dotted key's path must belong to dotted keys. -/
def insert? (key : Key) (value : Value) : Table → Option Table :=
  change .dotted (fun table =>
    if (key.path ≠ [] ∧ table.origin ≠ .dotted) ∨ (table.members.lookup key.name).isSome then none
    else some (table.put key.name (.value value))) key.path

def ofEntries? (entries : List (Key × Value)) : Option Table :=
  entries.foldlM (fun table (key, value) => table.insert? key value) {}

def give? (key : Key) : Table → Option Table :=
  change .implied (fun table =>
    match table.members.lookup key.name with
    | none => some (table.put key.name (.table .given []))
    | some (.table .implied members) => some (table.put key.name (.table .given members))
    | some _ => none) key.path

def push? (key : Key) : Table → Option Table :=
  change .implied (fun table =>
    match table.members.lookup key.name with
    | none => some (table.put key.name (.series [] []))
    | some (.series earlier latest) =>
      some (table.put key.name (.series (earlier ++ [.table (memberValues latest)]) []))
    | some _ => none) key.path

end Table

inductive Statement
  | entry (key : Key) (value : Value)
  | header (key : Key)
  | element (key : Key)

/-- A document so far: its table, and the path of the table that entries go to. -/
structure Document where
  root : Table := {}
  current : List String := []

namespace Document

def step (document : Document) : Statement → Option Document
  | .entry key value =>
    (document.root.change .implied (·.insert? key value) document.current).map
      ({ document with root := · })
  | .header key => (document.root.give? key).map (⟨·, key.path ++ [key.name]⟩)
  | .element key => (document.root.push? key).map (⟨·, key.path ++ [key.name]⟩)

def ofStatements? (statements : List Statement) : Option Document := statements.foldlM step {}

def value (document : Document) : Value := document.root.value

end Document
end GrantKeeper.Toml
