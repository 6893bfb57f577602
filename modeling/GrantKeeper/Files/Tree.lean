import GrantKeeper.Files
import GrantKeeper.Files.Path
import GrantKeeper.StringMap

/-! A tree of files in memory, with the failures of a real one. Paths are walked name by name:
every name but the last must be a directory. -/
namespace GrantKeeper

inductive Files.Node
  | directory
  | file (content : List UInt8) (mode : Nat)
deriving DecidableEq, Repr

/-- Files and directories by their full paths, and the directory that other paths start from. The
root, whose path is empty, is always there. -/
structure Files.Tree where
  nodes : StringMap Files.Node := ∅
  current : String := ""

namespace Files.Tree

/-- Where a path leads: the full path, and whether it must be a directory. -/
structure Place where
  path : String
  asDirectory : Bool
deriving DecidableEq, Repr

def node? (tree : Tree) (path : String) : Option Node :=
  if path.isEmpty then some .directory else tree.nodes.get? path

def above (path : String) : String :=
  match Path.parent? path with
  | none | some "/" => ""
  | some directory => directory

def walk (tree : Tree) (path name : String) : Except FileError String :=
  match tree.node? path with
  | none => .error .missing
  | some (.file ..) => .error .notDirectory
  | some .directory =>
    if name == "." then .ok path
    else if name == ".." then .ok (above path)
    else if 255 < name.utf8ByteSize then .error .nameTooLong
    else .ok (path ++ "/" ++ name)

/-- Where a path leads. What the last name stands for may be missing. -/
def place (tree : Tree) (path : String) : Except FileError Place := do
  if path.toList.contains '\x00' then throw .nulInName
  if path.isEmpty then throw .missing
  if 4096 ≤ path.utf8ByteSize then throw .nameTooLong
  let start := if path.startsWith "/" then "" else tree.current
  let full ← (Path.names path).foldlM tree.walk start
  return ⟨full, path.endsWith "/" || path.endsWith "/." || path == "."⟩

def read (tree : Tree) (path : String) : Except FileError (List UInt8) := do
  let place ← tree.place path
  match tree.node? place.path with
  | none => throw .missing
  | some .directory => throw .isDirectory
  | some (.file content _) => if place.asDirectory then throw .notDirectory else return content

def put (tree : Tree) (path : String) (node : Node) : Tree :=
  { tree with nodes := tree.nodes.insert path node }

def newMode : Nat := 0o644

/-- Gives a file a content. A path with a separator at its end can only mean a directory. -/
def write (tree : Tree) (path : String) (content : List UInt8) : Except FileError Tree := do
  let place ← tree.place path
  if place.asDirectory then throw .isDirectory
  match tree.node? place.path with
  | some .directory => throw .isDirectory
  | some (.file _ mode) => return tree.put place.path (.file content mode)
  | none => return tree.put place.path (.file content newMode)

def ownerMode : Nat := 0o600

def restrict (tree : Tree) (path : String) : Except FileError Tree := do
  let place ← tree.place path
  match tree.node? place.path with
  | none => throw .missing
  | some .directory => return tree
  | some (.file content _) => return tree.put place.path (.file content ownerMode)

/-- Moves a file. A name that leads to where one is, or up, is in use. -/
def rename (tree : Tree) (old new : String) : Except FileError Tree := do
  let source ← tree.place old
  let target ← tree.place new
  if (Path.names new).getLast?.all (· ∈ [".", ".."]) then throw .busy
  let some node := tree.node? source.path | throw .missing
  if target.asDirectory then throw .notDirectory
  if tree.node? target.path = some .directory then throw .isDirectory
  return { tree with nodes := (tree.nodes.erase source.path).insert target.path node }

def makeDirectory (tree : Tree) (path : String) : Except FileError Tree := do
  let place ← tree.place path
  if (tree.node? place.path).isSome then throw .exists
  return tree.put place.path .directory

def isDirectory (tree : Tree) (path : String) : Bool :=
  match tree.place path with
  | .ok place => tree.node? place.path = some .directory
  | .error _ => false

def remove (tree : Tree) (path : String) : Tree :=
  { tree with nodes := StringMap.ofList (tree.nodes.entries.filter fun (other, _) =>
      other != path && !other.startsWith (path ++ "/")) }

def list (tree : Tree) (path : String) : List String :=
  tree.nodes.entries.filterMap fun (other, _) =>
    if above other == path && other.startsWith (path ++ "/") then
      some (String.ofList (other.toList.drop (path.length + 1)))
    else none

def change (f : Tree → Except FileError Tree) : StateM Tree (Except FileError Unit) := do
  match f (← get) with
  | .ok tree => set tree; return .ok ()
  | .error error => return .error error

def ensureDirectory (path : String) : StateM Tree (Except FileError Unit) := do
  match ← change (·.makeDirectory path) with
  | .ok () => return .ok ()
  | .error error => return if (← get).isDirectory path then .ok () else .error error

/-- Makes the first directory of a list, whose others lead to it from below. They are made first if
one of them is missing. -/
def ensureAll : List String → StateM Tree (Except FileError Unit)
  | [] => return .ok ()
  | path :: above => do
    match ← ensureDirectory path with
    | .error .missing =>
      match ← ensureAll above with
      | .ok () => ensureDirectory path
      | .error error => return .error error
    | result => return result

def files : Files (StateM Tree) where
  read path := return (← get).read path
  createDirectories path := ensureAll (Path.ascending path)
  write path content := change (·.write path content)
  restrict path := change (·.restrict path)
  rename old new := change (·.rename old new)

end Files.Tree
end GrantKeeper
