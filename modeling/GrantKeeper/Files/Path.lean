/-! Paths as text: the directory above one, and what lies in a directory. -/
namespace GrantKeeper.Path

/-- A name in a directory; a path from the root stands for itself. -/
def join (directory name : String) : String :=
  if directory.isEmpty || name.startsWith "/" then name
  else if directory.endsWith "/" then directory ++ name
  else directory ++ "/" ++ name

/-- Drops what adds nothing at the end of a path, which is given backwards: separators, and
points between them. The separator that is the root stays. -/
def dropIdle : List Char → List Char
  | [] => []
  | ['/'] => ['/']
  | ['.', '/'] => ['/']
  | '/' :: rest => dropIdle rest
  | '.' :: '/' :: rest => dropIdle ('/' :: rest)
  | text => text
termination_by text => text.length

/-- The directory that a path lies in: none for the root and for nothing. -/
def parent? (path : String) : Option String :=
  match dropIdle path.toList.reverse with
  | [] => none
  | ['/'] => none
  | text => some (String.ofList (dropIdle (text.dropWhile (· != '/'))).reverse)

def lineage : Nat → String → List String
  | 0, _ => []
  | most + 1, path =>
    match parent? path with
    | none => []
    | some above => path :: lineage most above

/-- A path and those above it, from below, without the root. Each is shorter than the one before. -/
def ascending (path : String) : List String := lineage path.length path

def names (path : String) : List String :=
  ((path.toList.splitOn '/').filter (!·.isEmpty)).map String.ofList

end GrantKeeper.Path
