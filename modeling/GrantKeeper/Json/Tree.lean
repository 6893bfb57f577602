import GrantKeeper.Json.Lexeme

/-! The tree of a JSON text, in which numerals and texts are as they were written. Lexemes are
put together by a machine with a stack of open arrays and objects, so that values may nest to
any depth. -/
namespace GrantKeeper.Json

inductive Tree
  | null
  | bool (value : Bool)
  | numeral (written : List UInt8)
  | text (written : List UInt8)
  | array (items : List Tree)
  | object (members : List (List UInt8 × Tree))
deriving Repr, BEq, Inhabited

/-- An open array or object around the current value; what it holds already stands latest first. -/
inductive Frame
  | items (done : List Tree)
  | member (done : List (List UInt8 × Tree)) (key : List UInt8)

inductive Assembly
  /-- A value, or the end of an array that has just been opened. -/
  | value (opened : Bool) (around : List Frame)
  /-- A key, or the end of an object that has just been opened. -/
  | key (opened : Bool) (done : List (List UInt8 × Tree)) (around : List Frame)
  /-- The colon after a key. -/
  | colon (done : List (List UInt8 × Tree)) (key : List UInt8) (around : List Frame)
  /-- What follows a complete value. -/
  | after (value : Tree) (around : List Frame)

def Assembly.step : Assembly → Lexeme → Option Assembly
  | .value _ around, .null => some (.after .null around)
  | .value _ around, .bool truth => some (.after (.bool truth) around)
  | .value _ around, .numeral written => some (.after (.numeral written) around)
  | .value _ around, .text written => some (.after (.text written) around)
  | .value _ around, .openArray => some (.value true (.items [] :: around))
  | .value _ around, .openObject => some (.key true [] around)
  | .value true (.items [] :: around), .closeArray => some (.after (.array []) around)
  | .key true [] around, .closeObject => some (.after (.object []) around)
  | .key _ done around, .text name => some (.colon done name around)
  | .colon done name around, .colon => some (.value false (.member done name :: around))
  | .after tree (.items done :: around), .comma => some (.value false (.items (tree :: done) :: around))
  | .after tree (.items done :: around), .closeArray =>
    some (.after (.array (tree :: done).reverse) around)
  | .after tree (.member done name :: around), .comma => some (.key false ((name, tree) :: done) around)
  | .after tree (.member done name :: around), .closeObject =>
    some (.after (.object ((name, tree) :: done).reverse) around)
  | _, _ => none

def Assembly.finish : Assembly → Option Tree
  | .after tree [] => some tree
  | _ => none

def Tree.ofLexemes? (lexemes : List Lexeme) : Option Tree :=
  lexemes.foldlM Assembly.step (.value false []) >>= Assembly.finish

def Tree.parse? (bytes : List UInt8) : Option Tree := lexemes? bytes >>= Tree.ofLexemes?

/-- How many arrays and objects stand open at once. -/
def nesting (lexemes : List Lexeme) : Nat :=
  (lexemes.foldl (fun (deepest, depth) lexeme =>
    match lexeme with
    | .openArray | .openObject => (max deepest (depth + 1), depth + 1)
    | .closeArray | .closeObject => (deepest, depth - 1)
    | _ => (deepest, depth)) (0, 0)).1

end GrantKeeper.Json
