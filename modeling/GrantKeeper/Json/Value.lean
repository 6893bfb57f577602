import GrantKeeper.Json.Number
import GrantKeeper.Json.Text
import GrantKeeper.Json.Tree
import GrantKeeper.StringMap

/-! JSON values. Reading a value decides every numeral and text; of members with one key the
last counts, and members come in the order of their keys. Values nest at most 127 deep. -/
namespace GrantKeeper.Json

inductive Value
  | null
  | bool (value : Bool)
  | number (value : Number)
  | text (value : String)
  | array (items : List Value)
  | object (members : List (String × Value))
deriving Inhabited

mutual
def Value.ofTree? : Tree → Option Value
  | .null => some .null
  | .bool value => some (.bool value)
  | .numeral written => Value.number <$> Number.ofWritten? written
  | .text written => Value.text <$> text? written
  | .array items => Value.array <$> itemsOf? items
  | .object members =>
    (fun members => .object (StringMap.ofList members).entries) <$> membersOf? members

def itemsOf? : List Tree → Option (List Value)
  | [] => some []
  | tree :: rest => do
    let value ← Value.ofTree? tree
    (value :: ·) <$> itemsOf? rest

def membersOf? : List (List UInt8 × Tree) → Option (List (String × Value))
  | [] => some []
  | (key, tree) :: rest => do
    let key ← text? key
    let value ← Value.ofTree? tree
    ((key, value) :: ·) <$> membersOf? rest
end

def deepest : Nat := 127

def Value.parse? (bytes : List UInt8) : Option Value := do
  let lexemes ← lexemes? bytes
  if nesting lexemes ≤ deepest then Tree.ofLexemes? lexemes >>= Value.ofTree? else none

def Value.member? (key : String) : Value → Option Value
  | .object members => (members.find? (·.1 == key)).map (·.2)
  | _ => none

def Value.asText? : Value → Option String
  | .text value => some value
  | _ => none

mutual
/-- The value on one line, without any space. -/
def Value.compact : Value → List Char
  | .null => "null".toList
  | .bool value => (toString value).toList
  | .number value => value.write
  | .text value => quote value
  | .array items => '[' :: compactItems items ++ [']']
  | .object members => '{' :: compactMembers members ++ ['}']

def compactItems : List Value → List Char
  | [] => []
  | [value] => value.compact
  | value :: rest => value.compact ++ ',' :: compactItems rest

def compactMembers : List (String × Value) → List Char
  | [] => []
  | [(key, value)] => quote key ++ ':' :: value.compact
  | (key, value) :: rest => quote key ++ ':' :: value.compact ++ ',' :: compactMembers rest
end

def newLine (depth : Nat) : List Char := '\n' :: List.replicate (2 * depth) ' '

mutual
/-- The value over several lines, each item and member on its own; an empty array or object
stays on one line. -/
def Value.pretty (depth : Nat) : Value → List Char
  | .array [] => "[]".toList
  | .array items => '[' :: prettyItems (depth + 1) items ++ newLine depth ++ [']']
  | .object [] => ['{', '}']
  | .object members => '{' :: prettyMembers (depth + 1) members ++ newLine depth ++ ['}']
  | .null => "null".toList
  | .bool value => (toString value).toList
  | .number value => value.write
  | .text value => quote value

def prettyItems (depth : Nat) : List Value → List Char
  | [] => []
  | [value] => newLine depth ++ value.pretty depth
  | value :: rest => newLine depth ++ value.pretty depth ++ ',' :: prettyItems depth rest

def prettyMembers (depth : Nat) : List (String × Value) → List Char
  | [] => []
  | [(key, value)] => newLine depth ++ quote key ++ ':' :: ' ' :: value.pretty depth
  | (key, value) :: rest =>
    newLine depth ++ quote key ++ ':' :: ' ' :: value.pretty depth ++ ',' :: prettyMembers depth rest
end

def Value.toCompact (value : Value) : String := String.ofList value.compact

def Value.toPretty (value : Value) : String := String.ofList (value.pretty 0)

instance : Coe String Value := ⟨.text⟩

def Value.ofInt (value : Int) : Value := .number (.integer value)

end GrantKeeper.Json
