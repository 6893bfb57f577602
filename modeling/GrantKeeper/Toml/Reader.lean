import GrantKeeper.Toml.Scalar
import GrantKeeper.Toml.Table
import GrantKeeper.Toml.Text

/-! The statements of a TOML document. Arrays and tables written in line may nest 80 deep, and
a key may have 80 parts. -/
namespace GrantKeeper.Toml

abbrev Reader := StateT (List Char) Option

/-- How deep values nest, and how many parts keys have. -/
def deepest : Nat := 80

namespace Reader

def isBlank (c : Char) : Bool := c = ' ' || c = '\t'

def blanks : Reader Unit := modify (·.dropWhile isBlank)

def skips (c : Char) : Reader Bool := fun text =>
  match text with
  | d :: rest => if d = c then some (true, rest) else some (false, text)
  | [] => some (false, [])

def expect (c : Char) : Reader Unit := do
  if ← skips c then pure () else failure

/-- Skips blanks, line ends, and comments, in one of which it may start. -/
def dropGap (comment : Bool) : List Char → Option (List Char)
  | '\n' :: rest => dropGap false rest
  | '\r' :: '\n' :: rest => dropGap false rest
  | c :: rest =>
    if comment then if isPlain c then dropGap true rest else none
    else if isBlank c then dropGap false rest
    else if c = '#' then dropGap true rest
    else some (c :: rest)
  | [] => some []

def gap : Reader Unit := fun text => (dropGap false text).map ((), ·)

def isBareKey (c : Char) : Bool := c.isAlphanum || c = '_' || c = '-'

def keyPart : Reader String := fun text =>
  match text with
  | '"' :: rest => (basic rest).map fun (name, rest) => (String.ofList name, rest)
  | '\'' :: rest => (literal rest).map fun (name, rest) => (String.ofList name, rest)
  | _ =>
    match text.takeWhile isBareKey with
    | [] => none
    | name => some (String.ofList name, text.drop name.length)

def keyParts : Nat → Reader (List String)
  | 0 => failure
  | most + 1 => do
    let part ← keyPart
    blanks
    if ← skips '.' then
      blanks
      (part :: ·) <$> keyParts most
    else return [part]

def key : Reader Key := do
  match Key.ofParts? (← keyParts deepest) with
  | some key => return key
  | none => failure

/-- Items with commas between them, up to a closing bracket. A comma may follow the last. -/
def listing (close : Char) (item : Reader α) : Nat → Reader (List α)
  | 0 => failure
  | most + 1 => do
    gap
    if ← skips close then return []
    let first ← item
    gap
    if ← skips ',' then (first :: ·) <$> listing close item most
    else
      expect close
      return [first]

/-- A key and its value. What may be skipped stands on both sides of the sign between them. -/
def entry (skip : Reader Unit) (value : Reader Value) : Reader (Key × Value) := do
  let key ← key
  skip
  expect '='
  skip
  return (key, ← value)

def isBareValue (c : Char) : Bool := isBareKey c || c = '+' || c = '.' || c = ':'

/-- A value without brackets. A blank may come between a date and a time. -/
def scalar : Reader Value := fun text =>
  match text with
  | '"' :: _ | '\'' :: _ =>
    (quoted text).map fun (content, rest) => (.text (String.ofList content), rest)
  | _ =>
    let written := text.takeWhile isBareValue
    let rest := text.drop written.length
    let (written, rest) := match rest with
      | ' ' :: c :: more =>
        if isDate written && isDigit c then
          let time := (c :: more).takeWhile isBareValue
          (written ++ ' ' :: time, (c :: more).drop time.length)
        else (written, rest)
      | _ => (written, rest)
    (bare? written).map (·, rest)

def value : Nat → Reader Value
  | 0 => scalar
  | depth + 1 => do
    if ← skips '[' then
      return .array (← listing ']' (value depth) (← get).length)
    else if ← skips '{' then
      let entries ← listing '}' (entry gap (value depth)) (← get).length
      match Table.ofEntries? entries with
      | some table => return table.value
      | none => failure
    else scalar

def statement : Reader Statement := do
  if ← skips '[' then
    let several ← skips '['
    blanks
    let key ← key
    expect ']'
    if several then
      expect ']'
      return .element key
    return .header key
  else
    let (key, value) ← entry blanks (value deepest)
    return .entry key value

def lineEnd : Reader Unit := do
  blanks
  match ← get with
  | [] | '\n' :: _ | '\r' :: _ | '#' :: _ => pure ()
  | _ => failure

def statements : Nat → Reader (List Statement)
  | 0 => failure
  | most + 1 => do
    gap
    if (← get).isEmpty then return []
    let first ← statement
    lineEnd
    (first :: ·) <$> statements most

end Reader

/-- Drops a byte order mark at the start of a text. -/
def dropMark : List Char → List Char
  | '\uFEFF' :: rest => rest
  | text => text

def statements? (text : List Char) : Option (List Statement) :=
  ((Reader.statements (text.length + 1)).run (dropMark text)).map (·.1)

def Value.parse? (text : String) : Option Value := do
  let document ← Document.ofStatements? (← statements? text.toList)
  return document.value

end GrantKeeper.Toml
