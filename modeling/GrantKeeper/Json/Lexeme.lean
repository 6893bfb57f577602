/-! The lexemes of a JSON text, read byte by byte. Numerals and the contents of texts are kept
as they are written: what they stand for is decided where a value is wanted, so that a value
nobody wants may hold bytes that are no text and numbers of any size. -/
namespace GrantKeeper.Json

inductive Lexeme
  | openArray
  | closeArray
  | openObject
  | closeObject
  | comma
  | colon
  | null
  | bool (value : Bool)
  /-- A number, as written. -/
  | numeral (written : List UInt8)
  /-- A text, as written between its quotation marks. -/
  | text (written : List UInt8)
deriving Repr, BEq, DecidableEq

inductive NumeralPart
  | minus
  | zero
  | whole
  | point
  | fraction
  | mark
  | sign
  | exponent

def isDigit (b : UInt8) : Bool := 0x30 ≤ b && b ≤ 0x39

/-- How far a numeral reaches with one more byte, if the byte belongs to it. -/
def NumeralPart.next (b : UInt8) : NumeralPart → Option NumeralPart
  | minus => if b = 0x30 then some zero else if isDigit b then some whole else none
  | zero => afterWhole b
  | whole => if isDigit b then some whole else afterWhole b
  | point => if isDigit b then some fraction else none
  | fraction => if isDigit b then some fraction else afterFraction b
  | mark => if b = 0x2B || b = 0x2D then some sign else afterSign b
  | sign => afterSign b
  | exponent => afterSign b
where
  afterSign (b : UInt8) : Option NumeralPart := if isDigit b then some exponent else none
  afterFraction (b : UInt8) : Option NumeralPart := if b = 0x45 || b = 0x65 then some mark else none
  afterWhole (b : UInt8) : Option NumeralPart := if b = 0x2E then some point else afterFraction b

def NumeralPart.complete : NumeralPart → Bool
  | zero | whole | fraction | exponent => true
  | minus | point | mark | sign => false

/-- What is being read. Bytes already seen of a lexeme stand latest first. -/
inductive Mode
  | between
  | word (ahead : List UInt8) (lexeme : Lexeme)
  | numeral (part : NumeralPart) (seen : List UInt8)
  | text (seen : List UInt8)
  | escape (seen : List UInt8)
  | code (digits : Nat) (seen : List UInt8)

/-- A reader of lexemes: what it is at, and the lexemes it has read, latest first. -/
structure Lexer where
  mode : Mode := .between
  done : List Lexeme := []

def Lexer.finished (done : List Lexeme) (lexeme : Lexeme) : Lexer := ⟨.between, lexeme :: done⟩

def Lexer.start (done : List Lexeme) (b : UInt8) : Option Lexer :=
  match b with
  | 0x20 | 0x09 | 0x0A | 0x0D => some ⟨.between, done⟩
  | 0x5B => some (finished done .openArray)
  | 0x5D => some (finished done .closeArray)
  | 0x7B => some (finished done .openObject)
  | 0x7D => some (finished done .closeObject)
  | 0x2C => some (finished done .comma)
  | 0x3A => some (finished done .colon)
  | 0x22 => some ⟨.text [], done⟩
  | 0x6E => some ⟨.word [0x75, 0x6C, 0x6C] .null, done⟩
  | 0x74 => some ⟨.word [0x72, 0x75, 0x65] (.bool true), done⟩
  | 0x66 => some ⟨.word [0x61, 0x6C, 0x73, 0x65] (.bool false), done⟩
  | 0x2D => some ⟨.numeral .minus [b], done⟩
  | 0x30 => some ⟨.numeral .zero [b], done⟩
  | _ => if isDigit b then some ⟨.numeral .whole [b], done⟩ else none

def isShortEscape (b : UInt8) : Bool :=
  [0x22, 0x5C, 0x2F, 0x62, 0x66, 0x6E, 0x72, 0x74].contains b

def isHexDigit (b : UInt8) : Bool :=
  isDigit b || (0x41 ≤ b && b ≤ 0x46) || (0x61 ≤ b && b ≤ 0x66)

def Lexer.step (lexer : Lexer) (b : UInt8) : Option Lexer :=
  match lexer.mode with
  | .between => start lexer.done b
  | .word [] _ => none
  | .word [last] lexeme => if b = last then some (finished lexer.done lexeme) else none
  | .word (next :: ahead) lexeme =>
    if b = next then some ⟨.word ahead lexeme, lexer.done⟩ else none
  | .numeral part seen =>
    match part.next b with
    | some part => some ⟨.numeral part (b :: seen), lexer.done⟩
    | none => if part.complete then start (.numeral seen.reverse :: lexer.done) b else none
  | .text seen =>
    if b = 0x22 then some (finished lexer.done (.text seen.reverse))
    else if b = 0x5C then some ⟨.escape (b :: seen), lexer.done⟩
    else if b < 0x20 then none
    else some ⟨.text (b :: seen), lexer.done⟩
  | .escape seen =>
    if b = 0x75 then some ⟨.code 3 (b :: seen), lexer.done⟩
    else if isShortEscape b then some ⟨.text (b :: seen), lexer.done⟩
    else none
  | .code left seen =>
    if isHexDigit b then
      match left with
      | 0 => some ⟨.text (b :: seen), lexer.done⟩
      | left + 1 => some ⟨.code left (b :: seen), lexer.done⟩
    else none

/-- The lexemes read, first first, if the bytes may end here. -/
def Lexer.finish (lexer : Lexer) : Option (List Lexeme) :=
  match lexer.mode with
  | .between => some lexer.done.reverse
  | .numeral part seen =>
    if part.complete then some (.numeral seen.reverse :: lexer.done).reverse else none
  | _ => none

def lexemes? (bytes : List UInt8) : Option (List Lexeme) :=
  bytes.foldlM Lexer.step {} >>= Lexer.finish

end GrantKeeper.Json
