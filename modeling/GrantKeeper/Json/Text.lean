import GrantKeeper.Encoding.Hex
import GrantKeeper.Text.Utf8

/-! Texts in JSON. Reading undoes escapes, of which two may stand for one character beyond the
basic plane; writing escapes the quotation mark, the backslash and the controls, and nothing
else. -/
namespace GrantKeeper.Json

def shortEscape? : Char → Option Char
  | '"' => some '"'
  | '\\' => some '\\'
  | '/' => some '/'
  | 'b' => some '\x08'
  | 'f' => some '\x0C'
  | 'n' => some '\n'
  | 'r' => some '\r'
  | 't' => some '\t'
  | _ => none

/-- The codes of a written text: those of its characters, and those that its escapes name. -/
def codes? : List Char → Option (List Nat)
  | [] => some []
  | '\\' :: 'u' :: a :: b :: c :: d :: rest => do
    let code ← Hex.number? [a, b, c, d]
    (code :: ·) <$> codes? rest
  | '\\' :: c :: rest => do
    let escaped ← shortEscape? c
    (escaped.toNat :: ·) <$> codes? rest
  | c :: rest => (c.toNat :: ·) <$> codes? rest

def isHighSurrogate (code : Nat) : Bool := 0xD800 ≤ code && code ≤ 0xDBFF
def isLowSurrogate (code : Nat) : Bool := 0xDC00 ≤ code && code ≤ 0xDFFF

/-- The characters of a list of codes, in which surrogates must stand in pairs. -/
def joinSurrogates : List Nat → Option (List Char)
  | [] => some []
  | [code] => if isHighSurrogate code || isLowSurrogate code then none else some [Char.ofNat code]
  | code :: next :: rest =>
    if isHighSurrogate code then
      if isLowSurrogate next then
        (Char.ofNat (0x10000 + (code - 0xD800) * 0x400 + (next - 0xDC00)) :: ·) <$> joinSurrogates rest
      else none
    else if isLowSurrogate code then none
    else (Char.ofNat code :: ·) <$> joinSurrogates (next :: rest)

def unescape? (written : List Char) : Option (List Char) := codes? written >>= joinSurrogates

def text? (written : List UInt8) : Option String := do
  let written ← Utf8.decode? written
  String.ofList <$> unescape? written.toList

def escape (c : Char) : List Char :=
  match c with
  | '"' => ['\\', '"']
  | '\\' => ['\\', '\\']
  | '\x08' => ['\\', 'b']
  | '\x0C' => ['\\', 'f']
  | '\n' => ['\\', 'n']
  | '\r' => ['\\', 'r']
  | '\t' => ['\\', 't']
  | c =>
    if c.toNat < 0x20 then
      ['\\', 'u', '0', '0', Hex.lower (c.toNat / 16), Hex.lower (c.toNat % 16)]
    else [c]

def quote (text : String) : List Char := '"' :: text.toList.flatMap escape ++ ['"']

end GrantKeeper.Json
