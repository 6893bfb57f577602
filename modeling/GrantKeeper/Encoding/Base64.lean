import GrantKeeper.Text.Utf8

/-! Base64 in its two alphabets. Decoding is strict: the padding is all there or all absent as
the alphabet asks, nothing stands outside the alphabet, and the bits that fill up the last
character are zero. -/
namespace GrantKeeper.Base64

/-- An alphabet: the characters of the values 62 and 63, and whether groups are padded. -/
structure Alphabet where
  char62 : Char
  char63 : Char
  padded : Bool

def standard : Alphabet := ⟨'+', '/', true⟩

def urlSafe : Alphabet := ⟨'-', '_', false⟩

def Alphabet.char (a : Alphabet) (value : Nat) : Char :=
  if value < 26 then Char.ofNat (65 + value)
  else if value < 52 then Char.ofNat (97 + (value - 26))
  else if value < 62 then Char.ofNat (48 + (value - 52))
  else if value = 62 then a.char62
  else a.char63

def Alphabet.value? (a : Alphabet) (c : Char) : Option Nat :=
  let n := c.toNat
  if 65 ≤ n ∧ n ≤ 90 then some (n - 65)
  else if 97 ≤ n ∧ n ≤ 122 then some (n - 97 + 26)
  else if 48 ≤ n ∧ n ≤ 57 then some (n - 48 + 52)
  else if c = a.char62 then some 62
  else if c = a.char63 then some 63
  else none

/-- The characters of a byte sequence: four for three bytes, fewer for a rest of one or two. -/
def Alphabet.encodeChars (a : Alphabet) : List UInt8 → List Char
  | [] => []
  | [x] =>
    [a.char (x.toNat / 4), a.char (x.toNat % 4 * 16)] ++ (if a.padded then ['=', '='] else [])
  | [x, y] =>
    [a.char (x.toNat / 4), a.char (x.toNat % 4 * 16 + y.toNat / 16), a.char (y.toNat % 16 * 4)] ++
      (if a.padded then ['='] else [])
  | x :: y :: z :: rest =>
    a.char (x.toNat / 4) :: a.char (x.toNat % 4 * 16 + y.toNat / 16) ::
      a.char (y.toNat % 16 * 4 + z.toNat / 64) :: a.char (z.toNat % 64) :: a.encodeChars rest

def Alphabet.encode (a : Alphabet) (bytes : List UInt8) : String :=
  String.ofList (a.encodeChars bytes)

/-- The bytes of a list of values, the last group complete or cut after two or three values. -/
def unpack : List Nat → Option (List UInt8)
  | [] => some []
  | [_] => none
  | [p, q] => if q % 16 = 0 then some [UInt8.ofNat (p * 4 + q / 16)] else none
  | [p, q, r] =>
    if r % 4 = 0 then some [UInt8.ofNat (p * 4 + q / 16), UInt8.ofNat (q % 16 * 16 + r / 4)]
    else none
  | p :: q :: r :: s :: rest => do
    let tail ← unpack rest
    some (UInt8.ofNat (p * 4 + q / 16) :: UInt8.ofNat (q % 16 * 16 + r / 4) ::
      UInt8.ofNat (r % 4 * 64 + s) :: tail)

def padding (length : Nat) : List Char :=
  match length % 4 with
  | 2 => ['=', '=']
  | 3 => ['=']
  | _ => []

/-- The bytes of a text, if it is what `encode` writes for some bytes. -/
def Alphabet.decode? (a : Alphabet) (text : List Char) : Option (List UInt8) :=
  let (body, rest) := text.span (· != '=')
  if rest = (if a.padded then padding body.length else []) then
    body.mapM a.value? >>= unpack
  else none

end GrantKeeper.Base64
