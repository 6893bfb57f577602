import GrantKeeper.Encoding.Percent

/-! Form bodies: fields joined by ampersands, each a name, an equals sign and a value. Letters,
digits and four marks stand for themselves, a space is a plus sign, every other byte is
percent-encoded. -/
namespace GrantKeeper.Form

def isPlain (b : UInt8) : Bool :=
  (0x41 ≤ b && b ≤ 0x5A) || (0x61 ≤ b && b ≤ 0x7A) || (0x30 ≤ b && b ≤ 0x39) ||
    b == 0x2A || b == 0x2D || b == 0x2E || b == 0x5F

def encodeByte (b : UInt8) : List Char :=
  if isPlain b then [Char.ofNat b.toNat] else if b = 0x20 then ['+'] else Percent.escape b

def encodeText (text : String) : List Char := (Utf8.encode text).flatMap encodeByte

def encodeField (field : String × String) : List Char :=
  encodeText field.1 ++ '=' :: encodeText field.2

def encode (fields : List (String × String)) : String :=
  String.ofList ((fields.map encodeField).intersperse ['&']).flatten

def decodeBytes : List Char → Option (List UInt8)
  | [] => some []
  | '%' :: high :: low :: rest => do
    let byte := UInt8.ofNat ((← Hex.value? high) * 16 + (← Hex.value? low))
    (byte :: ·) <$> decodeBytes rest
  | '+' :: rest => (0x20 :: ·) <$> decodeBytes rest
  | c :: rest =>
    if c.toNat < 128 ∧ c ≠ '%' then (UInt8.ofNat c.toNat :: ·) <$> decodeBytes rest else none

def decodeText (text : List Char) : Option String := decodeBytes text >>= Utf8.decode?

/-- One field of a body: what stands before and after its first equals sign. -/
def decodeField (text : List Char) : Option (String × String) :=
  match text.span (· != '=') with
  | (name, _ :: value) => do some (← decodeText name, ← decodeText value)
  | (_, []) => none

def decode (body : String) : Option (List (String × String)) :=
  if body.isEmpty then some []
  else (splitAmpersands body.toList).mapM decodeField
where
  /-- The stretches between ampersands. -/
  splitAmpersands : List Char → List (List Char)
    | [] => [[]]
    | c :: rest =>
      if c = '&' then [] :: splitAmpersands rest
      else match splitAmpersands rest with
        | [] => [[c]]
        | field :: more => (c :: field) :: more

end GrantKeeper.Form
