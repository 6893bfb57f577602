import GrantKeeper.Encoding.Hex
import GrantKeeper.Text.Utf8

/-! Percent-encoding of bytes: those outside a set of plain bytes are written as a percent
sign and two upper-case hexadecimal digits. -/
namespace GrantKeeper.Percent

def escape (b : UInt8) : List Char := ['%', Hex.upper (b.toNat / 16), Hex.upper (b.toNat % 16)]

def encode (plain : UInt8 → Bool) (text : String) : String :=
  String.ofList <| (Utf8.encode text).flatMap fun b =>
    if plain b then [Char.ofNat b.toNat] else escape b

/-- The bytes of a text, each complete escape standing for its byte and all else for itself. -/
def decode : List UInt8 → List UInt8
  | [] => []
  | [b] => [b]
  | [b, c] => [b, c]
  | b :: c :: d :: rest =>
    match b == 0x25, Hex.value? (Char.ofNat c.toNat), Hex.value? (Char.ofNat d.toNat) with
    | true, some high, some low => UInt8.ofNat (high * 16 + low) :: decode rest
    | _, _, _ => b :: decode (c :: d :: rest)

end GrantKeeper.Percent
