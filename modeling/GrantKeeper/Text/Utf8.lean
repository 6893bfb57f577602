/-! UTF-8 over lists of bytes: encoding, strict decoding, and decoding in which every
ill-formed piece becomes one replacement character. -/
namespace GrantKeeper.Utf8

def encode (text : String) : List UInt8 := text.toList.flatMap String.utf8EncodeChar

def decode? (bytes : List UInt8) : Option String := String.fromUTF8? bytes.toByteArray

/-- What a first byte asks for: the range of the next byte, and how many more follow it. -/
def continuation : UInt8 → Option (UInt8 × UInt8 × Nat)
  | 0xE0 => some (0xA0, 0xBF, 1)
  | 0xED => some (0x80, 0x9F, 1)
  | 0xF0 => some (0x90, 0xBF, 2)
  | 0xF4 => some (0x80, 0x8F, 2)
  | first =>
    if 0xC2 ≤ first && first ≤ 0xDF then some (0x80, 0xBF, 0)
    else if 0xE1 ≤ first && first ≤ 0xEF then some (0x80, 0xBF, 1)
    else if 0xF1 ≤ first && first ≤ 0xF3 then some (0x80, 0xBF, 2)
    else none

/-- How many of the bytes after a first byte belong to its sequence, and whether they complete it. -/
def extent (first : UInt8) (rest : List UInt8) : Nat × Bool :=
  if first < 0x80 then (0, true)
  else match continuation first with
    | none => (0, false)
    | some (low, high, more) =>
      match rest with
      | [] => (0, false)
      | next :: rest =>
        if low ≤ next && next ≤ high then
          let following := (rest.take more).takeWhile (fun b => 0x80 ≤ b && b ≤ 0xBF)
          (1 + following.length, following.length == more)
        else (0, false)

/-- The text of a byte sequence, with U+FFFD for each maximal ill-formed piece. -/
def decodeLossy : List UInt8 → List Char
  | [] => []
  | first :: rest =>
    let (taken, complete) := extent first rest
    let shown :=
      if complete then ((first :: rest.take taken).toByteArray.utf8DecodeChar? 0).getD '\uFFFD'
      else '\uFFFD'
    shown :: decodeLossy (rest.drop taken)
termination_by bytes => bytes.length
decreasing_by simp only [List.length_drop, List.length_cons]; omega

def lossy (bytes : List UInt8) : String :=
  match decode? bytes with
  | some text => text
  | none => String.ofList (decodeLossy bytes)

end GrantKeeper.Utf8
