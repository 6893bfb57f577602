import GrantKeeper.Decimal.Shortest

/-! Numbers in JSON. An integer within 64 bits is read exactly. Any other number becomes a
float: as many digits as fit into 64 bits, scaled by a power of ten. -/
namespace GrantKeeper.Json

inductive Number
  | integer (value : Int)
  | float (value : Float)

structure Numeral where
  negative : Bool
  whole : List UInt8
  fraction : List UInt8
  exponent : Option Int

def digitValue (b : UInt8) : Nat := b.toNat - 48

def naturalOf (digits : List UInt8) : Nat := digits.foldl (fun n d => n * 10 + digitValue d) 0

def exponentOf : List UInt8 → Int
  | 0x2D :: digits => -(naturalOf digits : Int)
  | 0x2B :: digits => naturalOf digits
  | digits => naturalOf digits

def Numeral.ofWritten (written : List UInt8) : Numeral :=
  let (negative, size) := match written with
    | 0x2D :: rest => (true, rest)
    | _ => (false, written)
  let isMark (b : UInt8) : Bool := b == 0x45 || b == 0x65
  let mantissa := size.takeWhile (!isMark ·)
  let exponent := match size.dropWhile (!isMark ·) with
    | [] => none
    | _ :: rest => some (exponentOf rest)
  let whole := mantissa.takeWhile (· != 0x2E)
  ⟨negative, whole, mantissa.drop (whole.length + 1), exponent⟩

/-- Whether a numeral is written as an integer. A zero with a sign is not. -/
def Numeral.isInteger (n : Numeral) : Bool :=
  n.fraction.isEmpty && n.exponent.isNone && !(n.negative && naturalOf n.whole == 0)

def Numeral.integer (n : Numeral) : Int :=
  if n.negative then -(naturalOf n.whole : Int) else naturalOf n.whole

def integer? (written : List UInt8) : Option Int :=
  let n := Numeral.ofWritten written
  if n.isInteger then some n.integer else none

/-- Appends digits to a number while it stays below 64 bits; the digits left over follow. -/
def absorb (number : Nat) : List UInt8 → Nat × List UInt8
  | [] => (number, [])
  | digit :: rest =>
    let next := number * 10 + digitValue digit
    if next < 0x10000000000000000 then absorb next rest else (number, digit :: rest)

def powerOfTen (n : Nat) : Float := Float.ofScientific 1 false n

/-- A number times a power of ten, unless it is too large for a float. -/
def scale? (number : Nat) (exponent : Int) : Option Float :=
  let x := number.toUInt64.toFloat
  if number = 0 then some x
  else if 308 < exponent then none
  else if 0 ≤ exponent then
    let y := x * powerOfTen exponent.toNat
    if y.isInf then none else some y
  else if -308 ≤ exponent then some (x / powerOfTen (-exponent).toNat)
  else if -616 ≤ exponent then some (x / powerOfTen 308 / powerOfTen (-exponent - 308).toNat)
  else some (x / powerOfTen 308 / powerOfTen 308)

def Numeral.float? (n : Numeral) : Option Float := do
  let (number, leftover) := absorb 0 n.whole
  let (number, rest) := absorb number n.fraction
  let taken : Int := n.fraction.length - rest.length
  let size ← scale? number (leftover.length - taken + n.exponent.getD 0)
  some (if n.negative then -size else size)

def Number.ofWritten? (written : List UInt8) : Option Number :=
  let n := Numeral.ofWritten written
  if n.isInteger && -0x8000000000000000 ≤ n.integer && n.integer < 0x10000000000000000 then
    some (.integer n.integer)
  else Number.float <$> n.float?

def writeExponent (exponent : Int) : List Char :=
  'e' :: (if exponent < 0 then '-' else '+') :: (toString exponent.natAbs).toList

/-- Digits with a point: positional from `0.00001` to below `1e+16`, and with an exponent
outside this range. -/
def writeDigits (digits : Decimal.Digits) : List Char :=
  let shown := (toString digits.number).toList
  let point := digits.point
  if -5 < point ∧ point ≤ 0 then "0.".toList ++ List.replicate (-point).toNat '0' ++ shown
  else if 0 < point ∧ point ≤ 16 then
    let whole := shown.take point.toNat
    let fraction := shown.drop point.toNat
    whole ++ List.replicate (point.toNat - whole.length) '0' ++ '.' ::
      (if fraction.isEmpty then ['0'] else fraction)
  else
    shown.take 1 ++ (if shown.length ≤ 1 then [] else '.' :: shown.drop 1) ++ writeExponent (point - 1)

def writeFloat (x : Float) : List Char :=
  (if x.toBits ≥ 0x8000000000000000 then ['-'] else []) ++
    (if x == 0 then "0.0".toList else writeDigits (Decimal.Binary.ofFloat x).shortest)

def Number.write : Number → List Char
  | integer value => (toString value).toList
  | float value => writeFloat value

end GrantKeeper.Json
