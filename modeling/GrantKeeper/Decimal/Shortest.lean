/-! The fewest decimal digits that read back as a given binary floating-point number. The
number is an exact fraction, and so are the ends of the interval of values that round to it;
for one digit, two digits and so on the two decimals next to the number are tried. -/
namespace GrantKeeper.Decimal

/-- The value of the leading bit of a significand, which a float does not store. -/
def hidden : Nat := 0x10000000000000

structure Binary where
  significand : Nat
  exponent : Int

/-- The digits of a decimal `0.d₁d₂… * 10 ^ point`, as one number without zeros at its end. -/
structure Digits where
  number : Nat
  point : Int
deriving Repr, BEq, DecidableEq

structure Fraction where
  numerator : Nat
  denominator : Nat

def Fraction.scaled (number : Nat) (exponent : Int) : Fraction :=
  if 0 ≤ exponent then ⟨number * Nat.pow 2 exponent.toNat, 1⟩
  else ⟨number, Nat.pow 2 (-exponent).toNat⟩

def Fraction.le (x y : Fraction) : Bool :=
  decide (x.numerator * y.denominator ≤ y.numerator * x.denominator)

def Fraction.lt (x y : Fraction) : Bool := !y.le x

def Fraction.decimal (number : Nat) (exponent : Int) : Fraction :=
  if 0 ≤ exponent then ⟨number * Nat.pow 10 exponent.toNat, 1⟩
  else ⟨number, Nat.pow 10 (-exponent).toNat⟩

def Fraction.magnitude (x : Fraction) : Int :=
  if x.denominator ≤ x.numerator then
    ((Nat.toDigits 10 (x.numerator / x.denominator)).length : Int) - 1
  else
    let length := (Nat.toDigits 10 (x.denominator / x.numerator)).length
    if (Fraction.decimal 1 (1 - (length : Int))).le x then 1 - (length : Int) else -(length : Int)

/-- The values that read back as a number: above `low`, below `high`, and the ends as well if
`closed`. -/
structure Interval where
  low : Fraction
  high : Fraction
  closed : Bool

def Interval.contains (i : Interval) (x : Fraction) : Bool :=
  if i.closed then i.low.le x && x.le i.high else i.low.lt x && x.lt i.high

def Binary.interval (x : Binary) : Interval :=
  let below := if x.significand = hidden ∧ -1074 < x.exponent then 1 else 2
  ⟨.scaled (4 * x.significand - below) (x.exponent - 2),
    .scaled (4 * x.significand + 2) (x.exponent - 2), x.significand % 2 = 0⟩

/-- The decimal with a number of digits that lies nearest to a fraction, among those that the
interval contains. -/
def nearest? (x : Fraction) (interval : Interval) (digits : Nat) : Option (Nat × Int) :=
  let exponent := x.magnitude + 1 - digits
  let step := Fraction.decimal 1 exponent
  let low : Nat := (x.numerator * step.denominator) / (x.denominator * step.numerator)
  let fits (n : Nat) : Bool := n != 0 && interval.contains (.decimal n exponent)
  let twice := Fraction.decimal (2 * low + 1) exponent
  let lowIsNearer := (Fraction.mk (2 * x.numerator) x.denominator).le twice
  if fits low && (lowIsNearer || !fits (low + 1)) then some (low, exponent)
  else if fits (low + 1) then some (low + 1, exponent)
  else none

def dropZeros : Nat → Nat → Nat × Nat
  | 0, n => (n, 0)
  | fuel + 1, n =>
    if n ≠ 0 ∧ n % 10 = 0 then
      let (m, zeros) := dropZeros fuel (n / 10)
      (m, zeros + 1)
    else (n, 0)

/-- The fewest digits that read back as a positive finite number. -/
def Binary.shortest (x : Binary) : Digits :=
  let exact := Fraction.scaled x.significand x.exponent
  let (number, exponent) :=
    ((List.range 17).findSome? fun n => nearest? exact x.interval (n + 1)).getD (0, 0)
  let (number, zeros) := dropZeros 20 number
  ⟨number, exponent + zeros + (Nat.toDigits 10 number).length⟩

def Binary.ofFloat (x : Float) : Binary :=
  let bits : Nat := x.toBits.toNat % 0x8000000000000000
  let biased : Nat := bits / hidden
  let fraction : Nat := bits % hidden
  if biased = 0 then ⟨fraction, -1074⟩ else ⟨hidden + fraction, (biased : Int) - 1075⟩

end GrantKeeper.Decimal
