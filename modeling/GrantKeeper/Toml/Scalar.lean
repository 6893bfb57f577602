import GrantKeeper.Encoding.Hex
import GrantKeeper.Time.Calendar
import GrantKeeper.Toml.Value

/-! Values in TOML that stand without quotation marks: truth values, numbers, dates and times.
Each is read whole. -/
namespace GrantKeeper.Toml

def isDigit (c : Char) : Bool := '0' ≤ c && c ≤ '9'

/-- The digits of a number, in which single underscores may separate digits. -/
def digits? (isDigit : Char → Bool) : List Char → Option (List Char)
  | [] => none
  | [c] => if isDigit c then some [c] else none
  | c :: '_' :: rest => if isDigit c then (c :: ·) <$> digits? isDigit rest else none
  | c :: rest => if isDigit c then (c :: ·) <$> digits? isDigit rest else none

def numberOf (base : Nat) (digits : List Char) : Nat :=
  digits.foldl (fun n c => n * base + (Hex.value? c).getD 0) 0

/-- The digits before the point, which begin with a zero only if it is all there is. -/
def wholeDigits? (written : List Char) : Option (List Char) :=
  match digits? isDigit written with
  | some ('0' :: _ :: _) => none
  | digits => digits

def based? (base : Nat) (isDigit : Char → Bool) (written : List Char) : Option Value :=
  (fun digits => .integer (numberOf base digits)) <$> digits? isDigit written

def exponent? (written : List Char) : Option Int :=
  match written with
  | '-' :: written => (fun digits => -(numberOf 10 digits : Int)) <$> digits? isDigit written
  | '+' :: written => (fun digits => (numberOf 10 digits : Int)) <$> digits? isDigit written
  | written => (fun digits => (numberOf 10 digits : Int)) <$> digits? isDigit written

def size? (negative : Bool) (written : List Char) : Option Value := do
  let isMark (c : Char) : Bool := c = 'e' || c = 'E'
  let mantissa := written.takeWhile (!isMark ·)
  let exponent := written.drop mantissa.length
  let whole := mantissa.takeWhile (· ≠ '.')
  let fraction := mantissa.drop whole.length
  let wholeDigits ← wholeDigits? whole
  match fraction, exponent with
  | [], [] =>
    let n : Int := numberOf 10 wholeDigits
    return .integer (if negative then -n else n)
  | [], _ :: exponent => return .decimal (numberOf 10 wholeDigits) (← exponent? exponent)
  | _ :: fraction, [] =>
    let digits ← digits? isDigit fraction
    return .decimal (numberOf 10 (wholeDigits ++ digits)) (-digits.length)
  | _ :: fraction, _ :: exponent =>
    let digits ← digits? isDigit fraction
    return .decimal (numberOf 10 (wholeDigits ++ digits)) ((← exponent? exponent) - digits.length)

def unsigned? (negative : Bool) (written : List Char) : Option Value :=
  match written with
  | ['i', 'n', 'f'] | ['n', 'a', 'n'] => some .unbounded
  | written => size? negative written

/-- A number. A sign goes only before a number in base ten. -/
def number? (written : List Char) : Option Value :=
  match written with
  | '0' :: 'x' :: rest => based? 16 (fun c => (Hex.value? c).isSome) rest
  | '0' :: 'o' :: rest => based? 8 (fun c => '0' ≤ c && c ≤ '7') rest
  | '0' :: 'b' :: rest => based? 2 (fun c => c = '0' || c = '1') rest
  | '-' :: rest => unsigned? true rest
  | '+' :: rest => unsigned? false rest
  | rest => unsigned? false rest

def fixed? (width : Nat) (written : List Char) : Option Nat :=
  if written.length = width && written.all isDigit then some (numberOf 10 written) else none

def isDate (written : List Char) : Bool :=
  match written with
  | [a, b, c, d, '-', e, f, '-', g, h] =>
    match fixed? 4 [a, b, c, d], fixed? 2 [e, f], fixed? 2 [g, h] with
    | some year, some month, some day => (Calendar.Date.mk year month day).exists
    | _, _, _ => false
  | _ => false

def isAtMost (bound : Nat) (a b : Char) : Bool := (fixed? 2 [a, b]).any (· ≤ bound)

/-- Whether this is a time of day. Seconds may be missing, or be a leap second. -/
def isTime (written : List Char) : Bool :=
  match written with
  | a :: b :: ':' :: c :: d :: rest =>
    isAtMost 23 a b && isAtMost 59 c d &&
      match rest with
      | [] => true
      | [':', e, f] => isAtMost 60 e f
      | ':' :: e :: f :: '.' :: fraction =>
        isAtMost 60 e f && !fraction.isEmpty && fraction.all isDigit
      | _ => false
  | _ => false

def isOffset (written : List Char) : Bool :=
  match written with
  | ['Z'] | ['z'] => true
  | [sign, a, b, ':', c, d] => (sign = '+' || sign = '-') && isAtMost 23 a b && isAtMost 59 c d
  | _ => false

def isTimeAtOffset (written : List Char) : Bool :=
  let time := written.takeWhile fun c => isDigit c || c = ':' || c = '.'
  let offset := written.drop time.length
  isTime time && (offset.isEmpty || isOffset offset)

def isMoment (written : List Char) : Bool :=
  isTime written || isDate written ||
    match written.drop 10 with
    | between :: time =>
      ['T', 't', ' '].contains between && isDate (written.take 10) && isTimeAtOffset time
    | [] => false

def bare? (written : List Char) : Option Value :=
  if written = "true".toList then some (.bool true)
  else if written = "false".toList then some (.bool false)
  else if isMoment written then some .moment
  else number? written

end GrantKeeper.Toml
