import GrantKeeper.Text.Blank
import GrantKeeper.Time.Calendar
import GrantKeeper.Time.Instant

/-! Timestamps: the text of an instant. Writing gives the fewest of no, three, six or nine
fraction digits that lose nothing, and a sign to years outside 0 to 9999. Reading is lenient:
fields need no padding, blanks may stand around them, and any offset from universal time is
allowed. -/
namespace GrantKeeper.Timestamp

/-- A number with at least a given number of digits. -/
def padded (width : Nat) (n : Nat) : List Char :=
  let digits := (toString n).toList
  List.replicate (width - digits.length) '0' ++ digits

def writeYear (year : Int) : List Char :=
  if 0 ≤ year ∧ year ≤ 9999 then padded 4 year.toNat
  else (if year < 0 then '-' else '+') :: padded 4 year.natAbs

def writeFraction (nanos : Nat) : List Char :=
  if nanos = 0 then []
  else if nanos % 1000000 = 0 then '.' :: padded 3 (nanos / 1000000)
  else if nanos % 1000 = 0 then '.' :: padded 6 (nanos / 1000)
  else '.' :: padded 9 nanos

def write (instant : Instant) : String :=
  let date := Calendar.Date.ofNumber (instant.seconds / 86400 + Calendar.epoch)
  let inDay := (instant.seconds % 86400).toNat
  let leap := if Span.perSecond ≤ instant.nanos then 1 else 0
  String.ofList <|
    writeYear date.year ++ '-' :: padded 2 date.month ++ '-' :: padded 2 date.day ++
      'T' :: padded 2 (inDay / 3600) ++ ':' :: padded 2 (inDay / 60 % 60) ++
      ':' :: padded 2 (inDay % 60 + leap) ++
      writeFraction (instant.nanos % Span.perSecond) ++ ['Z']

/-- A reader of a part of a text: what the part says, and the text after it. -/
abbrev Part (α : Type) := List Char → Option (α × List Char)

def digitValue (c : Char) : Nat := c.toNat - 48

def isDigit (c : Char) : Bool := '0' ≤ c && c ≤ '9'

def numberOf (digits : List Char) : Nat := digits.foldl (fun n c => n * 10 + digitValue c) 0

/-- A number of at least one and at most a given number of digits. -/
def number (width : Nat) : Part Nat := fun text =>
  let digits := (text.take width).takeWhile isDigit
  if digits.isEmpty then none else some (numberOf digits, text.drop digits.length)

def field (width : Nat) : Part Nat := fun text => number width (Text.trimStart text)

/-- A year: four digits at most, or any number of digits after a sign. -/
def year : Part Int := fun text =>
  match Text.trimStart text with
  | '-' :: rest => (number rest.length rest).map fun (n, rest) => (-(n : Int), rest)
  | '+' :: rest => (number rest.length rest).map fun (n, rest) => ((n : Int), rest)
  | rest => (number 4 rest).map fun (n, rest) => ((n : Int), rest)

def separator (c : Char) : Part Unit := fun text =>
  match Text.trimStart text with
  | d :: rest => if d = c then some ((), rest) else none
  | [] => none

def dateEnd : Part Unit
  | c :: rest => if c = 'T' ∨ c = 't' ∨ c = ' ' then some ((), rest) else none
  | [] => none

/-- Nanoseconds after a point; digits past the ninth are skipped. -/
def fraction : Part Nat
  | '.' :: rest =>
    let digits := rest.takeWhile isDigit
    if digits.isEmpty then none
    else
      let kept := digits.take 9
      some (numberOf kept * Nat.pow 10 (9 - kept.length), rest.drop digits.length)
  | text => some (0, text)

def twoDigits (most : Char) : Part Nat
  | a :: b :: rest =>
    if isDigit a && a ≤ most && isDigit b then some (numberOf [a, b], rest) else none
  | _ => none

def hoursAndMinutes : Part Int := fun text => do
  let (hours, rest) ← twoDigits '9' text
  let (minutes, rest) ← twoDigits '5' (rest.dropWhile fun c => c = ':' || Text.isBlank c)
  some ((hours * 3600 + minutes * 60 : Nat), rest)

def offset : Part Int := fun text =>
  match text with
  | c :: rest =>
    if (text.take 3).map Char.toUpper = ['U', 'T', 'C'] then some (0, text.drop 3)
    else if c = 'Z' ∨ c = 'z' then some (0, rest)
    else if c = '+' then hoursAndMinutes rest
    else if c = '-' ∨ c = '\u2212' then (hoursAndMinutes rest).map fun (n, rest) => (-n, rest)
    else none
  | [] => none

/-- The second that a number from 0 to 60 names; the sixtieth is a leap second. -/
def secondOf (second nanos : Nat) : Nat × Nat :=
  if second = 60 then (59, nanos + Span.perSecond) else (second, nanos)

/-- The instant of a date and time at an offset. The local time must itself be in range. -/
def instantAt (date : Calendar.Date) (hour minute second nanos : Nat) (offset : Int) :
    Option Instant :=
  let (second, nanos) := secondOf second nanos
  let clock : Int := (hour * 3600 + minute * 60 + second : Nat)
  let seconds := (date.number - Calendar.epoch) * 86400 + clock
  if date.exists ∧ Instant.earliest ≤ seconds ∧ seconds ≤ Instant.latest then
    Instant.ofParts? (seconds - offset) nanos
  else none

def read? (text : String) : Option Instant := do
  let (year, rest) ← year text.toList
  let (_, rest) ← separator '-' rest
  let (month, rest) ← field 2 rest
  let (_, rest) ← separator '-' rest
  let (day, rest) ← field 2 rest
  let (_, rest) ← dateEnd rest
  let (hour, rest) ← field 2 rest
  let (_, rest) ← separator ':' rest
  let (minute, rest) ← field 2 rest
  let (_, rest) ← separator ':' rest
  let (second, rest) ← field 2 rest
  let (nanos, rest) ← fraction rest
  let (offset, rest) ← offset (Text.trimStart rest)
  if hour ≤ 23 ∧ minute ≤ 59 ∧ second ≤ 60 ∧ offset.natAbs < 86400 ∧ rest.all Text.isBlank then
    instantAt ⟨year, month, day⟩ hour minute second nanos offset
  else none

end GrantKeeper.Timestamp
