/-! The Gregorian calendar, extended to all years: dates, and the days between them. -/
namespace GrantKeeper.Calendar

def isLeap (year : Int) : Bool := year % 4 == 0 && (year % 100 != 0 || year % 400 == 0)

def monthLengths (leap : Bool) : List Nat :=
  [31, if leap then 29 else 28, 31, 30, 31, 30, 31, 31, 30, 31, 30, 31]

/-- A date; months and days count from one. -/
structure Date where
  year : Int
  month : Nat
  day : Nat
deriving DecidableEq, Repr

def Date.exists (d : Date) : Bool :=
  1 ≤ d.month && 1 ≤ d.day &&
    ((monthLengths (isLeap d.year))[d.month - 1]?.any (d.day ≤ ·))

/-- The days from the first day of year one to the first day of a year. -/
def daysBefore (year : Int) : Int :=
  365 * (year - 1) + (year - 1) / 4 - (year - 1) / 100 + (year - 1) / 400

def daysBeforeMonth (year : Int) (month : Nat) : Nat :=
  ((monthLengths (isLeap year)).take (month - 1)).foldl (· + ·) 0

def Date.number (d : Date) : Int :=
  daysBefore d.year + daysBeforeMonth d.year d.month + ((d.day : Int) - 1)

/-- The month and day, both counted from zero, at a distance from the first day of the months. -/
def monthAndDay (distance : Nat) : List Nat → Nat × Nat
  | [] => (0, distance)
  | length :: rest =>
    if distance < length then (0, distance)
    else
      let (month, day) := monthAndDay (distance - length) rest
      (month + 1, day)

/-- The year and the day in it, counted from zero, at a distance from the first day of year one.
The last day of a leap year that ends a cycle belongs to the cycle's last year. -/
def yearAndDay (number : Int) : Int × Int :=
  let cycles := number / 146097
  let inCycle := number % 146097
  let centuries := min (inCycle / 36524) 3
  let inCentury := inCycle - centuries * 36524
  let quads := inCentury / 1461
  let inQuad := inCentury % 1461
  let years := min (inQuad / 365) 3
  (400 * cycles + 100 * centuries + 4 * quads + years + 1, inQuad - years * 365)

def Date.ofNumber (number : Int) : Date :=
  let (year, inYear) := yearAndDay number
  let (month, day) := monthAndDay inYear.toNat (monthLengths (isLeap year))
  ⟨year, month + 1, day + 1⟩

/-- The days from the first day of year one to the first day of 1970. -/
def epoch : Int := 719162

end GrantKeeper.Calendar
