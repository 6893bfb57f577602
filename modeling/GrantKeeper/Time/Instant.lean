/-! Instants in coordinated universal time, to the nanosecond. A leap second has the seconds of
the one before it and a thousand million nanoseconds or more. -/
namespace GrantKeeper

/-- A length of time in nanoseconds. -/
abbrev Span := Int

namespace Span

def perSecond : Nat := 1000000000

def ofSeconds (seconds : Int) : Span := seconds * perSecond

end Span

namespace Instant

/-- The first second of the year -262143. -/
def earliest : Int := -8334601228800

/-- The last second of the year 262142. -/
def latest : Int := 8210266876799

/-- What the parts of an instant must satisfy: only the last second of a minute may be a leap
second. -/
def Valid (seconds : Int) (nanos : Nat) : Prop :=
  earliest ≤ seconds ∧ seconds ≤ latest ∧ nanos < 2 * Span.perSecond ∧
    (Span.perSecond ≤ nanos → seconds % 60 = 59)

instance (seconds : Int) (nanos : Nat) : Decidable (Valid seconds nanos) :=
  inferInstanceAs (Decidable (_ ∧ _ ∧ _ ∧ _))

end Instant

structure Instant where
  seconds : Int
  nanos : Nat
  valid : Instant.Valid seconds nanos

namespace Instant

theorem ext {a b : Instant} (seconds : a.seconds = b.seconds) (nanos : a.nanos = b.nanos) :
    a = b := by
  cases a; cases b; cases seconds; cases nanos; rfl

instance : DecidableEq Instant := fun a b =>
  if h : a.seconds = b.seconds ∧ a.nanos = b.nanos then isTrue (ext h.1 h.2)
  else isFalse fun eq => h (eq ▸ ⟨rfl, rfl⟩)

def epoch : Instant := ⟨0, 0, by decide⟩

instance : Inhabited Instant := ⟨epoch⟩

def ofParts? (seconds : Int) (nanos : Nat) : Option Instant :=
  if h : Valid seconds nanos then some ⟨seconds, nanos, h⟩ else none

def le (a b : Instant) : Bool :=
  decide (a.seconds < b.seconds) || (a.seconds == b.seconds && decide (a.nanos ≤ b.nanos))

/-- The instant a whole number of seconds and some nanoseconds later, the latter of the sign of
the former and less than a second. A leap second is left only by an addition that passes its end
or reaches a full second back. -/
def shift? (start : Instant) (seconds nanos : Int) : Option Instant :=
  let second : Int := Span.perSecond
  let frac : Int := start.nanos
  if second ≤ frac ∧ seconds = 0 ∧ ¬(0 < nanos ∧ 2 * second - nanos ≤ frac) then
    ofParts? start.seconds (frac + nanos).toNat
  else
    let frac := (if second ≤ frac then frac - second else frac) + nanos
    let whole := start.seconds + (if second ≤ start.nanos ∧ seconds < 0 then 1 else 0) + seconds
    if frac < 0 then ofParts? (whole - 1) (frac + second).toNat
    else if second ≤ frac then ofParts? (whole + 1) (frac - second).toNat
    else ofParts? whole frac.toNat

def add? (start : Instant) (span : Span) : Option Instant :=
  start.shift? (Int.tdiv span Span.perSecond) (Int.tmod span Span.perSecond)

def sub? (start : Instant) (span : Span) : Option Instant := start.add? (-span)

end Instant
end GrantKeeper
