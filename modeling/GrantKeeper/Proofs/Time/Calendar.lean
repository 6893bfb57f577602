import Mathlib.Algebra.Ring.Nat
import GrantKeeper.Time.Calendar

/-! Dates and day numbers determine each other: every number of days is that of one date, which
the calendar has. -/
namespace GrantKeeper.Calendar

def yearLength (year : Int) : Int := if isLeap year then 366 else 365

/-- A day's place in the calendar's cycles: the whole cycles of 400 years before it, then the
centuries, the spans of four years and the years in them, and the days in its year. -/
structure Place where
  cycles : Int
  centuries : Int
  quads : Int
  years : Int
  days : Int

/-- The last day of a leap year is the 366th; only the last century of a cycle ends in one. -/
structure Place.Valid (p : Place) : Prop where
  centuries : 0 ≤ p.centuries ∧ p.centuries ≤ 3
  quads : 0 ≤ p.quads ∧ p.quads ≤ 24
  years : 0 ≤ p.years ∧ p.years ≤ 3
  days : 0 ≤ p.days ∧ p.days ≤ 365
  leapDay : p.days = 365 → p.years = 3 ∧ (p.quads < 24 ∨ p.centuries = 3)

def Place.number (p : Place) : Int :=
  146097 * p.cycles + 36524 * p.centuries + 1461 * p.quads + 365 * p.years + p.days

def Place.year (p : Place) : Int :=
  400 * p.cycles + 100 * p.centuries + 4 * p.quads + p.years + 1

theorem exists_place (number : Int) :
    ∃ p : Place, p.Valid ∧ p.number = number ∧ yearAndDay number = (p.year, p.days) := by
  have cycles := Int.emod_add_mul_ediv number 146097
  have low := Int.emod_nonneg number (show (146097 : Int) ≠ 0 by decide)
  have high := Int.emod_lt_of_pos number (show (0 : Int) < 146097 by decide)
  let inCycle := number % 146097
  let centuries := min (inCycle / 36524) 3
  let inCentury := inCycle - centuries * 36524
  let inQuad := inCentury % 1461
  let years := min (inQuad / 365) 3
  have century : 0 ≤ centuries ∧ centuries ≤ 3 ∧ 0 ≤ inCentury ∧ inCentury ≤ 36524 ∧
      (inCentury = 36524 → centuries = 3) := by
    simp only [centuries, inCentury, inCycle]; omega
  have quad : 0 ≤ inCentury / 1461 ∧ inCentury / 1461 ≤ 24 ∧ 0 ≤ inQuad ∧ inQuad ≤ 1460 ∧
      inCentury = 1461 * (inCentury / 1461) + inQuad := by
    simp only [inQuad]; omega
  have year : 0 ≤ years ∧ years ≤ 3 ∧ 0 ≤ inQuad - years * 365 ∧ inQuad - years * 365 ≤ 365 ∧
      (inQuad - years * 365 = 365 → years = 3 ∧ inQuad = 1460) := by
    simp only [years]; omega
  refine ⟨⟨number / 146097, centuries, inCentury / 1461, years, inQuad - years * 365⟩,
    ⟨⟨century.1, century.2.1⟩, ⟨quad.1, quad.2.1⟩, ⟨year.1, year.2.1⟩,
      ⟨year.2.2.1, year.2.2.2.1⟩, ?_⟩, ?_, rfl⟩
  · intro last
    obtain ⟨final, whole⟩ := year.2.2.2.2 last
    refine ⟨final, ?_⟩
    have := century.2.2.2.2
    simp only
    omega
  · have split : inCycle = inCentury + centuries * 36524 := by simp only [inCentury]; omega
    simp only [Place.number]
    omega

/-- The days before a place's year, counted without divisions. -/
theorem Place.Valid.daysBefore {p : Place} (valid : p.Valid) :
    daysBefore p.year + p.days = p.number := by
  obtain ⟨centuries, quads, years, -, -⟩ := valid
  have four : (p.year - 1) / 4 = 100 * p.cycles + 25 * p.centuries + p.quads := by
    simp only [Place.year]; omega
  have hundred : (p.year - 1) / 100 = 4 * p.cycles + p.centuries := by
    simp only [Place.year]; omega
  have cycle : (p.year - 1) / 400 = p.cycles := by
    simp only [Place.year]; omega
  simp only [Calendar.daysBefore, four, hundred, cycle]
  simp only [Place.year, Place.number]
  omega

theorem Place.Valid.days_lt {p : Place} (valid : p.Valid) : p.days < yearLength p.year := by
  obtain ⟨centuries, quads, years, days, leapDay⟩ := valid
  simp only [yearLength, isLeap, Bool.and_eq_true, Bool.or_eq_true, beq_iff_eq, bne_iff_ne, ne_eq,
    Place.year]
  split <;> omega

theorem yearAndDay_spec (number : Int) :
    daysBefore (yearAndDay number).1 + (yearAndDay number).2 = number ∧
      0 ≤ (yearAndDay number).2 ∧ (yearAndDay number).2 < yearLength (yearAndDay number).1 := by
  obtain ⟨p, valid, rfl, found⟩ := exists_place number
  rw [found]
  exact ⟨valid.daysBefore, valid.days.1, valid.days_lt⟩

theorem monthAndDay_spec (lengths : List Nat) (distance : Nat) (inside : distance < lengths.sum) :
    (lengths.take (monthAndDay distance lengths).1).sum + (monthAndDay distance lengths).2 = distance ∧
      ∃ length, lengths[(monthAndDay distance lengths).1]? = some length ∧
        (monthAndDay distance lengths).2 < length := by
  induction lengths generalizing distance with
  | nil => simp at inside
  | cons length rest ih =>
    simp only [List.sum_cons] at inside
    simp only [monthAndDay]
    split
    · next lt => simpa using lt
    · next notLt =>
      obtain ⟨total, found⟩ := ih (distance - length) (by omega)
      refine ⟨?_, found⟩
      simp only [List.take_succ_cons, List.sum_cons]
      omega

theorem sum_monthLengths (year : Int) : ((monthLengths (isLeap year)).sum : Int) = yearLength year := by
  cases h : isLeap year <;> simp [monthLengths, yearLength, h]

theorem daysBeforeMonth_succ (year : Int) (month : Nat) :
    daysBeforeMonth year (month + 1) = ((monthLengths (isLeap year)).take month).sum := by
  rw [daysBeforeMonth, List.sum_eq_foldl]
  rfl

theorem exists_iff {d : Date} : d.exists = true ↔ 1 ≤ d.month ∧ 1 ≤ d.day ∧
    ∃ length, (monthLengths (isLeap d.year))[d.month - 1]? = some length ∧ d.day ≤ length := by
  simp only [Date.exists, Bool.and_eq_true, decide_eq_true_eq, Option.any_eq_true, and_assoc]

/-- What a number of days has to do with its date. -/
theorem ofNumber_spec (number : Int) :
    (Date.ofNumber number).number = number ∧ (Date.ofNumber number).exists = true := by
  obtain ⟨total, low, high⟩ := yearAndDay_spec number
  rw [← sum_monthLengths] at high
  obtain ⟨inYear, length, found, lt⟩ := monthAndDay_spec
    (monthLengths (isLeap (yearAndDay number).1)) (yearAndDay number).2.toNat (by omega)
  constructor
  · simp only [Date.ofNumber, Date.number, daysBeforeMonth_succ]
    omega
  · rw [exists_iff]
    simp only [Date.ofNumber, Nat.add_sub_cancel]
    exact ⟨by omega, by omega, length, found, by omega⟩

theorem monthLengths_spec (leap : Bool) :
    (monthLengths leap).length = 12 ∧ ∀ length ∈ monthLengths leap, length ≤ 31 := by
  cases leap <;> decide

theorem bounds_of_exists {d : Date} (valid : d.exists = true) : d.month ≤ 12 ∧ d.day ≤ 31 := by
  obtain ⟨_, _, length, found, day⟩ := exists_iff.1 valid
  obtain ⟨count, longest⟩ := monthLengths_spec (isLeap d.year)
  have month := (List.getElem?_eq_some_iff.1 found).1
  have := longest length (List.mem_of_getElem? found)
  omega

end GrantKeeper.Calendar
