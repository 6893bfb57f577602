import GrantKeeper.Proofs.Time.Calendar
import GrantKeeper.Time.Timestamp

/-! Timestamps read back: the reader undoes the writer on every instant, with every fraction of a
second, in every year and in leap seconds. -/
namespace GrantKeeper.Timestamp

/-! Digits. -/

def Digits (text : List Char) : Prop := ∀ c ∈ text, isDigit c = true

theorem isDigit_of_isDigit {c : Char} (h : c.isDigit = true) : isDigit c = true := by
  simp only [Char.isDigit, Bool.and_eq_true, decide_eq_true_eq] at h
  simp only [isDigit, Bool.and_eq_true, decide_eq_true_eq]
  exact h

theorem digits_padded (width n : Nat) : Digits (padded width n) := by
  intro c mem
  simp only [padded, List.mem_append, List.mem_replicate] at mem
  rcases mem with ⟨-, rfl⟩ | mem
  · rfl
  · have written : toString n = n.repr := rfl
    rw [written, Nat.toList_repr] at mem
    exact isDigit_of_isDigit (Nat.isDigit_of_mem_toDigits (by decide) (by decide) mem)

theorem numberOf_eq (digits : List Char) : numberOf digits = Nat.ofDigitChars 10 digits 0 := by
  rw [Nat.ofDigitChars_eq_foldl, numberOf]
  congr
  funext n c
  have zero : '0'.toNat = 48 := rfl
  rw [digitValue, zero, Nat.mul_comm]

theorem numberOf_padded (width n : Nat) : numberOf (padded width n) = n := by
  have written : toString n = n.repr := rfl
  rw [numberOf_eq, padded, written, Nat.ofDigitChars_append, Nat.ofDigitChars_replicate_zero,
    Nat.mul_zero, Nat.toList_repr, Nat.ofDigitChars_ten_toDigits]

theorem length_padded {width n : Nat} (positive : 0 < width) (fits : n < 10 ^ width) :
    (padded width n).length = width := by
  have written : toString n = n.repr := rfl
  have short := (Nat.length_toDigits_le_iff (by decide) positive).2 fits
  simp only [padded, written, Nat.toList_repr, List.length_append, List.length_replicate]
  omega

theorem padded_ne_nil (width n : Nat) : padded width n ≠ [] := by
  have written : toString n = n.repr := rfl
  simp [padded, written]

/-- A text that goes on with something else than a digit. -/
def NoDigitNext (text : List Char) : Prop := ∀ c ∈ text.head?, isDigit c = false

theorem takeWhile_digits {digits rest : List Char} (all : Digits digits) (next : NoDigitNext rest) :
    (digits ++ rest).takeWhile isDigit = digits := by
  rw [List.takeWhile_append_of_pos all]
  cases rest with
  | nil => simp
  | cons c rest => simp [next c rfl]

/-- A number is read to its last digit: to the width, or to something else than a digit. -/
theorem number_digits {width : Nat} {digits rest : List Char} (all : Digits digits)
    (nonempty : digits ≠ [])
    (ends : digits.length = width ∨ digits.length ≤ width ∧ NoDigitNext rest) :
    number width (digits ++ rest) = some (numberOf digits, rest) := by
  have taken : ((digits ++ rest).take width).takeWhile isDigit = digits := by
    rw [List.take_append]
    rcases ends with exact_ | ⟨fits, next⟩
    · subst exact_
      simp only [List.take_length, Nat.sub_self, List.take_zero]
      exact takeWhile_digits all (by simp [NoDigitNext])
    · rw [List.take_of_length_le fits]
      refine takeWhile_digits all fun c mem => next c ?_
      cases rest with
      | nil => simp at mem
      | cons d rest =>
        cases h : width - digits.length with
        | zero => simp [h] at mem
        | succ n => simpa [h] using mem
  simp [number, taken, nonempty]

theorem number_padded {width n : Nat} (positive : 0 < width) (fits : n < 10 ^ width)
    (rest : List Char) : number width (padded width n ++ rest) = some (n, rest) := by
  rw [number_digits (digits_padded width n) (padded_ne_nil width n)
    (.inl (length_padded positive fits)), numberOf_padded]

/-! Blanks. Nothing that is written is blank. -/

theorem not_blank_of_digit {c : Char} (digit : isDigit c = true) : Text.isBlank c = false := by
  have low : 48 ≤ c.toNat ∧ c.toNat ≤ 57 := by
    simp only [isDigit, Bool.and_eq_true, decide_eq_true_eq, Char.le_def, UInt32.le_iff_toNat_le] at digit
    exact digit
  simp only [Text.isBlank, Bool.or_eq_false_iff, Bool.and_eq_false_iff, decide_eq_false_iff_not,
    beq_eq_false_iff_ne]
  omega

theorem trimStart_padded (width n : Nat) (rest : List Char) :
    Text.trimStart (padded width n ++ rest) = padded width n ++ rest := by
  cases h : padded width n with
  | nil => exact absurd h (padded_ne_nil width n)
  | cons c digits =>
    have digit : isDigit c = true := digits_padded width n c (by simp [h])
    simp [Text.trimStart, not_blank_of_digit digit]

/-! The parts of a timestamp. -/

theorem field_padded {n : Nat} (fits : n < 100) (rest : List Char) :
    field 2 (padded 2 n ++ rest) = some (n, rest) := by
  rw [field, trimStart_padded, number_padded (by decide) fits]

theorem separator_dash (rest : List Char) : separator '-' ('-' :: rest) = some ((), rest) := rfl

theorem separator_colon (rest : List Char) : separator ':' (':' :: rest) = some ((), rest) := rfl

theorem dateEnd_mark (rest : List Char) : dateEnd ('T' :: rest) = some ((), rest) := rfl

theorem number_year (n : Nat) (rest : List Char) :
    number (padded 4 n ++ '-' :: rest).length (padded 4 n ++ '-' :: rest) = some (n, '-' :: rest) := by
  have next : NoDigitNext ('-' :: rest) := fun c mem => by
    obtain rfl : '-' = c := by simpa using mem
    rfl
  rw [number_digits (digits_padded 4 n) (padded_ne_nil 4 n) (.inr ⟨by simp, next⟩),
    numberOf_padded]

theorem year_unsigned {text : List Char} (digits : ∃ c rest, text = c :: rest ∧ isDigit c = true) :
    year text = (number 4 text).map fun (n, rest) => ((n : Int), rest) := by
  obtain ⟨c, rest, rfl, digit⟩ := digits
  have trimmed : Text.trimStart (c :: rest) = c :: rest := by
    simp [Text.trimStart, not_blank_of_digit digit]
  rw [year, trimmed]
  split
  · next same =>
    obtain ⟨rfl, -⟩ := List.cons.inj same
    simp [isDigit] at digit
  · next same =>
    obtain ⟨rfl, -⟩ := List.cons.inj same
    simp [isDigit] at digit
  · rfl

theorem year_writeYear (y : Int) (rest : List Char) :
    year (writeYear y ++ '-' :: rest) = some (y, '-' :: rest) := by
  unfold writeYear
  split
  · next usual =>
    have head : ∃ c more, padded 4 y.toNat ++ '-' :: rest = c :: more ∧ isDigit c = true := by
      cases h : padded 4 y.toNat with
      | nil => exact absurd h (padded_ne_nil _ _)
      | cons c more => exact ⟨c, _, rfl, digits_padded 4 y.toNat c (by simp [h])⟩
    rw [year_unsigned head, number_padded (by decide) (by omega)]
    simp
    omega
  · split
    · next negative =>
      have trimmed (text : List Char) : Text.trimStart ('-' :: text) = '-' :: text := rfl
      have below : -(y.natAbs : Int) = y := by omega
      rw [List.cons_append, year, trimmed]
      simp only [number_year, Option.map_some, below]
    · next positive =>
      have trimmed (text : List Char) : Text.trimStart ('+' :: text) = '+' :: text := rfl
      have above : (y.natAbs : Int) = y := by omega
      rw [List.cons_append, year, trimmed]
      simp only [number_year, Option.map_some, above]

theorem fraction_padded {width n : Nat} (positive : 0 < width) (short : width ≤ 9)
    (fits : n < 10 ^ width) :
    fraction ('.' :: (padded width n ++ ['Z'])) = some (n * 10 ^ (9 - width), ['Z']) := by
  have next : NoDigitNext ['Z'] := fun c mem => by
    obtain rfl : 'Z' = c := by simpa using mem
    rfl
  have length := length_padded positive fits
  simp only [fraction, takeWhile_digits (digits_padded width n) next, List.isEmpty_iff,
    padded_ne_nil, ↓reduceIte, List.drop_left]
  rw [List.take_of_length_le (by omega), numberOf_padded, length]
  rfl

theorem fraction_writeFraction {nanos : Nat} (fits : nanos < 1000000000) :
    fraction (writeFraction nanos ++ ['Z']) = some (nanos, ['Z']) := by
  unfold writeFraction
  split
  · next zero => subst zero; rfl
  · split
    · rw [List.cons_append, fraction_padded (by decide) (by decide) (by omega)]
      simp
      omega
    · split
      · rw [List.cons_append, fraction_padded (by decide) (by decide) (by omega)]
        simp
        omega
      · rw [List.cons_append, fraction_padded (by decide) (by decide) (by omega)]
        simp

theorem offset_universal : offset (Text.trimStart ['Z']) = some (0, []) := rfl

/-- The second that stands in the text of an instant, and its nanoseconds. -/
theorem secondOf_write (instant : Instant) :
    secondOf ((instant.seconds % 86400).toNat % 60 + if Span.perSecond ≤ instant.nanos then 1 else 0)
        (instant.nanos % Span.perSecond) =
      ((instant.seconds % 86400).toNat % 60, instant.nanos) := by
  obtain ⟨-, -, nanos, leap⟩ := instant.valid
  have unit : Span.perSecond = 1000000000 := rfl
  have part : instant.nanos % Span.perSecond = instant.nanos % 1000000000 := rfl
  by_cases late : Span.perSecond ≤ instant.nanos
  · have last := leap late
    rw [if_pos late, secondOf, if_pos (by omega), Prod.mk.injEq]
    omega
  · rw [if_neg late, secondOf, if_neg (by omega), Prod.mk.injEq]
    omega

theorem instantAt_write (instant : Instant) :
    instantAt (Calendar.Date.ofNumber (instant.seconds / 86400 + Calendar.epoch))
      ((instant.seconds % 86400).toNat / 3600) ((instant.seconds % 86400).toNat / 60 % 60)
      ((instant.seconds % 86400).toNat % 60 + if Span.perSecond ≤ instant.nanos then 1 else 0)
      (instant.nanos % Span.perSecond) 0 = some instant := by
  obtain ⟨number, valid⟩ :=
    Calendar.ofNumber_spec (instant.seconds / 86400 + Calendar.epoch)
  obtain ⟨low, high, -, -⟩ := instant.valid
  have clock : (instant.seconds / 86400 + Calendar.epoch - Calendar.epoch) * 86400 +
      (((instant.seconds % 86400).toNat / 3600 * 3600 +
        (instant.seconds % 86400).toNat / 60 % 60 * 60 +
        (instant.seconds % 86400).toNat % 60 : Nat) : Int) = instant.seconds := by
    omega
  simp only [instantAt, secondOf_write, number, clock, valid, low, high, and_self, ↓reduceIte,
    Int.sub_zero, Instant.ofParts?]
  exact dif_pos instant.valid

theorem toList_write (instant : Instant) :
    (write instant).toList =
      let date := Calendar.Date.ofNumber (instant.seconds / 86400 + Calendar.epoch)
      let inDay := (instant.seconds % 86400).toNat
      writeYear date.year ++ '-' :: (padded 2 date.month ++ '-' :: (padded 2 date.day ++
        'T' :: (padded 2 (inDay / 3600) ++ ':' :: (padded 2 (inDay / 60 % 60) ++
        ':' :: (padded 2 (inDay % 60 + if Span.perSecond ≤ instant.nanos then 1 else 0) ++
        (writeFraction (instant.nanos % Span.perSecond) ++ ['Z'])))))) := by
  simp only [write, String.toList_ofList, List.append_assoc, List.cons_append]

theorem read?_write (instant : Instant) : read? (write instant) = some instant := by
  obtain ⟨-, valid⟩ := Calendar.ofNumber_spec (instant.seconds / 86400 + Calendar.epoch)
  obtain ⟨month, day⟩ := Calendar.bounds_of_exists valid
  have second : (instant.seconds % 86400).toNat % 60 +
      (if Span.perSecond ≤ instant.nanos then 1 else 0) ≤ 60 := by split <;> omega
  have fits : instant.nanos % Span.perSecond < 1000000000 := Nat.mod_lt _ (by decide)
  rw [read?, toList_write]
  -- Each part of the text is read up to the next one.
  refine Option.bind_eq_some_iff.mpr ⟨_, year_writeYear _ _, ?_⟩
  refine Option.bind_eq_some_iff.mpr ⟨_, separator_dash _, ?_⟩
  refine Option.bind_eq_some_iff.mpr ⟨_, field_padded (by omega) _, ?_⟩
  refine Option.bind_eq_some_iff.mpr ⟨_, separator_dash _, ?_⟩
  refine Option.bind_eq_some_iff.mpr ⟨_, field_padded (by omega) _, ?_⟩
  refine Option.bind_eq_some_iff.mpr ⟨_, dateEnd_mark _, ?_⟩
  refine Option.bind_eq_some_iff.mpr ⟨_, field_padded (by omega) _, ?_⟩
  refine Option.bind_eq_some_iff.mpr ⟨_, separator_colon _, ?_⟩
  refine Option.bind_eq_some_iff.mpr ⟨_, field_padded (by omega) _, ?_⟩
  refine Option.bind_eq_some_iff.mpr ⟨_, separator_colon _, ?_⟩
  refine Option.bind_eq_some_iff.mpr ⟨_, field_padded (by omega) _, ?_⟩
  refine Option.bind_eq_some_iff.mpr ⟨_, fraction_writeFraction fits, ?_⟩
  refine Option.bind_eq_some_iff.mpr ⟨_, offset_universal, ?_⟩
  exact (if_pos ⟨by omega, by omega, second, by decide, rfl⟩).trans (instantAt_write instant)

end GrantKeeper.Timestamp
