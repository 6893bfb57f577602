import Mathlib.Data.List.TakeWhile
import GrantKeeper.Proofs.Json.Printed

/-! Integers as they are printed: a numeral of digits, behind a minus below zero, which is read as the
integer that it was as long as this fits into 64 bits. -/
namespace GrantKeeper.Json

open Utf8 (bytes)

/-! Digits. -/

def digit (d : Nat) : UInt8 := UInt8.ofNat (48 + d)

def decimal (n : Nat) : List UInt8 := bytes (Nat.toDigits 10 n)

theorem decimal_digit : ∀ d < 10, decimal d = [digit d] := by decide

theorem decimal_append {n d : Nat} (positive : 0 < n) (small : d < 10) :
    decimal (10 * n + d) = decimal n ++ [digit d] := by
  rw [decimal, ← Nat.toDigits_append_toDigits (by decide) positive small, Utf8.bytes_append,
    ← decimal_digit d small]
  rfl

theorem isDigit_digit : ∀ d < 10, isDigit (digit d) = true := by decide

theorem digitValue_digit : ∀ d < 10, digitValue (digit d) = d := by decide

theorem isDigit_of_mem_decimal {b : UInt8} {n : Nat} (member : b ∈ decimal n) : isDigit b = true := by
  induction n using Nat.base_induction 10 (by decide) with
  | single d small =>
    rw [decimal_digit d small, List.mem_singleton] at member
    exact member ▸ isDigit_digit d small
  | digit n d small positive ih =>
    rw [decimal_append positive small, List.mem_append, List.mem_singleton] at member
    rcases member with member | rfl
    · exact ih member
    · exact isDigit_digit d small

theorem naturalOf_decimal (n : Nat) : naturalOf (decimal n) = n := by
  induction n using Nat.base_induction 10 (by decide) with
  | single d small =>
    rw [decimal_digit d small]
    simp [naturalOf, digitValue_digit d small]
  | digit n d small positive ih =>
    rw [decimal_append positive small, naturalOf, List.foldl_append, ← naturalOf, ih]
    simp [digitValue_digit d small, Nat.mul_comm]

theorem decimal_pos {n : Nat} (positive : 0 < n) : ∃ b rest, decimal n = b :: rest ∧ b ≠ 0x30 := by
  induction n using Nat.base_induction 10 (by decide) with
  | single d small =>
    refine ⟨_, [], decimal_digit d small, ?_⟩
    revert d
    decide
  | digit n d small positive_ ih =>
    obtain ⟨b, rest, digits, some_⟩ := ih positive_
    exact ⟨b, rest ++ [digit d], by rw [decimal_append positive_ small, digits]; rfl, some_⟩

theorem write_integer (n : Int) :
    bytes (Number.integer n).write = if 0 ≤ n then decimal n.toNat else 0x2D :: decimal (-n).toNat := by
  rw [Number.write, Int.toString_eq_repr, Int.repr_eq_if]
  split
  · rw [Nat.toList_repr, decimal]
  · rw [String.toList_append, Nat.toList_repr, Utf8.bytes_append]
    rfl

/-! Reading. -/

variable {b : UInt8} {written seen : List UInt8} {done : List Lexeme}

theorem start_digit (digit : isDigit b = true) (some_ : b ≠ 0x30) :
    Lexer.start done b = some ⟨.numeral .whole [b], done⟩ := by
  rw [Lexer.start.eq_def]
  split <;> first | rfl | contradiction | exact if_pos digit

theorem step_minus (digit : isDigit b = true) (some_ : b ≠ 0x30) :
    Lexer.step ⟨.numeral .minus seen, done⟩ b = some ⟨.numeral .whole (b :: seen), done⟩ := by
  simp [Lexer.step, NumeralPart.next, digit, some_]

theorem foldlM_digits (all : ∀ b ∈ written, isDigit b = true) (seen : List UInt8) :
    written.foldlM Lexer.step ⟨.numeral .whole seen, done⟩ =
      some ⟨.numeral .whole (written.reverse ++ seen), done⟩ := by
  induction written generalizing seen with
  | nil => rfl
  | cons b written ih =>
    obtain ⟨first, rest⟩ := List.forall_mem_cons.mp all
    have step : Lexer.step ⟨.numeral .whole seen, done⟩ b =
        some ⟨.numeral .whole (b :: seen), done⟩ := by
      simp [Lexer.step, NumeralPart.next, first]
    rw [List.foldlM_cons, step, Option.bind_eq_bind, Option.bind_some, ih rest]
    simp

/-- A reader has come to the end of a numeral of digits. -/
def Lexer.Ended (lexer : Option Lexer) (written : List UInt8) (done : List Lexeme) : Prop :=
  ∃ part, (part = .zero ∨ part = .whole) ∧ lexer = some ⟨.numeral part written.reverse, done⟩

/-- The digits of a number are read to the end, wherever a numeral may go on with a zero or with digits. -/
theorem ended_decimal {lexer : Lexer} (front : List UInt8)
    (zero : lexer.step 0x30 = some ⟨.numeral .zero (0x30 :: front.reverse), done⟩)
    (some_ : ∀ b, isDigit b = true → b ≠ 0x30 →
      lexer.step b = some ⟨.numeral .whole (b :: front.reverse), done⟩) (n : Nat) :
    Lexer.Ended ((decimal n).foldlM Lexer.step lexer) (front ++ decimal n) done := by
  -- A zero ends its numeral; only the digits of other numbers go on.
  rcases Nat.eq_zero_or_pos n with rfl | positive
  · have digits : decimal 0 = [0x30] := decimal_digit 0 (by decide)
    exact ⟨.zero, .inl rfl, by simp [digits, zero]⟩
  · obtain ⟨b, rest, digits, first⟩ := decimal_pos positive
    have all : ∀ c ∈ b :: rest, isDigit c = true := fun c member =>
      isDigit_of_mem_decimal (digits ▸ member)
    obtain ⟨digit, all⟩ := List.forall_mem_cons.mp all
    refine ⟨.whole, .inr rfl, ?_⟩
    rw [digits, List.foldlM_cons, some_ b digit first, Option.bind_eq_bind, Option.bind_some,
      foldlM_digits all]
    simp

/-- A numeral of digits is a lexeme wherever a value may end after it. -/
theorem spells_of_ended
    (ended : ∀ done, Lexer.Ended (written.foldlM Lexer.step ⟨.between, done⟩) written done) :
    Spells written [.numeral written] := by
  intro done rest delimited
  obtain ⟨part, ends, read⟩ := ended done
  have complete : part.complete = true := by rcases ends with rfl | rfl <;> rfl
  rw [Lexer.run, List.foldlM_append, read]
  cases rest with
  | nil => simp [Lexer.run, Lexer.finish, complete]
  | cons b rest =>
    have ending : part.next b = none := by
      have mark := delimited b rfl
      simp only [List.mem_cons, List.not_mem_nil, or_false] at mark
      rcases ends with rfl | rfl <;> rcases mark with rfl | rfl | rfl | rfl <;> rfl
    simp [Lexer.run, Lexer.step, ending, complete]

theorem spells_integer (n : Int) :
    Spells (bytes (Number.integer n).write) [.numeral (bytes (Number.integer n).write)] := by
  refine spells_of_ended fun done => ?_
  rw [write_integer]
  split
  · exact ended_decimal [] rfl (fun b => start_digit) n.toNat
  · have minus : Lexer.step ⟨.between, done⟩ 0x2D = some ⟨.numeral .minus [0x2D], done⟩ := rfl
    rw [List.foldlM_cons, minus]
    exact ended_decimal [0x2D] rfl (fun b => step_minus) (-n).toNat

/-! What is read. -/

theorem ne_of_isDigit (digit : isDigit b = true) {other : UInt8} (mark : isDigit other = false) :
    b ≠ other := by
  rintro rfl
  rw [digit] at mark
  cases mark

theorem ofWritten_digits (digits : ∀ b ∈ written, isDigit b = true) :
    Numeral.ofWritten written = ⟨false, written, [], none⟩ ∧
      Numeral.ofWritten (0x2D :: written) = ⟨true, written, [], none⟩ := by
  have unmarked : ∀ b ∈ written, (!(b == 0x45 || b == 0x65)) = true := fun b member => by
    have small : b ≠ 0x65 := ne_of_isDigit (digits b member) rfl
    have large : b ≠ 0x45 := ne_of_isDigit (digits b member) rfl
    simp [small, large]
  have pointless : ∀ b ∈ written, (b != 0x2E) = true := fun b member =>
    bne_iff_ne.mpr (ne_of_isDigit (digits b member) rfl)
  have size := List.takeWhile_eq_self_iff.mpr unmarked
  have exponent := List.dropWhile_eq_nil_iff.mpr unmarked
  have whole := List.takeWhile_eq_self_iff.mpr pointless
  constructor
  · rw [Numeral.ofWritten]
    · simp only [size, exponent, whole]
      simp
    · rintro rest rfl
      exact absurd (digits 0x2D List.mem_cons_self) (by decide)
  · simp only [Numeral.ofWritten, size, exponent, whole]
    simp

theorem integer?_write (n : Int) : integer? (bytes (Number.integer n).write) = some n := by
  rw [integer?, write_integer]
  split
  · next natural =>
    rw [(ofWritten_digits fun b => isDigit_of_mem_decimal).1]
    simp [Numeral.isInteger, Numeral.integer, naturalOf_decimal, Int.max_eq_left natural]
  · next negative =>
    rw [(ofWritten_digits fun b => isDigit_of_mem_decimal).2]
    have some_ : (-n).toNat ≠ 0 := by omega
    simp [Numeral.isInteger, Numeral.integer, naturalOf_decimal]
    omega

/-- The integers that are read exactly: those of 64 bits, with a sign or without. -/
def Fits (n : Int) : Prop := -0x8000000000000000 ≤ n ∧ n < 0x10000000000000000

theorem ofWritten?_of_integer? {n : Int} (read : integer? written = some n) (fits : Fits n) :
    Number.ofWritten? written = some (.integer n) := by
  rw [integer?] at read
  rw [Number.ofWritten?]
  split at read
  · next isInteger =>
    obtain rfl := Option.some.inj read
    simp [isInteger, fits.1, fits.2]
  · cases read

end GrantKeeper.Json
