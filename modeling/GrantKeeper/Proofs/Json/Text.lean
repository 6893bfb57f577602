import GrantKeeper.Json.Lexeme
import GrantKeeper.Json.Text
import GrantKeeper.Proofs.Text.Utf8

/-! Texts in JSON survive being written: the bytes of a quoted text are one lexeme, and reading
that lexeme gives the text back, whatever characters it has. -/
namespace GrantKeeper.Json

open Utf8 (bytes)

def escaped (text : List Char) : List Char := text.flatMap escape

theorem escaped_cons (c : Char) (text : List Char) :
    escaped (c :: text) = escape c ++ escaped text := by
  simp [escaped]

theorem quote_eq (text : String) : quote text = '"' :: (escaped text.toList ++ ['"']) := rfl

/-- Every character is written in one of three ways: as an escape of two characters, as the
code of a control, or as it is. -/
theorem escape_cases (c : Char) :
    (∃ d, escape c = ['\\', d] ∧ d ≠ 'u' ∧ d.toNat < 128 ∧ shortEscape? d = some c ∧
      isShortEscape (UInt8.ofNat d.toNat) = true) ∨
    (c.toNat < 0x20 ∧
      escape c = ['\\', 'u', '0', '0', Hex.lower (c.toNat / 16), Hex.lower (c.toNat % 16)]) ∨
    (escape c = [c] ∧ 0x20 ≤ c.toNat ∧ c ≠ '"' ∧ c ≠ '\\') := by
  unfold escape
  split
  · exact .inl ⟨'"', rfl, by decide, by decide, rfl, rfl⟩
  · exact .inl ⟨'\\', rfl, by decide, by decide, rfl, rfl⟩
  · exact .inl ⟨'b', rfl, by decide, by decide, rfl, rfl⟩
  · exact .inl ⟨'f', rfl, by decide, by decide, rfl, rfl⟩
  · exact .inl ⟨'n', rfl, by decide, by decide, rfl, rfl⟩
  · exact .inl ⟨'r', rfl, by decide, by decide, rfl, rfl⟩
  · exact .inl ⟨'t', rfl, by decide, by decide, rfl, rfl⟩
  · next quotation backslash _ _ _ _ _ =>
    split
    · next low => exact .inr (.inl ⟨low, rfl⟩)
    · next high => exact .inr (.inr ⟨rfl, by omega, quotation, backslash⟩)

/-! Reading undoes the escapes. -/

theorem number?_control : ∀ n < 0x20,
    Hex.number? ['0', '0', Hex.lower (n / 16), Hex.lower (n % 16)] = some n := by
  decide

theorem codes?_escape (c : Char) (rest : List Char) :
    codes? (escape c ++ rest) = (c.toNat :: ·) <$> codes? rest := by
  rcases escape_cases c with ⟨d, written, notCode, _, short, _⟩ | ⟨low, written⟩ |
    ⟨written, _, _, notBackslash⟩
  · rw [written]
    simp only [List.cons_append, List.nil_append]
    rw [codes?]
    · simp [short]
    · intro _ _ _ _ _ same
      exact absurd same notCode
  · rw [written]
    simp only [List.cons_append, List.nil_append, codes?, number?_control _ low]
    rfl
  · rw [written]
    simp only [List.cons_append, List.nil_append]
    rw [codes?]
    · intro _ _ _ _ _ same
      exact absurd same notBackslash
    · intro _ _ same
      exact absurd same notBackslash

theorem codes?_escaped (text : List Char) : codes? (escaped text) = some (text.map Char.toNat) := by
  induction text with
  | nil => rfl
  | cons c text ih => rw [escaped_cons, codes?_escape, ih]; rfl

theorem not_surrogate (c : Char) :
    isHighSurrogate c.toNat = false ∧ isLowSurrogate c.toNat = false := by
  have valid : c.toNat < 0xD800 ∨ 0xDFFF < c.toNat ∧ c.toNat < 0x110000 := c.valid
  simp only [isHighSurrogate, isLowSurrogate, Bool.and_eq_false_iff, decide_eq_false_iff_not]
  omega

theorem joinSurrogates_codes (text : List Char) :
    joinSurrogates (text.map Char.toNat) = some text := by
  induction text with
  | nil => rfl
  | cons c text ih =>
    obtain ⟨high, low⟩ := not_surrogate c
    cases text with
    | nil => simp [joinSurrogates, high, low]
    | cons d text =>
      simp only [List.map_cons, joinSurrogates, high, low, Bool.false_eq_true, ↓reduceIte] at ih ⊢
      rw [ih]
      simp

theorem text?_escaped (text : String) : text? (bytes (escaped text.toList)) = some text := by
  simp only [text?, Utf8.decode?_bytes, Option.bind_eq_bind, Option.bind_some, unescape?,
    String.toList_ofList, codes?_escaped, joinSurrogates_codes]
  simp

/-! The bytes of a written text are one lexeme. -/

/-- A byte that stands for itself in a text. -/
def IsPlain (b : UInt8) : Prop := b ≠ 0x22 ∧ b ≠ 0x5C ∧ ¬b < 0x20

theorem step_plain {b : UInt8} (plain : IsPlain b) (seen : List UInt8) (done : List Lexeme) :
    Lexer.step ⟨.text seen, done⟩ b = some ⟨.text (b :: seen), done⟩ := by
  obtain ⟨quotation, backslash, low⟩ := plain
  simp [Lexer.step, quotation, backslash, low]

theorem foldlM_plain {text : List UInt8} (plain : ∀ b ∈ text, IsPlain b) (seen : List UInt8)
    (done : List Lexeme) :
    text.foldlM Lexer.step ⟨.text seen, done⟩ = some ⟨.text (text.reverse ++ seen), done⟩ := by
  induction text generalizing seen with
  | nil => rfl
  | cons b text ih =>
    obtain ⟨first, rest⟩ := List.forall_mem_cons.1 plain
    rw [List.foldlM_cons, step_plain first, Option.bind_eq_bind, Option.bind_some, ih rest]
    simp

theorem isPlain_of_high {b : UInt8} (high : 128 ≤ b.toNat) : IsPlain b := by
  refine ⟨?_, ?_, ?_⟩
  · rintro rfl; revert high; decide
  · rintro rfl; revert high; decide
  · rw [UInt8.lt_iff_toNat_lt]
    have : (0x20 : UInt8).toNat = 32 := rfl
    omega

theorem bytes_plain {c : Char} (high : 0x20 ≤ c.toNat) (quotation : c ≠ '"')
    (backslash : c ≠ '\\') : ∀ b ∈ String.utf8EncodeChar c, IsPlain b := by
  by_cases ascii : c.toNat < 128
  · have apart (d : Char) (ne : c ≠ d) : c.toNat ≠ d.toNat := fun same => ne (Char.toNat_inj.1 same)
    have noQuotation := apart _ quotation
    have noBackslash := apart _ backslash
    rw [Utf8.utf8EncodeChar_ascii ascii]
    simp only [List.mem_singleton, IsPlain, ne_eq, ← UInt8.toNat_inj,
      UInt8.lt_iff_toNat_lt, UInt8.toNat_ofNat', UInt8.reduceToNat]
    have : '"'.toNat = 34 := rfl
    have : '\\'.toNat = 92 := rfl
    omega
  · exact fun b mem => isPlain_of_high (Utf8.utf8EncodeChar_high (by omega) b mem)

theorem foldlM_control : ∀ n < 0x20,
    bytes ['\\', 'u', '0', '0', Hex.lower (n / 16), Hex.lower (n % 16)] =
      [0x5C, 0x75, 0x30, 0x30, UInt8.ofNat (Hex.lower (n / 16)).toNat,
        UInt8.ofNat (Hex.lower (n % 16)).toNat] ∧
    isHexDigit (UInt8.ofNat (Hex.lower (n / 16)).toNat) = true ∧
    isHexDigit (UInt8.ofNat (Hex.lower (n % 16)).toNat) = true := by
  decide

theorem foldlM_escape (c : Char) (seen : List UInt8) (done : List Lexeme) :
    (bytes (escape c)).foldlM Lexer.step ⟨.text seen, done⟩ =
      some ⟨.text ((bytes (escape c)).reverse ++ seen), done⟩ := by
  rcases escape_cases c with ⟨d, written, notCode, ascii, _, short⟩ | ⟨low, written⟩ |
    ⟨written, high, quotation, backslash⟩
  · have notU : UInt8.ofNat d.toNat ≠ 0x75 := by
      intro same
      have code : d.toNat = 'u'.toNat := by
        have := congrArg UInt8.toNat same
        simp only [UInt8.toNat_ofNat', UInt8.reduceToNat] at this
        have : 'u'.toNat = 117 := rfl
        omega
      exact notCode (Char.toNat_inj.1 code)
    have encoded : bytes ['\\', d] = [0x5C, UInt8.ofNat d.toNat] := by
      rw [Utf8.bytes_cons, Utf8.bytes_cons, Utf8.utf8EncodeChar_ascii ascii]
      rfl
    rw [written, encoded]
    simp [Lexer.step, short, notU]
  · obtain ⟨encoded, first, second⟩ := foldlM_control _ low
    rw [written, encoded]
    simp [Lexer.step, first, second, show isHexDigit 0x30 = true by decide]
  · rw [written]
    simp only [Utf8.bytes_cons, Utf8.bytes_nil, List.append_nil]
    exact foldlM_plain (bytes_plain high quotation backslash) seen done

theorem foldlM_escaped (text : List Char) (seen : List UInt8) (done : List Lexeme) :
    (bytes (escaped text)).foldlM Lexer.step ⟨.text seen, done⟩ =
      some ⟨.text ((bytes (escaped text)).reverse ++ seen), done⟩ := by
  induction text generalizing seen with
  | nil => rfl
  | cons c text ih =>
    rw [escaped_cons, Utf8.bytes_append, List.foldlM_append, foldlM_escape, Option.bind_eq_bind,
      Option.bind_some, ih]
    simp

/-- A quoted text is one lexeme, whatever follows it. -/
theorem foldlM_quote (text : String) (done : List Lexeme) :
    (bytes (quote text)).foldlM Lexer.step ⟨.between, done⟩ =
      some ⟨.between, .text (bytes (escaped text.toList)) :: done⟩ := by
  have mark : bytes ['"'] = [0x22] := rfl
  have opening : Lexer.step ⟨.between, done⟩ 0x22 = some ⟨.text [], done⟩ := rfl
  rw [quote_eq, Utf8.bytes_cons, Utf8.bytes_append, mark]
  change (([0x22] : List UInt8) ++ _).foldlM _ _ = _
  simp only [List.foldlM_append, List.foldlM_cons, List.foldlM_nil, opening, foldlM_escaped,
    Option.bind_eq_bind, Option.bind_some, Option.pure_def]
  simp [Lexer.step, Lexer.finished]

end GrantKeeper.Json
