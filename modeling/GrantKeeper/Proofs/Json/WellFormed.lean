import GrantKeeper.Proofs.Json.Settled

/-! JSON is well-formed UTF-8. Between texts only ASCII is read, and a text that is wanted is decoded
strictly, so bytes that are read as a value are the encoding of a text. -/
namespace GrantKeeper.Json

open Utf8 (WellFormed)

/-- The texts are written in well-formed bytes. -/
def Encoded (lexemes : List Lexeme) : Prop := ∀ written, .text written ∈ lexemes → WellFormed written

/-! Values are read of well-formed texts alone. -/

theorem wellFormed_of_text? {written : List UInt8} {text : String} (read : text? written = some text) :
    WellFormed written := by
  rw [text?, Option.bind_eq_bind] at read
  obtain ⟨decoded, same, -⟩ := Option.bind_eq_some_iff.mp read
  exact ⟨decoded, Utf8.decode?_eq_some_iff.mp same⟩

mutual
theorem encoded_of_ofTree? : ∀ (tree : Tree) {value : Value}, Value.ofTree? tree = some value →
    Encoded tree.lexemes
  | .null, _, _ | .bool _, _, _ | .numeral _, _, _ => by simp [Encoded, Tree.lexemes]
  | .text written, _, read => by
    rw [Value.ofTree?, Option.map_eq_map] at read
    obtain ⟨text, read, -⟩ := Option.map_eq_some_iff.mp read
    simpa [Encoded, Tree.lexemes] using wellFormed_of_text? read
  | .array items, _, read => by
    obtain ⟨values, listed, -⟩ := ofTree?_array_eq_some.mp read
    intro written mem
    obtain ⟨tree, item, mem⟩ : ∃ tree ∈ items, Lexeme.text written ∈ tree.lexemes := by
      simpa [Tree.lexemes, mem_itemLexemes] using mem
    exact encoded_of_itemsOf? items listed tree item written mem
  | .object members, _, read => by
    obtain ⟨values, listed, -⟩ := ofTree?_object_eq_some.mp read
    intro written mem
    obtain ⟨member, among, mem⟩ : ∃ member ∈ members,
        Lexeme.text written = .text member.1 ∨ Lexeme.text written ∈ member.2.lexemes := by
      simpa only [Tree.lexemes, mem_memberLexemes, ne_eq, reduceCtorEq, not_false_eq_true, List.mem_cons,
        List.mem_append, List.not_mem_nil, or_false, false_or] using mem
    obtain ⟨key, encoded⟩ := encoded_of_membersOf? members listed member among
    rcases mem with same | mem
    · cases same
      exact key
    · exact encoded written mem

theorem encoded_of_itemsOf? : ∀ (items : List Tree) {values : List Value}, itemsOf? items = some values →
    ∀ tree ∈ items, Encoded tree.lexemes
  | [], _, _ => by simp
  | tree :: rest, _, read => by
    obtain ⟨value, values, first, others, -⟩ := itemsOf?_cons_eq_some.mp read
    exact List.forall_mem_cons.mpr ⟨encoded_of_ofTree? tree first, encoded_of_itemsOf? rest others⟩

theorem encoded_of_membersOf? : ∀ (members : List (List UInt8 × Tree)) {values : List (String × Value)},
    membersOf? members = some values →
    ∀ member ∈ members, WellFormed member.1 ∧ Encoded member.2.lexemes
  | [], _, _ => by simp
  | (key, tree) :: rest, _, read => by
    obtain ⟨name, value, values, named, first, others, -⟩ := membersOf?_cons_eq_some.mp read
    exact List.forall_mem_cons.mpr
      ⟨⟨wellFormed_of_text? named, encoded_of_ofTree? tree first⟩, encoded_of_membersOf? rest others⟩
end

/-! Bytes between texts. -/

/-- What has been read is well formed up to the text that is being read. -/
def Mode.Covers (read : List UInt8) : Mode → Prop
  | .between | .numeral _ _ => WellFormed read
  | .word ahead _ => WellFormed read ∧ ∀ b ∈ ahead, b < 0x80
  | .text seen | .escape seen | .code _ seen =>
    ∃ front, WellFormed front ∧ read = front ++ 0x22 :: seen.reverse

theorem isDigit_ascii {b : UInt8} (digit : isDigit b = true) : b < 0x80 := by
  simp only [isDigit, Bool.and_eq_true, decide_eq_true_eq] at digit
  grind

theorem next_ascii {part later : NumeralPart} {b : UInt8} (next : part.next b = some later) : b < 0x80 := by
  by_cases digit : isDigit b = true
  · exact isDigit_ascii digit
  · cases part <;> grind [NumeralPart.next, NumeralPart.next.afterSign, NumeralPart.next.afterFraction,
      NumeralPart.next.afterWhole]

variable {lexer later : Lexer} {done : List Lexeme} {read : List UInt8} {b : UInt8}

theorem start_covers (started : Lexer.start done b = some later) (wellFormed : WellFormed read) :
    later.mode.Covers (read ++ [b]) := by
  have pushed (ascii : b < 0x80) : WellFormed (read ++ [b]) := wellFormed.push ascii
  unfold Lexer.start at started
  split at started
  -- Apart from the others stand the quotation mark before a text, the first letters of the words, and the
  -- digits but for zero, which are told by a test.
  case h_11 =>
    cases started
    exact ⟨read, wellFormed, rfl⟩
  case h_12 | h_13 | h_14 =>
    cases started
    exact ⟨pushed (by decide), by simp⟩
  case h_17 =>
    split at started
    · next digit =>
      cases started
      exact pushed (isDigit_ascii digit)
    · cases started
  all_goals
    cases started
    exact pushed (by decide)

theorem start_done (started : Lexer.start done b = some later) : done <:+ later.done := by
  unfold Lexer.start at started
  split at started
  case h_17 =>
    split at started <;> cases started
    exact List.suffix_refl done
  all_goals
    cases started
    simp [Lexer.finished]

theorem step_done (stepped : lexer.step b = some later) : lexer.done <:+ later.done := by
  revert stepped
  fun_cases Lexer.step lexer b
  -- A lexeme begins where none is being read, and at the byte that ends a numeral.
  case case1 => exact start_done
  case case8 => exact fun started => (List.suffix_cons _ _).trans (start_done started)
  all_goals
    intro stepped
    cases stepped <;> simp [Lexer.finished]

/-- The bytes of a text are not looked at before its end. -/
theorem text_covers {seen : List UInt8} (covers : (Mode.text seen).Covers read) :
    (Mode.text (b :: seen)).Covers (read ++ [b]) := by
  obtain ⟨front, wellFormed, rfl⟩ := covers
  exact ⟨front, wellFormed, by simp⟩

theorem step_covers (stepped : lexer.step b = some later) (encoded : Encoded later.done)
    (covers : lexer.mode.Covers read) : later.mode.Covers (read ++ [b]) := by
  obtain ⟨mode, done⟩ := lexer
  cases mode with
  | between => exact start_covers stepped covers
  | word ahead lexeme =>
    obtain ⟨wellFormed, ascii⟩ := covers
    cases ahead with
    | nil => cases stepped
    | cons next ahead =>
      obtain ⟨first, others⟩ := List.forall_mem_cons.mp ascii
      cases ahead with
      | nil =>
        simp only [Lexer.step, Option.ite_none_right_eq_some] at stepped
        obtain ⟨rfl, ⟨⟩⟩ := stepped
        exact wellFormed.push first
      | cons second ahead =>
        simp only [Lexer.step, Option.ite_none_right_eq_some] at stepped
        obtain ⟨rfl, ⟨⟩⟩ := stepped
        exact ⟨wellFormed.push first, others⟩
  | numeral part seen =>
    simp only [Lexer.step] at stepped
    split at stepped
    · next next =>
      cases stepped
      exact covers.push (next_ascii next)
    · split at stepped
      · exact start_covers stepped covers
      · cases stepped
  | text seen =>
    simp only [Lexer.step] at stepped
    split at stepped
    · next closing =>
      cases stepped
      subst closing
      -- Only here is it known what the text is, which makes what was read of it well formed.
      obtain ⟨front, wellFormed, rfl⟩ := covers
      have text : WellFormed seen.reverse := encoded _ List.mem_cons_self
      have mark : (0x22 : UInt8) < 0x80 := by decide
      have whole := ((wellFormed.push mark).append text).push mark
      rwa [List.append_assoc front, List.singleton_append] at whole
    · split at stepped
      · cases stepped
        exact text_covers covers
      · split at stepped <;> cases stepped
        exact text_covers covers
  | escape seen =>
    simp only [Lexer.step] at stepped
    split at stepped
    · cases stepped
      exact text_covers covers
    · split at stepped <;> cases stepped
      exact text_covers covers
  | code left seen =>
    simp only [Lexer.step, Option.ite_none_right_eq_some] at stepped
    obtain ⟨-, stepped⟩ := stepped
    cases left <;> cases stepped <;> exact text_covers covers

theorem done_foldlM {bytes : List UInt8} (ran : bytes.foldlM Lexer.step lexer = some later) :
    lexer.done <:+ later.done := by
  induction bytes generalizing lexer with
  | nil =>
    cases ran
    exact List.suffix_refl _
  | cons b bytes ih =>
    rw [List.foldlM_cons, Option.bind_eq_bind] at ran
    obtain ⟨next, stepped, ran⟩ := Option.bind_eq_some_iff.mp ran
    exact (step_done stepped).trans (ih ran)

theorem covers_foldlM {bytes : List UInt8} (ran : bytes.foldlM Lexer.step lexer = some later)
    (encoded : Encoded later.done) (covers : lexer.mode.Covers read) : later.mode.Covers (read ++ bytes) := by
  induction bytes generalizing lexer read with
  | nil =>
    cases ran
    rwa [List.append_nil]
  | cons b bytes ih =>
    rw [List.foldlM_cons, Option.bind_eq_bind] at ran
    obtain ⟨next, stepped, ran⟩ := Option.bind_eq_some_iff.mp ran
    -- Lexemes are only added, so the texts that are complete now are among those at the end.
    have soFar : Encoded next.done := fun written mem => encoded written ((done_foldlM ran).mem mem)
    rw [← List.singleton_append, ← List.append_assoc]
    exact ih ran (step_covers stepped soFar covers)

theorem wellFormed_of_lexemes? {bytes : List UInt8} {lexemes : List Lexeme}
    (read : lexemes? bytes = some lexemes) (encoded : Encoded lexemes) : WellFormed bytes := by
  rw [lexemes?, Option.bind_eq_bind] at read
  obtain ⟨last, ran, finished⟩ := Option.bind_eq_some_iff.mp read
  have covers (complete : Encoded last.done) : last.mode.Covers bytes :=
    covers_foldlM ran complete ⟨"", rfl⟩
  unfold Lexer.finish at finished
  split at finished
  · next mode =>
    cases finished
    rw [mode] at covers
    exact covers fun written mem => encoded written (List.mem_reverse.mpr mem)
  · next mode =>
    split at finished <;> cases finished
    rw [mode] at covers
    exact covers fun written mem => encoded written (List.mem_reverse.mpr (List.mem_cons_of_mem _ mem))
  · cases finished

/-- Only the encoding of a text is read as a value. -/
theorem wellFormed_of_parse? {bytes : List UInt8} {value : Value} (parsed : Value.parse? bytes = some value) :
    WellFormed bytes := by
  obtain ⟨tree, read, -, decided⟩ := Value.parse?_eq_some_iff.mp parsed
  exact wellFormed_of_lexemes? read (encoded_of_ofTree? tree decided)

end GrantKeeper.Json
