import GrantKeeper.Encoding.Hex
import GrantKeeper.Text.Quoted

/-! Quoted text and the records it stands in are read back: a quoted text says where it ends, so what stands
behind it cannot make up for a difference in it. -/
namespace GrantKeeper

/-! Numbers in hexadecimal. -/
namespace Hex

theorem value?_digitChar : ∀ d < 16, value? (Nat.digitChar d) = some d := by decide

theorem value?_of_mem_toDigits {c : Char} {n : Nat} (member : c ∈ Nat.toDigits 16 n) :
    (value? c).isSome := by
  induction n using Nat.base_induction 16 (by decide) with
  | single d small =>
    rw [Nat.toDigits_of_lt_base small, List.mem_singleton] at member
    rw [member, value?_digitChar d small, Option.isSome_some]
  | digit n d small positive ih =>
    rw [← Nat.toDigits_append_toDigits (by decide) positive small, List.mem_append] at member
    rcases member with member | member
    · exact ih member
    · rw [Nat.toDigits_of_lt_base small, List.mem_singleton] at member
      rw [member, value?_digitChar d small, Option.isSome_some]

theorem foldlM_toDigits (n : Nat) :
    (Nat.toDigits 16 n).foldlM (fun n c => (value? c).map (n * 16 + ·)) 0 = some n := by
  induction n using Nat.base_induction 16 (by decide) with
  | single d small =>
    rw [Nat.toDigits_of_lt_base small]
    simp [value?_digitChar d small]
  | digit n d small positive ih =>
    rw [← Nat.toDigits_append_toDigits (by decide) positive small, List.foldlM_append, ih,
      Nat.toDigits_of_lt_base small]
    simp [value?_digitChar d small, Nat.mul_comm]

theorem number?_toDigits (n : Nat) : number? (Nat.toDigits 16 n) = some n := by
  rw [number?, foldlM_toDigits]
  simp [Nat.toDigits_ne_nil]

end Hex

namespace Text

variable {c d : Char} {rest rest_ : List Char}

/-- The character that is quoted at the beginning of a text, and the text behind it. -/
def unquote? : List Char → Option (Char × List Char)
  | '\\' :: '0' :: rest => some ('\x00', rest)
  | '\\' :: 't' :: rest => some ('\t', rest)
  | '\\' :: 'r' :: rest => some ('\r', rest)
  | '\\' :: 'n' :: rest => some ('\n', rest)
  | '\\' :: '"' :: rest => some ('"', rest)
  | '\\' :: '\\' :: rest => some ('\\', rest)
  | '\\' :: 'u' :: '\x7b' :: rest =>
    let digits := rest.takeWhile fun c => (Hex.value? c).isSome
    (Hex.number? digits).map fun n => (Char.ofNat n, rest.drop (digits.length + 1))
  | '"' :: _ => none
  | c :: rest => some (c, rest)
  | [] => none

theorem unquote?_escaped (c : Char) (rest : List Char) :
    unquote? ('\\' :: 'u' :: '\x7b' :: Nat.toDigits 16 c.toNat ++ '\x7d' :: rest) = some (c, rest) := by
  have digits : (Nat.toDigits 16 c.toNat ++ '\x7d' :: rest).takeWhile (fun c => (Hex.value? c).isSome) =
      Nat.toDigits 16 c.toNat := by
    rw [List.takeWhile_append_of_pos fun c member => Hex.value?_of_mem_toDigits member]
    simp [show Hex.value? '\x7d' = none by decide]
  simp [unquote?, digits, Hex.number?_toDigits]

theorem unquote?_append (c : Char) (rest : List Char) : unquote? (quoteChar c ++ rest) = some (c, rest) := by
  unfold quoteChar
  split
  case h_7 =>
    split
    · simpa using unquote?_escaped c rest
    · rw [List.singleton_append, unquote?] <;> simp_all
  all_goals rfl

theorem quoteChar_append_inj :
    quoteChar c ++ rest = quoteChar d ++ rest_ ↔ c = d ∧ rest = rest_ := by
  constructor
  · intro same
    have read := unquote?_append c rest
    rw [same, unquote?_append, Option.some.injEq, Prod.mk.injEq] at read
    exact ⟨read.1.symm, read.2.symm⟩
  · rintro ⟨rfl, rfl⟩
    rfl

/-- What is quoted does not begin with the mark that ends a quoted text. -/
theorem quoteChar_append_ne (c : Char) : quoteChar c ++ rest ≠ '"' :: rest_ := by
  intro same
  have read := unquote?_append c rest
  rw [same] at read
  cases read

theorem flatMap_quoteChar_inj {text text_ : List Char} :
    text.flatMap quoteChar ++ '"' :: rest = text_.flatMap quoteChar ++ '"' :: rest_ ↔
      text = text_ ∧ rest = rest_ := by
  induction text generalizing text_ with
  | nil =>
    cases text_ with
    | nil => simp
    | cons d text_ => simp [(quoteChar_append_ne d).symm]
  | cons c text ih =>
    cases text_ with
    | nil => simp [quoteChar_append_ne c]
    | cons d text_ => simp [quoteChar_append_inj, ih, and_assoc]

/-- A quoted text is told from another whatever stands behind them. -/
theorem quoted_append_inj {text text_ rest rest_ : String} :
    quoted text ++ rest = quoted text_ ++ rest_ ↔ text = text_ ∧ rest = rest_ := by
  simp [← String.toList_inj, quoted, flatMap_quoteChar_inj]

theorem quoted_inj {text text_ : String} : quoted text = quoted text_ ↔ text = text_ := by
  simpa using @quoted_append_inj text text_ "" ""

/-! Optional values. -/

variable {shown : α → String} {alike : α → α → Prop} {value value_ : Option α}

theorem none_append_ne (x y : String) : "None" ++ x ≠ "Some(" ++ y := by
  simp [← String.toList_inj]

theorem shownOption_eq_iff (of_value : ∀ v w, shown v = shown w ↔ alike v w) :
    shownOption shown value = shownOption shown value_ ↔ Option.Rel alike value value_ := by
  cases value with
  | none =>
    cases value_ with
    | none => simp
    | some w => simpa [shownOption, String.append_assoc] using none_append_ne "" (shown w ++ ")")
  | some v =>
    cases value_ with
    | none => simpa [shownOption, String.append_assoc] using (none_append_ne "" (shown v ++ ")")).symm
    | some w => simp [shownOption, of_value]

theorem shownOption_inj (of_value : ∀ v w, shown v = shown w ↔ v = w) :
    shownOption shown value = shownOption shown value_ ↔ value = value_ := by
  rw [shownOption_eq_iff of_value]
  cases value <;> cases value_ <;> simp

theorem shownOption_append_inj {rest rest_ : String}
    (of_value : ∀ v w x y, shown v ++ x = shown w ++ y ↔ alike v w ∧ x = y) :
    shownOption shown value ++ rest = shownOption shown value_ ++ rest_ ↔
      Option.Rel alike value value_ ∧ rest = rest_ := by
  cases value with
  | none =>
    cases value_ with
    | none => simp [shownOption]
    | some w => simp [shownOption, String.append_assoc, none_append_ne]
  | some v =>
    cases value_ with
    | none => simp [shownOption, String.append_assoc, (none_append_ne _ _).symm]
    | some w => simp [shownOption, String.append_assoc, of_value]

end Text
end GrantKeeper
