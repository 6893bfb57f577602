import Mathlib.Data.List.TakeWhile
import GrantKeeper.Text.Utf8

/-! UTF-8 read back. A text is decoded from its encoding and from no other bytes; where bytes are not well
formed, what is well formed before is read as it is. -/
namespace GrantKeeper.Utf8

def bytes (text : List Char) : List UInt8 := text.flatMap String.utf8EncodeChar

@[simp] theorem bytes_nil : bytes [] = [] := rfl

theorem bytes_cons (c : Char) (text : List Char) :
    bytes (c :: text) = String.utf8EncodeChar c ++ bytes text := by
  simp [bytes]

@[simp] theorem bytes_append (a b : List Char) : bytes (a ++ b) = bytes a ++ bytes b := by
  simp [bytes]

theorem encode_eq_bytes (text : String) : encode text = bytes text.toList := rfl

theorem utf8EncodeChar_ascii {c : Char} (h : c.toNat < 128) :
    String.utf8EncodeChar c = [UInt8.ofNat c.toNat] := by
  have low : c.val.toNat ≤ 0x7f := by
    have same : c.val.toNat = c.toNat := rfl
    omega
  simp only [String.utf8EncodeChar, if_pos low]
  rfl

theorem utf8EncodeChar_high {c : Char} (h : 128 ≤ c.toNat) :
    ∀ b ∈ String.utf8EncodeChar c, 128 ≤ b.toNat := by
  have high : ¬c.val.toNat ≤ 0x7f := by
    have same : c.val.toNat = c.toNat := rfl
    omega
  intro b mem
  simp only [String.utf8EncodeChar, if_neg high] at mem
  split at mem
  · simp only [List.mem_cons, List.not_mem_nil, or_false] at mem
    rcases mem with rfl | rfl <;> simp only [UInt8.toNat_ofNat'] <;> omega
  · split at mem
    · simp only [List.mem_cons, List.not_mem_nil, or_false] at mem
      rcases mem with rfl | rfl | rfl <;> simp only [UInt8.toNat_ofNat'] <;> omega
    · simp only [List.mem_cons, List.not_mem_nil, or_false] at mem
      rcases mem with rfl | rfl | rfl | rfl <;> simp only [UInt8.toNat_ofNat'] <;> omega

theorem decode?_bytes (text : List Char) : decode? (bytes text) = some (String.ofList text) := by
  have valid : (bytes text).toByteArray.IsValidUTF8 := .intro text rfl
  simp only [decode?, String.fromUTF8?, valid, ↓reduceDIte, Option.some.injEq]
  rw [← String.toByteArray_inj, String.toByteArray_ofList]
  rfl

theorem decode?_encode (text : String) : decode? (encode text) = some text := by
  rw [encode_eq_bytes, decode?_bytes, String.ofList_toList]

theorem decode?_eq_some_iff {bytes : List UInt8} {text : String} :
    decode? bytes = some text ↔ bytes = encode text := by
  constructor
  · intro decoded
    unfold decode? String.fromUTF8? at decoded
    split at decoded
    · next valid =>
      cases decoded
      have same : (String.fromUTF8 bytes.toByteArray valid).toList.utf8Encode = bytes.toByteArray :=
        String.utf8Encode_toList
      exact (List.toByteArray_inj.mp same).symm
    · cases decoded
  · rintro rfl
    exact decode?_encode text

theorem encode_injective {a b : String} (same : encode a = encode b) : a = b := by
  have decoded := decode?_encode b
  rw [← same, decode?_encode] at decoded
  exact Option.some.inj decoded

/-! Well-formed bytes. -/

/-- The bytes are the encoding of a text. -/
def WellFormed (bytes : List UInt8) : Prop := ∃ text, bytes = encode text

theorem WellFormed.append {front back : List UInt8} (first : WellFormed front) (second : WellFormed back) :
    WellFormed (front ++ back) := by
  obtain ⟨first, rfl⟩ := first
  obtain ⟨second, rfl⟩ := second
  exact ⟨first ++ second, by simp [encode_eq_bytes]⟩

theorem wellFormed_ascii {b : UInt8} (ascii : b < 0x80) : WellFormed [b] := by
  have small : b.toNat < 128 := ascii
  have valid : b.toNat.isValidChar := .inl (by omega)
  have code : (Char.ofNat b.toNat).toNat = b.toNat := by
    rw [Char.ofNat, dif_pos valid]
    rfl
  refine ⟨String.singleton (Char.ofNat b.toNat), ?_⟩
  simp [encode, utf8EncodeChar_ascii (c := Char.ofNat b.toNat) (by omega), code]

theorem WellFormed.push {front : List UInt8} {b : UInt8} (wellFormed : WellFormed front) (ascii : b < 0x80) :
    WellFormed (front ++ [b]) :=
  wellFormed.append (wellFormed_ascii ascii)

/-! Bytes of which some may be ill-formed. -/

/-- A byte that may stand behind the first of a sequence. -/
def IsTail (b : UInt8) : Prop := 0x80 ≤ b ∧ b ≤ 0xBF

theorem isTail_ofNat (n : Nat) : IsTail (.ofNat (n % 64 + 128)) := by
  simp only [IsTail, UInt8.le_iff_toNat_le, UInt8.toNat_ofNat', UInt8.reduceToNat]
  omega

theorem extent_of_continuation {first next low high : UInt8} (tail : List UInt8)
    (asks : continuation first = some (low, high, tail.length)) (beyond : 0x80 ≤ first)
    (least : low ≤ next) (most : next ≤ high) (tails : ∀ b ∈ tail, IsTail b) (rest : List UInt8) :
    extent first (next :: tail ++ rest) = ((next :: tail).length, true) := by
  have following : tail.takeWhile (fun b => 0x80 ≤ b && b ≤ 0xBF) = tail := by
    rw [List.takeWhile_eq_self_iff]
    intro b mem
    simpa [IsTail] using tails b mem
  simp [extent, UInt8.not_lt.mpr beyond, asks, least, most, following, Nat.add_comm]

theorem extent_two {first next : UInt8} (least : 0xC2 ≤ first) (most : first ≤ 0xDF)
    (tail : IsTail next) (rest : List UInt8) : extent first (next :: rest) = (1, true) := by
  have asks : continuation first = some (0x80, 0xBF, 0) := by
    unfold continuation
    split <;> grind
  exact extent_of_continuation [] asks (by grind) tail.1 tail.2 (by simp) rest

theorem extent_three {first next last : UInt8} (least : 0xE0 ≤ first) (most : first ≤ 0xEF)
    (low : first = 0xE0 → 0xA0 ≤ next) (high : first = 0xED → next ≤ 0x9F) (tail : IsTail next)
    (lastTail : IsTail last) (rest : List UInt8) : extent first (next :: last :: rest) = (2, true) := by
  have asks : continuation first = some
      (if first = 0xE0 then 0xA0 else 0x80, if first = 0xED then 0x9F else 0xBF, 1) := by
    unfold continuation
    split <;> grind
  exact extent_of_continuation [last] asks (by grind) (by grind [IsTail]) (by grind [IsTail])
    (by simpa) rest

theorem extent_four {first next third last : UInt8} (least : 0xF0 ≤ first) (most : first ≤ 0xF4)
    (low : first = 0xF0 → 0x90 ≤ next) (high : first = 0xF4 → next ≤ 0x8F) (tail : IsTail next)
    (thirdTail : IsTail third) (lastTail : IsTail last) (rest : List UInt8) :
    extent first (next :: third :: last :: rest) = (3, true) := by
  have asks : continuation first = some
      (if first = 0xF0 then 0x90 else 0x80, if first = 0xF4 then 0x8F else 0xBF, 2) := by
    unfold continuation
    split <;> grind
  exact extent_of_continuation [third, last] asks (by grind) (by grind [IsTail])
    (by grind [IsTail]) (by simp [thirdTail, lastTail]) rest

/-- A character's bytes are one sequence, whatever follows them. -/
theorem extent_utf8EncodeChar (c : Char) : ∃ first tail, String.utf8EncodeChar c = first :: tail ∧
    ∀ rest, extent first (tail ++ rest) = (tail.length, true) := by
  have valid : c.val.toNat < 0xD800 ∨ 0xDFFF < c.val.toNat ∧ c.val.toNat < 0x110000 := c.valid
  unfold String.utf8EncodeChar
  generalize c.val.toNat = v at valid
  extract_lets code
  split
  · refine ⟨_, _, rfl, fun rest => ?_⟩
    have ascii : UInt8.ofNat v < 0x80 := by
      simp only [UInt8.lt_iff_toNat_lt, UInt8.toNat_ofNat', UInt8.reduceToNat]
      omega
    simp [extent, code, ascii]
  · split
    · refine ⟨_, _, rfl, extent_two ?_ ?_ (isTail_ofNat _)⟩
      all_goals
        simp only [UInt8.le_iff_toNat_le, UInt8.toNat_ofNat', UInt8.reduceToNat]
        omega
    · split
      · refine ⟨_, _, rfl, extent_three ?_ ?_ ?_ ?_ (isTail_ofNat _) (isTail_ofNat _)⟩
        all_goals
          simp only [UInt8.le_iff_toNat_le, ← UInt8.toNat_inj, UInt8.toNat_ofNat', UInt8.reduceToNat]
          omega
      · refine ⟨_, _, rfl, extent_four ?_ ?_ ?_ ?_ (isTail_ofNat _) (isTail_ofNat _) (isTail_ofNat _)⟩
        all_goals
          simp only [UInt8.le_iff_toNat_le, ← UInt8.toNat_inj, UInt8.toNat_ofNat', UInt8.reduceToNat]
          omega

theorem decodeLossy_char (c : Char) (rest : List UInt8) :
    decodeLossy (String.utf8EncodeChar c ++ rest) = c :: decodeLossy rest := by
  obtain ⟨first, tail, encoded, complete⟩ := extent_utf8EncodeChar c
  have decoded : (first :: tail).toByteArray.utf8DecodeChar? 0 = some c := by
    have := ByteArray.utf8DecodeChar?_utf8EncodeChar_append (b := ByteArray.empty) (c := c)
    simpa [encoded] using this
  rw [encoded, List.cons_append, decodeLossy, complete]
  simp [decoded]

theorem decodeLossy_bytes (text : List Char) (rest : List UInt8) :
    decodeLossy (bytes text ++ rest) = text ++ decodeLossy rest := by
  induction text with
  | nil => rfl
  | cons c text ih => rw [bytes_cons, List.append_assoc, decodeLossy_char, ih, List.cons_append]

theorem lossy_eq (bytes : List UInt8) : lossy bytes = String.ofList (decodeLossy bytes) := by
  rw [lossy]
  cases decoded : decode? bytes with
  | none => rfl
  | some text =>
    have read := decodeLossy_bytes text.toList []
    rw [List.append_nil, ← encode_eq_bytes, ← decode?_eq_some_iff.mp decoded, decodeLossy.eq_1,
      List.append_nil] at read
    rw [read, String.ofList_toList]

theorem lossy_encode (text : String) : lossy (encode text) = text := by
  rw [lossy, decode?_encode]

/-- What is well formed at the front is read as it is. -/
theorem lossy_append (text : String) (rest : List UInt8) :
    lossy (encode text ++ rest) = text ++ lossy rest := by
  rw [lossy_eq, lossy_eq, encode_eq_bytes, decodeLossy_bytes, String.ofList_append, String.ofList_toList]

/-- A piece that is ill-formed is read as one replacement character. -/
theorem lossy_broken {first : UInt8} {rest : List UInt8} {taken : Nat}
    (broken : extent first rest = (taken, false)) :
    lossy (first :: rest) = "\uFFFD" ++ lossy (rest.drop taken) := by
  rw [lossy_eq, lossy_eq, decodeLossy, broken]
  simp only [Bool.false_eq_true, ↓reduceIte]
  rw [String.ofList_cons]
  rfl

end GrantKeeper.Utf8
