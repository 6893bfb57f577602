import GrantKeeper.Encoding.Form
import GrantKeeper.Proofs.Json.Text
import GrantKeeper.Proofs.Text.Pieces

/-! Form bodies are read as the fields they were written for, whatever characters those hold. -/
namespace GrantKeeper.Form

/-! Bytes. -/

theorem forall_byte {holds : UInt8 → Prop} (all : ∀ n < 256, holds (UInt8.ofNat n)) (b : UInt8) :
    holds b :=
  UInt8.ofNat_toNat (x := b) ▸ all b.toNat b.toNat_lt

theorem plain_char : ∀ b : UInt8, isPlain b → b.toNat < 128 ∧
    (Char.ofNat b.toNat).toNat = b.toNat ∧ Char.ofNat b.toNat ≠ '%' ∧ Char.ofNat b.toNat ≠ '+' :=
  forall_byte (by decide +kernel)

theorem value?_upper : ∀ digit < 16, Hex.value? (Hex.upper digit) = some digit := by decide

theorem notMem_encodeByte : ∀ b : UInt8, '&' ∉ encodeByte b ∧ '=' ∉ encodeByte b :=
  forall_byte (by decide +kernel)

theorem decodeBytes_encodeByte (b : UInt8) (rest : List Char) :
    decodeBytes (encodeByte b ++ rest) = (b :: ·) <$> decodeBytes rest := by
  rw [encodeByte]
  split
  · next plain =>
    obtain ⟨ascii, same, noEscape, noSpace⟩ := plain_char b plain
    rw [List.singleton_append, decodeBytes, same, if_pos ⟨ascii, noEscape⟩, UInt8.ofNat_toNat]
    · exact fun _ _ _ escape _ => noEscape escape
    · exact noSpace
  · split
    · next space =>
      rw [space]
      rfl
    · have high := value?_upper (b.toNat / 16) (by have := b.toNat_lt; omega)
      have low := value?_upper (b.toNat % 16) (by omega)
      simp only [Percent.escape, List.cons_append, List.nil_append, decodeBytes, high, low,
        Option.bind_eq_bind, Option.bind_some, Nat.div_add_mod', UInt8.ofNat_toNat]

theorem decodeText_encodeText (text : String) : decodeText (encodeText text) = some text := by
  have bytes : ∀ bytes : List UInt8, decodeBytes (bytes.flatMap encodeByte) = some bytes := by
    intro bytes
    induction bytes with
    | nil => rfl
    | cons b bytes ih =>
      rw [List.flatMap_cons, decodeBytes_encodeByte, ih]
      rfl
  rw [decodeText, encodeText, bytes]
  exact Utf8.decode?_encode text

/-! Fields. -/

theorem notMem_encodeText (text : String) : '&' ∉ encodeText text ∧ '=' ∉ encodeText text := by
  simp only [encodeText, List.mem_flatMap, not_exists, not_and]
  exact ⟨fun b _ => (notMem_encodeByte b).1, fun b _ => (notMem_encodeByte b).2⟩

theorem decodeField_encodeField (field : String × String) :
    decodeField (encodeField field) = some field := by
  have passes : ∀ c ∈ encodeText field.1, (c != '=') = true := fun c member =>
    bne_iff_ne.mpr fun same => (notMem_encodeText field.1).2 (same ▸ member)
  have divided : (encodeField field).span (· != '=') =
      (encodeText field.1, '=' :: encodeText field.2) := by
    rw [List.span_eq_takeWhile_dropWhile, encodeField]
    simp [List.takeWhile_append_of_pos passes, List.dropWhile_append_of_pos passes]
  rw [decodeField, divided]
  simp [decodeText_encodeText]

theorem ampersand_notMem_encodeField (field : String × String) : '&' ∉ encodeField field := by
  rw [encodeField, List.mem_append, List.mem_cons, not_or, not_or]
  exact ⟨(notMem_encodeText field.1).1, by decide, (notMem_encodeText field.2).1⟩

theorem splitAmpersands_eq (text : List Char) :
    decode.splitAmpersands text = Text.pieces '&' text := by
  induction text with
  | nil => rfl
  | cons c text ih =>
    rw [decode.splitAmpersands, ih]
    rfl

theorem mapM_decodeField (fields : List (String × String)) :
    (fields.map encodeField).mapM decodeField = some fields := by
  induction fields with
  | nil => rfl
  | cons field fields ih => simp [List.mapM_cons, decodeField_encodeField, ih]

theorem decode_encode (fields : List (String × String)) : decode (encode fields) = some fields := by
  have joined : (encode fields).toList = ['&'].intercalate (fields.map encodeField) :=
    String.toList_ofList
  cases fields with
  | nil => rfl
  | cons field fields =>
    have written : (encode (field :: fields)).isEmpty = false := by
      have sign : '=' ∈ (encode (field :: fields)).toList := by
        rw [joined]
        cases fields <;> simp [encodeField]
      simpa [String.isEmpty_iff] using fun empty => by simp [empty] at sign
    have split : decode.splitAmpersands (encode (field :: fields)).toList =
        (field :: fields).map encodeField := by
      rw [splitAmpersands_eq, joined]
      refine Text.pieces_intercalate (by simp) fun part member => ?_
      obtain ⟨field, -, rfl⟩ := List.mem_map.mp member
      exact ampersand_notMem_encodeField field
    rw [decode, if_neg (by simp [written]), split, mapM_decodeField]

end GrantKeeper.Form
