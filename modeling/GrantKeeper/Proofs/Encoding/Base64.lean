import Mathlib.Data.List.TakeDrop
import GrantKeeper.Encoding.Base64

/-! Base64 texts: what is read is exactly what is written, so a text stands for bytes only if it is the
one text that is written for them. -/
namespace GrantKeeper.Base64

/-! Values of six bits. -/

/-- The values that a byte sequence is written as. -/
def sextets : List UInt8 → List Nat
  | [] => []
  | [x] => [x.toNat / 4, x.toNat % 4 * 16]
  | [x, y] => [x.toNat / 4, x.toNat % 4 * 16 + y.toNat / 16, y.toNat % 16 * 4]
  | x :: y :: z :: rest =>
    x.toNat / 4 :: (x.toNat % 4 * 16 + y.toNat / 16) :: (y.toNat % 16 * 4 + z.toNat / 64) ::
      z.toNat % 64 :: sextets rest

theorem sextets_lt (bytes : List UInt8) : ∀ value ∈ sextets bytes, value < 64 := by
  fun_induction sextets bytes with
  | case1 => simp
  | case2 x =>
    have := x.toNat_lt
    simp only [List.forall_mem_cons, List.not_mem_nil, false_implies, implies_true, and_true]
    omega
  | case3 x y =>
    have := x.toNat_lt
    have := y.toNat_lt
    simp only [List.forall_mem_cons, List.not_mem_nil, false_implies, implies_true, and_true]
    omega
  | case4 x y z rest ih =>
    have := x.toNat_lt
    have := y.toNat_lt
    have := z.toNat_lt
    simp only [List.forall_mem_cons]
    exact ⟨by omega, by omega, by omega, by omega, ih⟩

theorem ofNat_eq {n : Nat} {b : UInt8} (same : n = b.toNat) : UInt8.ofNat n = b := by
  rw [same, UInt8.ofNat_toNat]

theorem unpack_sextets (bytes : List UInt8) : unpack (sextets bytes) = some bytes := by
  fun_induction sextets bytes with
  | case1 => rfl
  | case2 x =>
    have first : UInt8.ofNat (x.toNat / 4 * 4 + x.toNat % 4 * 16 / 16) = x := ofNat_eq (by omega)
    have spare : x.toNat % 4 * 16 % 16 = 0 := by omega
    simp only [unpack, spare, ↓reduceIte, first]
  | case3 x y =>
    have := y.toNat_lt
    have first : UInt8.ofNat (x.toNat / 4 * 4 + (x.toNat % 4 * 16 + y.toNat / 16) / 16) = x :=
      ofNat_eq (by omega)
    have second : UInt8.ofNat ((x.toNat % 4 * 16 + y.toNat / 16) % 16 * 16 + y.toNat % 16 * 4 / 4) = y :=
      ofNat_eq (by omega)
    have spare : y.toNat % 16 * 4 % 4 = 0 := by omega
    simp only [unpack, spare, ↓reduceIte, first, second]
  | case4 x y z rest ih =>
    have := y.toNat_lt
    have := z.toNat_lt
    have first : UInt8.ofNat (x.toNat / 4 * 4 + (x.toNat % 4 * 16 + y.toNat / 16) / 16) = x :=
      ofNat_eq (by omega)
    have second : UInt8.ofNat ((x.toNat % 4 * 16 + y.toNat / 16) % 16 * 16 +
        (y.toNat % 16 * 4 + z.toNat / 64) / 4) = y := ofNat_eq (by omega)
    have third : UInt8.ofNat ((y.toNat % 16 * 4 + z.toNat / 64) % 4 * 64 + z.toNat % 64) = z :=
      ofNat_eq (by omega)
    simp only [unpack, ih, Option.bind_eq_bind, Option.bind_some, first, second, third]

theorem toNat_ofNat {n : Nat} (lt : n < 256) : (UInt8.ofNat n).toNat = n :=
  UInt8.toNat_ofNat_of_lt' lt

/-- The spare bits being zero, bytes stand for one list of values only. -/
theorem sextets_of_unpack {values : List Nat} (lt : ∀ value ∈ values, value < 64)
    {bytes : List UInt8} (unpacked : unpack values = some bytes) : sextets bytes = values := by
  fun_induction unpack values generalizing bytes with
  | case1 => cases unpacked; rfl
  | case2 => cases unpacked
  | case3 p q spare =>
    cases unpacked
    simp only [List.forall_mem_cons] at lt
    rw [sextets, toNat_ofNat (by omega)]
    simp only [List.cons.injEq, and_true]
    omega
  | case4 => cases unpacked
  | case5 p q r spare =>
    cases unpacked
    simp only [List.forall_mem_cons] at lt
    rw [sextets, toNat_ofNat (by omega), toNat_ofNat (by omega)]
    simp only [List.cons.injEq, and_true]
    omega
  | case6 => cases unpacked
  | case7 p q r s rest ih =>
    simp only [Option.bind_eq_bind, Option.bind_eq_some_iff, Option.some.injEq] at unpacked
    obtain ⟨tail, found, rfl⟩ := unpacked
    simp only [List.forall_mem_cons] at lt
    obtain ⟨_, _, _, _, lt⟩ := lt
    rw [sextets, toNat_ofNat (by omega), toNat_ofNat (by omega), toNat_ofNat (by omega), ih lt found]
    simp only [List.cons.injEq, and_true]
    omega

/-! Characters. -/

variable {a : Alphabet} {bytes : List UInt8} {text : List Char}

/-- Each value has a character of its own, and none of them is the padding. -/
def Alphabet.Sound (a : Alphabet) : Prop :=
  ∀ value < 64, a.value? (a.char value) = some value ∧ a.char value ≠ '='

theorem sound_standard : standard.Sound := by
  unfold Alphabet.Sound
  decide

theorem sound_urlSafe : urlSafe.Sound := by
  unfold Alphabet.Sound
  decide

theorem char_of_value? {c : Char} {value : Nat} (read : a.value? c = some value) :
    value < 64 ∧ a.char value = c := by
  have spelled {n : Nat} (same : n = c.toNat) : Char.ofNat n = c := by rw [same, Char.ofNat_toNat]
  simp only [Alphabet.value?] at read
  split at read
  · cases read
    refine ⟨by omega, ?_⟩
    rw [Alphabet.char, if_pos (by omega), spelled (by omega)]
  split at read
  · cases read
    refine ⟨by omega, ?_⟩
    rw [Alphabet.char, if_neg (by omega), if_pos (by omega), spelled (by omega)]
  split at read
  · cases read
    refine ⟨by omega, ?_⟩
    rw [Alphabet.char, if_neg (by omega), if_neg (by omega), if_pos (by omega), spelled (by omega)]
  split at read
  · next last =>
    cases read
    exact ⟨by decide, last.symm⟩
  split at read
  · next last =>
    cases read
    exact ⟨by decide, last.symm⟩
  · cases read

/-- What is written after the characters of so many values. -/
def Alphabet.ending (a : Alphabet) (length : Nat) : List Char :=
  if a.padded then padding length else []

theorem encodeChars_eq (a : Alphabet) (bytes : List UInt8) :
    a.encodeChars bytes = (sextets bytes).map a.char ++ a.ending (sextets bytes).length := by
  fun_induction sextets bytes with
  | case1 => cases padded : a.padded <;> simp [Alphabet.encodeChars, Alphabet.ending, padding, padded]
  | case2 x => simp [Alphabet.encodeChars, Alphabet.ending, padding]
  | case3 x y => simp [Alphabet.encodeChars, Alphabet.ending, padding]
  | case4 x y z rest ih =>
    have ends : a.ending ((sextets rest).length + 4) = a.ending (sextets rest).length := by
      simp [Alphabet.ending, padding]
    simp [Alphabet.encodeChars, ih, ends]

theorem mapM_value?_map_char (sound : a.Sound) {values : List Nat}
    (lt : ∀ value ∈ values, value < 64) :
    (values.map a.char).mapM a.value? = some values := by
  induction values with
  | nil => rfl
  | cons value rest ih =>
    obtain ⟨first, others⟩ := List.forall_mem_cons.mp lt
    simp [List.mapM_cons, (sound value first).1, ih others]

theorem map_char_of_mapM_value? {values : List Nat} (read : text.mapM a.value? = some values) :
    (∀ value ∈ values, value < 64) ∧ values.map a.char = text := by
  induction text generalizing values with
  | nil => cases read; simp
  | cons c text ih =>
    simp only [List.mapM_cons, Option.pure_def, Option.bind_eq_bind, Option.bind_eq_some_iff,
      Option.some.injEq] at read
    obtain ⟨value, first, rest, others, rfl⟩ := read
    obtain ⟨lt, same⟩ := char_of_value? first
    obtain ⟨all, again⟩ := ih others
    exact ⟨List.forall_mem_cons.mpr ⟨lt, all⟩, by rw [List.map_cons, same, again]⟩

theorem mem_ending {c : Char} {length : Nat} (member : c ∈ a.ending length) : c = '=' := by
  unfold Alphabet.ending padding at member
  split at member
  · split at member <;> simp_all
  · cases member

theorem decode?_eq (a : Alphabet) (text : List Char) :
    a.decode? text =
      if text.dropWhile (· != '=') = a.ending (text.takeWhile (· != '=')).length then
        (text.takeWhile (· != '=')).mapM a.value? >>= unpack
      else none := by
  rw [Alphabet.decode?, List.span_eq_takeWhile_dropWhile]
  rfl

theorem decode?_encodeChars (sound : a.Sound) (bytes : List UInt8) :
    a.decode? (a.encodeChars bytes) = some bytes := by
  have lt := sextets_lt bytes
  have body : ∀ c ∈ (sextets bytes).map a.char, (c != '=') = true := by
    rintro _ member
    obtain ⟨value, value_mem, rfl⟩ := List.mem_map.mp member
    simpa using (sound value (lt value value_mem)).2
  have stops : ∀ c ∈ (a.ending (sextets bytes).length).head?, (c != '=') = false := by
    intro c first
    simpa using mem_ending (List.mem_of_mem_head? first)
  rw [encodeChars_eq, decode?_eq, List.takeWhile_append_of_pos body, List.dropWhile_append_of_pos body]
  cases ends : a.ending (sextets bytes).length with
  | nil =>
    simp [ends, mapM_value?_map_char sound lt, unpack_sextets]
  | cons c rest =>
    have stop := stops c (by simp [ends])
    simp [stop, ends, mapM_value?_map_char sound lt, unpack_sextets]

theorem eq_encodeChars_of_decode? (read : a.decode? text = some bytes) :
    text = a.encodeChars bytes := by
  rw [decode?_eq] at read
  split at read
  · next ends =>
    obtain ⟨values, found, unpacked⟩ := Option.bind_eq_some_iff.mp read
    obtain ⟨lt, spelled⟩ := map_char_of_mapM_value? found
    have length : values.length = (text.takeWhile (· != '=')).length := by
      rw [← spelled, List.length_map]
    rw [encodeChars_eq, sextets_of_unpack lt unpacked, spelled, length, ← ends,
      List.takeWhile_append_dropWhile]
  · cases read

theorem decode?_eq_some_iff (sound : a.Sound) :
    a.decode? text = some bytes ↔ text = a.encodeChars bytes :=
  ⟨eq_encodeChars_of_decode?, fun same => same ▸ decode?_encodeChars sound bytes⟩

theorem exists_char_of_mem (bare : a.padded = false) {c : Char} (member : c ∈ a.encodeChars bytes) :
    ∃ value < 64, a.char value = c := by
  rw [encodeChars_eq, Alphabet.ending, bare, if_neg Bool.false_ne_true, List.append_nil] at member
  obtain ⟨value, written, same⟩ := List.mem_map.mp member
  exact ⟨value, sextets_lt bytes value written, same⟩

end GrantKeeper.Base64
