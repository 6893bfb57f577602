import Mathlib.Data.List.DropRight
import Mathlib.Data.List.TakeDrop
import Mathlib.Data.List.TakeWhile
import GrantKeeper.Text.Blank

/-! Texts taken apart: what stands before, between and after the copies of a character, and what is left
of a text without its beginning or end. -/
namespace GrantKeeper.Text

variable {c : Char} {front text rest : List Char}

/-! Pieces. -/

theorem pieces_of_notMem (absent : c ∉ text) : pieces c text = [text] := by
  induction text with
  | nil => rfl
  | cons d text ih =>
    obtain ⟨differs, absent⟩ := not_or.mp (mt List.mem_cons.mpr absent)
    rw [pieces, if_neg (Ne.symm differs), ih absent]

theorem pieces_append (absent : c ∉ front) (rest : List Char) :
    pieces c (front ++ c :: rest) = front :: pieces c rest := by
  induction front with
  | nil => rw [List.nil_append, pieces, if_pos rfl]
  | cons d front ih =>
    obtain ⟨differs, absent⟩ := not_or.mp (mt List.mem_cons.mpr absent)
    rw [List.cons_append, pieces, if_neg (Ne.symm differs), ih absent]

/-- The first piece ends where the text does, or at a copy of the character with the other pieces
behind it. -/
theorem of_pieces_eq_cons {first : List Char} {more : List (List Char)}
    (split : pieces c text = first :: more) :
    c ∉ first ∧ (more = [] ∧ text = first ∨ ∃ rest, text = first ++ c :: rest ∧ pieces c rest = more) := by
  by_cases member : c ∈ text
  · obtain ⟨front, rest, rfl, absent⟩ := List.eq_append_cons_of_mem member
    rw [pieces_append absent] at split
    cases split
    exact ⟨absent, .inr ⟨rest, rfl, rfl⟩⟩
  · rw [pieces_of_notMem member] at split
    cases split
    exact ⟨member, .inl ⟨rfl, rfl⟩⟩

theorem pieces_intercalate {parts : List (List Char)} (some_ : parts ≠ [])
    (absent : ∀ part ∈ parts, c ∉ part) : pieces c ([c].intercalate parts) = parts := by
  induction parts with
  | nil => exact absurd rfl some_
  | cons part parts ih =>
    obtain ⟨first, others⟩ := List.forall_mem_cons.mp absent
    cases parts with
    | nil => rw [List.intercalate_singleton, pieces_of_notMem first]
    | cons next parts =>
      rw [List.intercalate_cons_cons, List.append_assoc, List.singleton_append, pieces_append first,
        ih (by simp) others]

theorem splitFirst_append (before after : String) (absent : c ∉ before.toList) :
    splitFirst c (before ++ String.singleton c ++ after) = some (before, after) := by
  have passes : ∀ d ∈ before.toList, (d != c) = true := fun d member =>
    bne_iff_ne.mpr fun same => absent (same ▸ member)
  have divided : (before ++ String.singleton c ++ after).toList.span (· != c) =
      (before.toList, c :: after.toList) := by
    rw [List.span_eq_takeWhile_dropWhile]
    simp [List.takeWhile_append_of_pos passes, List.dropWhile_append_of_pos passes]
  rw [splitFirst, divided]
  simp

/-! Beginnings and ends. -/

theorem stripFront?_eq_some_iff : stripFront? front text = some rest ↔ text = front ++ rest := by
  induction front generalizing text with
  | nil => simp [stripFront?]
  | cons p front ih =>
    cases text with
    | nil => simp [stripFront?]
    | cons d text =>
      by_cases same : p = d
      · simp [stripFront?, same, ih]
      · simp [stripFront?, same, Ne.symm same]

theorem after?_append (front rest : String) : after? front (front ++ rest) = some rest := by
  have stripped : stripFront? front.toList (front ++ rest).toList = some rest.toList :=
    stripFront?_eq_some_iff.mpr (by simp)
  rw [after?, stripped, Option.map_some, String.ofList_toList]

theorem after?_eq_none {front text : String} (differs : text.startsWith front = false) :
    after? front text = none := by
  rw [after?, Option.map_eq_none_iff, Option.eq_none_iff_forall_ne_some]
  intro rest stripped
  have begins : text.startsWith front :=
    String.startsWith_string_iff.mpr ⟨rest, (stripFront?_eq_some_iff.mp stripped).symm⟩
  rw [begins] at differs
  cases differs

theorem before?_append (front back : String) : before? back (front ++ back) = some front := by
  have stripped : stripFront? back.toList.reverse (front ++ back).toList.reverse =
      some front.toList.reverse := stripFront?_eq_some_iff.mpr (by simp)
  rw [before?, stripped, Option.map_some, List.reverse_reverse, String.ofList_toList]

theorem trimEndOf_append (absent : c ∉ text) (n : Nat) :
    trimEndOf c (String.ofList (text ++ List.replicate n c)) = String.ofList text := by
  have copies : ∀ d ∈ List.replicate n c, (d == c) = true := fun d member =>
    beq_iff_eq.mpr (List.eq_of_mem_replicate member)
  have kept : text.reverse.dropWhile (· == c) = text.reverse := by
    rw [List.dropWhile_eq_self_iff]
    intro some_ same
    exact absent (beq_iff_eq.mp same ▸ List.mem_reverse.mp (List.getElem_mem some_))
  rw [trimEndOf, String.toList_ofList, List.reverse_append, List.reverse_replicate,
    List.dropWhile_append_of_pos copies, kept, List.reverse_reverse]

theorem exists_trimEndOf (c : Char) (text : String) :
    ∃ n, text.toList = (trimEndOf c text).toList ++ List.replicate n c := by
  refine ⟨(text.toList.reverse.takeWhile (· == c)).length, ?_⟩
  have copies : text.toList.reverse.takeWhile (· == c) =
      List.replicate (text.toList.reverse.takeWhile (· == c)).length c := by
    refine List.eq_replicate_of_mem fun d member => ?_
    have passes : (d == c) = true := List.mem_takeWhile_imp (p := fun d => d == c) member
    exact beq_iff_eq.mp passes
  rw [← List.reverse_inj, trimEndOf, String.toList_ofList, List.reverse_append, List.reverse_replicate,
    List.reverse_reverse, ← copies, List.takeWhile_append_dropWhile]

/-! Blanks around a text. -/

theorem trim_eq (text : String) :
    trim text = String.ofList ((text.toList.dropWhile isBlank).rdropWhile isBlank) := rfl

theorem trim_trim (text : String) : trim (trim text) = trim text := by
  have cut : (text.toList.dropWhile isBlank).rdropWhile isBlank <+: text.toList.dropWhile isBlank :=
    List.rdropWhile_prefix _ _
  have begun : ((text.toList.dropWhile isBlank).rdropWhile isBlank).dropWhile isBlank =
      (text.toList.dropWhile isBlank).rdropWhile isBlank := by
    rw [List.dropWhile_eq_self_iff]
    intro some_
    rw [cut.getElem some_]
    exact List.dropWhile_get_zero_not _ _ _
  rw [trim_eq, trim_eq, String.toList_ofList, begun, List.rdropWhile_idempotent]

end GrantKeeper.Text
