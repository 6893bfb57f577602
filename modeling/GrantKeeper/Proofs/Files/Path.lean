import GrantKeeper.Files.Path

/-! The names on a path. -/
namespace GrantKeeper.Path

theorem notMem_of_mem_splitOn {α : Type} [BEq α] [LawfulBEq α] {a : α} {l piece : List α}
    (member : piece ∈ l.splitOn a) : a ∉ piece := by
  induction l generalizing piece with
  | nil =>
    obtain rfl : piece = [] := by simpa using member
    exact List.not_mem_nil
  | cons b rest ih =>
    rw [List.splitOn_cons_eq_if_modifyHead] at member
    split at member
    · rcases List.mem_cons.mp member with rfl | member
      · exact List.not_mem_nil
      · exact ih member
    · next other =>
      cases pieces : rest.splitOn a with
      | nil => simp [pieces] at member
      | cons first others =>
        rw [pieces, List.modifyHead_cons, List.mem_cons] at member
        rcases member with rfl | member
        · have first_ : a ∉ first := ih (by simp [pieces])
          have different : a ≠ b := by
            rintro rfl
            simp at other
          simp [different, first_]
        · exact ih (by simp [pieces, member])

theorem notMem_of_mem_names {path name : String} (member : name ∈ names path) : '/' ∉ name.toList := by
  obtain ⟨piece, kept, rfl⟩ := List.mem_map.mp member
  rw [String.toList_ofList]
  exact notMem_of_mem_splitOn (List.mem_filter.mp kept).1

theorem names_append (directory name : String) :
    names (directory ++ "/" ++ name) = names directory ++ names name := by
  have text : (directory ++ "/" ++ name).toList = directory.toList ++ '/' :: name.toList := by simp
  rw [names, text, List.splitOn_append_cons_self, List.filter_append, List.map_append]
  rfl

theorem names_of_notMem {name : String} (named : name ≠ "") (single : '/' ∉ name.toList) :
    names name = [name] := by
  rw [names, List.splitOn_eq_singleton single]
  simp [named]

theorem getLast?_names_join (directory : String) {name : String} (named : name ≠ "")
    (single : '/' ∉ name.toList) : (names (join directory name)).getLast? = some name := by
  rw [join]
  split
  · rw [names_of_notMem named single]
    rfl
  split
  · next ends =>
    obtain ⟨front, text⟩ : ['/'] <:+ directory.toList := by
      rw [String.endsWith_eq_endsWith_toSlice, String.Slice.endsWith_string_iff] at ends
      simpa using ends
    obtain rfl : String.ofList front ++ "/" = directory := String.toList_inj.mp (by simpa using text)
    rw [names_append, names_of_notMem named single, List.getLast?_concat]
  · rw [names_append, names_of_notMem named single, List.getLast?_concat]

theorem eq_of_append_eq {above other name name_ : String} (single : '/' ∉ name.toList)
    (single_ : '/' ∉ name_.toList) (same : above ++ "/" ++ name = other ++ "/" ++ name_) :
    name = name_ := by
  have last (front back : String) (single : '/' ∉ back.toList) :
      ((front ++ "/" ++ back).toList.splitOn '/').getLast? = some back.toList := by
    have text : (front ++ "/" ++ back).toList = front.toList ++ '/' :: back.toList := by simp
    rw [text, List.splitOn_append_cons_self, List.splitOn_eq_singleton single, List.getLast?_concat]
  have lasts := (last above name single).symm.trans (same ▸ last other name_ single_)
  exact String.toList_inj.mp (Option.some.inj lasts)

end GrantKeeper.Path
