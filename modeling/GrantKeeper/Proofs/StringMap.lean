import GrantKeeper.StringMap

/-! Lookups in changed maps, and maps listed and put together again. -/
namespace GrantKeeper

variable {α : Type}

theorem find?_insertInOrder_self (key : String) (value : α) (entries : List (String × α)) :
    (insertInOrder key value entries).find? (·.1 == key) = some (key, value) := by
  induction entries with
  | nil => simp [insertInOrder]
  | cons first rest ih =>
    simp only [insertInOrder]
    split
    · simp
    · split
      · simp
      · next differs =>
        rw [List.find?_cons_of_neg (by simpa using Ne.symm differs)]
        exact ih

theorem find?_insertInOrder_of_ne {key other : String} (different : other ≠ key) (value : α)
    (entries : List (String × α)) :
    (insertInOrder key value entries).find? (·.1 == other) = entries.find? (·.1 == other) := by
  have skipped : (key == other) = false := by simpa using Ne.symm different
  induction entries with
  | nil => simpa [insertInOrder] using Ne.symm different
  | cons first rest ih =>
    simp only [insertInOrder]
    split
    · simp only [List.find?_cons, skipped]
    · split
      · next same => simp only [List.find?_cons, ← same, skipped]
      · simp only [List.find?_cons, ih]

theorem insertInOrder_last {key : String} (value : α) {entries : List (String × α)}
    (behind : ∀ entry ∈ entries, entry.1 < key) :
    insertInOrder key value entries = entries ++ [(key, value)] := by
  induction entries with
  | nil => rfl
  | cons first rest ih =>
    have before := behind first List.mem_cons_self
    have not_lt : ¬key < first.1 := fun lt => String.lt_irrefl key (String.lt_trans lt before)
    have differs : key ≠ first.1 := fun same => String.lt_irrefl _ (same ▸ before)
    rw [insertInOrder, if_neg not_lt, if_neg differs, List.cons_append,
      ih fun entry member => behind entry (List.mem_cons_of_mem _ member)]

namespace StringMap

@[simp] theorem get?_empty (key : String) : (∅ : StringMap α).get? key = none := rfl

@[simp] theorem get?_insert_self (map : StringMap α) (key : String) (value : α) :
    (map.insert key value).get? key = some value := by
  simp [get?, insert, find?_insertInOrder_self]

theorem get?_insert_of_ne (map : StringMap α) {key other : String} (different : other ≠ key)
    (value : α) : (map.insert key value).get? other = map.get? other := by
  simp [get?, insert, find?_insertInOrder_of_ne different]

theorem get?_insert (map : StringMap α) (key other : String) (value : α) :
    (map.insert key value).get? other = if other = key then some value else map.get? other := by
  split
  · next same => rw [same, get?_insert_self]
  · next different => exact get?_insert_of_ne map different value

@[simp] theorem get?_erase_self (map : StringMap α) (key : String) :
    (map.erase key).get? key = none := by
  simp [get?, erase]

theorem get?_erase_of_ne (map : StringMap α) {key other : String} (different : other ≠ key) :
    (map.erase key).get? other = map.get? other := by
  have kept : (fun entry : String × α => decide (entry.1 != key ∧ entry.1 == other)) =
      (·.1 == other) := by
    funext entry
    by_cases same : entry.1 = other <;> simp [same, different]
  rw [get?, get?, erase, List.find?_filter, kept]

theorem isSome_get?_iff (map : StringMap α) (key : String) :
    (map.get? key).isSome ↔ key ∈ map.keys := by
  simp [get?, keys]

theorem nodup_keys (map : StringMap α) : map.keys.Nodup := by
  rw [keys, List.Nodup, List.pairwise_map]
  refine map.ordered.imp fun {a b} lt same => ?_
  rw [same] at lt
  exact String.lt_irrefl b.1 lt

theorem keys_erase (map : StringMap α) (key : String) :
    (map.erase key).keys = map.keys.filter (· != key) := by
  simp [keys, erase, List.filter_map, Function.comp_def]

theorem erase_of_notMem (map : StringMap α) {key : String} (absent : key ∉ map.keys) :
    map.erase key = map := by
  apply ext
  rw [erase, List.filter_eq_self]
  intro entry member
  have different : entry.1 ≠ key := fun same => absent (same ▸ List.mem_map_of_mem member)
  simpa using different

theorem eq_empty_of_keys_eq_nil {map : StringMap α} (none : map.keys = []) : map = ∅ :=
  ext (List.map_eq_nil_iff.mp none)

theorem entries_foldl_insert (entries : List (String × α)) :
    ∀ map : StringMap α, (map.entries ++ entries).Pairwise (·.1 < ·.1) →
      (entries.foldl (fun map entry => map.insert entry.1 entry.2) map).entries =
        map.entries ++ entries := by
  induction entries with
  | nil => simp
  | cons entry rest ih =>
    intro map ordered
    have behind : ∀ earlier ∈ map.entries, earlier.1 < entry.1 := fun earlier member =>
      (List.pairwise_append.mp ordered).2.2 earlier member entry List.mem_cons_self
    have inserted : (map.insert entry.1 entry.2).entries = map.entries ++ [entry] :=
      insertInOrder_last entry.2 behind
    rw [List.foldl_cons, ih _ (by simpa [inserted] using ordered), inserted]
    simp

theorem get?_foldl_insert (entries : List (String × α)) (key : String) : ∀ map : StringMap α,
    (entries.foldl (fun map entry => map.insert entry.1 entry.2) map).get? key =
      (entries.reverse.lookup key).or (map.get? key) := by
  induction entries with
  | nil => exact fun map => rfl
  | cons entry rest ih =>
    obtain ⟨name, value⟩ := entry
    intro map
    rw [List.foldl_cons, ih, get?_insert, List.reverse_cons, List.lookup_append, Option.or_assoc]
    by_cases same : key = name
    · simp [same]
    · simp [List.lookup_cons, beq_false_of_ne same, same]

/-- Of the entries with one key the last counts. -/
theorem get?_ofList (entries : List (String × α)) (key : String) :
    (ofList entries).get? key = entries.reverse.lookup key := by
  rw [ofList, get?_foldl_insert, get?_empty, Option.or_none]

theorem mem_foldl_insert {entry : String × α} (entries : List (String × α)) : ∀ map : StringMap α,
    entry ∈ (entries.foldl (fun map entry => map.insert entry.1 entry.2) map).entries →
      entry ∈ entries ∨ entry ∈ map.entries := by
  induction entries with
  | nil => exact fun map => .inr
  | cons first rest ih =>
    intro map member
    rcases ih _ member with member | member
    · exact .inl (List.mem_cons_of_mem first member)
    · rcases mem_insertInOrder member with rfl | member
      · exact .inl List.mem_cons_self
      · exact .inr member

theorem mem_of_mem_ofList {entry : String × α} {entries : List (String × α)}
    (member : entry ∈ (ofList entries).entries) : entry ∈ entries :=
  (mem_foldl_insert entries ∅ member).resolve_right List.not_mem_nil

theorem ofList_entries (map : StringMap α) : ofList map.entries = map := by
  apply ext
  rw [ofList, entries_foldl_insert map.entries ∅ map.ordered]
  rfl

end StringMap
end GrantKeeper
