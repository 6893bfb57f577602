/-! Finite maps from texts, kept as a list in the order of the keys. Two maps with the same
entries are equal, and listing the keys gives them by code point, which is also the order of
their UTF-8 bytes. -/
namespace GrantKeeper

def insertInOrder (key : String) (value : α) : List (String × α) → List (String × α)
  | [] => [(key, value)]
  | entry :: rest =>
    if key < entry.1 then (key, value) :: entry :: rest
    else if key = entry.1 then (key, value) :: rest
    else entry :: insertInOrder key value rest

theorem mem_insertInOrder {key : String} {value : α} {entries : List (String × α)}
    {entry : String × α} (h : entry ∈ insertInOrder key value entries) :
    entry = (key, value) ∨ entry ∈ entries := by
  induction entries with
  | nil => simpa [insertInOrder] using h
  | cons first rest ih =>
    simp only [insertInOrder] at h
    split at h
    · simpa using h
    · split at h
      · rcases List.mem_cons.1 h with h | h
        · exact .inl h
        · exact .inr (List.mem_cons_of_mem _ h)
      · rcases List.mem_cons.1 h with h | h
        · exact .inr (h ▸ List.mem_cons_self)
        · exact (ih h).imp id (List.mem_cons_of_mem _)

theorem key_lt_of_not_lt {a b : String} (h : ¬a < b) (ne : a ≠ b) : b < a :=
  Std.lt_of_le_of_ne (Std.not_lt.1 h) (Ne.symm ne)

theorem pairwise_insertInOrder {key : String} {value : α} {entries : List (String × α)}
    (h : entries.Pairwise (·.1 < ·.1)) : (insertInOrder key value entries).Pairwise (·.1 < ·.1) := by
  induction entries with
  | nil => simp [insertInOrder]
  | cons first rest ih =>
    obtain ⟨front, tail⟩ := List.pairwise_cons.1 h
    simp only [insertInOrder]
    split
    · next lt =>
      refine List.pairwise_cons.2 ⟨fun entry mem => ?_, h⟩
      rcases List.mem_cons.1 mem with rfl | mem
      · exact lt
      · exact String.lt_trans lt (front entry mem)
    · next not_lt =>
      split
      · next eq => exact List.pairwise_cons.2 ⟨fun entry mem => eq ▸ front entry mem, tail⟩
      · next ne =>
        refine List.pairwise_cons.2 ⟨fun entry mem => ?_, ih tail⟩
        rcases mem_insertInOrder mem with rfl | mem
        · exact key_lt_of_not_lt not_lt ne
        · exact front entry mem

/-- A finite map from texts, its entries in key order. -/
structure StringMap (α : Type) where
  entries : List (String × α)
  ordered : entries.Pairwise (·.1 < ·.1) := by simp

namespace StringMap

instance : EmptyCollection (StringMap α) := ⟨⟨[], .nil⟩⟩
instance : Inhabited (StringMap α) := ⟨∅⟩

theorem ext {a b : StringMap α} (h : a.entries = b.entries) : a = b := by
  cases a; cases b; cases h; rfl

def get? (map : StringMap α) (key : String) : Option α :=
  (map.entries.find? (·.1 == key)).map (·.2)

def insert (map : StringMap α) (key : String) (value : α) : StringMap α :=
  ⟨insertInOrder key value map.entries, pairwise_insertInOrder map.ordered⟩

def erase (map : StringMap α) (key : String) : StringMap α :=
  ⟨map.entries.filter (·.1 != key), map.ordered.filter _⟩

def keys (map : StringMap α) : List String := map.entries.map (·.1)

/-- The map of a list of entries, of which the last one with a key counts. -/
def ofList (entries : List (String × α)) : StringMap α :=
  entries.foldl (fun map entry => map.insert entry.1 entry.2) ∅

end StringMap
end GrantKeeper
