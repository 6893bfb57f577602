import GrantKeeper.Json.Value
import GrantKeeper.Proofs.Json.Text

/-! Printed values read back. Both printers spell the same lexemes, which are those of one tree,
and the assembly of these lexemes is that tree. -/
namespace GrantKeeper.Json

open Utf8 (bytes)

mutual
def Tree.lexemes : Tree → List Lexeme
  | .null => [.null]
  | .bool value => [.bool value]
  | .numeral written => [.numeral written]
  | .text written => [.text written]
  | .array items => .openArray :: (itemLexemes items ++ [.closeArray])
  | .object members => .openObject :: (memberLexemes members ++ [.closeObject])

def itemLexemes : List Tree → List Lexeme
  | [] => []
  | [tree] => tree.lexemes
  | tree :: rest => tree.lexemes ++ .comma :: itemLexemes rest

def memberLexemes : List (List UInt8 × Tree) → List Lexeme
  | [] => []
  | [(key, tree)] => .text key :: .colon :: tree.lexemes
  | (key, tree) :: rest => .text key :: .colon :: (tree.lexemes ++ .comma :: memberLexemes rest)
end

/-! The assembly of a tree's lexemes is the tree. -/

mutual
theorem foldlM_lexemes : ∀ (tree : Tree) (opened : Bool) (around : List Frame),
    tree.lexemes.foldlM Assembly.step (.value opened around) = some (.after tree around)
  | .null, _, _ | .bool _, _, _ | .numeral _, _, _ | .text _, _, _ => by
    simp [Tree.lexemes, Assembly.step]
  | .array [], _, _ => by simp [Tree.lexemes, itemLexemes, Assembly.step]
  | .array (tree :: rest), _, around => by
    have items := foldlM_itemLexemes (tree :: rest) (by simp) true [] around
    simp only [Tree.lexemes, List.foldlM_cons, Assembly.step, Option.bind_eq_bind, Option.bind_some]
    simpa using items
  | .object [], _, _ => by simp [Tree.lexemes, memberLexemes, Assembly.step]
  | .object (member :: rest), _, around => by
    have members := foldlM_memberLexemes (member :: rest) (by simp) true [] around
    simp only [Tree.lexemes, List.foldlM_cons, Assembly.step, Option.bind_eq_bind, Option.bind_some]
    simpa using members

theorem foldlM_itemLexemes : ∀ (items : List Tree), items ≠ [] →
    ∀ (opened : Bool) (done : List Tree) (around : List Frame),
    (itemLexemes items ++ [Lexeme.closeArray]).foldlM Assembly.step (.value opened (.items done :: around)) =
      some (.after (.array (done.reverse ++ items)) around)
  | [], nonempty, _, _, _ => absurd rfl nonempty
  | [tree], _, opened, done, around => by
    rw [itemLexemes, List.foldlM_append, foldlM_lexemes tree]
    simp [Assembly.step]
  | tree :: next :: rest, _, opened, done, around => by
    have tail := foldlM_itemLexemes (next :: rest) (by simp) false (tree :: done) around
    rw [itemLexemes, List.append_assoc, List.foldlM_append, foldlM_lexemes tree]
    · simpa [Assembly.step] using tail
    · simp

theorem foldlM_memberLexemes : ∀ (members : List (List UInt8 × Tree)), members ≠ [] →
    ∀ (opened : Bool) (done : List (List UInt8 × Tree)) (around : List Frame),
    (memberLexemes members ++ [Lexeme.closeObject]).foldlM Assembly.step (.key opened done around) =
      some (.after (.object (done.reverse ++ members)) around)
  | [], nonempty, _, _, _ => absurd rfl nonempty
  | [(key, tree)], _, opened, done, around => by
    have value := foldlM_lexemes tree false (.member done key :: around)
    simp [memberLexemes, Assembly.step, value]
  | (key, tree) :: next :: rest, _, opened, done, around => by
    have value := foldlM_lexemes tree false (.member done key :: around)
    have tail := foldlM_memberLexemes (next :: rest) (by simp) false ((key, tree) :: done) around
    rw [memberLexemes]
    · simpa [Assembly.step, value] using tail
    · simp
end

theorem ofLexemes?_lexemes (tree : Tree) : Tree.ofLexemes? tree.lexemes = some tree := by
  simp [Tree.ofLexemes?, foldlM_lexemes, Assembly.finish]

/-! Texts that spell lexemes. -/

def Lexer.run (lexer : Lexer) (text : List UInt8) : Option (List Lexeme) :=
  text.foldlM Lexer.step lexer >>= Lexer.finish

/-- A text after which a value may end: the end, a comma, a closing bracket or a new line. -/
def Delimited (text : List UInt8) : Prop := ∀ b ∈ text.head?, b ∈ [0x2C, 0x5D, 0x7D, 0x0A]

/-- A text is read as lexemes wherever a value may end after it. -/
def Spells (text : List UInt8) (lexemes : List Lexeme) : Prop :=
  ∀ done rest, Delimited rest →
    Lexer.run ⟨.between, done⟩ (text ++ rest) = Lexer.run ⟨.between, lexemes.reverse ++ done⟩ rest

/-- A text is read as lexemes whatever follows. -/
def Stands (text : List UInt8) (lexemes : List Lexeme) : Prop :=
  ∀ done, text.foldlM Lexer.step ⟨.between, done⟩ = some ⟨.between, lexemes.reverse ++ done⟩

theorem Stands.run {text : List UInt8} {lexemes : List Lexeme} (stands : Stands text lexemes)
    (done : List Lexeme) (rest : List UInt8) :
    Lexer.run ⟨.between, done⟩ (text ++ rest) = Lexer.run ⟨.between, lexemes.reverse ++ done⟩ rest := by
  simp [Lexer.run, List.foldlM_append, stands done]

theorem Stands.spells {text : List UInt8} {lexemes : List Lexeme} (stands : Stands text lexemes) :
    Spells text lexemes := fun done rest _ => stands.run done rest

theorem Stands.append {a b : List UInt8} {l m : List Lexeme} (first : Stands a l)
    (second : Stands b m) : Stands (a ++ b) (l ++ m) := by
  intro done
  rw [List.foldlM_append, first done, Option.bind_eq_bind, Option.bind_some, second]
  simp

theorem Stands.append_spells {a b : List UInt8} {l m : List Lexeme} (first : Stands a l)
    (second : Spells b m) : Spells (a ++ b) (l ++ m) := by
  intro done rest delimited
  rw [List.append_assoc, first.run, second _ _ delimited]
  simp

/-- A value ends before a text that begins with a delimiter. -/
theorem Spells.append {a b : List UInt8} {l m : List Lexeme} (first : Spells a l)
    (second : Spells b m) (delimited : ∀ rest, Delimited (b ++ rest)) :
    Spells (a ++ b) (l ++ m) := by
  intro done rest ends
  rw [List.append_assoc, first _ _ (delimited rest), second _ _ ends]
  simp

theorem Spells.lexemes? {text : List UInt8} {lexemes : List Lexeme} (spells : Spells text lexemes) :
    lexemes? text = some lexemes := by
  have whole := spells [] [] (by simp [Delimited])
  simpa [Lexer.run, Lexer.finish, Json.lexemes?] using whole

theorem stands_quote (text : String) :
    Stands (bytes (quote text)) [.text (bytes (escaped text.toList))] :=
  fun done => by simpa using foldlM_quote text done

theorem stands_comma : Stands (bytes [',']) [.comma] := fun _ => rfl

theorem stands_spaces (n : Nat) : Stands (bytes (List.replicate n ' ')) [] := by
  induction n with
  | zero => exact fun _ => rfl
  | succ n ih =>
    rw [List.replicate_succ, Utf8.bytes_cons]
    exact Stands.append (l := []) (fun _ => rfl) ih

theorem stands_newLine (depth : Nat) : Stands (bytes (newLine depth)) [] := by
  rw [newLine, Utf8.bytes_cons]
  exact Stands.append (l := []) (fun _ => rfl) (stands_spaces _)

/-! What the printers write. -/

mutual
/-- A value whose numbers are all read as numerals. -/
def Value.Legible : Value → Prop
  | .number value => Spells (bytes value.write) [.numeral (bytes value.write)]
  | .array items => Legibles items
  | .object members => LegibleMembers members
  | .null | .bool _ | .text _ => True

def Legibles : List Value → Prop
  | [] => True
  | value :: rest => value.Legible ∧ Legibles rest

def LegibleMembers : List (String × Value) → Prop
  | [] => True
  | (_, value) :: rest => value.Legible ∧ LegibleMembers rest
end

theorem legibles_iff {items : List Value} : Legibles items ↔ ∀ item ∈ items, item.Legible := by
  induction items with
  | nil => simp [Legibles]
  | cons item rest ih => simp [Legibles, ih]

theorem legibleMembers_iff {members : List (String × Value)} :
    LegibleMembers members ↔ ∀ member ∈ members, member.2.Legible := by
  induction members with
  | nil => simp [LegibleMembers]
  | cons member rest ih => simp [LegibleMembers, ih]

mutual
/-- The tree that a printed value is. -/
def Value.tree : Value → Tree
  | .null => .null
  | .bool value => .bool value
  | .number value => .numeral (bytes value.write)
  | .text value => .text (bytes (escaped value.toList))
  | .array items => .array (treesOf items)
  | .object members => .object (memberTreesOf members)

def treesOf : List Value → List Tree
  | [] => []
  | value :: rest => value.tree :: treesOf rest

def memberTreesOf : List (String × Value) → List (List UInt8 × Tree)
  | [] => []
  | (key, value) :: rest => (bytes (escaped key.toList), value.tree) :: memberTreesOf rest
end

theorem treesOf_eq (items : List Value) : treesOf items = items.map Value.tree := by
  induction items with
  | nil => rfl
  | cons item rest ih => rw [treesOf, ih, List.map_cons]

theorem memberTreesOf_eq (members : List (String × Value)) :
    memberTreesOf members = members.map fun (key, value) => (bytes (escaped key.toList), value.tree) := by
  induction members with
  | nil => rfl
  | cons member rest ih => rw [memberTreesOf, ih, List.map_cons]

theorem stands_word {value : Value} (simple : value = .null ∨ ∃ b, value = .bool b) :
    Stands (bytes value.compact) value.tree.lexemes ∧ ∀ depth, value.pretty depth = value.compact := by
  rcases simple with rfl | ⟨b, rfl⟩
  · exact ⟨fun _ => rfl, fun _ => rfl⟩
  · cases b <;> exact ⟨fun _ => rfl, fun _ => rfl⟩

theorem stands_key (key : String) (blanks : Nat) :
    Stands (bytes (quote key ++ ':' :: List.replicate blanks ' '))
      [.text (bytes (escaped key.toList)), .colon] := by
  have colon : Stands (bytes (':' :: List.replicate blanks ' ')) [.colon] := by
    rw [Utf8.bytes_cons]
    exact Stands.append (l := [.colon]) (fun _ => rfl) (stands_spaces blanks)
  rw [Utf8.bytes_append]
  exact (stands_quote key).append colon

theorem delimited_cons {c : Char} (delimits : bytes [c] ∈ [[0x2C], [0x5D], [0x7D], [0x0A]])
    (text : List Char) (rest : List UInt8) : Delimited (bytes (c :: text) ++ rest) := by
  have encoded : bytes (c :: text) = bytes [c] ++ bytes text := Utf8.bytes_append [c] text
  rw [encoded]
  simp only [List.mem_cons, List.not_mem_nil, or_false] at delimits
  rcases delimits with h | h | h | h <;> simp [h, Delimited]

mutual
theorem spells_compact : ∀ value : Value, value.Legible →
    Spells (bytes value.compact) value.tree.lexemes
  | .null, _ => (stands_word (.inl rfl)).1.spells
  | .bool b, _ => (stands_word (.inr ⟨b, rfl⟩)).1.spells
  | .number value, legible => by
    simpa only [Value.Legible, Value.compact, Value.tree, Tree.lexemes] using legible
  | .text text, _ => (stands_quote text).spells
  | .array items, legible => by
    have closing : Stands (bytes [']']) [.closeArray] := fun _ => rfl
    have inner := (spells_compactItems items legible).append closing.spells
      (delimited_cons (by decide) [])
    have whole := Stands.append_spells (a := bytes ['[']) (l := [.openArray]) (fun _ => rfl) inner
    simpa [Value.compact, Value.tree, Tree.lexemes, Utf8.bytes_cons] using whole
  | .object members, legible => by
    have closing : Stands (bytes ['\x7d']) [.closeObject] := fun _ => rfl
    have inner := (spells_compactMembers members legible).append closing.spells
      (delimited_cons (by decide) [])
    have whole := Stands.append_spells (a := bytes ['\x7b']) (l := [.openObject]) (fun _ => rfl) inner
    simpa [Value.compact, Value.tree, Tree.lexemes, Utf8.bytes_cons] using whole

theorem spells_compactItems : ∀ items : List Value, Legibles items →
    Spells (bytes (compactItems items)) (itemLexemes (treesOf items))
  | [], _ => Stands.spells fun _ => rfl
  | [value], legible => spells_compact value legible.1
  | value :: next :: rest, legible => by
    have tail := stands_comma.append_spells (spells_compactItems (next :: rest) legible.2)
    rw [← Utf8.bytes_append] at tail
    have whole := (spells_compact value legible.1).append tail (delimited_cons (by decide) _)
    simpa [compactItems, treesOf, itemLexemes] using whole

theorem spells_compactMembers : ∀ members : List (String × Value), LegibleMembers members →
    Spells (bytes (compactMembers members)) (memberLexemes (memberTreesOf members))
  | [], _ => Stands.spells fun _ => rfl
  | [(key, value)], legible => by
    have whole := (stands_key key 0).append_spells (spells_compact value legible.1)
    simpa [compactMembers, memberTreesOf, memberLexemes, Utf8.bytes_cons] using whole
  | (key, value) :: next :: rest, legible => by
    have tail := stands_comma.append_spells (spells_compactMembers (next :: rest) legible.2)
    rw [← Utf8.bytes_append] at tail
    have whole := (stands_key key 0).append_spells
      ((spells_compact value legible.1).append tail (delimited_cons (by decide) _))
    simpa [compactMembers, memberTreesOf, memberLexemes, Utf8.bytes_cons] using whole
end

theorem Spells.indented {text : List UInt8} {lexemes : List Lexeme} (spells : Spells text lexemes)
    (depth : Nat) : Spells (bytes (newLine depth) ++ text) lexemes := by
  simpa using (stands_newLine depth).append_spells spells

theorem stands_closing (depth : Nat) (c : Char) {lexeme : Lexeme}
    (closing : Stands (bytes [c]) [lexeme]) : Stands (bytes (newLine depth ++ [c])) [lexeme] := by
  rw [Utf8.bytes_append]
  exact (stands_newLine depth).append (l := []) closing

theorem delimited_newLine (depth : Nat) (text : List Char) (rest : List UInt8) :
    Delimited (bytes (newLine depth ++ text) ++ rest) :=
  delimited_cons (by decide) _ _

mutual
theorem spells_pretty : ∀ (value : Value) (depth : Nat), value.Legible →
    Spells (bytes (value.pretty depth)) value.tree.lexemes
  | .null, _, _ => (stands_word (.inl rfl)).1.spells
  | .bool b, _, _ => (stands_word (.inr ⟨b, rfl⟩)).1.spells
  | .number value, _, legible => by
    simpa only [Value.Legible, Value.pretty, Value.tree, Tree.lexemes] using legible
  | .text text, _, _ => (stands_quote text).spells
  | .array [], _, _ => Stands.spells fun _ => rfl
  | .array (value :: rest), depth, legible => by
    have closing : Stands _ [.closeArray] := stands_closing depth ']' fun _ => rfl
    have inner := (spells_prettyItems (value :: rest) (depth + 1) legible).append closing.spells
      (delimited_newLine depth _)
    have whole := Stands.append_spells (a := bytes ['[']) (l := [.openArray]) (fun _ => rfl) inner
    simpa [Value.pretty, Value.tree, Tree.lexemes, Utf8.bytes_cons] using whole
  | .object [], _, _ => Stands.spells fun _ => rfl
  | .object (member :: rest), depth, legible => by
    have closing : Stands _ [.closeObject] := stands_closing depth '\x7d' fun _ => rfl
    have inner := (spells_prettyMembers (member :: rest) (depth + 1) legible).append closing.spells
      (delimited_newLine depth _)
    have whole := Stands.append_spells (a := bytes ['\x7b']) (l := [.openObject]) (fun _ => rfl) inner
    simpa [Value.pretty, Value.tree, Tree.lexemes, Utf8.bytes_cons] using whole

theorem spells_prettyItems : ∀ (items : List Value) (depth : Nat), Legibles items →
    Spells (bytes (prettyItems depth items)) (itemLexemes (treesOf items))
  | [], _, _ => Stands.spells fun _ => rfl
  | [value], depth, legible => by
    have whole := (spells_pretty value depth legible.1).indented depth
    simpa [prettyItems, treesOf, itemLexemes] using whole
  | value :: next :: rest, depth, legible => by
    have tail := stands_comma.append_spells (spells_prettyItems (next :: rest) depth legible.2)
    rw [← Utf8.bytes_append] at tail
    have whole := ((spells_pretty value depth legible.1).append tail
      (delimited_cons (by decide) _)).indented depth
    simpa [prettyItems, treesOf, itemLexemes] using whole

theorem spells_prettyMembers : ∀ (members : List (String × Value)) (depth : Nat),
    LegibleMembers members →
    Spells (bytes (prettyMembers depth members)) (memberLexemes (memberTreesOf members))
  | [], _, _ => Stands.spells fun _ => rfl
  | [(key, value)], depth, legible => by
    have whole := ((stands_key key 1).append_spells
      (spells_pretty value depth legible.1)).indented depth
    simpa [prettyMembers, memberTreesOf, memberLexemes, Utf8.bytes_cons] using whole
  | (key, value) :: next :: rest, depth, legible => by
    have tail := stands_comma.append_spells (spells_prettyMembers (next :: rest) depth legible.2)
    rw [← Utf8.bytes_append] at tail
    have whole := ((stands_key key 1).append_spells
      ((spells_pretty value depth legible.1).append tail (delimited_cons (by decide) _))).indented depth
    simpa [prettyMembers, memberTreesOf, memberLexemes, Utf8.bytes_cons] using whole
end

theorem parse?_of_spells {text : List UInt8} {tree : Tree} (spells : Spells text tree.lexemes) :
    Tree.parse? text = some tree := by
  simp [Tree.parse?, spells.lexemes?, ofLexemes?_lexemes]

theorem parse?_toCompact {value : Value} (legible : value.Legible) :
    Tree.parse? (Utf8.encode value.toCompact) = some value.tree := by
  rw [Value.toCompact, Utf8.encode_eq_bytes, String.toList_ofList]
  exact parse?_of_spells (spells_compact value legible)

theorem parse?_toPretty {value : Value} (legible : value.Legible) :
    Tree.parse? (Utf8.encode value.toPretty) = some value.tree := by
  rw [Value.toPretty, Utf8.encode_eq_bytes, String.toList_ofList]
  exact parse?_of_spells (spells_pretty value 0 legible)

end GrantKeeper.Json
