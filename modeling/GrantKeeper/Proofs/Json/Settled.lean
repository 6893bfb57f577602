import GrantKeeper.Proofs.Json.Assembly
import GrantKeeper.Proofs.Json.Integers
import GrantKeeper.Proofs.StringMap

/-! Values that printing does not change: their numbers are integers and their members are in order. Every
value that is read from whole numbers is one, and it is read again from what is printed of it. -/
namespace GrantKeeper.Json

open Utf8 (bytes)

/-! Whole numbers. -/

/-- All numbers are integers that are read exactly. -/
def Whole (lexemes : List Lexeme) : Prop :=
  ∀ written, .numeral written ∈ lexemes → ∃ n, integer? written = some n ∧ Fits n

theorem mem_itemLexemes {lexeme : Lexeme} (notComma : lexeme ≠ .comma) {items : List Tree} :
    lexeme ∈ itemLexemes items ↔ ∃ tree ∈ items, lexeme ∈ tree.lexemes := by
  induction items with
  | nil => simp [itemLexemes]
  | cons tree rest ih =>
    cases rest with
    | nil => simp [itemLexemes]
    | cons next rest =>
      rw [itemLexemes]
      · simp [ih, notComma]
      · simp

theorem mem_memberLexemes {lexeme : Lexeme} (notComma : lexeme ≠ .comma) (notColon : lexeme ≠ .colon)
    {members : List (List UInt8 × Tree)} : lexeme ∈ memberLexemes members ↔
      ∃ member ∈ members, lexeme = .text member.1 ∨ lexeme ∈ member.2.lexemes := by
  induction members with
  | nil => simp [memberLexemes]
  | cons member rest ih =>
    cases rest with
    | nil => simp [memberLexemes, notColon]
    | cons next rest =>
      rw [memberLexemes]
      · simp [ih, notComma, notColon, or_assoc]
      · simp

theorem whole_iff {α : Type} {lexemes : List Lexeme} {parts : List α} (tree : α → Tree)
    (numerals : ∀ written, .numeral written ∈ lexemes ↔
      ∃ part ∈ parts, .numeral written ∈ (tree part).lexemes) :
    Whole lexemes ↔ ∀ part ∈ parts, Whole (tree part).lexemes := by
  constructor
  · intro whole part member written numeral
    exact whole written ((numerals written).mpr ⟨part, member, numeral⟩)
  · intro whole written numeral
    obtain ⟨part, member, numeral⟩ := (numerals written).mp numeral
    exact whole part member written numeral

theorem whole_array {items : List Tree} :
    Whole (Tree.array items).lexemes ↔ ∀ tree ∈ items, Whole tree.lexemes :=
  whole_iff id fun written => by simp [Tree.lexemes, mem_itemLexemes]

theorem whole_object {members : List (List UInt8 × Tree)} :
    Whole (Tree.object members).lexemes ↔ ∀ member ∈ members, Whole member.2.lexemes :=
  whole_iff Prod.snd fun written => by simp [Tree.lexemes, mem_memberLexemes]

/-! Values by their parts. -/

theorem ofTree?_array_eq_some {items : List Tree} {value : Value} :
    Value.ofTree? (.array items) = some value ↔
      ∃ values, itemsOf? items = some values ∧ .array values = value := by
  rw [Value.ofTree?, Option.map_eq_map, Option.map_eq_some_iff]

theorem ofTree?_object_eq_some {members : List (List UInt8 × Tree)} {value : Value} :
    Value.ofTree? (.object members) = some value ↔ ∃ values, membersOf? members = some values ∧
      .object (StringMap.ofList values).entries = value := by
  rw [Value.ofTree?, Option.map_eq_map, Option.map_eq_some_iff]

theorem itemsOf?_cons_eq_some {tree : Tree} {rest : List Tree} {values : List Value} :
    itemsOf? (tree :: rest) = some values ↔ ∃ value others, Value.ofTree? tree = some value ∧
      itemsOf? rest = some others ∧ value :: others = values := by
  simp only [itemsOf?, Option.bind_eq_bind, Option.bind_eq_some_iff, Option.map_eq_map,
    Option.map_eq_some_iff, exists_and_left]

theorem membersOf?_cons_eq_some {key : List UInt8} {tree : Tree} {rest : List (List UInt8 × Tree)}
    {values : List (String × Value)} : membersOf? ((key, tree) :: rest) = some values ↔
      ∃ name value others, text? key = some name ∧ Value.ofTree? tree = some value ∧
        membersOf? rest = some others ∧ (name, value) :: others = values := by
  simp only [membersOf?, Option.bind_eq_bind, Option.bind_eq_some_iff, Option.map_eq_map,
    Option.map_eq_some_iff, exists_and_left]

/-! Values that are settled. -/

/-- A value nests at most so deep, its numbers are integers of 64 bits, and members stand in the order of
their keys. -/
inductive Value.Settled : Nat → Value → Prop
  | null {depth : Nat} : Settled depth .null
  | bool {depth : Nat} (value : Bool) : Settled depth (.bool value)
  | integer {depth : Nat} {n : Int} (fits : Fits n) : Settled depth (.number (.integer n))
  | text {depth : Nat} (value : String) : Settled depth (.text value)
  | array {depth : Nat} {items : List Value} (settled : ∀ item ∈ items, Settled depth item) :
    Settled (depth + 1) (.array items)
  | object {depth : Nat} {members : List (String × Value)} (ordered : members.Pairwise (·.1 < ·.1))
      (settled : ∀ member ∈ members, Settled depth member.2) : Settled (depth + 1) (.object members)

mutual
theorem settled_of_ofTree? : ∀ (tree : Tree) {value : Value} {depth : Nat}, Whole tree.lexemes →
    tree.depth ≤ depth → Value.ofTree? tree = some value → value.Settled depth
  | .null, _, _, _, _, read => by
    cases read
    exact .null
  | .bool truth, _, _, _, _, read => by
    cases read
    exact .bool truth
  | .numeral written, _, _, whole, _, read => by
    obtain ⟨n, integer, fits⟩ := whole written (by simp [Tree.lexemes])
    rw [Value.ofTree?, ofWritten?_of_integer? integer fits] at read
    cases read
    exact .integer fits
  | .text written, _, _, _, _, read => by
    rw [Value.ofTree?, Option.map_eq_map] at read
    obtain ⟨text, -, rfl⟩ := Option.map_eq_some_iff.mp read
    exact .text text
  | .array items, _, 0, _, shallow, _ => by simp [Tree.depth] at shallow
  | .array items, _, depth + 1, whole, shallow, read => by
    obtain ⟨values, listed, rfl⟩ := ofTree?_array_eq_some.mp read
    rw [Tree.depth, Nat.add_le_add_iff_right, itemsDepth_le] at shallow
    exact .array (settled_of_itemsOf? items (whole_array.mp whole) shallow listed)
  | .object members, _, 0, _, shallow, _ => by simp [Tree.depth] at shallow
  | .object members, _, depth + 1, whole, shallow, read => by
    obtain ⟨values, listed, rfl⟩ := ofTree?_object_eq_some.mp read
    rw [Tree.depth, Nat.add_le_add_iff_right, membersDepth_le] at shallow
    -- Of the members with one key only the last is kept, so those that are kept are among all.
    have settled := settled_of_membersOf? members (whole_object.mp whole) shallow listed
    exact .object (StringMap.ofList values).ordered fun member kept =>
      settled member (StringMap.mem_of_mem_ofList kept)

theorem settled_of_itemsOf? : ∀ (items : List Tree) {values : List Value} {depth : Nat},
    (∀ tree ∈ items, Whole tree.lexemes) → (∀ tree ∈ items, tree.depth ≤ depth) →
    itemsOf? items = some values → ∀ value ∈ values, value.Settled depth
  | [], _, _, _, _, read => by
    cases read
    simp
  | tree :: rest, _, _, whole, shallow, read => by
    obtain ⟨value, values, first, others, rfl⟩ := itemsOf?_cons_eq_some.mp read
    obtain ⟨whole, wholes⟩ := List.forall_mem_cons.mp whole
    obtain ⟨shallow, shallows⟩ := List.forall_mem_cons.mp shallow
    exact List.forall_mem_cons.mpr ⟨settled_of_ofTree? tree whole shallow first,
      settled_of_itemsOf? rest wholes shallows others⟩

theorem settled_of_membersOf? : ∀ (members : List (List UInt8 × Tree)) {values : List (String × Value)}
    {depth : Nat}, (∀ member ∈ members, Whole member.2.lexemes) →
    (∀ member ∈ members, member.2.depth ≤ depth) → membersOf? members = some values →
    ∀ value ∈ values, value.2.Settled depth
  | [], _, _, _, _, read => by
    cases read
    simp
  | (key, tree) :: rest, _, _, whole, shallow, read => by
    obtain ⟨name, value, values, -, first, others, rfl⟩ := membersOf?_cons_eq_some.mp read
    obtain ⟨whole, wholes⟩ := List.forall_mem_cons.mp whole
    obtain ⟨shallow, shallows⟩ := List.forall_mem_cons.mp shallow
    exact List.forall_mem_cons.mpr ⟨settled_of_ofTree? tree whole shallow first,
      settled_of_membersOf? rest wholes shallows others⟩
end

/-! What is printed of settled values. -/

theorem itemsOf?_treesOf {items : List Value}
    (read : ∀ item ∈ items, Value.ofTree? item.tree = some item) :
    itemsOf? (treesOf items) = some items := by
  induction items with
  | nil => rfl
  | cons item rest ih =>
    obtain ⟨first, others⟩ := List.forall_mem_cons.mp read
    simp [treesOf, itemsOf?, first, ih others]

theorem membersOf?_memberTreesOf {members : List (String × Value)}
    (read : ∀ member ∈ members, Value.ofTree? member.2.tree = some member.2) :
    membersOf? (memberTreesOf members) = some members := by
  induction members with
  | nil => rfl
  | cons member rest ih =>
    obtain ⟨first, others⟩ := List.forall_mem_cons.mp read
    simp [memberTreesOf, membersOf?, text?_escaped, first, ih others]

namespace Value.Settled

variable {depth : Nat} {value : Value}

theorem legible (settled : value.Settled depth) : value.Legible := by
  induction settled with
  | null | bool | text => trivial
  | integer => exact spells_integer _
  | array _ ih => exact legibles_iff.mpr ih
  | object _ _ ih => exact legibleMembers_iff.mpr ih

theorem whole (settled : value.Settled depth) : Whole value.tree.lexemes := by
  induction settled with
  | null | bool | text => simp [Whole, Value.tree, Tree.lexemes]
  | @integer _ n fits =>
    intro written numeral
    obtain rfl : written = bytes (Number.integer n).write := by
      simpa [Value.tree, Tree.lexemes] using numeral
    exact ⟨n, integer?_write n, fits⟩
  | array _ ih =>
    rw [Value.tree, whole_array, treesOf_eq, List.forall_mem_map]
    exact ih
  | object _ _ ih =>
    rw [Value.tree, whole_object, memberTreesOf_eq, List.forall_mem_map]
    exact ih

theorem depth_le (settled : value.Settled depth) : value.tree.depth ≤ depth := by
  induction settled with
  | null | bool | text | integer => simp [Value.tree, Tree.depth]
  | array _ ih =>
    rw [Value.tree, Tree.depth, Nat.add_le_add_iff_right, itemsDepth_le, treesOf_eq, List.forall_mem_map]
    exact ih
  | object _ _ ih =>
    rw [Value.tree, Tree.depth, Nat.add_le_add_iff_right, membersDepth_le, memberTreesOf_eq,
      List.forall_mem_map]
    exact ih

theorem ofTree?_tree (settled : value.Settled depth) : Value.ofTree? value.tree = some value := by
  induction settled with
  | null | bool => simp [Value.tree, Value.ofTree?]
  | text value => simp [Value.tree, Value.ofTree?, text?_escaped]
  | @integer _ n fits => simp [Value.tree, Value.ofTree?, ofWritten?_of_integer? (integer?_write n) fits]
  | array _ ih => simp [Value.tree, Value.ofTree?, itemsOf?_treesOf ih]
  | @object _ members ordered _ ih =>
    have kept := congrArg StringMap.entries (StringMap.ofList_entries ⟨members, ordered⟩)
    simp [Value.tree, Value.ofTree?, membersOf?_memberTreesOf ih, kept]

end Value.Settled

/-! Texts. -/

theorem Value.parse?_eq_some_iff {text : List UInt8} {value : Value} :
    Value.parse? text = some value ↔ ∃ tree : Tree, lexemes? text = some tree.lexemes ∧
      tree.depth ≤ deepest ∧ Value.ofTree? tree = some value := by
  rw [Value.parse?]
  constructor
  · intro parsed
    obtain ⟨lexemes, read, parsed⟩ := Option.bind_eq_some_iff.mp parsed
    split at parsed
    · next shallow =>
      obtain ⟨tree, assembled, decided⟩ := Option.bind_eq_some_iff.mp parsed
      obtain rfl := ofLexemes?_eq_some_iff.mp assembled
      rw [nesting_lexemes] at shallow
      exact ⟨tree, read, shallow, decided⟩
    · cases parsed
  · rintro ⟨tree, read, shallow, decided⟩
    simp [read, nesting_lexemes, shallow, ofLexemes?_lexemes, decided]

/-- Bytes are read as a value, and every number in them is an integer of 64 bits, with a sign or without, none
of them a zero with a sign. -/
structure Reads (body : List UInt8) (value : Value) : Prop where
  parsed : Value.parse? body = some value
  whole : ∀ lexemes, lexemes? body = some lexemes → Whole lexemes

theorem Reads.of_tree {body : List UInt8} {tree : Tree} {value : Value}
    (read : lexemes? body = some tree.lexemes) (shallow : tree.depth ≤ deepest)
    (decided : Value.ofTree? tree = some value) (whole : Whole tree.lexemes) : Reads body value := by
  constructor
  · exact Value.parse?_eq_some_iff.mpr ⟨tree, read, shallow, decided⟩
  · intro lexemes also
    obtain rfl := Option.some.inj (read.symm.trans also)
    exact whole

theorem Reads.settled {body : List UInt8} {value : Value} (reads : Reads body value) :
    value.Settled deepest := by
  obtain ⟨tree, read, shallow, decided⟩ := Value.parse?_eq_some_iff.mp reads.parsed
  exact settled_of_ofTree? tree (reads.whole _ read) shallow decided

theorem Value.Settled.reads_toPretty {value : Value} (settled : value.Settled deepest) :
    Reads (Utf8.encode value.toPretty) value := by
  refine .of_tree ?_ settled.depth_le settled.ofTree?_tree settled.whole
  rw [Value.toPretty, Utf8.encode_eq_bytes, String.toList_ofList]
  exact (spells_pretty value 0 settled.legible).lexemes?

end GrantKeeper.Json
