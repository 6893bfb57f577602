import GrantKeeper.Proofs.Json.Printed

/-! Trees and the lexemes that they are assembled from. The lexemes read so far can be told from what is
assembled of them, so those of a whole text are the lexemes of its tree, and nest as deep as the tree. -/
namespace GrantKeeper.Json

/-! Lexemes that have been read. -/

def spelledItems (done : List Tree) : List Lexeme :=
  done.reverse.flatMap fun tree => tree.lexemes ++ [.comma]

def spelledMembers (done : List (List UInt8 × Tree)) : List Lexeme :=
  done.reverse.flatMap fun (key, tree) => .text key :: .colon :: (tree.lexemes ++ [.comma])

theorem itemLexemes_append (front : List Tree) (last : Tree) :
    itemLexemes (front ++ [last]) = (front.flatMap fun tree => tree.lexemes ++ [.comma]) ++ last.lexemes := by
  induction front with
  | nil => simp [itemLexemes]
  | cons tree front ih =>
    obtain ⟨next, rest, items⟩ := List.exists_cons_of_ne_nil (l := front ++ [last]) (by simp)
    rw [List.cons_append, items, itemLexemes, ← items, ih]
    · simp
    · simp

theorem memberLexemes_append (front : List (List UInt8 × Tree)) (key : List UInt8) (last : Tree) :
    memberLexemes (front ++ [(key, last)]) =
      (front.flatMap fun (key, tree) => .text key :: .colon :: (tree.lexemes ++ [.comma])) ++
        .text key :: .colon :: last.lexemes := by
  induction front with
  | nil => simp [memberLexemes]
  | cons member front ih =>
    obtain ⟨name, tree⟩ := member
    obtain ⟨next, rest, members⟩ := List.exists_cons_of_ne_nil (l := front ++ [(key, last)]) (by simp)
    rw [List.cons_append, members, memberLexemes, ← members, ih]
    · simp
    · simp

def Frame.spelled : Frame → List Lexeme
  | .items done => .openArray :: spelledItems done
  | .member done key => .openObject :: (spelledMembers done ++ [.text key, .colon])

/-- The lexemes of the arrays and objects that stand open, the innermost of which comes first. -/
def spelledAround (around : List Frame) : List Lexeme := around.reverse.flatMap Frame.spelled

/-- The lexemes that have been read. -/
def Assembly.spelled : Assembly → List Lexeme
  | .value _ around => spelledAround around
  | .key _ done around => spelledAround around ++ .openObject :: spelledMembers done
  | .colon done name around => spelledAround around ++ .openObject :: (spelledMembers done ++ [.text name])
  | .after tree around => spelledAround around ++ tree.lexemes

theorem spelled_step {assembly later : Assembly} {lexeme : Lexeme}
    (step : assembly.step lexeme = some later) : later.spelled = assembly.spelled ++ [lexeme] := by
  revert step
  fun_cases Assembly.step assembly lexeme
  all_goals
    intro step
    cases step
  -- A closing bracket makes a tree of what was collected latest first, so the last item goes to the end.
  all_goals
    simp [Assembly.spelled, spelledAround, Frame.spelled, Tree.lexemes, spelledItems, spelledMembers,
      itemLexemes, itemLexemes_append, memberLexemes, memberLexemes_append]

theorem spelled_foldlM {lexemes : List Lexeme} {assembly later : Assembly}
    (read : lexemes.foldlM Assembly.step assembly = some later) :
    later.spelled = assembly.spelled ++ lexemes := by
  induction lexemes generalizing assembly with
  | nil =>
    cases read
    simp
  | cons lexeme lexemes ih =>
    rw [List.foldlM_cons, Option.bind_eq_bind] at read
    obtain ⟨next, step, read⟩ := Option.bind_eq_some_iff.mp read
    rw [ih read, spelled_step step, List.append_assoc, List.singleton_append]

theorem ofLexemes?_eq_some_iff {lexemes : List Lexeme} {tree : Tree} :
    Tree.ofLexemes? lexemes = some tree ↔ lexemes = tree.lexemes := by
  constructor
  · intro assembled
    rw [Tree.ofLexemes?, Option.bind_eq_bind] at assembled
    obtain ⟨last, read, finished⟩ := Option.bind_eq_some_iff.mp assembled
    have spelled := spelled_foldlM read
    rw [Assembly.finish.eq_def] at finished
    split at finished
    · cases finished
      simpa [Assembly.spelled, spelledAround] using spelled.symm
    · cases finished
  · rintro rfl
    exact ofLexemes?_lexemes tree

/-! How deep lexemes nest. -/

mutual
/-- How many arrays and objects stand around one another in a tree. -/
def Tree.depth : Tree → Nat
  | .null | .bool _ | .numeral _ | .text _ => 0
  | .array items => itemsDepth items + 1
  | .object members => membersDepth members + 1

def itemsDepth : List Tree → Nat
  | [] => 0
  | tree :: rest => max tree.depth (itemsDepth rest)

def membersDepth : List (List UInt8 × Tree) → Nat
  | [] => 0
  | (_, tree) :: rest => max tree.depth (membersDepth rest)
end

theorem itemsDepth_le {items : List Tree} {depth : Nat} :
    itemsDepth items ≤ depth ↔ ∀ tree ∈ items, tree.depth ≤ depth := by
  induction items with
  | nil => simp [itemsDepth]
  | cons tree rest ih => rw [itemsDepth, Nat.max_le, ih, List.forall_mem_cons]

theorem membersDepth_le {members : List (List UInt8 × Tree)} {depth : Nat} :
    membersDepth members ≤ depth ↔ ∀ member ∈ members, member.2.depth ≤ depth := by
  induction members with
  | nil => simp [membersDepth]
  | cons member rest ih => rw [membersDepth, Nat.max_le, ih, List.forall_mem_cons]

def level : Nat × Nat → Lexeme → Nat × Nat := fun (deepest, depth) lexeme =>
  match lexeme with
  | .openArray | .openObject => (max deepest (depth + 1), depth + 1)
  | .closeArray | .closeObject => (deepest, depth - 1)
  | _ => (deepest, depth)

theorem nesting_eq (lexemes : List Lexeme) : nesting lexemes = (lexemes.foldl level (0, 0)).1 := rfl

mutual
/-- A tree is left at the depth at which it is entered, after going as deep as the tree does. -/
theorem foldl_level : ∀ (tree : Tree) (deepest depth : Nat), depth ≤ deepest →
    tree.lexemes.foldl level (deepest, depth) = (max deepest (depth + tree.depth), depth)
  | .null, _, _, below | .bool _, _, _, below | .numeral _, _, _, below | .text _, _, _, below => by
    simp [Tree.lexemes, Tree.depth, level, Nat.max_eq_left below]
  | .array items, deepest, depth, below => by
    have inner := foldl_level_items items (max deepest (depth + 1)) (depth + 1) (Nat.le_max_right _ _)
    simp only [Tree.lexemes, List.foldl_cons, List.foldl_append, List.foldl_nil, level, inner, Tree.depth,
      Nat.add_sub_cancel, Prod.mk.injEq, and_true]
    omega
  | .object members, deepest, depth, below => by
    have inner := foldl_level_members members (max deepest (depth + 1)) (depth + 1) (Nat.le_max_right _ _)
    simp only [Tree.lexemes, List.foldl_cons, List.foldl_append, List.foldl_nil, level, inner, Tree.depth,
      Nat.add_sub_cancel, Prod.mk.injEq, and_true]
    omega

theorem foldl_level_items : ∀ (items : List Tree) (deepest depth : Nat), depth ≤ deepest →
    (itemLexemes items).foldl level (deepest, depth) = (max deepest (depth + itemsDepth items), depth)
  | [], _, _, below => by simp [itemLexemes, itemsDepth, Nat.max_eq_left below]
  | [tree], deepest, depth, below => by
    simpa [itemLexemes, itemsDepth] using foldl_level tree deepest depth below
  | tree :: next :: rest, deepest, depth, below => by
    have first := foldl_level tree deepest depth below
    have others := foldl_level_items (next :: rest) (max deepest (depth + tree.depth)) depth (by omega)
    rw [itemLexemes]
    · simp [first, level, others, itemsDepth, Nat.max_assoc]
    · simp

theorem foldl_level_members : ∀ (members : List (List UInt8 × Tree)) (deepest depth : Nat),
    depth ≤ deepest → (memberLexemes members).foldl level (deepest, depth) =
      (max deepest (depth + membersDepth members), depth)
  | [], _, _, below => by simp [memberLexemes, membersDepth, Nat.max_eq_left below]
  | [(key, tree)], deepest, depth, below => by
    simpa [memberLexemes, membersDepth, level] using foldl_level tree deepest depth below
  | (key, tree) :: next :: rest, deepest, depth, below => by
    have first := foldl_level tree deepest depth below
    have others := foldl_level_members (next :: rest) (max deepest (depth + tree.depth)) depth (by omega)
    rw [memberLexemes]
    · simp [first, level, others, membersDepth, Nat.max_assoc]
    · simp
end

theorem nesting_lexemes (tree : Tree) : nesting tree.lexemes = tree.depth := by
  rw [nesting_eq, foldl_level tree 0 0 (Nat.le_refl 0)]
  simp

end GrantKeeper.Json
