import GrantKeeper.Files.Tree
import GrantKeeper.Proofs.Files.Path
import GrantKeeper.Proofs.StringMap

/-! What the operations on a tree of files leave as it is. A path goes on leading where it leads as long
as the directories stay, and no operation but the move of a directory takes one away. -/
namespace GrantKeeper.Files.Tree

variable {tree between after : Tree} {path name next : String} {goal : Place}
  {content : List UInt8} {node : Node}

/-- The file at a full path: its content and the access that it gives. -/
def file? (tree : Tree) (path : String) : Option (List UInt8 × Nat) :=
  match tree.node? path with
  | some (.file content mode) => some (content, mode)
  | _ => none

theorem file?_of_node? {mode : Nat} (there : tree.node? path = some (.file content mode)) :
    tree.file? path = some (content, mode) := by
  rw [file?, there]

theorem file?_of_directory (there : tree.node? path = some .directory) : tree.file? path = none := by
  rw [file?, there]

theorem node?_root (tree : Tree) {path : String} (root : path.isEmpty) :
    tree.node? path = some .directory := by
  rw [node?, if_pos root]

theorem node?_put_self (free : tree.node? path ≠ some .directory) :
    (tree.put path node).node? path = some node := by
  have below : ¬path.isEmpty := fun root => free (tree.node?_root root)
  rw [node?, if_neg below, put, StringMap.get?_insert_self]

theorem node?_put_of_ne {other : String} (different : other ≠ path) :
    (tree.put path node).node? other = tree.node? other := by
  rw [node?, node?, put, StringMap.get?_insert_of_ne _ different]

theorem file?_put_of_ne {other : String} (different : other ≠ path) :
    (tree.put path node).file? other = tree.file? other := by
  rw [file?, file?, node?_put_of_ne different]

/-! Where paths lead. -/

/-- The directories of one tree are in another, in which paths start from the same one. -/
structure KeepsDirectories (tree after : Tree) : Prop where
  current : after.current = tree.current
  directory : ∀ path, tree.node? path = some .directory → after.node? path = some .directory

theorem KeepsDirectories.refl (tree : Tree) : KeepsDirectories tree tree :=
  ⟨rfl, fun _ there => there⟩

theorem KeepsDirectories.trans (first : KeepsDirectories tree between)
    (second : KeepsDirectories between after) : KeepsDirectories tree after :=
  ⟨second.current.trans first.current, fun path there => second.directory path (first.directory path there)⟩

theorem keepsDirectories_put (free : tree.node? path ≠ some .directory) :
    KeepsDirectories tree (tree.put path node) where
  current := rfl
  directory other there := by
    have different : other ≠ path := fun same => free (same ▸ there)
    rw [node?_put_of_ne different, there]

theorem KeepsDirectories.walk (keeps : KeepsDirectories tree after)
    (walked : tree.walk path name = .ok next) : after.walk path name = .ok next := by
  cases there : tree.node? path with
  | none => simp [Tree.walk, there] at walked
  | some node =>
    cases node with
    | file content mode => simp [Tree.walk, there] at walked
    | directory =>
      rw [Tree.walk, there] at walked
      rw [Tree.walk, keeps.directory path there]
      exact walked

theorem KeepsDirectories.foldlM_walk (keeps : KeepsDirectories tree after) (names : List String) :
    ∀ {path next : String}, names.foldlM tree.walk path = .ok next →
      names.foldlM after.walk path = .ok next := by
  induction names with
  | nil => exact fun walked => walked
  | cons name rest ih =>
    intro path next walked
    rw [List.foldlM_cons] at walked ⊢
    cases step : tree.walk path name with
    | error error =>
      rw [step] at walked
      cases walked
    | ok middle =>
      rw [step] at walked
      rw [keeps.walk step]
      exact ih walked

def startOf (tree : Tree) (path : String) : String := if path.startsWith "/" then "" else tree.current

def Nameable (path : String) : Prop :=
  '\x00' ∉ path.toList ∧ path ≠ "" ∧ path.utf8ByteSize < 4096

theorem place_eq_ok : tree.place path = .ok goal ↔
    Nameable path ∧ (Path.names path).foldlM tree.walk (tree.startOf path) = .ok goal.path ∧
      goal.asDirectory = (path.endsWith "/" || path.endsWith "/." || path == ".") := by
  have unfolded : tree.place path =
      if '\x00' ∈ path.toList then .error .nulInName
      else if path = "" then .error .missing
      else if 4096 ≤ path.utf8ByteSize then .error .nameTooLong
      else ((Path.names path).foldlM tree.walk (tree.startOf path)).map
        (⟨·, path.endsWith "/" || path.endsWith "/." || path == "."⟩) := by
    rw [place, startOf]
    simp only [List.contains_eq_mem, decide_eq_true_eq, String.isEmpty_iff]
    split
    · rfl
    split
    · rfl
    split <;> rfl
  rw [unfolded, Nameable]
  split
  · next nul => simp [nul]
  split
  · next none => simp [none]
  split
  · next long =>
    refine iff_of_false (by simp) ?_
    rintro ⟨⟨-, -, short⟩, -⟩
    omega
  · next text named long =>
    have short : path.utf8ByteSize < 4096 := by omega
    obtain ⟨full, asDirectory⟩ := goal
    cases (Path.names path).foldlM tree.walk (tree.startOf path) with
    | error error => simp [Except.map]
    | ok other => simp [Except.map, text, named, short, eq_comm]

theorem KeepsDirectories.place (keeps : KeepsDirectories tree after)
    (leads : tree.place path = .ok goal) : after.place path = .ok goal := by
  obtain ⟨nameable, walked, kind⟩ := place_eq_ok.mp leads
  have start : after.startOf path = tree.startOf path := by rw [startOf, startOf, keeps.current]
  exact place_eq_ok.mpr ⟨nameable, start ▸ keeps.foldlM_walk _ walked, kind⟩

/-- A path leads to a full path, whether or not anything is there. -/
def LeadsTo (tree : Tree) (path full : String) : Prop :=
  ∃ goal, tree.place path = .ok goal ∧ goal.path = full

theorem KeepsDirectories.leadsTo {full : String} (keeps : KeepsDirectories tree after)
    (leads : tree.LeadsTo path full) : after.LeadsTo path full := by
  obtain ⟨goal, leads, rfl⟩ := leads
  exact ⟨goal, keeps.place leads, rfl⟩

theorem LeadsTo.eq_append {full : String} (leads : tree.LeadsTo path full)
    (last : (Path.names path).getLast? = some name) (not_here : name ≠ ".") (not_up : name ≠ "..") :
    ∃ above, full = above ++ "/" ++ name := by
  obtain ⟨goal, leads, rfl⟩ := leads
  obtain ⟨-, walked, -⟩ := place_eq_ok.mp leads
  obtain ⟨front, split⟩ := List.getLast?_eq_some_iff.mp last
  rw [split, List.foldlM_append] at walked
  cases first : front.foldlM tree.walk (tree.startOf path) with
  | error error =>
    rw [first] at walked
    cases walked
  | ok middle =>
    rw [first] at walked
    have step : tree.walk middle name = .ok goal.path := by
      rw [← walked]
      cases next : tree.walk middle name <;> simp [Bind.bind, Except.bind, pure, Except.pure, next]
    rw [walk] at step
    cases there : tree.node? middle with
    | none => simp [there] at step
    | some node =>
      cases node with
      | file => simp [there] at step
      | directory =>
        simp only [there, beq_iff_eq, not_here, not_up, if_false] at step
        split at step
        · cases step
        · exact ⟨middle, (Except.ok.inj step).symm⟩

/-! What each operation does when it succeeds. -/

theorem read_eq_ok : tree.read path = .ok content ↔ ∃ full mode,
    tree.place path = .ok ⟨full, false⟩ ∧ tree.file? full = some (content, mode) := by
  rw [read]
  cases tree.place path with
  | error error => simp [Bind.bind, Except.bind]
  | ok goal =>
    obtain ⟨full, asDirectory⟩ := goal
    simp only [Bind.bind, Except.bind, Except.ok.injEq, Place.mk.injEq]
    rcases there : tree.node? full with _ | _ | ⟨held, mode⟩
    · simp [file?, there, throw, throwThe, MonadExceptOf.throw]
    · simp [file?, there, throw, throwThe, MonadExceptOf.throw]
    · cases asDirectory <;>
        simp [file?, there, throw, throwThe, MonadExceptOf.throw, pure, Except.pure]

theorem of_write (written : tree.write path content = .ok after) : ∃ goal mode,
    tree.place path = .ok goal ∧ tree.node? goal.path ≠ some .directory ∧
      after = tree.put goal.path (.file content mode) := by
  rw [write] at written
  cases leads : tree.place path with
  | error error =>
    rw [leads] at written
    cases written
  | ok goal =>
    rw [leads] at written
    simp only [Bind.bind, Except.bind] at written
    split at written
    · cases written
    rcases there : tree.node? goal.path with _ | _ | ⟨held, mode⟩
    · rw [there] at written
      exact ⟨goal, newMode, rfl, by simp [there], (Except.ok.inj written).symm⟩
    · rw [there] at written
      cases written
    · rw [there] at written
      exact ⟨goal, mode, rfl, by simp [there], (Except.ok.inj written).symm⟩

theorem of_restrict (restricted : tree.restrict path = .ok after) : ∃ goal,
    tree.place path = .ok goal ∧
      (after = tree ∧ tree.file? goal.path = none ∨
        ∃ held mode, tree.node? goal.path = some (.file held mode) ∧
          after = tree.put goal.path (.file held ownerMode)) := by
  rw [restrict] at restricted
  cases leads : tree.place path with
  | error error =>
    rw [leads] at restricted
    cases restricted
  | ok goal =>
    rw [leads] at restricted
    simp only [Bind.bind, Except.bind] at restricted
    refine ⟨goal, rfl, ?_⟩
    rcases there : tree.node? goal.path with _ | _ | ⟨held, mode⟩
    · rw [there] at restricted
      cases restricted
    · rw [there] at restricted
      exact .inl ⟨(Except.ok.inj restricted).symm, file?_of_directory there⟩
    · rw [there] at restricted
      exact .inr ⟨held, mode, rfl, (Except.ok.inj restricted).symm⟩

/-- A tree in which a node was moved from one full path to another. -/
def moved (tree : Tree) (source target : String) (node : Node) : Tree :=
  { tree with nodes := (tree.nodes.erase source).insert target node }

theorem of_rename {new : String} (renamed : tree.rename path new = .ok after) :
    ∃ source target node, tree.place path = .ok source ∧ tree.place new = .ok target ∧
      tree.node? source.path = some node ∧ target.asDirectory = false ∧
      tree.node? target.path ≠ some .directory ∧ after = tree.moved source.path target.path node := by
  rw [rename] at renamed
  cases from_ : tree.place path with
  | error error =>
    rw [from_] at renamed
    cases renamed
  | ok source =>
    cases to_ : tree.place new with
    | error error =>
      rw [from_, to_] at renamed
      cases renamed
    | ok target =>
      rw [from_, to_] at renamed
      simp only [Bind.bind, Except.bind] at renamed
      split at renamed
      · cases renamed
      cases there : tree.node? source.path with
      | none =>
        rw [there] at renamed
        cases renamed
      | some node =>
        rw [there] at renamed
        simp only at renamed
        split at renamed
        · cases renamed
        split at renamed
        · cases renamed
        next file free =>
        refine ⟨source, target, node, rfl, rfl, there, by simpa using file, free, ?_⟩
        exact (Except.ok.inj renamed).symm

theorem node?_moved_self {source target : String} (free : tree.node? target ≠ some .directory) :
    (tree.moved source target node).node? target = some node := by
  have below : ¬target.isEmpty := fun root => free (tree.node?_root root)
  rw [node?, if_neg below, moved, StringMap.get?_insert_self]

theorem node?_moved_of_ne {source target other : String} (not_source : other ≠ source)
    (not_target : other ≠ target) :
    (tree.moved source target node).node? other = tree.node? other := by
  rw [node?, node?, moved, StringMap.get?_insert_of_ne _ not_target,
    StringMap.get?_erase_of_ne _ not_source]

theorem file?_moved_of_ne {source target other : String} (not_source : other ≠ source)
    (not_target : other ≠ target) :
    (tree.moved source target node).file? other = tree.file? other := by
  rw [file?, file?, node?_moved_of_ne not_source not_target]

theorem keepsDirectories_moved {source target : String} (file : tree.node? source ≠ some .directory)
    (free : tree.node? target ≠ some .directory) :
    KeepsDirectories tree (tree.moved source target node) where
  current := rfl
  directory other there := by
    have not_source : other ≠ source := fun same => file (same ▸ there)
    have not_target : other ≠ target := fun same => free (same ▸ there)
    rw [node?_moved_of_ne not_source not_target, there]

/-! Making directories. -/

/-- A tree has become another by new directories only. -/
structure Grows (tree after : Tree) : Prop where
  keeps : KeepsDirectories tree after
  file : ∀ path, after.file? path = tree.file? path

theorem Grows.refl (tree : Tree) : Grows tree tree := ⟨.refl tree, fun _ => rfl⟩

theorem Grows.trans (first : Grows tree between) (second : Grows between after) : Grows tree after :=
  ⟨first.keeps.trans second.keeps, fun path => (second.file path).trans (first.file path)⟩

theorem of_makeDirectory (made : tree.makeDirectory path = .ok after) : Grows tree after := by
  rw [makeDirectory] at made
  cases leads : tree.place path with
  | error error =>
    rw [leads] at made
    cases made
  | ok goal =>
    rw [leads] at made
    simp only [Bind.bind, Except.bind] at made
    split at made
    · cases made
    next absent =>
    have free : tree.node? goal.path = none := by simpa using absent
    obtain rfl := Except.ok.inj made
    refine ⟨keepsDirectories_put (by simp [free]), fun other => ?_⟩
    by_cases same : other = goal.path
    · subst same
      rw [file?_of_directory (node?_put_self (by simp [free])), file?, free]
    · exact file?_put_of_ne same

theorem run_bind {α β : Type} (first : StateM Tree α) (next : α → StateM Tree β) (tree : Tree) :
    (first >>= next).run tree = (next (first.run tree).1).run (first.run tree).2 := rfl

theorem run_change (f : Tree → Except FileError Tree) (tree : Tree) :
    (change f).run tree =
      match f tree with
      | .ok after => (.ok (), after)
      | .error error => (.error error, tree) := by
  rw [change, run_bind]
  simp only [StateT.run_get]
  cases f tree <;> rfl

theorem change_ok {f : Tree → Except FileError Tree} (ran : (change f).run tree = (.ok (), after)) :
    f tree = .ok after := by
  rw [run_change] at ran
  cases changed : f tree with
  | error error =>
    rw [changed] at ran
    cases ran
  | ok other =>
    rw [changed] at ran
    cases ran
    rfl

theorem grows_ensureDirectory (path : String) (tree : Tree) :
    Grows tree ((ensureDirectory path).run tree).2 := by
  rw [ensureDirectory, run_bind, run_change]
  cases made : tree.makeDirectory path with
  | ok after => exact of_makeDirectory made
  | error error => exact .refl tree

theorem grows_ensureAll (paths : List String) :
    ∀ tree, Grows tree ((ensureAll paths).run tree).2 := by
  induction paths with
  | nil => exact fun tree => .refl tree
  | cons path above ih =>
    intro tree
    have first := grows_ensureDirectory path tree
    rw [ensureAll, run_bind]
    split
    · rw [run_bind]
      have upper := first.trans (ih _)
      split
      · exact upper.trans (grows_ensureDirectory path _)
      · exact upper
    · exact first

end GrantKeeper.Files.Tree
