import GrantKeeper.Proofs.Files.Tree
import GrantKeeper.Proofs.Keyring.File

/-! A keyring file whose writes stop anywhere: a call of the file system fails, perhaps after it was
carried out in part, or the process dies in it. -/
namespace GrantKeeper

open Files (Tree)

/-- A computation on a tree of files, as the relation of the tree that it begins with, how it stops, and
the tree that it leaves. It stops in nothing where the process dies. -/
def Risky (α : Type) : Type := Tree → Option α → Tree → Prop

namespace Risky

variable {α β : Type}

instance : Monad Risky where
  pure value tree stop after := stop = some value ∧ after = tree
  bind first next tree stop after :=
    (stop = none ∧ first tree none after) ∨
      ∃ value between, first tree (some value) between ∧ next value between stop after

/-- A call that is answered after it was carried out, or fails or is cut short and then leaves the tree in
one of some states. -/
def call (step : StateM Tree (Except FileError α)) (leaves : Tree → Tree → Prop) :
    Risky (Except FileError α) := fun tree stop after =>
  match stop with
  | some (.ok value) => step.run tree = (.ok value, after)
  | some (.error _) | none => leaves tree after

/-- The calls of a file system. One that is not answered may have made some of the directories, from
above, or may have written the beginning of a content, but it has moved a file as a whole or not at all. -/
def files : Files Risky where
  read path := call (Tree.files.read path) fun tree after => after = tree
  createDirectories path := call (Tree.files.createDirectories path) fun tree after =>
    ∃ above, above <:+ Path.ascending path ∧ after = ((Tree.ensureAll above).run tree).2
  write path content := call (Tree.files.write path content) fun tree after =>
    after = tree ∨ ∃ length, tree.write path (content.take length) = .ok after
  restrict path := call (Tree.files.restrict path) fun tree after =>
    after = tree ∨ tree.restrict path = .ok after
  rename old new := call (Tree.files.rename old new) fun tree after =>
    after = tree ∨ tree.rename old new = .ok after

end Risky

/-- An activity may stop in some way, on a tree, and leave another. -/
def Act.Stops {α : Type} (act : Act Risky α) (tree : Tree) (stop : Option (Except Failure α))
    (after : Tree) : Prop :=
  act.run tree stop after

namespace Act.Stops

variable {α β : Type} {act : Act Risky α} {next : α → Act Risky β} {tree after : Tree}

theorem of_fail {error : Error} {stop : Option (Except Failure α)}
    (stops : (Act.fail error : Act Risky α).Stops tree stop after) :
    stop = some (.error (.error error)) ∧ after = tree := stops

theorem of_bind {stop : Option (Except Failure β)} (stops : (act >>= next).Stops tree stop after) :
    (∃ value between, act.Stops tree (some (.ok value)) between ∧ (next value).Stops between stop after) ∨
      (act.Stops tree none after ∧ stop = none) ∨
      ∃ failure, act.Stops tree (some (.error failure)) after ∧ stop = some (.error failure) := by
  rcases stops with ⟨died, stopped⟩ | ⟨_ | _, between, stopped, rest⟩
  · exact .inr (.inl ⟨stopped, died⟩)
  · obtain ⟨rfl, rfl⟩ := rest
    exact .inr (.inr ⟨_, stopped, rfl⟩)
  · exact .inl ⟨_, between, stopped, rest⟩

theorem step {effect : Risky α} {value : α} (called : effect tree (some value) after) :
    (Act.step effect).Stops tree (some (.ok value)) after :=
  .inr ⟨value, after, called, rfl, rfl⟩

theorem bind {value : α} {between : Tree} {stop : Option (Except Failure β)}
    (first : act.Stops tree (some (.ok value)) between) (rest : (next value).Stops between stop after) :
    (act >>= next).Stops tree stop after :=
  .inr ⟨.ok value, between, first, rest⟩

theorem bind_error {failure : Failure} (stopped : act.Stops tree (some (.error failure)) after) :
    (act >>= next).Stops tree (some (.error failure)) after :=
  .inr ⟨.error failure, after, stopped, rfl, rfl⟩

theorem bind_died (died : act.Stops tree none after) : (act >>= next).Stops tree none after :=
  .inl ⟨rfl, died⟩

end Act.Stops

/-- Whatever an activity does with a tree undisturbed is among what a risky one may do. -/
def Risky.Covers {α : Type} (risky : Act Risky α) (act : Act (StateM Tree) α) : Prop :=
  ∀ tree, risky.Stops tree (some (act.outcome tree).1) (act.outcome tree).2

theorem Risky.Covers.bind {α β : Type} {risky : Act Risky α} {act : Act (StateM Tree) α}
    {next : α → Act Risky β} {next_ : α → Act (StateM Tree) β} (first : Covers risky act)
    (rest : ∀ value, Covers (next value) (next_ value)) : Covers (risky >>= next) (act >>= next_) := by
  intro tree
  have stops := first tree
  rw [Act.outcome_bind]
  rcases ended : act.outcome tree with ⟨failure | value, between⟩ <;> rw [ended] at stops
  · exact .bind_error stops
  · exact .bind stops (rest value between)

namespace FileKeyring

variable {tree between after : Tree} {stop : Option (Except Failure Unit)}
  {step : StateM Tree (Except FileError Unit)} {leaves : Tree → Tree → Prop}

theorem stops_writing {activity : String}
    (stops : (writing activity (Risky.call step leaves)).Stops tree stop after) :
    (stop ≠ some (.ok ()) ∧ leaves tree after) ∨
      (stop = some (.ok ()) ∧ step.run tree = (.ok (), after)) := by
  rcases stops.of_bind with ⟨answer, between, called, rest⟩ | ⟨died, rfl⟩ | ⟨failure, called, rfl⟩
  · rcases called with ⟨⟨⟩, -⟩ | ⟨_, _, called, ⟨⟩, rfl⟩
    cases answer with
    | ok =>
      obtain ⟨rfl, rfl⟩ := rest
      exact .inr ⟨rfl, called⟩
    | error error =>
      obtain ⟨rfl, rfl⟩ := rest.of_fail
      exact .inl ⟨nofun, called⟩
  · rcases died with ⟨-, died⟩ | ⟨_, _, -, ⟨⟩, -⟩
    exact .inl ⟨nofun, died⟩
  · rcases called with ⟨⟨⟩, -⟩ | ⟨_, _, -, ⟨⟩, -⟩

/-- A writing step stops the activity, with the tree that its call left, or the rest goes on from there. -/
theorem stops_writing_bind {activity : String} {rest : Act Risky Unit}
    (stops : (do writing activity (Risky.call step leaves); rest : Act Risky Unit).Stops tree stop after) :
    (stop ≠ some (.ok ()) ∧ leaves tree after) ∨
      ∃ between, step.run tree = (.ok (), between) ∧ rest.Stops between stop after := by
  rcases stops.of_bind with ⟨⟨⟩, between, called, rest⟩ | ⟨died, rfl⟩ | ⟨failure, called, rfl⟩
  · rcases stops_writing called with ⟨failed, -⟩ | ⟨-, called⟩
    · exact absurd rfl failed
    · exact .inr ⟨between, called, rest⟩
  · rcases stops_writing died with ⟨-, left⟩ | ⟨⟨⟩, -⟩
    exact .inl ⟨nofun, left⟩
  · rcases stops_writing called with ⟨-, left⟩ | ⟨⟨⟩, -⟩
    exact .inl ⟨nofun, left⟩

theorem writing_ok {activity : String} (ran : step.run tree = (.ok (), after)) :
    (writing activity (Risky.call step leaves)).Stops tree (some (.ok ())) after := by
  have called : Risky.call step leaves tree (some (.ok ())) after := ran
  exact .bind (.step called) ⟨rfl, rfl⟩

theorem writing_died {activity : String} (left : leaves tree after) :
    (writing activity (Risky.call step leaves)).Stops tree none after :=
  .bind_died (.inl ⟨rfl, left⟩)

/-- A call may be answered as it would be undisturbed, if it may leave what it leaves when it fails. -/
theorem covers_writing (activity : String)
    (left : ∀ tree error, (step.run tree).1 = .error error → leaves tree (step.run tree).2) :
    Risky.Covers (writing activity (Risky.call step leaves)) (writing activity step) := by
  intro tree
  rw [outcome_writing]
  rcases ran : step.run tree with ⟨error | ⟨⟩, after⟩
  · have called : Risky.call step leaves tree (some (.error error)) after := by
      have left := left tree error (by rw [ran])
      rwa [ran] at left
    exact .bind (.step called) ⟨rfl, rfl⟩
  · exact writing_ok ran

theorem covers_write (keyring : FileKeyring) :
    Risky.Covers (FileKeyring.write Risky.files keyring) (FileKeyring.write Tree.files keyring) := by
  have unchanged (f : Tree → Except FileError Tree) (tree : Tree) (error : FileError)
      (failed : ((Tree.change f).run tree).1 = .error error) : ((Tree.change f).run tree).2 = tree := by
    rw [Tree.run_change] at failed ⊢
    cases changed : f tree with
    | ok after =>
      rw [changed] at failed
      cases failed
    | error error => rfl
  simp only [FileKeyring.write]
  cases Path.parent? keyring.path with
  | none => exact fun tree => ⟨rfl, rfl⟩
  | some directory =>
    refine (covers_writing _ fun tree _ _ => ⟨_, List.suffix_refl _, rfl⟩).bind fun _ => ?_
    refine (covers_writing _ fun tree error failed => .inl (unchanged _ tree error failed)).bind fun _ => ?_
    refine (covers_writing _ fun tree error failed => .inl (unchanged _ tree error failed)).bind fun _ => ?_
    exact covers_writing _ fun tree error failed => .inl (unchanged _ tree error failed)

/-! What a write changes beside the file of the keyring. -/

/-- Nothing has changed but the file that a path leads to, and that there may be new directories. -/
structure Aside (beside : String) (tree after : Tree) : Prop where
  keeps : tree.KeepsDirectories after
  file : ∀ full, after.file? full = tree.file? full ∨ after.LeadsTo beside full

variable {path beside : String} {content : List UInt8}

theorem Aside.of_grows (beside : String) (grows : tree.Grows after) : Aside beside tree after :=
  ⟨grows.keeps, fun full => .inl (grows.file full)⟩

theorem Aside.trans (first : Aside beside tree between) (second : Aside beside between after) :
    Aside beside tree after where
  keeps := first.keeps.trans second.keeps
  file full := by
    rcases second.file full with same | leads
    · rw [same]
      exact (first.file full).imp_right second.keeps.leadsTo
    · exact .inr leads

theorem aside_put {goal : Tree.Place} {node : Files.Node} (leads : tree.place beside = .ok goal)
    (free : tree.node? goal.path ≠ some .directory) :
    Aside beside tree (tree.put goal.path node) where
  keeps := Tree.keepsDirectories_put free
  file full := by
    by_cases same : full = goal.path
    · exact .inr ⟨goal, (Tree.keepsDirectories_put free).place leads, same.symm⟩
    · exact .inl (Tree.file?_put_of_ne same)

def Holds (tree : Tree) (path : String) (content : List UInt8) (mode : Nat) : Prop :=
  ∃ goal, tree.place path = .ok goal ∧ tree.node? goal.path = some (.file content mode)

theorem aside_write (written : tree.write beside content = .ok after) :
    Aside beside tree after ∧ ∃ mode, Holds after beside content mode := by
  obtain ⟨goal, mode, leads, free, rfl⟩ := Tree.of_write written
  exact ⟨aside_put leads free, mode, goal, (Tree.keepsDirectories_put free).place leads,
    Tree.node?_put_self free⟩

theorem aside_restrict (restricted : tree.restrict beside = .ok after) : Aside beside tree after := by
  obtain ⟨goal, leads, ⟨rfl, -⟩ | ⟨held, mode, there, rfl⟩⟩ := Tree.of_restrict restricted
  · exact .of_grows beside (.refl after)
  · exact aside_put leads (by simp [there])

theorem Holds.restrict {mode : Nat} (holds : Holds tree beside content mode)
    (restricted : tree.restrict beside = .ok after) : Holds after beside content Tree.ownerMode := by
  obtain ⟨goal, leads, there⟩ := holds
  obtain ⟨other, leads_, changed⟩ := Tree.of_restrict restricted
  obtain rfl := Except.ok.inj (leads_.symm.trans leads)
  rcases changed with ⟨-, none⟩ | ⟨held, mode_, there_, rfl⟩
  · rw [Tree.file?_of_node? there] at none
    cases none
  · obtain ⟨rfl, -⟩ : held = content ∧ mode_ = mode := by simpa [there] using there_.symm
    have free : tree.node? other.path ≠ some .directory := by simp [there]
    exact ⟨other, (Tree.keepsDirectories_put free).place leads, Tree.node?_put_self free⟩

/-! A write that stops anywhere. -/

/-- The file that is written before it takes the keyring's place. -/
def beside? (keyring : FileKeyring) : Option String :=
  (Path.parent? keyring.path).map (temporary · keyring.process)

def complete (entries : Entries) : List UInt8 := Utf8.encode (encode entries)

/-- What a write may leave where it stops: no file has changed but the one beside, and that of the keyring
only if it has the whole new content and is its owner's, which it has if the write ended well. -/
structure Atomic (keyring : FileKeyring) (stop : Option (Except Failure Unit)) (tree after : Tree) :
    Prop where
  keeps : tree.KeepsDirectories after
  file : ∀ full, after.file? full = tree.file? full ∨
    (∃ beside, keyring.beside? = some beside ∧ after.LeadsTo beside full) ∨
    (after.LeadsTo keyring.path full ∧
      after.file? full = some (complete keyring.entries, Tree.ownerMode))
  done : stop = some (.ok ()) → ∃ full, after.place keyring.path = .ok ⟨full, false⟩ ∧
    after.file? full = some (complete keyring.entries, Tree.ownerMode)

variable {keyring : FileKeyring}

theorem Aside.atomic (aside : Aside beside tree after) (named : keyring.beside? = some beside)
    (failed : stop ≠ some (.ok ())) : keyring.Atomic stop tree after where
  keeps := aside.keeps
  file full := (aside.file full).imp_right fun leads => .inl ⟨beside, named, leads⟩
  done ok := absurd ok failed

theorem Aside.atomic_of_rename (aside : Aside beside tree between) (named : keyring.beside? = some beside)
    (holds : Holds between beside (complete keyring.entries) Tree.ownerMode)
    (renamed : between.rename beside keyring.path = .ok after) : keyring.Atomic stop tree after := by
  obtain ⟨goal, leads, there⟩ := holds
  obtain ⟨source, target, node, leads_, leadsTo, there_, kind, free, rfl⟩ := Tree.of_rename renamed
  obtain rfl := Except.ok.inj (leads.symm.trans leads_)
  obtain rfl := Option.some.inj (there.symm.trans there_)
  have file : between.node? goal.path ≠ some .directory := by simp [there]
  have keeps : between.KeepsDirectories (between.moved goal.path target.path
    (.file (complete keyring.entries) Tree.ownerMode)) := Tree.keepsDirectories_moved file free
  have placed : (between.moved goal.path target.path
      (.file (complete keyring.entries) Tree.ownerMode)).file? target.path =
    some (complete keyring.entries, Tree.ownerMode) := Tree.file?_of_node? (Tree.node?_moved_self free)
  refine ⟨aside.keeps.trans keeps, fun full => ?_, fun _ => ?_⟩
  · by_cases at_target : full = target.path
    · subst at_target
      exact .inr (.inr ⟨⟨target, keeps.place leadsTo, rfl⟩, placed⟩)
    by_cases at_source : full = goal.path
    · subst at_source
      exact .inr (.inl ⟨beside, named, goal, keeps.place leads, rfl⟩)
    · rw [Tree.file?_moved_of_ne at_source at_target]
      exact (aside.file full).imp_right fun leads => .inl ⟨beside, named, keeps.leadsTo leads⟩
  · obtain ⟨full, asDirectory⟩ := target
    cases kind
    exact ⟨full, keeps.place leadsTo, placed⟩

theorem atomic_write (stops : (FileKeyring.write Risky.files keyring).Stops tree stop after) :
    keyring.Atomic stop tree after := by
  rw [FileKeyring.write] at stops
  cases parent : Path.parent? keyring.path with
  | none =>
    rw [parent] at stops
    obtain ⟨rfl, rfl⟩ := stops.of_fail
    refine ⟨.refl after, fun _ => .inl rfl, fun ok => ?_⟩
    cases ok
  | some directory =>
    rw [parent] at stops
    have named : keyring.beside? = some (temporary directory keyring.process) := by
      rw [beside?, parent, Option.map_some]
    rcases stops_writing_bind stops with ⟨failed, above, -, rfl⟩ | ⟨grown, made, stops⟩
    · exact (Aside.of_grows _ (Tree.grows_ensureAll above tree)).atomic named failed
    have made_ := Aside.of_grows (temporary directory keyring.process)
      (Tree.grows_ensureAll (Path.ascending directory) tree)
    obtain rfl : ((Tree.ensureAll (Path.ascending directory)).run tree).2 = grown :=
      congrArg Prod.snd made
    rcases stops_writing_bind stops with ⟨failed, rfl | ⟨_, written⟩⟩ | ⟨wrote, written, stops⟩
    · exact made_.atomic named failed
    · exact (made_.trans (aside_write written).1).atomic named failed
    obtain ⟨wrote_, mode, holds⟩ := aside_write (Tree.change_ok written)
    rcases stops_writing_bind stops with ⟨failed, rfl | restricted⟩ | ⟨kept, restricted, stops⟩
    · exact (made_.trans wrote_).atomic named failed
    · exact ((made_.trans wrote_).trans (aside_restrict restricted)).atomic named failed
    have aside := (made_.trans wrote_).trans (aside_restrict (Tree.change_ok restricted))
    have holds := holds.restrict (Tree.change_ok restricted)
    rcases stops_writing stops with ⟨failed, rfl | renamed⟩ | ⟨-, renamed⟩
    · exact aside.atomic named failed
    · exact aside.atomic_of_rename named holds renamed
    · exact aside.atomic_of_rename named holds (Tree.change_ok renamed)

/-- The path of a keyring is not that of the file written beside it: they lead to different places. -/
def Apart (keyring : FileKeyring) : Prop :=
  ∀ beside, keyring.beside? = some beside → ∀ (tree : Tree) (full : String),
    tree.LeadsTo keyring.path full → ¬tree.LeadsTo beside full

theorem notMem_temporary (process : Nat) : '/' ∉ (".keyring.tmp." ++ toString process).toList := by
  have digits : '/' ∉ (toString process).toList := by
    intro member
    have written : toString process = process.repr := rfl
    rw [written, Nat.toList_repr] at member
    exact absurd (Nat.isDigit_of_mem_toDigits (by decide) (by decide) member) (by decide)
  rw [String.toList_append, List.mem_append]
  rintro (front | back)
  · exact absurd front (by decide)
  · exact digits back

theorem apart_of_named {name : String} (last : (Path.names keyring.path).getLast? = some name)
    (not_here : name ≠ ".") (not_up : name ≠ "..")
    (different : name ≠ ".keyring.tmp." ++ toString keyring.process) : keyring.Apart := by
  intro beside named tree full leads leads_
  obtain ⟨directory, -, rfl⟩ := Option.map_eq_some_iff.mp named
  have single := notMem_temporary keyring.process
  have long : 13 ≤ (".keyring.tmp." ++ toString keyring.process).length := by
    rw [String.length_append]
    exact Nat.le_add_right 13 _
  have ne_of_short (short : String) (less : short.length < 13) :
      ".keyring.tmp." ++ toString keyring.process ≠ short := by
    rintro rfl
    omega
  have named_ := Path.getLast?_names_join directory (ne_of_short "" (by decide)) single
  obtain ⟨above, rfl⟩ := leads.eq_append last not_here not_up
  obtain ⟨other, same⟩ := leads_.eq_append named_ (ne_of_short "." (by decide))
    (ne_of_short ".." (by decide))
  have member := List.mem_of_getLast? last
  exact different (Path.eq_of_append_eq (Path.notMem_of_mem_names member) single same)

theorem Atomic.whole {full : String} (atomic : keyring.Atomic stop tree after) (apart : keyring.Apart)
    (leads : after.LeadsTo keyring.path full) :
    after.file? full = tree.file? full ∨
      after.file? full = some (complete keyring.entries, Tree.ownerMode) := by
  rcases atomic.file full with same | ⟨beside, named, leads_⟩ | ⟨-, new⟩
  · exact .inl same
  · exact absurd leads_ (apart beside named after full leads)
  · exact .inr new

/-! Writes one after another. -/

/-- Writes of a keyring file, by any processes, each of which stops anywhere: what was written, and the
tree that is left. -/
inductive Attempts (path : String) (first : Tree) : List Entries → Tree → Prop
  | start : Attempts path first [] first
  | write {written : List Entries} {tree after : Tree} {stop : Option (Except Failure Unit)}
    (process : Nat) (entries : Entries) :
    Attempts path first written tree → Apart ⟨path, process, entries⟩ →
    (FileKeyring.write Risky.files ⟨path, process, entries⟩).Stops tree stop after →
    Attempts path first (written ++ [entries]) after

variable {first : Tree} {written : List Entries}

/-- Each file is as it was at first, or is one that was written beside, or is at the keyring's path and has
some entries in full. -/
theorem Attempts.file (attempts : Attempts path first written tree) (full : String) :
    tree.file? full = first.file? full ∨
    (∃ keyring : FileKeyring, keyring.path = path ∧ keyring.Apart ∧
      ∃ beside, keyring.beside? = some beside ∧ tree.LeadsTo beside full) ∨
    (tree.LeadsTo path full ∧
      ∃ entries ∈ written, tree.file? full = some (complete entries, Tree.ownerMode)) := by
  induction attempts with
  | start => exact .inl rfl
  | @write written tree after stop process entries _ apart stops ih =>
    have atomic := atomic_write stops
    rcases atomic.file full with same | ⟨beside, named, leads⟩ | ⟨leads, new⟩
    · rw [same]
      rcases ih with first_ | ⟨keyring, at_path, apart, beside, named, leads⟩ | ⟨leads, entries, member, old⟩
      · exact .inl first_
      · exact .inr (.inl ⟨keyring, at_path, apart, beside, named, atomic.keeps.leadsTo leads⟩)
      · exact .inr (.inr ⟨atomic.keeps.leadsTo leads, entries, List.mem_append_left _ member, old⟩)
    · exact .inr (.inl ⟨_, rfl, apart, beside, named, leads⟩)
    · exact .inr (.inr ⟨leads, entries, by simp, new⟩)

theorem Attempts.whole {full : String} (attempts : Attempts path first written tree)
    (leads : tree.LeadsTo path full) :
    tree.file? full = first.file? full ∨
      ∃ entries ∈ written, tree.file? full = some (complete entries, Tree.ownerMode) := by
  rcases attempts.file full with same | ⟨keyring, rfl, apart, beside, named, leads_⟩ | ⟨-, new⟩
  · exact .inl same
  · exact absurd leads_ (apart beside named tree full leads)
  · exact .inr new

theorem opens_of_read {entries : Entries} (read : tree.read path = .ok (complete entries)) :
    Opens Tree.files path tree entries := by
  have reads (world : Tree) : ((Tree.files.read path).run world).1 = world.read path := rfl
  rw [opens_iff_of_read reads, read]
  exact found_encode path entries

/-- Wherever writes of a keyring file stop, and so does the last one, the path leads where it led, and
there is the file that was there before, or one with all the new entries that only its owner can access;
it is this if the write ended well. What can then be read there was there at first or is the whole of what
one of the writes wrote, and opening the keyring gives these entries. -/
theorem old_or_new (attempts : Attempts keyring.path first written tree) (apart : keyring.Apart)
    (stops : (FileKeyring.write Risky.files keyring).Stops tree stop after) :
    (∀ full, tree.LeadsTo keyring.path full → after.LeadsTo keyring.path full) ∧
    (∀ full, after.LeadsTo keyring.path full → after.file? full = tree.file? full ∨
      after.file? full = some (complete keyring.entries, Tree.ownerMode)) ∧
    (stop = some (.ok ()) → after.read keyring.path = .ok (complete keyring.entries) ∧
      ∃ full, after.LeadsTo keyring.path full ∧
        after.file? full = some (complete keyring.entries, Tree.ownerMode)) ∧
    ∀ bytes, after.read keyring.path = .ok bytes →
      (∃ full mode, after.LeadsTo keyring.path full ∧ first.file? full = some (bytes, mode)) ∨
      ∃ entries ∈ written ++ [keyring.entries], bytes = complete entries ∧
        Opens Tree.files keyring.path after entries := by
  have atomic := atomic_write stops
  refine ⟨fun _ => atomic.keeps.leadsTo, fun _ => atomic.whole apart, fun ok => ?_, fun bytes read => ?_⟩
  · obtain ⟨full, leads, new⟩ := atomic.done ok
    exact ⟨Tree.read_eq_ok.mpr ⟨full, _, leads, new⟩, full, ⟨_, leads, rfl⟩, new⟩
  · obtain ⟨full, mode, leads, there⟩ := Tree.read_eq_ok.mp read
    have later := attempts.write keyring.process keyring.entries apart stops
    rcases later.whole ⟨_, leads, rfl⟩ with same | ⟨entries, member, new⟩
    · exact .inl ⟨full, mode, ⟨_, leads, rfl⟩, same.symm.trans there⟩
    · obtain ⟨rfl, -⟩ : bytes = complete entries ∧ mode = Tree.ownerMode := by
        simpa [there] using new
      exact .inr ⟨entries, member, rfl, opens_of_read read⟩

/-! A write that dies while it writes, and one after it. -/

/-- A keyring in a directory that is missing at first. -/
def stored : FileKeyring := ⟨"/d/keyring", 7, Disk.stocked⟩

/-- The file beside has a part of the entries. -/
def half : Tree where
  nodes := .ofList [("/d", .directory),
    ("/d/.keyring.tmp.7", .file ((complete Disk.stocked).take 5) Tree.newMode)]

theorem apart_stored : stored.Apart := by
  have last : (Path.names stored.path).getLast? = some "keyring" := by decide +kernel
  exact apart_of_named last (by decide) (by decide) (by decide +kernel)

theorem stops_half : (FileKeyring.write Risky.files stored).Stops {} none half := by
  have parent : Path.parent? stored.path = some "/d" := by decide +kernel
  have makes : (Tree.files.createDirectories "/d").run {} =
      (.ok (), ({ nodes := .ofList [("/d", .directory)] } : Tree)) := by
    with_unfolding_all rfl
  have writes : ({ nodes := .ofList [("/d", .directory)] } : Tree).write (temporary "/d" stored.process)
      ((complete stored.entries).take 5) = .ok half := by
    with_unfolding_all rfl
  simp only [FileKeyring.write, parent]
  exact .bind (writing_ok makes) (.bind_died (writing_died (.inr ⟨5, writes⟩)))

/-- After a write that died with a part of the file beside, there is no keyring file. The next write ends
well, and opening the keyring gives all entries. -/
theorem found_after_crash : ∃ after,
    (FileKeyring.write Risky.files stored).Stops {} none half ∧
    half.file? "/d/keyring" = none ∧
    (FileKeyring.write Risky.files stored).Stops half (some (.ok ())) after ∧
    after.read "/d/keyring" = .ok (complete Disk.stocked) ∧
    Opens Tree.files "/d/keyring" after Disk.stocked := by
  have attempts : Attempts stored.path {} [Disk.stocked] half :=
    Attempts.start.write 7 Disk.stocked apart_stored stops_half
  have ended : ((FileKeyring.write Tree.files stored).outcome half).1 = .ok () :=
    eq_ok_of_toOption (by decide +kernel)
  have stops := covers_write stored half
  rw [ended] at stops
  obtain ⟨-, -, done, -⟩ := old_or_new attempts apart_stored stops
  obtain ⟨read, -⟩ := done rfl
  exact ⟨_, stops_half, by decide +kernel, stops, read, opens_of_read read⟩

end FileKeyring

end GrantKeeper
