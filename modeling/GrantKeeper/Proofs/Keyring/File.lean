import GrantKeeper.Credential
import GrantKeeper.Keyring.File
import GrantKeeper.Proofs.Act
import GrantKeeper.Proofs.Grant.Record
import GrantKeeper.Proofs.StringMap

/-! The keyring in a file and the file behind it. A run of the keyring is followed together with the
entries that were last written: these are what the file holds, whichever writes failed. -/
namespace GrantKeeper

open Json

namespace Entry

theorem legible_toJson (entry : Entry) : entry.toJson.Legible := by
  simp [toJson, Value.Legible, LegibleMembers]

theorem ofJson?_toJson (entry : Entry) : ofJson? entry.toJson.tree = some entry := by
  rw [ofJson?, toJson, fields?_tree]
  simp [keyedTrees, fieldOf?]

end Entry

namespace FileKeyring

theorem legibleMembers_entries (entries : List (String × Entry)) :
    LegibleMembers (entries.map fun (key, entry) => (key, entry.toJson)) := by
  rw [legibleMembers_iff, List.forall_mem_map]
  exact fun entry _ => entry.2.legible_toJson

theorem mapM_memberTreesOf (entries : List (String × Entry)) :
    (memberTreesOf (entries.map fun (key, entry) => (key, entry.toJson))).mapM
      (fun (key, tree) => return (← text? key, ← Entry.ofJson? tree)) = some entries := by
  induction entries with
  | nil => rfl
  | cons entry rest ih =>
    rw [List.map_cons, memberTreesOf, List.mapM_cons, ih]
    simp [text?_escaped, Entry.ofJson?_toJson]

theorem decode?_encode (entries : Entries) : decode? (encode entries) = some entries := by
  have legible : (Value.object (entries.entries.map fun (key, entry) => (key, entry.toJson))).Legible :=
    legibleMembers_entries entries.entries
  have members := mapM_memberTreesOf entries.entries
  rw [decode?, encode, parse?_toPretty legible, Option.bind_eq_bind, Option.bind_some]
  simp only [Value.tree, Tree.members?]
  rw [members, Option.map_some, StringMap.ofList_entries]

def textOf (content : Except FileError (List UInt8)) : Except FileError String :=
  content.bind fun bytes =>
    match Utf8.decode? bytes with
    | some text => .ok text
    | none => .error .notText

/-- The entries that are found in the content of the file at a path. -/
def found (path : String) (content : Except FileError (List UInt8)) : Except Error Entries :=
  match textOf content with
  | .ok text =>
    match decode? text with
    | some entries => .ok entries
    | none => .error (.storeRead ("parsing " ++ path ++ ": not a keyring"))
  | .error .missing => .ok ∅
  | .error error => .error (.storeRead ("reading " ++ path ++ ": " ++ error.text))

theorem found_encode (path : String) (entries : Entries) :
    found path (.ok (Utf8.encode (encode entries))) = .ok entries := by
  simp [found, textOf, Except.bind, Utf8.decode?_encode, decode?_encode]

variable {σ : Type} {files : Files (StateM σ)} {path : String}
  {content : σ → Except FileError (List UInt8)}

theorem run_readText (files : Files (StateM σ)) (path : String) (world : σ) :
    (files.readText path).run world =
      (textOf ((files.read path).run world).1, ((files.read path).run world).2) := by
  rw [Files.readText, StateT.run_bind]
  rcases (files.read path).run world with ⟨error | bytes, after⟩
  · rfl
  · simp only [textOf, Except.bind, Bind.bind]
    cases Utf8.decode? bytes <;> rfl

theorem outcome_load (files : Files (StateM σ)) (path : String) (process : Nat) (world : σ) :
    (load files path process).outcome world =
      (((found path ((files.read path).run world).1).mapError .error).map (⟨path, process, ·⟩),
        ((files.read path).run world).2) := by
  rw [load, Act.outcome_bind, Act.outcome_step, run_readText, found]
  simp only
  rcases textOf ((files.read path).run world).1 with error | text
  · cases error <;> rfl
  · simp only
    cases decode? text <;> rfl

/-- A file at a path that can be read, and is replaced as a whole or stays as it is. -/
structure Durable (files : Files (StateM σ)) (path : String)
    (content : σ → Except FileError (List UInt8)) : Prop where
  read : ∀ world, ((files.read path).run world).1 = content world ∧
    content ((files.read path).run world).2 = content world
  write : ∀ keyring world, keyring.path = path →
    (((write files keyring).outcome world).1 = .ok () ∧
      content ((write files keyring).outcome world).2 = .ok (Utf8.encode (encode keyring.entries))) ∨
    ((∃ failure, ((write files keyring).outcome world).1 = .error failure) ∧
      content ((write files keyring).outcome world).2 = content world)

/-- File operations that change the content at a path only by putting a file in its place, and keep
what was last written beside it. -/
structure Staged (files : Files (StateM σ)) (path : String)
    (content : σ → Except FileError (List UInt8)) (aside : String → σ → List UInt8) : Prop where
  read : ∀ world, ((files.read path).run world).1 = content world ∧
    content ((files.read path).run world).2 = content world
  createDirectories : ∀ directory world,
    content ((files.createDirectories directory).run world).2 = content world
  write : ∀ other bytes world, other ≠ path →
    content ((files.write other bytes).run world).2 = content world ∧
    (((files.write other bytes).run world).1 = .ok () →
      aside other ((files.write other bytes).run world).2 = bytes)
  restrict : ∀ other world, content ((files.restrict other).run world).2 = content world ∧
    aside other ((files.restrict other).run world).2 = aside other world
  rename : ∀ other world,
    (((files.rename other path).run world).1 = .ok () ∧
      content ((files.rename other path).run world).2 = .ok (aside other world)) ∨
    ((∃ error, ((files.rename other path).run world).1 = .error error) ∧
      content ((files.rename other path).run world).2 = content world)

theorem outcome_writing (activity : String) (step : StateM σ (Except FileError Unit)) (world : σ) :
    (writing activity step).outcome world =
      ((step.run world).1.mapError fun error => .error (.file (activity ++ ": " ++ error.text)),
        (step.run world).2) := by
  rw [writing, Act.outcome_bind, Act.outcome_step]
  rcases step.run world with ⟨_ | _, _⟩ <;> rfl

/-- A file gets a content as a whole, or the activity fails and the file stays as it is. -/
def Replaces (content : σ → Except FileError (List UInt8)) (bytes : List UInt8)
    (act : Act (StateM σ) Unit) (world : σ) : Prop :=
  ((act.outcome world).1 = .ok () ∧ content (act.outcome world).2 = .ok bytes) ∨
  ((∃ failure, (act.outcome world).1 = .error failure) ∧
    content (act.outcome world).2 = content world)

theorem Replaces.after_writing {bytes : List UInt8} {act : Act (StateM σ) Unit}
    {step : StateM σ (Except FileError Unit)} {world : σ} (activity : String)
    (same : content (step.run world).2 = content world)
    (rest : (step.run world).1 = .ok () → Replaces content bytes act (step.run world).2) :
    Replaces content bytes (do writing activity step; act) world := by
  rw [Replaces, Act.outcome_bind, outcome_writing]
  rcases ended : step.run world with ⟨error | ⟨⟩, after⟩
  · rw [ended] at same
    exact .inr ⟨⟨_, rfl⟩, same⟩
  · rw [ended] at same rest
    rcases rest rfl with ⟨ok, placed⟩ | ⟨failed, stays⟩
    · exact .inl ⟨ok, placed⟩
    · exact .inr ⟨failed, stays.trans same⟩

/-- If the file written first is another one, the keyring's file is replaced as a whole or stays. -/
theorem Staged.replaces {aside : String → σ → List UInt8} (staged : Staged files path content aside)
    (keyring : FileKeyring) (at_path : keyring.path = path)
    (apart : ∀ directory, temporary directory keyring.process ≠ path) (world : σ) :
    Replaces content (Utf8.encode (encode keyring.entries)) (FileKeyring.write files keyring)
      world := by
  simp only [FileKeyring.write, at_path]
  cases Path.parent? path with
  | none => exact .inr ⟨⟨_, rfl⟩, rfl⟩
  | some directory =>
    refine .after_writing _ (staged.createDirectories directory world) fun _ => ?_
    obtain ⟨same, wrote⟩ := staged.write _ (Utf8.encode (encode keyring.entries)) _ (apart directory)
    refine .after_writing _ same fun written => ?_
    obtain ⟨same, kept⟩ := staged.restrict (temporary directory keyring.process) _
    refine .after_writing _ same fun _ => ?_
    -- The file beside still has what was written to it when it takes the keyring's place.
    have holds := kept.trans (wrote written)
    rw [Replaces, outcome_writing]
    rcases staged.rename (temporary directory keyring.process) _ with
      ⟨ok, placed⟩ | ⟨⟨error, failed⟩, stays⟩
    · exact .inl ⟨by rw [ok]; rfl, placed.trans (congrArg _ holds)⟩
    · exact .inr ⟨⟨_, by rw [failed]; rfl⟩, stays⟩

theorem Staged.durable {aside : String → σ → List UInt8} (staged : Staged files path content aside)
    (apart : ∀ directory process, temporary directory process ≠ path) :
    Durable files path content where
  read := staged.read
  write keyring world at_path :=
    staged.replaces keyring at_path (fun directory => apart directory keyring.process) world

theorem length_temporary (directory : String) (process : Nat) :
    13 ≤ (temporary directory process).length := by
  have name : ".keyring.tmp.".length = 13 := by decide
  rw [temporary, Path.join]
  split
  · simp only [String.length_append, name]
    omega
  · split <;> simp only [String.length_append, name] <;> omega

def Opens (files : Files (StateM σ)) (path : String) (world : σ) (entries : Entries) : Prop :=
  ∀ process, ((load files path process).outcome world).1 = .ok ⟨path, process, entries⟩

theorem opens_iff_of_read (read : ∀ world, ((files.read path).run world).1 = content world) {world : σ}
    {entries : Entries} :
    Opens files path world entries ↔ found path (content world) = .ok entries := by
  simp only [Opens, outcome_load, read]
  cases found path (content world) <;> simp [Except.map]

theorem Durable.opens_iff (durable : Durable files path content) {world : σ} {entries : Entries} :
    Opens files path world entries ↔ found path (content world) = .ok entries :=
  opens_iff_of_read fun world => (durable.read world).1

/-! What each operation does. -/

def withEntries (keyring : FileKeyring) (entries : Entries) : FileKeyring := { keyring with entries }

@[simp] theorem withEntries_path (keyring : FileKeyring) (entries : Entries) :
    (keyring.withEntries entries).path = keyring.path := rfl

@[simp] theorem withEntries_entries (keyring : FileKeyring) (entries : Entries) :
    (keyring.withEntries entries).entries = entries := rfl

/-- How an operation ends that changes the entries and writes them. -/
def replaced (files : Files (StateM σ)) (keyring : FileKeyring) (entries : Entries) (world : σ) :
    Except Failure Unit × FileKeyring × σ :=
  (((write files (keyring.withEntries entries)).outcome world).1, keyring.withEntries entries,
    ((write files (keyring.withEntries entries)).outcome world).2)

theorem ending_remove (key : String) (keyring : FileKeyring) (world : σ) :
    ((FileKeyring.keyring files).remove key).ending keyring world =
      if keyring.entries.contains key then
        let ended := replaced files keyring (StringMap.erase keyring.entries key) world
        (ended.1.map fun _ => true, ended.2)
      else (.ok false, keyring, world) := by
  have current_ : current.ending keyring world = (.ok keyring.entries, keyring, world) := rfl
  simp only [FileKeyring.keyring, Act.ending_bind, current_]
  by_cases present : keyring.entries.contains key
  · have save_ : (save files).ending (keyring.withEntries (StringMap.erase keyring.entries key)) world =
        replaced files keyring (StringMap.erase keyring.entries key) world := rfl
    have replace_ : (replace (StringMap.erase keyring.entries key)).ending keyring world =
        (.ok (), keyring.withEntries (StringMap.erase keyring.entries key), world) := rfl
    simp only [present, if_true, Act.ending_bind, replace_, save_]
    rcases replaced files keyring (StringMap.erase keyring.entries key) world with ⟨_ | _, _, _⟩ <;>
      rfl
  · simp [present]

inductive Operation
  | get (key : String)
  | set (item : KeyringItem)
  | remove (key : String)
  | keys

namespace Operation

def act (files : Files (StateM σ)) : Operation → Act (StateT FileKeyring (StateM σ)) Unit
  | get key => discard ((FileKeyring.keyring files).get key)
  | set item => (FileKeyring.keyring files).set item
  | remove key => discard ((FileKeyring.keyring files).remove key)
  | keys => discard (FileKeyring.keyring files).keys

/-- The entries that an operation puts in the place of others and writes, if it does. -/
def change (operation : Operation) (entries : Entries) : Option Entries :=
  match operation with
  | get _ | keys => none
  | set item => some (entries.withItem item)
  | remove key => if entries.contains key then some (StringMap.erase entries key) else none

theorem ending_act (operation : Operation) (keyring : FileKeyring) (world : σ) :
    (operation.act files).ending keyring world =
      match operation.change keyring.entries with
      | none => (.ok (), keyring, world)
      | some entries => replaced files keyring entries world := by
  cases operation with
  | get key => rfl
  | set item => rfl
  | remove key =>
    rw [act, Act.ending_discard, ending_remove, change]
    by_cases present : keyring.entries.contains key
    · simp only [present, if_true]
      rcases replaced files keyring (StringMap.erase keyring.entries key) world with ⟨_ | _, _, _⟩ <;>
        rfl
    · simp only [present]
      rfl
  | keys => rfl

/-- What is saved after an operation, given how it ended: its change, if that was written. -/
def saved (operation : Operation) (result : Except Failure Unit) (memory before : Entries) :
    Entries :=
  match result with
  | .ok _ => (operation.change memory).getD before
  | .error _ => before

end Operation

/-- Runs of an open keyring file: the keyring, what of its entries was saved last, and the world,
where also things may happen that leave the file as it is. -/
inductive Runs (files : Files (StateM σ)) (content : σ → Except FileError (List UInt8))
    (opened : FileKeyring) (start : σ) : FileKeyring → Entries → σ → Prop
  | start : Runs files content opened start opened opened.entries start
  | operation {keyring : FileKeyring} {saved : Entries} {world : σ} (operation : Operation) :
    Runs files content opened start keyring saved world →
    Runs files content opened start ((operation.act files).ending keyring world).2.1
      (operation.saved ((operation.act files).ending keyring world).1 keyring.entries saved)
      ((operation.act files).ending keyring world).2.2
  | moved {keyring : FileKeyring} {saved : Entries} {world after : σ} :
    Runs files content opened start keyring saved world → content after = content world →
    Runs files content opened start keyring saved after

/-- The file at the keyring's path holds what was saved, whatever is in memory. -/
structure Saved (path : String) (keyring : FileKeyring) (saved : Entries)
    (content : Except FileError (List UInt8)) : Prop where
  at_path : keyring.path = path
  holds : found path content = .ok saved

theorem Saved.replaced (durable : Durable files path content) {keyring : FileKeyring}
    {saved : Entries} {world : σ} (holds : Saved path keyring saved (content world))
    (entries : Entries) :
    (∃ end_, replaced files keyring entries world = (.ok (), keyring.withEntries entries, end_) ∧
      Saved path (keyring.withEntries entries) entries (content end_)) ∨
    ∃ failure end_,
      replaced files keyring entries world = (.error failure, keyring.withEntries entries, end_) ∧
      Saved path (keyring.withEntries entries) saved (content end_) := by
  rcases durable.write (keyring.withEntries entries) world holds.at_path with
    ⟨ok, written⟩ | ⟨⟨failure, failed⟩, same⟩
  · refine .inl ⟨_, by rw [FileKeyring.replaced, ok], holds.at_path, ?_⟩
    rw [written]
    exact found_encode path entries
  · refine .inr ⟨failure, _, by rw [FileKeyring.replaced, failed], holds.at_path, ?_⟩
    rw [same]
    exact holds.holds

theorem Saved.operation (durable : Durable files path content) {keyring : FileKeyring}
    {saved : Entries} {world : σ} (holds : Saved path keyring saved (content world))
    (operation : Operation) :
    Saved path ((operation.act files).ending keyring world).2.1
      (operation.saved ((operation.act files).ending keyring world).1 keyring.entries saved)
      (content ((operation.act files).ending keyring world).2.2) := by
  rw [operation.ending_act]
  cases changes : operation.change keyring.entries with
  | none => simpa [Operation.saved, changes] using holds
  | some entries =>
    rcases holds.replaced durable entries with ⟨end_, ended, holds⟩ | ⟨failure, end_, ended, holds⟩
    · simpa [ended, Operation.saved, changes] using holds
    · simpa [ended, Operation.saved] using holds

/-- What was saved last is what the file holds, at every point of a run. -/
theorem Runs.saved (durable : Durable files path content) {opened keyring : FileKeyring}
    {saved : Entries} {start world : σ} (first : Saved path opened opened.entries (content start))
    (run : Runs files content opened start keyring saved world) :
    Saved path keyring saved (content world) := by
  induction run with
  | start => exact first
  | operation operation _ holds => exact holds.operation durable operation
  | moved _ same holds => rw [same]; exact holds

/-! Removing several keys. -/

theorem ending_removeAll (key : String) (rest : List String) (failed : Option Error)
    (keyring : FileKeyring) (world : σ) (present : keyring.entries.contains key) :
    (Credential.removeAll (FileKeyring.keyring files) (key :: rest) failed).ending keyring world =
      match FileKeyring.replaced files keyring (StringMap.erase keyring.entries key) world with
      | (.ok _, keyring, world) =>
        (Credential.removeAll (FileKeyring.keyring files) rest failed).ending keyring world
      | (.error (.error error), keyring, world) =>
        (Credential.removeAll (FileKeyring.keyring files) rest
          (some (Credential.asWrite error))).ending keyring world
      | (.error (.fault fault), keyring, world) => (.error (.fault fault), keyring, world) := by
  rw [Credential.removeAll, Act.ending_bind, Act.ending_attempt]
  have removed : (Credential.remove (FileKeyring.keyring files) key).ending keyring world =
      (((FileKeyring.replaced files keyring (StringMap.erase keyring.entries key) world).1.mapError
          (Act.restated Credential.asWrite)),
        (FileKeyring.replaced files keyring (StringMap.erase keyring.entries key) world).2) := by
    rw [Credential.remove, Act.ending_bind, Act.ending_mapError, ending_remove, if_pos present]
    rcases FileKeyring.replaced files keyring (StringMap.erase keyring.entries key) world with
      ⟨_ | _, _, _⟩ <;> rfl
  rw [removed]
  rcases FileKeyring.replaced files keyring (StringMap.erase keyring.entries key) world with
    ⟨(_ | _) | _, _, _⟩ <;> rfl

/-- Keys that are there and could all be removed are in the file no more than in memory, if there
were any. -/
theorem Saved.removeAll (durable : Durable files path content) (keys : List String) :
    ∀ (failed : Option Error) {keyring after : FileKeyring} {saved : Entries} {world end_ : σ},
      Saved path keyring saved (content world) → keys.Nodup →
      (∀ key ∈ keys, keyring.entries.contains key) →
      (Credential.removeAll (FileKeyring.keyring files) keys failed).ending keyring world =
        (.ok none, after, end_) →
      failed = none ∧ (∀ key, key ∈ after.entries.keys → key ∈ keyring.entries.keys ∧ key ∉ keys) ∧
        ((keys = [] ∧ Saved path after saved (content end_)) ∨
          (keys ≠ [] ∧ Saved path after after.entries (content end_))) := by
  induction keys with
  | nil =>
    intro failed keyring after saved world end_ holds _ _ ended
    cases ended
    exact ⟨rfl, fun key there => ⟨there, List.not_mem_nil⟩, .inl ⟨rfl, holds⟩⟩
  | cons key rest ih =>
    intro failed keyring after saved world end_ holds nodup there ended
    obtain ⟨fresh, nodup⟩ := List.nodup_cons.mp nodup
    rw [ending_removeAll key rest failed keyring world (there key List.mem_cons_self)] at ended
    have still (other : String) (member : other ∈ rest) :
        Entries.contains (StringMap.erase keyring.entries key) other := by
      have different : other ≠ key := fun same => fresh (same ▸ member)
      rw [Entries.contains, StringMap.get?_erase_of_ne _ different]
      exact there other (List.mem_cons_of_mem _ member)
    have less (other : String) (member : other ∈ (StringMap.erase keyring.entries key).keys) :
        other ∈ keyring.entries.keys ∧ other ≠ key := by
      simpa [StringMap.keys_erase] using member
    rcases holds.replaced durable (StringMap.erase keyring.entries key) with
      ⟨_, wrote, holds⟩ | ⟨failure, _, wrote, holds⟩
    · simp only [wrote] at ended
      obtain ⟨none, gone, kept⟩ := ih failed holds nodup still ended
      refine ⟨none, fun other member => ?_, .inr ⟨List.cons_ne_nil _ _, ?_⟩⟩
      · obtain ⟨member, absent⟩ := gone other member
        obtain ⟨member, different⟩ := less other member
        exact ⟨member, by simp [different, absent]⟩
      · rcases kept with ⟨rfl, -⟩ | ⟨-, kept⟩
        · cases ended
          exact holds
        · exact kept
    · cases failure with
      | error error =>
        -- A failure is not forgotten, so removing the rest does not end without one.
        simp only [wrote] at ended
        obtain ⟨none, -⟩ := ih _ holds nodup still ended
        cases none
      | fault fault =>
        simp [wrote] at ended

theorem ending_logout_ok {keyring after : FileKeyring} {world end_ : σ}
    (ended : (Credential.logout (FileKeyring.keyring files)).ending keyring world =
      (.ok (), after, end_)) :
    (Credential.removeAll (FileKeyring.keyring files) keyring.entries.keys none).ending keyring world =
      (.ok none, after, end_) := by
  have keys_ : (Credential.keys (FileKeyring.keyring files)).ending keyring world =
      (.ok keyring.entries.keys, keyring, world) := rfl
  rw [Credential.logout, Act.ending_bind, keys_] at ended
  simp only [Act.ending_bind] at ended
  rcases removed : (Credential.removeAll (FileKeyring.keyring files) keyring.entries.keys none).ending
    keyring world with ⟨_ | _ | error, _, _⟩ <;> simp only [removed] at ended <;> cases ended
  rfl

theorem saved_load (durable : Durable files path content) {process : Nat} {opened : FileKeyring}
    {origin start : σ} (load : (load files path process).outcome origin = (.ok opened, start)) :
    Saved path opened opened.entries (content start) := by
  obtain ⟨read, same⟩ := durable.read origin
  rw [outcome_load, read] at load
  cases holds : found path (content origin) with
  | error error => simp [holds, Except.map] at load
  | ok entries =>
    simp only [holds, Act.except_mapError_ok, Except.map] at load
    cases load
    exact ⟨rfl, by rw [same]; exact holds⟩

theorem Saved.opens (durable : Durable files path content) {keyring : FileKeyring} {saved : Entries}
    {world : σ} (holds : Saved path keyring saved (content world)) (entries : Entries) :
    Opens files path world entries ↔ entries = saved := by
  rw [durable.opens_iff, holds.holds, Except.ok.injEq]
  exact eq_comm

/-- After an operation that ends well, opening the file gives the entries in memory exactly if the
operation wrote them or what was saved last is still in memory. So a removal that ends well leaves
an entry in the file exactly if there was none in memory but one was saved, and so does a logout. -/
theorem opens_iff_of_ok (durable : Durable files path content) {process : Nat}
    {opened keyring : FileKeyring} {saved : Entries} {origin start world : σ}
    (load : (FileKeyring.load files path process).outcome origin = (.ok opened, start))
    (run : Runs files content opened start keyring saved world) :
    (∀ (operation : Operation) (after : FileKeyring) (end_ : σ),
      (operation.act files).ending keyring world = (.ok (), after, end_) →
        (Opens files path end_ after.entries ↔
          (operation.change keyring.entries).isSome ∨ saved = keyring.entries) ∧
        ∀ key, operation = .remove key → ∃ entries, Opens files path end_ entries ∧
          (entries.contains key = false ↔ keyring.entries.contains key ∨ saved.contains key = false)) ∧
    ∀ (after : FileKeyring) (end_ : σ),
      (Credential.logout (FileKeyring.keyring files)).ending keyring world = (.ok (), after, end_) →
        ∃ entries, Opens files path end_ entries ∧
          (entries = ∅ ↔ keyring.entries ≠ ∅ ∨ saved = ∅) := by
  have before := run.saved durable (saved_load durable load)
  refine ⟨fun operation after end_ ended => ?_, fun after end_ ended => ?_⟩
  · have holds := before.operation durable operation
    rw [ended] at holds
    rw [operation.ending_act] at ended
    simp only [holds.opens durable]
    cases changes : operation.change keyring.entries with
    | none =>
      simp only [changes] at ended
      cases ended
      simp only [Operation.saved, changes, Option.getD_none]
      refine ⟨by simp [eq_comm], fun key removal => ⟨_, rfl, ?_⟩⟩
      have absent : keyring.entries.contains key = false := by
        simpa [removal, Operation.change] using changes
      simp [absent]
    | some entries =>
      have kept : after.entries = entries := by
        simp only [changes] at ended
        exact (congrArg (·.2.1.entries) ended).symm
      simp only [Operation.saved, changes, Option.getD_some, kept]
      refine ⟨by simp, fun key removal => ⟨_, rfl, ?_⟩⟩
      obtain ⟨present, rfl⟩ :
          keyring.entries.contains key ∧ StringMap.erase keyring.entries key = entries := by
        simpa [removal, Operation.change] using changes
      exact iff_of_true (by simp [Entries.contains]) (.inl present)
  · have there (key : String) (member : key ∈ keyring.entries.keys) :
        keyring.entries.contains key := (StringMap.isSome_get?_iff _ key).mpr member
    obtain ⟨-, gone, kept⟩ := before.removeAll durable keyring.entries.keys none
      (StringMap.nodup_keys _) there (ending_logout_ok ended)
    rcases kept with ⟨nothing, kept⟩ | ⟨some_, kept⟩
    · have empty : keyring.entries = ∅ := StringMap.eq_empty_of_keys_eq_nil nothing
      exact ⟨saved, (kept.opens durable saved).mpr rfl, by simp [empty]⟩
    · have empty : after.entries = ∅ := by
        apply StringMap.eq_empty_of_keys_eq_nil
        exact List.eq_nil_iff_forall_not_mem.mpr fun key member =>
          (gone key member).2 (gone key member).1
      refine ⟨after.entries, (kept.opens durable _).mpr rfl, iff_of_true empty (.inl ?_)⟩
      rintro none
      exact some_ (by rw [none]; rfl)

end FileKeyring

/-! A disk with a keyring file and no space left. -/

/-- The content of the keyring file and of the one beside it. -/
structure Disk where
  file : Except FileError (List UInt8)
  beside : List UInt8 := []
  full : Bool

namespace Disk

def files : Files (StateM Disk) where
  read _ := return (← get).file
  createDirectories _ := return .ok ()
  write _ bytes := do
    if (← get).full then return .error .noSpace
    modify fun disk => { disk with beside := bytes }
    return .ok ()
  restrict _ := return .ok ()
  rename _ _ := do
    modify fun disk => { disk with file := .ok disk.beside }
    return .ok ()

theorem outcome_write {keyring : FileKeyring} (at_path : keyring.path = "keyring") (disk : Disk) :
    (FileKeyring.write files keyring).outcome disk =
      let bytes := Utf8.encode (FileKeyring.encode keyring.entries)
      if disk.full then
        (.error (.error (.file
          "writing temp keyring file: No space left on device (os error 28)")), disk)
      else (.ok (), { disk with file := .ok bytes, beside := bytes }) := by
  have parent : Path.parent? "keyring" = some "" := by decide +kernel
  obtain ⟨file, beside, full⟩ := disk
  simp only [FileKeyring.write, at_path, parent]
  cases full <;> rfl

theorem staged_files :
    FileKeyring.Staged files "keyring" Disk.file fun _ disk => disk.beside where
  read _ := ⟨rfl, rfl⟩
  createDirectories _ _ := rfl
  write _ _ disk _ := by
    obtain ⟨file, beside, full⟩ := disk
    cases full
    · exact ⟨rfl, fun _ => rfl⟩
    · exact ⟨rfl, nofun⟩
  restrict _ _ := ⟨rfl, rfl⟩
  rename _ _ := .inl ⟨rfl, rfl⟩

theorem temporary_ne (directory : String) (process : Nat) :
    FileKeyring.temporary directory process ≠ "keyring" := by
  intro same
  have long := FileKeyring.length_temporary directory process
  rw [same, show "keyring".length = 7 by decide] at long
  omega

theorem durable_files : FileKeyring.Durable files "keyring" Disk.file :=
  staged_files.durable temporary_ne

def stocked : Entries := (∅ : Entries).withItem ⟨"key", "user", "data"⟩

def filled : Disk := ⟨.ok (Utf8.encode (FileKeyring.encode stocked)), [], true⟩

theorem load_filled : (FileKeyring.load files "keyring" 0).outcome filled =
    (.ok ⟨"keyring", 0, stocked⟩, filled) := by
  rw [FileKeyring.outcome_load, show ((files.read "keyring").run filled).1 = filled.file from rfl,
    filled, FileKeyring.found_encode]
  rfl

/-- The keyring after a removal that could not be written. -/
def emptied : FileKeyring := ⟨"keyring", 0, ∅⟩

theorem ending_remove_filled :
    ((FileKeyring.keyring files).remove "key").ending ⟨"keyring", 0, stocked⟩ filled =
      (.error (.error (.file
        "writing temp keyring file: No space left on device (os error 28)")), emptied, filled) := by
  rw [FileKeyring.ending_remove, if_pos (by decide), FileKeyring.replaced, outcome_write rfl]
  rfl

/-- A removal that is tried again after it could not be written ends well, and so does a logout,
though the file holds the credential. -/
theorem left_in_file :
    (∃ entries, FileKeyring.Opens files "keyring" filled entries ∧ entries.contains "key") ∧
    ∃ entries, FileKeyring.Opens files "keyring" filled entries ∧ entries ≠ ∅ := by
  have run : FileKeyring.Runs files Disk.file ⟨"keyring", 0, stocked⟩ filled _ _ _ :=
    .operation (.remove "key") .start
  have ended : ((FileKeyring.Operation.remove "key").act files).ending ⟨"keyring", 0, stocked⟩ filled =
      (.error (.error (.file
        "writing temp keyring file: No space left on device (os error 28)")), emptied, filled) := by
    rw [FileKeyring.Operation.act, Act.ending_discard, ending_remove_filled]
    rfl
  rw [ended] at run
  obtain ⟨operations, logout⟩ := FileKeyring.opens_iff_of_ok durable_files load_filled run
  obtain ⟨-, removal⟩ := operations (.remove "key") emptied filled rfl
  obtain ⟨entries, opens, kept⟩ := removal "key" rfl
  obtain ⟨others, opens_, kept_⟩ := logout emptied filled rfl
  refine ⟨⟨entries, opens, ?_⟩, others, opens_, ?_⟩
  · simpa using mt kept.mp (by decide)
  · rintro rfl
    rcases kept_.mp rfl with none | none
    · exact none rfl
    · cases congrArg StringMap.entries none

/-- A removal may end well, and a logout too, though opening the file gives the credential. -/
theorem ok_though_in_file :
    ((FileKeyring.keyring files).remove "key").ending ⟨"keyring", 0, stocked⟩ filled =
      (.error (.error (.file
        "writing temp keyring file: No space left on device (os error 28)")), emptied, filled) ∧
    ((FileKeyring.keyring files).remove "key").ending emptied filled =
      (.ok false, emptied, filled) ∧
    (Credential.logout (FileKeyring.keyring files)).ending emptied filled =
      (.ok (), emptied, filled) ∧
    FileKeyring.Opens files "keyring" filled stocked ∧ stocked.contains "key" ∧
    ¬FileKeyring.Opens files "keyring" filled emptied.entries := by
  have opens : FileKeyring.Opens files "keyring" filled stocked :=
    durable_files.opens_iff.mpr (FileKeyring.found_encode "keyring" stocked)
  refine ⟨ending_remove_filled, rfl, rfl, opens, by decide, fun other => ?_⟩
  rw [durable_files.opens_iff] at opens other
  cases opens.symm.trans other

end Disk
end GrantKeeper
