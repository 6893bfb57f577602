import GrantKeeper.Proofs.Keyring.Answer

/-! The keyring in a file against the one in memory. Both follow the same steps, on the way of which
the file is closed and opened again; while no file operation fails, they answer the same. -/
namespace GrantKeeper

namespace Keyring

/-- What is done with a keyring: an operation, or closing it and opening it again in a process. -/
inductive Step
  | operation (operation : FileKeyring.Operation)
  | reopen (process : UInt32)

def follow {m : Type → Type} [Monad m] (keyring : Keyring m) (reopen : UInt32 → Act m Unit) :
    List Step → Act m (List Answer)
  | [] => return []
  | .operation operation :: rest => do
    let answer ← keyring.answer operation
    return answer :: (← follow keyring reopen rest)
  | .reopen process :: rest => do
    reopen process
    follow keyring reopen rest

end Keyring

/-- The keyring in memory has nothing to open. -/
def Entries.follow (steps : List Keyring.Step) : Act (StateM Entries) (List Answer) :=
  Entries.keyring.follow (fun _ => pure ()) steps

namespace FileKeyring

open Keyring (Step)

variable {σ : Type} {files : Files (StateM σ)} {path directory : String} {orderly ready : σ → Prop}
  {content : String → σ → Option (List UInt8)}

def reopen (files : Files (StateM σ)) (path : String) (process : UInt32) :
    Act (StateT FileKeyring (StateM σ)) Unit := do
  let opened ← Act.hoist StateT.lift (load files path process.toNat)
  Act.step (set opened)

def follow (files : Files (StateM σ)) (path : String) (steps : List Step) :
    Act (StateT FileKeyring (StateM σ)) (List Answer) :=
  (keyring files).follow (reopen files path) steps

/-- File operations of which none fails at a path and at the files written beside it. A world in which
the directory is there is ready for writing, and an orderly one may still be without it. -/
structure Dependable (files : Files (StateM σ)) (path directory : String) (orderly ready : σ → Prop)
    (content : String → σ → Option (List UInt8)) : Prop where
  parent : Path.parent? path = some directory
  read : ∀ world, orderly world → ∃ after,
    (files.read path).run world = ((content path world).elim (.error .missing) .ok, after) ∧
      orderly after ∧ content path after = content path world
  createDirectories : ∀ world, orderly world → ∃ after,
    (files.createDirectories directory).run world = (.ok (), after) ∧ ready after
  write : ∀ (process : UInt32) bytes world, ready world → ∃ after,
    (files.write (temporary directory process.toNat) bytes).run world = (.ok (), after) ∧
      ready after ∧ content (temporary directory process.toNat) after = some bytes
  restrict : ∀ (process : UInt32) bytes world, ready world →
    content (temporary directory process.toNat) world = some bytes → ∃ after,
      (files.restrict (temporary directory process.toNat)).run world = (.ok (), after) ∧
        ready after ∧ content (temporary directory process.toNat) after = some bytes
  rename : ∀ (process : UInt32) bytes world, ready world →
    content (temporary directory process.toNat) world = some bytes → ∃ after,
      (files.rename (temporary directory process.toNat) path).run world = (.ok (), after) ∧
        orderly after ∧ content path after = some bytes

theorem outcome_writing_ok {step : StateM σ (Except FileError Unit)} {world after : σ}
    (done : step.run world = (.ok (), after)) (activity : String) :
    (writing activity step).outcome world = (.ok (), after) := by
  rw [outcome_writing, done]
  rfl

theorem Dependable.outcome_write (dependable : Dependable files path directory orderly ready content)
    (process : UInt32) (entries : Entries) {world : σ} (fit : orderly world) :
    ∃ after,
      (FileKeyring.write files ⟨path, process.toNat, entries⟩).outcome world = (.ok (), after) ∧
      orderly after ∧ content path after = some (Utf8.encode (encode entries)) := by
  obtain ⟨made, makes, fit⟩ := dependable.createDirectories world fit
  obtain ⟨wrote, writes, fit, holds⟩ :=
    dependable.write process (Utf8.encode (encode entries)) made fit
  obtain ⟨kept, restricts, fit, holds⟩ := dependable.restrict process _ wrote fit holds
  obtain ⟨after, renames, fit, holds⟩ := dependable.rename process _ kept fit holds
  refine ⟨after, ?_, fit, holds⟩
  simp only [FileKeyring.write, dependable.parent, Act.outcome_bind, outcome_writing_ok makes,
    outcome_writing_ok writes, outcome_writing_ok restricts, outcome_writing_ok renames]

/-- An open keyring has the entries of a keyring in memory, and its file has them too, or is missing and
there are none. -/
structure Mirrors (path : String) (orderly : σ → Prop) (content : String → σ → Option (List UInt8))
    (keyring : FileKeyring) (world : σ) (entries : Entries) : Prop where
  opened : ∃ process : UInt32, keyring = ⟨path, process.toNat, entries⟩
  orderly : orderly world
  holds : content path world = some (Utf8.encode (encode entries)) ∨
    content path world = none ∧ entries = ∅

variable {keyring : FileKeyring} {world : σ} {entries : Entries}

theorem found_of_holds (holds : content path world = some (Utf8.encode (encode entries)) ∨
      content path world = none ∧ entries = ∅) :
    found path ((content path world).elim (.error .missing) .ok) = .ok entries := by
  rcases holds with holds | ⟨missing, rfl⟩
  · rw [holds]
    exact found_encode path entries
  · rw [missing]
    rfl

theorem Dependable.outcome_load (dependable : Dependable files path directory orderly ready content)
    (process : UInt32) (fit : orderly world)
    (holds : content path world = some (Utf8.encode (encode entries)) ∨
      content path world = none ∧ entries = ∅) :
    ∃ after, (load files path process.toNat).outcome world =
        (.ok ⟨path, process.toNat, entries⟩, after) ∧
      orderly after ∧ content path after = content path world := by
  obtain ⟨after, reading, fit, same⟩ := dependable.read world fit
  refine ⟨after, ?_, fit, same⟩
  rw [FileKeyring.outcome_load, reading, found_of_holds holds]
  rfl

theorem Mirrors.reopen (dependable : Dependable files path directory orderly ready content)
    (mirrors : Mirrors path orderly content keyring world entries) (process : UInt32) :
    ∃ reopened after, (reopen files path process).ending keyring world = (.ok (), reopened, after) ∧
      Mirrors path orderly content reopened after entries ∧
      content path after = content path world := by
  obtain ⟨after, loading, fit, same⟩ :=
    dependable.outcome_load process mirrors.orderly mirrors.holds
  refine ⟨⟨path, process.toNat, entries⟩, after, ?_, ⟨⟨process, rfl⟩, fit, ?_⟩, same⟩
  · rw [FileKeyring.reopen, Act.ending_bind, Act.ending_hoist, loading]
    rfl
  · rw [same]
    exact mirrors.holds

/-- An operation answers what the keyring in memory answers, and mirrors it again. The file is there
then if it was before, or if the operation changes something. -/
theorem Mirrors.operation (dependable : Dependable files path directory orderly ready content)
    (mirrors : Mirrors path orderly content keyring world entries) (operation : Operation) :
    ∃ after end_, ((FileKeyring.keyring files).answer operation).ending keyring world =
        (.ok (operation.answerIn entries), after, end_) ∧
      Mirrors path orderly content after end_ (operation.after entries) ∧
      ((content path end_).isSome ↔
        (content path world).isSome ∨ (operation.change entries).isSome) := by
  obtain ⟨process, rfl⟩ := mirrors.opened
  rw [operation.ending_answer]
  cases changes : operation.change entries with
  | none =>
    refine ⟨_, world, rfl, ?_, by simp⟩
    rw [Operation.after, changes]
    exact mirrors
  | some changed =>
    obtain ⟨end_, wrote, fit, holds⟩ :=
      dependable.outcome_write process changed mirrors.orderly
    refine ⟨⟨path, process.toNat, changed⟩, end_, ?_, ⟨⟨process, ?_⟩, fit, ?_⟩, by simp [holds]⟩
    · simp only [replaced, withEntries, wrote]
      rfl
    · rw [Operation.after, changes]
      rfl
    · rw [Operation.after, changes]
      exact .inl holds

/-- However often the file is closed and opened again, following some steps answers what the keyring in
memory answers. The file is there afterwards if it was before, or if something was set or removed. -/
theorem Mirrors.follow (dependable : Dependable files path directory orderly ready content)
    (steps : List Step) : ∀ {keyring : FileKeyring} {world : σ} {entries : Entries},
      Mirrors path orderly content keyring world entries → ∃ answers after end_ left,
        (follow files path steps).ending keyring world = (.ok answers, after, end_) ∧
        (Entries.follow steps).outcome entries = (.ok answers, left) ∧
        ((content path end_).isSome ↔ (content path world).isSome ∨
          (∃ item, .operation (.set item) ∈ steps) ∨ .removed true ∈ answers) := by
  induction steps with
  | nil =>
    intro keyring world entries mirrors
    exact ⟨[], keyring, world, entries, rfl, rfl, by simp⟩
  | cons step rest ih =>
    intro keyring world entries mirrors
    cases step with
    | reopen process =>
      obtain ⟨reopened, middle, opens, mirrors, same⟩ := mirrors.reopen dependable process
      obtain ⟨answers, after, end_, left, follows, remembers, there⟩ := ih mirrors
      refine ⟨answers, after, end_, left, ?_, remembers, ?_⟩
      · rw [FileKeyring.follow, Keyring.follow, Act.ending_bind, opens]
        exact follows
      · rw [there, same]
        simp
    | operation operation =>
      obtain ⟨middle, between, answered, mirrors, changed⟩ := mirrors.operation dependable operation
      obtain ⟨answers, after, end_, left, follows, remembers, there⟩ := ih mirrors
      refine ⟨operation.answerIn entries :: answers, after, end_, left, ?_, ?_, ?_⟩
      · rw [FileKeyring.follow] at follows
        simp only [FileKeyring.follow, Keyring.follow, Act.ending_bind, answered, follows,
          Act.ending_pure]
      · rw [Entries.follow] at remembers
        simp only [Entries.follow, Keyring.follow, Act.outcome_bind, operation.outcome_memory,
          remembers, Act.outcome_pure]
      · rw [there, changed, operation.isSome_change_iff]
        constructor
        · rintro ((before | ⟨item, rfl⟩ | removed) | ⟨item, later⟩ | later)
          · exact .inl before
          · exact .inr (.inl ⟨item, List.mem_cons_self⟩)
          · exact .inr (.inr (removed ▸ List.mem_cons_self))
          · exact .inr (.inl ⟨item, List.mem_cons_of_mem _ later⟩)
          · exact .inr (.inr (List.mem_cons_of_mem _ later))
        · rintro (before | ⟨item, member⟩ | member)
          · exact .inl (.inl before)
          · rcases List.mem_cons.mp member with same | later
            · exact .inl (.inr (.inl ⟨item, (Step.operation.inj same).symm⟩))
            · exact .inr (.inl ⟨item, later⟩)
          · rcases List.mem_cons.mp member with same | later
            · exact .inl (.inr (.inr same.symm))
            · exact .inr (.inr later)

/-- While no file operation fails, a keyring whose file is missing at first opens empty, and whatever
steps follow, wherever it is opened again, it answers what the keyring in memory answers. Its file is
there exactly if something was set, or removed that was there. -/
theorem answers_as_in_memory (dependable : Dependable files path directory orderly ready content)
    (fit : orderly world) (missing : content path world = none) (process : UInt32)
    (steps : List Step) :
    ∃ start answers after end_ left,
      (load files path process.toNat).outcome world = (.ok ⟨path, process.toNat, ∅⟩, start) ∧
      (follow files path steps).ending ⟨path, process.toNat, ∅⟩ start = (.ok answers, after, end_) ∧
      (Entries.follow steps).outcome ∅ = (.ok answers, left) ∧
      ((content path end_).isSome ↔
        (∃ item, .operation (.set item) ∈ steps) ∨ .removed true ∈ answers) := by
  obtain ⟨start, loading, fit, same⟩ :=
    dependable.outcome_load process fit (.inr ⟨missing, rfl⟩)
  have mirrors : Mirrors path orderly content ⟨path, process.toNat, ∅⟩ start ∅ :=
    ⟨⟨process, rfl⟩, fit, .inr ⟨same.trans missing, rfl⟩⟩
  obtain ⟨answers, after, end_, left, follows, remembers, there⟩ := mirrors.follow dependable steps
  refine ⟨start, answers, after, end_, left, loading, follows, remembers, ?_⟩
  rw [there, same, missing]
  simp

end FileKeyring

/-! A disk with room. -/

namespace Disk

/-- A disk with room, on which the keyring file is missing or can be read. -/
def Roomy (disk : Disk) : Prop :=
  disk.full = false ∧ (disk.file = .error .missing ∨ ∃ bytes, disk.file = .ok bytes)

def content (path : String) (disk : Disk) : Option (List UInt8) :=
  if path = "keyring" then disk.file.toOption else some disk.beside

theorem dependable_files :
    FileKeyring.Dependable files "keyring" "" Roomy Roomy content where
  parent := by decide +kernel
  read := by
    rintro ⟨file, beside, full⟩ ⟨room, rfl | ⟨bytes, rfl⟩⟩
    · exact ⟨_, rfl, ⟨room, .inl rfl⟩, rfl⟩
    · exact ⟨_, rfl, ⟨room, .inr ⟨bytes, rfl⟩⟩, rfl⟩
  createDirectories := fun disk room => ⟨disk, rfl, room⟩
  write := by
    rintro process bytes ⟨file, beside, full⟩ ⟨room, readable⟩
    cases room
    refine ⟨⟨file, bytes, false⟩, rfl, ⟨rfl, readable⟩, ?_⟩
    rw [content, if_neg (temporary_ne "" process.toNat)]
  restrict := fun process bytes disk room holds => ⟨disk, rfl, room, holds⟩
  rename := by
    rintro process bytes ⟨file, beside, full⟩ ⟨room, -⟩ holds
    rw [content, if_neg (temporary_ne "" process.toNat)] at holds
    cases holds
    exact ⟨_, rfl, ⟨room, .inr ⟨beside, rfl⟩⟩, rfl⟩

def vacant : Disk := ⟨.error .missing, [], false⟩

/-- An item whose key is not ASCII and whose data is itself JSON. -/
def secret : KeyringItem := ⟨"clé", "user", "\x7b\"token\":\"\\u00e9\\n\"\x7d"⟩

def errand : List Keyring.Step := [
  .operation (.set secret), .reopen 2, .operation (.get "clé"), .operation (.remove "other"),
  .operation (.remove "clé"), .reopen 3, .operation .keys]

/-- The item is found after the file was opened again, and gone after it was removed and the file opened
once more. -/
theorem found_after_reopening : ∃ after end_,
    (FileKeyring.follow files "keyring" errand).ending ⟨"keyring", 1, ∅⟩ vacant =
      (.ok [.done, .item (some secret), .removed false, .removed true, .keys []], after, end_) ∧
    (content "keyring" end_).isSome := by
  have fit : Roomy vacant := ⟨rfl, .inl rfl⟩
  obtain ⟨start, answers, after, end_, left, opens, follows, remembers, there⟩ :=
    FileKeyring.answers_as_in_memory dependable_files fit rfl 1 errand
  have opened : (FileKeyring.load files "keyring" 1).outcome vacant =
      (.ok ⟨"keyring", 1, ∅⟩, vacant) := rfl
  have memory : (Entries.follow errand).outcome ∅ =
      (.ok [.done, .item (some secret), .removed false, .removed true, .keys []], ∅) := rfl
  obtain rfl : vacant = start := congrArg Prod.snd (opened.symm.trans opens)
  obtain rfl := Except.ok.inj (congrArg Prod.fst (memory.symm.trans remembers))
  exact ⟨after, end_, follows, there.mpr (.inl ⟨secret, by simp [errand]⟩)⟩

end Disk
end GrantKeeper
