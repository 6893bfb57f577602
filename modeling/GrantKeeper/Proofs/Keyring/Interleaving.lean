import Mathlib.Logic.Function.Basic
import Mathlib.Logic.Relation
import GrantKeeper.Proofs.Keyring.Index
import GrantKeeper.Proofs.Keyring.Reopening

/-! Operations on one keyring in a store of secrets that are at work at the same time. A write takes the
lock of the writers before its first call of the store and gives it back after its last one; a reading
takes no lock. Between any two calls of an operation, others may make calls of theirs. No call fails. -/
namespace GrantKeeper

open FileKeyring (Operation)

/-- Following operations in memory, each answers what it does with the entries that the earlier ones
left. -/
theorem Entries.outcome_follow (operations : List Operation) : ∀ entries : Entries,
    ∃ answers : List Answer,
      (Entries.follow (operations.map .operation)).outcome entries =
        (.ok answers, operations.foldl (fun entries operation => operation.after entries) entries) ∧
      ∀ (n : Nat) operation, operations[n]? = some operation →
        answers[n]? = some (operation.answerIn
          ((operations.take n).foldl (fun entries operation => operation.after entries) entries)) := by
  induction operations with
  | nil => exact fun entries => ⟨[], rfl, nofun⟩
  | cons first rest ih =>
    intro entries
    obtain ⟨answers, follows, answered⟩ := ih (first.after entries)
    refine ⟨first.answerIn entries :: answers, ?_, fun n operation there => ?_⟩
    · rw [Entries.follow] at follows
      simp only [Entries.follow, List.map_cons, Keyring.follow, Act.outcome_bind,
        first.outcome_memory, follows, Act.outcome_pure, List.foldl_cons]
    · cases n with
      | zero =>
        cases there
        rfl
      | succ n => exact answered n operation there

namespace Interleaving

open SecretStore

variable {ι : Type}

inductive Phase
  | asked
  | running (script : Script (Except Failure Answer))
  | finished (result : Except Failure Answer)

/-- Operations at work: the secrets, which of them holds the lock, how far each is, and the writes in the
order in which they took the lock. -/
structure State (ι : Type) where
  secrets : StringMap String
  lock : Option ι
  phase : ι → Phase
  writes : List ι

def start : State ι := ⟨∅, none, fun _ => .asked, []⟩

variable [DecidableEq ι]

def State.called (s : State ι) (i : ι) (request : StoreCall)
    (next : Except Error request.Reply → Script (Except Failure Answer)) : State ι where
  secrets := request.after s.secrets
  lock := s.lock
  phase := Function.update s.phase i (.running (next (.ok (request.reply s.secrets))))
  writes := s.writes

inductive Step (operation : ι → Operation) (s : State ι) : State ι → Prop
  | enter {i : ι} : s.phase i = .asked → (operation i).isWrite → s.lock = none →
    Step operation s {
      secrets := s.secrets
      lock := some i
      phase := Function.update s.phase i (.running (script (operation i)).run)
      writes := s.writes ++ [i] }
  | begin {i : ι} : s.phase i = .asked → (operation i).isWrite = false →
    Step operation s
      { s with phase := Function.update s.phase i (.running (script (operation i)).run) }
  | call {i : ι} {request : StoreCall}
    {next : Except Error request.Reply → Script (Except Failure Answer)} :
    s.phase i = .running (.call request next) → Step operation s (s.called i request next)
  | leave {i : ι} {result : Except Failure Answer} :
    s.phase i = .running (.done result) → (operation i).isWrite →
    Step operation s { s with lock := none, phase := Function.update s.phase i (.finished result) }
  | finish {i : ι} {result : Except Failure Answer} :
    s.phase i = .running (.done result) → (operation i).isWrite = false →
    Step operation s { s with phase := Function.update s.phase i (.finished result) }

abbrev Steps (operation : ι → Operation) : State ι → State ι → Prop :=
  Relation.ReflTransGen (Step operation)

theorem phase_update {phase : ι → Phase} {i j : ι} {now shown : Phase}
    (shows : Function.update phase i now j = shown) :
    j = i ∧ now = shown ∨ j ≠ i ∧ phase j = shown := by
  by_cases same : j = i
  · rw [same, Function.update_self] at shows
    exact .inl ⟨same, shows⟩
  · rw [Function.update_of_ne same] at shows
    exact .inr ⟨same, shows⟩

/-- What holds whenever some writes have taken the lock. The one that holds it would end, if it were left
alone, as the keyring in memory does after the earlier ones. -/
structure Sound (operation : ι → Operation) (s : State ι) : Prop where
  nodup : s.writes.Nodup
  begun : ∀ i ∈ s.writes, s.phase i ≠ .asked
  reading : ∀ i script, s.phase i = .running script → (operation i).isWrite = false →
    script = (SecretStore.script (operation i)).run ∨ ∃ result, script = .done result
  writing : ∀ i script, s.phase i = .running script → (operation i).isWrite → s.lock = some i
  ended : ∀ i result, s.phase i = .finished result → (operation i).isWrite → ∃ n : Nat,
    s.writes[n]? = some i ∧
      result = .ok ((operation i).answerIn (remembered ((s.writes.take n).map operation)))
  free : s.lock = none → Kept (s.writes.map operation) s.secrets
  locked : ∀ i, s.lock = some i → (operation i).isWrite ∧ ∃ earlier script after,
    s.writes = earlier ++ [i] ∧ s.phase i = .running script ∧
      script.alone s.secrets =
        (.ok ((operation i).answerIn (remembered (earlier.map operation))), after) ∧
      Kept (s.writes.map operation) after

variable {operation : ι → Operation} {s : State ι} {i : ι}

omit [DecidableEq ι] in
theorem sound_start : Sound operation start where
  nodup := List.nodup_nil
  begun := nofun
  reading := nofun
  writing := nofun
  ended := nofun
  free _ := kept_empty
  locked := nofun

/-! When an operation goes on to a phase, it is the only one to look at. -/

theorem Sound.begun_update (sound : Sound operation s) {now : Phase} (begun : now ≠ .asked) :
    ∀ j ∈ s.writes, Function.update s.phase i now j ≠ .asked := by
  intro j member shows
  rcases phase_update shows with ⟨-, same⟩ | ⟨-, shows⟩
  · exact begun same
  · exact sound.begun j member shows

theorem Sound.reading_update (sound : Sound operation s) {now : Phase}
    (reading : ∀ script, now = .running script → (operation i).isWrite = false →
      script = (SecretStore.script (operation i)).run ∨ ∃ result, script = .done result) :
    ∀ j script, Function.update s.phase i now j = .running script → (operation j).isWrite = false →
      script = (SecretStore.script (operation j)).run ∨ ∃ result, script = .done result := by
  intro j script shows read
  rcases phase_update shows with ⟨rfl, same⟩ | ⟨-, shows⟩
  · exact reading script same read
  · exact sound.reading j script shows read

theorem Sound.ended_update (sound : Sound operation s) {now : Phase}
    (ended : ∀ result, now = .finished result → (operation i).isWrite → ∃ n : Nat,
      s.writes[n]? = some i ∧
        result = .ok ((operation i).answerIn (remembered ((s.writes.take n).map operation)))) :
    ∀ j result, Function.update s.phase i now j = .finished result → (operation j).isWrite →
      ∃ n : Nat, s.writes[n]? = some j ∧
        result = .ok ((operation j).answerIn (remembered ((s.writes.take n).map operation))) := by
  intro j result shows writes
  rcases phase_update shows with ⟨rfl, same⟩ | ⟨-, shows⟩
  · exact ended result same writes
  · exact sound.ended j result shows writes

theorem Sound.enter (apart : ∀ i, (operation i).key? ≠ some indexName) (sound : Sound operation s)
    (asked : s.phase i = .asked) (write : (operation i).isWrite) (free : s.lock = none) :
    Sound operation {
      secrets := s.secrets
      lock := some i
      phase := Function.update s.phase i (.running (script (operation i)).run)
      writes := s.writes ++ [i] } where
  nodup := by
    refine List.nodup_append.mpr ⟨sound.nodup, List.pairwise_singleton _ _, ?_⟩
    rintro j member _ last rfl
    exact sound.begun j member (List.mem_singleton.mp last ▸ asked)
  begun j member shows := by
    rcases phase_update shows with ⟨-, same⟩ | ⟨differs, shows⟩
    · cases same
    · rcases List.mem_append.mp member with member | last
      · exact sound.begun j member shows
      · exact differs (List.mem_singleton.mp last)
  reading := sound.reading_update fun _ same _ => .inl (Phase.running.inj same).symm
  writing j script shows writes := by
    rcases phase_update shows with ⟨rfl, -⟩ | ⟨-, shows⟩
    · rfl
    · have held := sound.writing j script shows writes
      rw [free] at held
      cases held
  ended j result shows writes := by
    rcases phase_update shows with ⟨-, same⟩ | ⟨-, shows⟩
    · cases same
    · obtain ⟨n, there, answered⟩ := sound.ended j result shows writes
      have before := (List.getElem?_eq_some_iff.mp there).1
      refine ⟨n, ?_, ?_⟩
      · rwa [List.getElem?_append_left before]
      · rwa [List.take_append_of_le_length (Nat.le_of_lt before)]
  free := nofun
  locked j held := by
    cases held
    obtain ⟨after, ends, kept⟩ := (sound.free free).write (apart i) write
    refine ⟨write, s.writes, _, after, rfl, Function.update_self .., ends, ?_⟩
    rwa [List.map_append, List.map_cons, List.map_nil]

theorem Sound.reads (sound : Sound operation s) (read : (operation i).isWrite = false)
    {phase : Phase} (begun : phase ≠ .asked)
    (reading : ∀ script, phase = .running script →
      script = (SecretStore.script (operation i)).run ∨ ∃ result, script = .done result) :
    Sound operation { s with phase := Function.update s.phase i phase } where
  nodup := sound.nodup
  begun := sound.begun_update begun
  reading := sound.reading_update fun script same _ => reading script same
  writing j script shows writes := by
    rcases phase_update shows with ⟨rfl, -⟩ | ⟨-, shows⟩
    · rw [read] at writes
      cases writes
    · exact sound.writing j script shows writes
  ended := sound.ended_update fun _ _ writes => by
    rw [read] at writes
    cases writes
  free := sound.free
  locked j held := by
    obtain ⟨write, earlier, script, after, last, shows, ends⟩ := sound.locked j held
    refine ⟨write, earlier, script, after, last, ?_, ends⟩
    have other : j ≠ i := by
      rintro rfl
      rw [read] at write
      cases write
    exact (Function.update_of_ne other ..).trans shows

/-- A write makes a call: nobody else changes the secrets, so it is left with the same end. -/
theorem Sound.call (sound : Sound operation s) {request : StoreCall}
    {next : Except Error request.Reply → Script (Except Failure Answer)}
    (running : s.phase i = .running (.call request next)) (write : (operation i).isWrite) :
    Sound operation (s.called i request next) where
  nodup := sound.nodup
  begun := sound.begun_update nofun
  reading := sound.reading_update fun _ _ read => by
    rw [read] at write
    cases write
  writing j script shows writes := by
    rcases phase_update shows with ⟨rfl, -⟩ | ⟨-, shows⟩
    · exact sound.writing j _ running writes
    · exact sound.writing j script shows writes
  ended := sound.ended_update nofun
  free vacant := by
    have held : s.lock = none := vacant
    rw [sound.writing i _ running write] at held
    cases held
  locked j held := by
    have mine := sound.writing i _ running write
    obtain rfl : i = j := Option.some.inj (mine.symm.trans held)
    obtain ⟨-, earlier, script, after, last, shows, ends, kept⟩ := sound.locked i mine
    rw [running] at shows
    cases shows
    exact ⟨write, earlier, _, after, last, Function.update_self .., ends, kept⟩

theorem Sound.leave (sound : Sound operation s) {result : Except Failure Answer}
    (running : s.phase i = .running (.done result)) (write : (operation i).isWrite) :
    Sound operation { s with lock := none, phase := Function.update s.phase i (.finished result) } := by
  have mine := sound.writing i _ running write
  obtain ⟨-, earlier, script, after, last, shows, ends, kept⟩ := sound.locked i mine
  rw [running] at shows
  cases shows
  cases ends
  exact {
    nodup := sound.nodup
    begun := sound.begun_update nofun
    reading := sound.reading_update nofun
    writing := fun j script shows writes => by
      rcases phase_update shows with ⟨-, same⟩ | ⟨other, shows⟩
      · cases same
      · have held := sound.writing j script shows writes
        exact absurd (Option.some.inj (held.symm.trans mine)) other
    ended := sound.ended_update fun _ same _ => by
      cases same
      refine ⟨earlier.length, ?_, ?_⟩
      · simp only [last]
        exact List.getElem?_concat_length
      · simp only [last, List.take_left]
    free := fun _ => kept
    locked := nofun }

theorem Sound.step (apart : ∀ i, (operation i).key? ≠ some indexName) (sound : Sound operation s)
    {t : State ι} (step : Step operation s t) : Sound operation t := by
  cases step with
  | enter asked write free => exact sound.enter apart asked write free
  | begin asked read => exact sound.reads read nofun fun script same => .inl (Phase.running.inj same).symm
  | finish running read => exact sound.reads read nofun nofun
  | leave running write => exact sound.leave running write
  | @call i request next running =>
    cases write : (operation i).isWrite with
    | true => exact sound.call running write
    | false =>
      obtain ⟨name, after, calls, ends⟩ := glances_script write
      rcases sound.reading i _ running write with whole | ⟨_, done⟩
      · rw [calls] at whole
        cases whole
        refine sound.reads write nofun fun script same => .inr ?_
        rw [← Phase.running.inj same]
        exact ends _
      · cases done

theorem Sound.steps (apart : ∀ i, (operation i).key? ≠ some indexName) {t : State ι}
    (sound : Sound operation s) (steps : Steps operation s t) : Sound operation t := by
  induction steps with
  | refl => exact sound
  | tail _ step sound => exact sound.step apart step

/-- An operation makes no more calls, and its result is known. -/
def Settled (result : Except Failure Answer) (phase : Phase) : Prop :=
  phase = .running (.done result) ∨ phase = .finished result

theorem Settled.step {t : State ι} {result : Except Failure Answer}
    (settled : Settled result (s.phase i)) (step : Step operation s t) :
    Settled result (t.phase i) := by
  -- Of its own steps, it can only make the last one.
  have moved {j : ι} {now : Phase} (own : j = i → Settled result now) :
      Settled result (Function.update s.phase j now i) := by
    by_cases same : i = j
    · rw [same, Function.update_self]
      exact own same.symm
    · rwa [Function.update_of_ne same]
  cases step with
  | enter asked | begin asked =>
    refine moved ?_
    rintro rfl
    rcases settled with settled | settled <;> cases asked.symm.trans settled
  | call running =>
    refine moved ?_
    rintro rfl
    rcases settled with settled | settled <;> cases running.symm.trans settled
  | leave running | finish running =>
    refine moved ?_
    rintro rfl
    rcases settled with settled | settled <;> cases running.symm.trans settled
    exact .inr rfl

theorem Settled.steps {t : State ι} {result : Except Failure Answer}
    (settled : Settled result (s.phase i)) (steps : Steps operation s t) :
    Settled result (t.phase i) := by
  induction steps with
  | refl => exact settled
  | tail _ step settled => exact settled.step step

/-! Every operation can come to its end. -/

theorem exists_finished_of_running (script : Script (Except Failure Answer)) : ∀ {s : State ι},
    s.phase i = .running script → ∃ t, Steps operation s t ∧
      t.phase i = .finished (script.alone s.secrets).1 ∧ t.secrets = (script.alone s.secrets).2 ∧
      (∀ j, j ≠ i → t.phase j = s.phase j) ∧ ((operation i).isWrite → t.lock = none) := by
  induction script with
  | done result =>
    intro s running
    cases write : (operation i).isWrite with
    | true =>
      exact ⟨_, .single (.leave running write), Function.update_self .., rfl,
        fun j other => Function.update_of_ne other .., fun _ => rfl⟩
    | false =>
      exact ⟨_, .single (.finish running write), Function.update_self .., rfl,
        fun j other => Function.update_of_ne other .., nofun⟩
  | call request next ih =>
    intro s running
    obtain ⟨t, steps, finished, secrets, others, unlocked⟩ :=
      ih (.ok (request.reply s.secrets)) (s := s.called i request next) (Function.update_self ..)
    refine ⟨t, .head (.call running) steps, finished, secrets, fun j other => ?_, unlocked⟩
    rw [others j other]
    exact Function.update_of_ne other ..

theorem exists_finished_of_free (asked : s.phase i = .asked) (free : s.lock = none) :
    ∃ t result, Steps operation s t ∧ t.phase i = .finished result := by
  cases write : (operation i).isWrite with
  | true =>
    obtain ⟨t, steps, finished, -⟩ := exists_finished_of_running (s := {
      secrets := s.secrets
      lock := some i
      phase := Function.update s.phase i (.running (script (operation i)).run)
      writes := s.writes ++ [i] }) _ (Function.update_self ..)
    exact ⟨t, _, .head (.enter asked write free) steps, finished⟩
  | false =>
    obtain ⟨t, steps, finished, -⟩ := exists_finished_of_running (s := {
      s with phase := Function.update s.phase i (.running (script (operation i)).run) }) _
      (Function.update_self ..)
    exact ⟨t, _, .head (.begin asked write) steps, finished⟩

/-- While an operation waits for the lock, the one that has it can give it back. -/
theorem Sound.exists_finished (sound : Sound operation s) (i : ι) :
    ∃ t result, Steps operation s t ∧ t.phase i = .finished result := by
  cases shows : s.phase i with
  | finished result => exact ⟨s, result, .refl, shows⟩
  | running script =>
    obtain ⟨t, steps, finished, -⟩ := exists_finished_of_running script shows
    exact ⟨t, _, steps, finished⟩
  | asked =>
    cases held : s.lock with
    | none => exact exists_finished_of_free shows held
    | some j =>
      obtain ⟨write, earlier, script, after, -, running, -⟩ := sound.locked j held
      obtain ⟨t, steps, -, -, others, unlocked⟩ := exists_finished_of_running script running
      have differs : i ≠ j := by
        rintro rfl
        cases shows.symm.trans running
      have asked : t.phase i = .asked := (others i differs).trans shows
      obtain ⟨u, result, more, finished⟩ := exists_finished_of_free asked (unlocked write)
      exact ⟨u, result, steps.trans more, finished⟩

/-! What is there between the writes. -/

end Interleaving

/-- An index without duplicates lists the keys of the items, in the order of their insertion, and every
item is the one that was set last for its key. -/
structure SecretStore.Tidy (operations : List Operation) (secrets : StringMap String)
    (listed : List String) : Prop where
  index : listed? secrets = some listed
  nodup : listed.Nodup
  exact : ∀ key, key ∈ listed ↔ key ≠ indexName ∧ (secrets.get? key).isSome
  inserted : ∀ key ∈ listed, ∃ n, InsertedAt operations key n
  ordered : listed.Pairwise fun a b =>
    ∀ m n, InsertedAt operations a m → InsertedAt operations b n → m < n
  items : ∀ key text, key ≠ indexName → secrets.get? key = some text →
    ∃ entry, decodeEntry? text = some entry ∧ LastSet operations (entry.item key)

theorem SecretStore.Kept.tidy {operations : List Operation} {secrets : StringMap String}
    (kept : Kept operations secrets)
    (apart : ∀ operation ∈ operations, operation.key? ≠ some indexName) :
    Tidy operations secrets (relisted operations) where
  index := kept.index
  nodup := nodup_relisted operations
  exact key := by
    have absent := indexName_notMem_relisted apart
    constructor
    · intro member
      have other : key ≠ indexName := fun same => absent (same ▸ member)
      rw [kept.contains other]
      exact ⟨other, (mem_relisted_iff ..).mp member⟩
    · rintro ⟨other, there⟩
      rw [kept.contains other] at there
      exact (mem_relisted_iff ..).mpr there
  inserted key member := (mem_relisted_iff_insertedAt ..).mp member
  ordered := pairwise_relisted operations
  items key text other stored := by
    have item := kept.items key other
    rw [stored, Option.map_some, eq_comm, Option.map_eq_some_iff] at item
    obtain ⟨entry, found, decoded⟩ := item
    exact ⟨entry, decoded.symm, lastSet_of_remembered found⟩

namespace Interleaving

open SecretStore

variable {ι : Type} [DecidableEq ι] {operation : ι → Operation} {s : State ι}

/-- Operations at work at the same time on an empty store, whose keys are not the name of the index.
The writes that are over have answered what the keyring in memory answers to the writes in the order of
the lock. While no write has the lock, the index and the items are as these writes leave them, and a
reading that makes its call then answers what the keyring in memory does, but for the order of the keys.
Every operation can come to its end. No key of an audience is the name of the index. -/
theorem as_in_memory (apart : ∀ i, (operation i).key? ≠ some indexName)
    (steps : Steps operation start s) : ∃ answers entries,
      (Entries.follow (s.writes.map fun i => .operation (operation i))).outcome ∅ =
        (.ok answers, entries) ∧
      s.writes.Nodup ∧
      (∀ i result, s.phase i = .finished result → (operation i).isWrite → ∃ (n : Nat) (answer : Answer),
        s.writes[n]? = some i ∧ answers[n]? = some answer ∧ result = .ok answer) ∧
      (s.lock = none →
        (∃ listed, Tidy (s.writes.map operation) s.secrets listed) ∧
        ∀ i request next t result, (operation i).isWrite = false →
          s.phase i = .running (.call request next) →
          Steps operation (s.called i request next) t → t.phase i = .finished result →
          ∃ answer expected, result = .ok answer ∧ answer.Alike expected ∧
            (Entries.keyring.answer (operation i)).outcome entries = (.ok expected, entries)) ∧
      (∀ i, ∃ t result, Steps operation s t ∧ t.phase i = .finished result) ∧
      ∀ audience, Credential.keyOf audience ≠ indexName := by
  have sound := sound_start.steps apart steps
  obtain ⟨answers, follows, answered⟩ := Entries.outcome_follow (s.writes.map operation) ∅
  rw [List.map_map] at follows
  refine ⟨answers, remembered (s.writes.map operation), follows, sound.nodup, ?_, ?_,
    sound.exists_finished, keyOf_ne_indexName⟩
  · intro i result finished write
    obtain ⟨n, there, rfl⟩ := sound.ended i result finished write
    refine ⟨n, _, there, ?_, rfl⟩
    rw [answered n (operation i) (by rw [List.getElem?_map, there]; rfl), ← List.map_take]
    rfl
  · intro free
    have kept := sound.free free
    refine ⟨⟨_, kept.tidy fun _ member => ?_⟩, ?_⟩
    · obtain ⟨i, -, rfl⟩ := List.mem_map.mp member
      exact apart i
    · intro i request next t result read running steps finished
      obtain ⟨answer, ends, alike⟩ := kept.read (apart i) read
      obtain ⟨name, after, calls, silent⟩ := glances_script read
      rcases sound.reading i _ running read with whole | ⟨_, done⟩
      · cases calls.symm.trans whole.symm
        obtain ⟨ended, done⟩ := silent (.ok (s.secrets.get? name))
        rw [Act.alone, calls, Script.alone, StoreCall.reply, done, Script.alone] at ends
        obtain ⟨rfl, -⟩ := Prod.mk.inj ends
        have settled : Settled (.ok answer) ((s.called i (.get name) after).phase i) :=
          .inl ((Function.update_self ..).trans (congrArg Phase.running done))
        rcases settled.steps steps with running | ended
        · cases running.symm.trans finished
        · refine ⟨answer, _, (Phase.finished.inj (ended.symm.trans finished)).symm, alike, ?_⟩
          rw [Operation.outcome_memory]
          cases about : operation i with
          | get _ | keys => rfl
          | set _ | remove _ =>
            rw [about] at read
            cases read
      · cases done

/-! A write with a reading in the middle of it, and one after it. -/

def trio : Fin 3 → Operation
  | 0 => .set ⟨"key", "user", "data"⟩
  | 1 => .keys
  | 2 => .get "key"

/-- The keys are listed between the writing of the item and that of the index, and the item is got when
the write is over. -/
def Trio (s : State (Fin 3)) : Prop :=
  s.phase 0 = .finished (.ok .done) ∧ s.phase 1 = .finished (.ok (.keys [])) ∧ s.lock = none ∧
    s.writes = [0] ∧ ∃ next, s.phase 2 = .running (.call (.get "key") next)

theorem steps_trio : ∃ s, Steps trio start s ∧ Trio s := by
  have entered : Steps trio start _ := .single (.enter (i := 0) rfl rfl rfl)
  have wrote := entered.tail (.call (i := 0) rfl)
  have began := wrote.tail (.begin (i := 1) rfl rfl)
  have listed := began.tail (.call (i := 1) rfl)
  have looked := listed.tail (.call (i := 0) rfl)
  have indexed := looked.tail (.call (i := 0) rfl)
  have left := indexed.tail (.leave (i := 0) rfl rfl)
  have finished := left.tail (.finish (i := 1) rfl rfl)
  have reading := finished.tail (.begin (i := 2) rfl rfl)
  exact ⟨_, reading, rfl, rfl, rfl, rfl, _, rfl⟩

/-- After the write the index and the items are in order, and the item is found. -/
theorem got_after_write : ∃ s t listed, Steps trio start s ∧ Trio s ∧
    Tidy [trio 0] s.secrets listed ∧
    Steps trio s t ∧ t.phase 2 = .finished (.ok (.item (some ⟨"key", "user", "data"⟩))) := by
  have apart : ∀ i, (trio i).key? ≠ some indexName := by decide
  obtain ⟨s, steps, trio_⟩ := steps_trio
  obtain ⟨-, -, free, writes, next, running⟩ := id trio_
  obtain ⟨answers, entries, follows, -, -, quiet, -, -⟩ := as_in_memory apart steps
  obtain ⟨⟨listed, tidy⟩, reads⟩ := quiet free
  rw [writes] at follows tidy
  have memory : (Entries.follow [.operation (trio 0)]).outcome ∅ =
      (.ok [.done], (∅ : Entries).withItem ⟨"key", "user", "data"⟩) := rfl
  obtain rfl := congrArg Prod.snd (memory.symm.trans follows)
  obtain ⟨t, more, finished, -⟩ :=
    exists_finished_of_running _ (s := s.called 2 (.get "key") next) (Function.update_self ..)
  obtain ⟨answer, expected, result, alike, got⟩ := reads 2 _ next t _ rfl running more finished
  rw [result] at finished
  obtain rfl : _ = expected := Except.ok.inj (congrArg Prod.fst got)
  cases answer <;> cases alike
  exact ⟨s, t, listed, steps, trio_, tidy, .head (.call running) more, finished⟩

end Interleaving
end GrantKeeper
