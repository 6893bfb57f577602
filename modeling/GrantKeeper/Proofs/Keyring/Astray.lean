import GrantKeeper.Proofs.Keyring.Index

/-! The keyring in a store of secrets any of whose calls may fail. A set writes the item before it lists
the key. If then the index cannot be read or written, the item is there without its key, unless that was
listed before: it has gone astray, and a logout, which goes by the index, leaves it there. -/
namespace GrantKeeper.SecretStore

open FileKeyring (Operation)

variable {α β : Type} {operation : Operation} {secrets after : StringMap String}
  {listed : List String} {log : Script.Log}

/-- Calls that are all about the index. -/
def OnIndex (log : Script.Log) : Prop := ∀ call ∈ log, call.1.name = indexName

/-- An activity that calls for the index only, and gives an answer with certain secrets at its end, or
fails and leaves the secrets as they are. -/
structure Indexes (act : Act Script α) (secrets : StringMap String) (answer : α)
    (done : StringMap String) : Prop where
  ends : ∀ {log result after}, act.Ends secrets log result after → OnIndex log ∧
    (result = .ok answer ∧ after = done ∨ (∃ failure, result = .error failure) ∧ after = secrets)

theorem OnIndex.append {first second : Script.Log} (before : OnIndex first)
    (later : OnIndex second) : OnIndex (first ++ second) := by
  intro call member
  rcases List.mem_append.mp member with member | member
  · exact before call member
  · exact later call member

theorem indexes_pure (answer : α) (secrets : StringMap String) :
    Indexes (pure answer) secrets answer secrets where
  ends ended := by
    obtain ⟨rfl, rfl, rfl⟩ := ended.of_pure
    exact ⟨nofun, .inl ⟨rfl, rfl⟩⟩

theorem indexes_ask (request : StoreCall) (secrets : StringMap String)
    (about : request.name = indexName) :
    Indexes (Script.ask request) secrets (request.reply secrets) (request.after secrets) where
  ends ended := by
    rcases ended.of_ask with ⟨rfl, rfl, rfl⟩ | ⟨rfl, failed, rfl⟩
    · exact ⟨by simp [OnIndex, about], .inl ⟨rfl, rfl⟩⟩
    · exact ⟨by simp [OnIndex, about], .inr ⟨failed, rfl⟩⟩

theorem Indexes.bind {act : Act Script α} {next : α → Act Script β} {value : α} {answer : β}
    {done : StringMap String} (first : Indexes act secrets value secrets)
    (rest : Indexes (next value) secrets answer done) :
    Indexes (act >>= next) secrets answer done where
  ends ended := by
    rcases ended.of_bind with ⟨failure, stopped, rfl⟩ | ⟨_, _, _, _, before, later, rfl⟩
    · obtain ⟨onIndex, ⟨given, -⟩ | ⟨-, same⟩⟩ := first.ends stopped
      · cases given
      · exact ⟨onIndex, .inr ⟨⟨failure, rfl⟩, same⟩⟩
    · obtain ⟨onIndex, ⟨given, rfl⟩ | ⟨⟨_, failed⟩, -⟩⟩ := first.ends before
      · cases given
        obtain ⟨onIndex_, ended⟩ := rest.ends later
        exact ⟨onIndex.append onIndex_, ended⟩
      · cases failed

theorem Indexes.map {act : Act Script α} {value : α} {done : StringMap String}
    (first : Indexes act secrets value done) (use : α → β) :
    Indexes (act >>= fun value => pure (use value)) secrets (use value) done where
  ends ended := by
    rcases ended.of_bind with ⟨failure, stopped, rfl⟩ | ⟨_, _, _, _, before, later, rfl⟩
    · obtain ⟨onIndex, ⟨given, -⟩ | ⟨-, same⟩⟩ := first.ends stopped
      · cases given
      · exact ⟨onIndex, .inr ⟨⟨failure, rfl⟩, same⟩⟩
    · obtain ⟨rfl, rfl, rfl⟩ := later.of_pure
      obtain ⟨onIndex, ⟨given, rfl⟩ | ⟨⟨_, failed⟩, -⟩⟩ := first.ends before
      · cases given
        exact ⟨onIndex.append nofun, .inl ⟨rfl, rfl⟩⟩
      · cases failed

theorem indexes_readIndex (index : listed? secrets = some listed) :
    Indexes (readIndex Script.store) secrets listed secrets := by
  refine (indexes_ask (.get indexName) secrets rfl).bind ?_
  rw [listed?] at index
  simp only [StoreCall.reply]
  cases found : secrets.get? indexName with
  | none =>
    rw [found] at index
    cases index
    exact indexes_pure [] secrets
  | some text =>
    rw [found] at index
    simp only [index]
    exact indexes_pure listed secrets

theorem indexes_reindex (secrets : StringMap String) (before now : List String) :
    Indexes (reindex before now) secrets () (reindexed secrets before now) := by
  rw [reindex, reindexed]
  split
  · exact indexes_pure () secrets
  · exact indexes_ask (.set indexName (encodeIndex now)) secrets rfl

/-- How a write may end that makes a call for its item before it turns to the index. -/
inductive Fate (request : StoreCall) (secrets done : StringMap String) (answer : α) :
    Script.Log → Except Failure α → StringMap String → Prop
  | unwritten (failure : Failure) :
    Fate request secrets done answer [(request, false)] (.error failure) secrets
  | unlisted {rest : Script.Log} (onIndex : OnIndex rest) (failure : Failure) :
    Fate request secrets done answer ((request, true) :: rest) (.error failure)
      (request.after secrets)
  | finished {rest : Script.Log} (onIndex : OnIndex rest) :
    Fate request secrets done answer ((request, true) :: rest) (.ok answer) done

theorem fate_bind {request : StoreCall} {next : request.Reply → Act Script α} {answer : α}
    {done : StringMap String} {result : Except Failure α}
    (rest : Indexes (next (request.reply secrets)) (request.after secrets) answer done)
    (ends : (Script.ask request >>= next).Ends secrets log result after) :
    Fate request secrets done answer log result after := by
  rcases ends.of_bind with ⟨failure, stopped, rfl⟩ | ⟨_, _, _, _, before, later, rfl⟩
  · rcases stopped.of_ask with ⟨-, given, -⟩ | ⟨rfl, -, rfl⟩
    · cases given
    · exact .unwritten failure
  · rcases before.of_ask with ⟨rfl, given, rfl⟩ | ⟨-, ⟨_, failed⟩, -⟩
    · cases given
      obtain ⟨onIndex, ⟨rfl, rfl⟩ | ⟨⟨failure, rfl⟩, rfl⟩⟩ := rest.ends later
      · exact .finished onIndex
      · exact .unlisted onIndex failure
    · cases failed

theorem fate_map {request : StoreCall} {act : Act Script α} {answer : α} {done : StringMap String}
    (fate : ∀ log result after, act.Ends secrets log result after →
      Fate request secrets done answer log result after)
    (use : α → β) {result : Except Failure β}
    (ends : (act >>= fun value => pure (use value)).Ends secrets log result after) :
    Fate request secrets done (use answer) log result after := by
  rcases ends.of_bind with ⟨failure, stopped, rfl⟩ | ⟨_, _, _, _, before, later, rfl⟩
  · cases fate _ _ _ stopped with
    | unwritten => exact .unwritten failure
    | unlisted onIndex => exact .unlisted onIndex failure
  · obtain ⟨rfl, rfl, rfl⟩ := later.of_pure
    cases fate _ _ _ before with
    | finished onIndex =>
      rw [List.append_nil]
      exact .finished onIndex

theorem fate_set (index : listed? secrets = some listed) {item : KeyringItem}
    (apart : (Operation.set item).key? ≠ some indexName) {result : Except Failure Unit}
    (ends : ((SecretStore.keyring Script.store).set item).Ends secrets log result after) :
    Fate (.set item.key (encodeEntry item.entry)) secrets
      (reindexed (onItems (.set item) secrets) listed ((Operation.set item).relist listed)) ()
      log result after := by
  rw [keyring_set] at ends
  refine fate_bind ?_ ends
  exact (indexes_readIndex ((listed?_onItems apart secrets).trans index)).bind
    (indexes_reindex _ _ _)

theorem fate_remove (index : listed? secrets = some listed) {key : String}
    (apart : (Operation.remove key).key? ≠ some indexName) {result : Except Failure Bool}
    (ends : ((SecretStore.keyring Script.store).remove key).Ends secrets log result after) :
    Fate (.delete key) secrets
      (reindexed (onItems (.remove key) secrets) listed ((Operation.remove key).relist listed))
      (secrets.get? key).isSome log result after := by
  rw [keyring_remove] at ends
  refine fate_bind ?_ ends
  exact (indexes_readIndex ((listed?_onItems apart secrets).trans index)).bind
    ((indexes_reindex _ _ _).map fun _ => (secrets.get? key).isSome)

/-- The call by which a write changes its item. -/
def itemCall? : Operation → Option StoreCall
  | .get _ | .keys => none
  | .set item => some (.set item.key (encodeEntry item.entry))
  | .remove key => some (.delete key)

theorem fate_script (index : listed? secrets = some listed)
    (apart : operation.key? ≠ some indexName) {request : StoreCall}
    (write : itemCall? operation = some request) {result : Except Failure Answer}
    (ends : (script operation).Ends secrets log result after) : ∃ answer,
    Fate request secrets
      (reindexed (onItems operation secrets) listed (operation.relist listed)) answer
      log result after := by
  cases operation with
  | get _ | keys => cases write
  | set item =>
    cases write
    exact ⟨.done, fate_map (fun _ _ _ => fate_set index apart) (fun _ => Answer.done) ends⟩
  | remove key =>
    cases write
    exact ⟨_, fate_map (fun _ _ _ => fate_remove index apart) Answer.removed ends⟩

/-! Runs. -/

/-- A set strands its item: it wrote it, and then ended in an error, and the key was not listed. -/
def Strands (operation : Operation) (listed : List String) (log : Script.Log)
    (result : Except Failure Answer) (key : String) : Prop :=
  ∃ item : KeyringItem, operation = .set item ∧ item.key = key ∧
    (.set key (encodeEntry item.entry), true) ∈ log ∧ (∃ failure, result = .error failure) ∧
    key ∉ listed

/-- An item is recovered by a set that ends well, or is deleted. -/
def Recovers (operation : Operation) (log : Script.Log) (result : Except Failure Answer)
    (key : String) : Prop :=
  (∃ item : KeyringItem, operation = .set item ∧ item.key = key ∧ ∃ answer, result = .ok answer) ∨
    (.delete key, true) ∈ log

/-- Runs of the keyring on an empty store any of whose calls may fail: the secrets, and the keys whose
items went astray and were not recovered or deleted since then. -/
inductive Runs : StringMap String → (String → Prop) → Prop
  | start : Runs ∅ fun _ => False
  | operation {secrets after : StringMap String} {astray : String → Prop} {operation : Operation}
    {log : Script.Log} {result : Except Failure Answer} :
    Runs secrets astray → operation.key? ≠ some indexName →
    (script operation).Ends secrets log result after →
    Runs after fun key =>
      Strands operation ((listed? secrets).getD []) log result key ∨
        astray key ∧ ¬Recovers operation log result key

/-- The items that are there without their keys' being listed are those that went astray. -/
structure Strewn (secrets : StringMap String) (listed : List String) (astray : String → Prop) :
    Prop where
  index : listed? secrets = some listed
  apart : indexName ∉ listed
  stray : ∀ key, key ≠ indexName → ((secrets.get? key).isSome ∧ key ∉ listed ↔ astray key)

theorem strewn_empty : Strewn ∅ [] fun _ => False where
  index := rfl
  apart := List.not_mem_nil
  stray key _ := by simp

variable {astray : String → Prop} {result : Except Failure Answer}

theorem Strewn.read (strewn : Strewn secrets listed astray) (read : operation.isWrite = false)
    (ends : (script operation).Ends secrets log result after) :
    Strewn after listed fun key =>
      Strands operation listed log result key ∨ astray key ∧ ¬Recovers operation log result key := by
  obtain ⟨rfl, gets⟩ := (glances_script read).ends ends
  refine ⟨strewn.index, strewn.apart, fun key other => ?_⟩
  have kept : ¬Recovers operation log result key := by
    rintro (⟨item, rfl, -⟩ | deleted)
    · cases read
    · obtain ⟨name, get⟩ := gets _ deleted
      cases get
  have written : ¬Strands operation listed log result key := by
    rintro ⟨item, rfl, -⟩
    cases read
  simp only [written, kept, strewn.stray key other, not_false_eq_true, and_true, false_or]

theorem itemCall?_after {request : StoreCall} (write : itemCall? operation = some request)
    (secrets : StringMap String) : request.after secrets = onItems operation secrets := by
  cases operation <;> cases write <;> rfl

theorem Strands.key? {key : String} (strands : Strands operation listed log result key) :
    operation.key? = some key := by
  obtain ⟨item, rfl, rfl, -⟩ := strands
  rfl

theorem Recovers.key? {request : StoreCall} {answered : Bool} {key : String}
    (recovers : Recovers operation ((request, answered) :: log) result key)
    (write : itemCall? operation = some request) (onIndex : OnIndex log) (named : key ≠ indexName) :
    operation.key? = some key := by
  rcases recovers with ⟨item, rfl, rfl, -⟩ | deleted
  · rfl
  · rcases List.mem_cons.mp deleted with same | later
    · cases operation <;> cases write <;> cases same
      rfl
    · exact absurd (onIndex _ later) named

theorem Strewn.other (strewn : Strewn secrets listed astray) {request : StoreCall} {answered : Bool}
    {key : String} (write : itemCall? operation = some request) (onIndex : OnIndex log)
    (named : key ≠ indexName) (about : operation.key? ≠ some key) {relisted : List String}
    (item : after.get? key = secrets.get? key) (member : key ∈ relisted ↔ key ∈ listed) :
    (after.get? key).isSome ∧ key ∉ relisted ↔
      Strands operation listed ((request, answered) :: log) result key ∨
        astray key ∧ ¬Recovers operation ((request, answered) :: log) result key := by
  have written : ¬Strands operation listed ((request, answered) :: log) result key :=
    fun strands => about strands.key?
  have kept : ¬Recovers operation ((request, answered) :: log) result key :=
    fun recovers => about (recovers.key? write onIndex named)
  simp only [item, member, written, kept, strewn.stray key named, not_false_eq_true, and_true,
    false_or]

theorem not_stray_of_removed (key : String) {relisted : List String} :
    ((onItems (.remove key) secrets).get? key).isSome ∧ key ∉ relisted ↔
      Strands (.remove key) listed ((.delete key, true) :: log) result key ∨
        astray key ∧ ¬Recovers (.remove key) ((.delete key, true) :: log) result key := by
  rw [onItems, StringMap.get?_erase_self]
  refine iff_of_false (fun stray => by cases stray.1) ?_
  rintro (⟨_, same, -⟩ | ⟨-, kept⟩)
  · cases same
  · exact kept (.inr List.mem_cons_self)

/-- A write that could not see to the index: a set has stranded its item, unless that is listed. -/
theorem Strewn.unlisted (strewn : Strewn secrets listed astray) {request : StoreCall} {key : String}
    (write : itemCall? operation = some request) (named : key ≠ indexName)
    (about : operation.key? = some key) (failure : Failure) :
    ((onItems operation secrets).get? key).isSome ∧ key ∉ listed ↔
      Strands operation listed ((request, true) :: log) (.error failure) key ∨
        astray key ∧ ¬Recovers operation ((request, true) :: log) (.error failure) key := by
  cases operation with
  | get _ | keys => cases write
  | set item =>
    cases write
    cases about
    have there : ((onItems (.set item) secrets).get? item.key).isSome := by
      rw [onItems, StringMap.get?_insert_self]
      rfl
    constructor
    · rintro ⟨-, absent⟩
      exact .inl ⟨item, rfl, rfl, List.mem_cons_self, ⟨failure, rfl⟩, absent⟩
    · rintro (⟨-, -, -, -, -, absent⟩ | ⟨stray, -⟩)
      · exact ⟨there, absent⟩
      · exact ⟨there, ((strewn.stray _ named).mpr stray).2⟩
  | remove removed =>
    cases write
    cases about
    exact not_stray_of_removed key

/-- A write that came to its end leaves its own item listed or gone. -/
theorem not_stray_of_finished {request : StoreCall} {key : String}
    (write : itemCall? operation = some request) (about : operation.key? = some key)
    (answer : Answer) :
    ((onItems operation secrets).get? key).isSome ∧ key ∉ operation.relist listed ↔
      Strands operation listed ((request, true) :: log) (.ok answer) key ∨
        astray key ∧ ¬Recovers operation ((request, true) :: log) (.ok answer) key := by
  cases operation with
  | get _ | keys => cases write
  | set item =>
    cases write
    cases about
    have member : item.key ∈ (Operation.set item).relist listed := by
      rw [Operation.relist]
      split <;> simp_all
    refine iff_of_false (fun stray => stray.2 member) ?_
    rintro (⟨-, -, -, -, ⟨_, failed⟩, -⟩ | ⟨-, kept⟩)
    · cases failed
    · exact kept (.inl ⟨item, rfl, rfl, answer, rfl⟩)
  | remove removed =>
    cases write
    cases about
    exact not_stray_of_removed key

theorem Strewn.write (strewn : Strewn secrets listed astray)
    (apart : operation.key? ≠ some indexName) {request : StoreCall}
    (write : itemCall? operation = some request)
    (ends : (script operation).Ends secrets log result after) :
    ∃ relisted, Strewn after relisted fun key =>
      Strands operation listed log result key ∨
        astray key ∧ ¬Recovers operation log result key := by
  obtain ⟨answer, fate⟩ := fate_script strewn.index apart write ends
  have still := (listed?_onItems apart secrets).trans strewn.index
  cases fate with
  | unwritten failure =>
    refine ⟨listed, strewn.index, strewn.apart, fun key named => ?_⟩
    simp [Strands, Recovers, strewn.stray key named]
  | unlisted onIndex failure =>
    rw [itemCall?_after write]
    refine ⟨listed, still, strewn.apart, fun key named => ?_⟩
    by_cases about : operation.key? = some key
    · exact strewn.unlisted write named about failure
    · exact strewn.other write onIndex named about (get?_onItems_of_ne about _) Iff.rfl
  | finished onIndex =>
    refine ⟨_, listed?_reindexed still _, ?_, fun key named => ?_⟩
    · exact mt (Operation.mem_relist_of_ne apart listed).mp strewn.apart
    · rw [get?_reindexed _ _ _ named]
      by_cases about : operation.key? = some key
      · exact not_stray_of_finished write about answer
      · exact strewn.other write onIndex named about (get?_onItems_of_ne about _)
          (Operation.mem_relist_of_ne about listed)

theorem Strewn.step (strewn : Strewn secrets listed astray)
    (apart : operation.key? ≠ some indexName)
    (ends : (script operation).Ends secrets log result after) :
    ∃ relisted, Strewn after relisted fun key =>
      Strands operation listed log result key ∨
        astray key ∧ ¬Recovers operation log result key := by
  cases operation with
  | get _ | keys => exact ⟨listed, strewn.read rfl ends⟩
  | set _ | remove _ => exact strewn.write apart rfl ends

theorem Runs.strewn (run : Runs secrets astray) : ∃ listed, Strewn secrets listed astray := by
  induction run with
  | start => exact ⟨[], strewn_empty⟩
  | operation _ apart ends ih =>
    obtain ⟨listed, strewn⟩ := ih
    rw [strewn.index]
    exact strewn.step apart ends

/-! Logging out. -/

theorem ends_remove_ok {key : String} (index : listed? secrets = some listed)
    (other : key ≠ indexName)
    (ends : (Credential.remove (SecretStore.keyring Script.store) key).Ends secrets log (.ok ()) after) :
    listed? after = some ((Operation.remove key).relist listed) ∧ ∀ name, name ≠ indexName →
      after.get? name = (secrets.erase key).get? name := by
  have apart : (Operation.remove key).key? ≠ some indexName := fun same => other (Option.some.inj same)
  have still := (listed?_onItems apart secrets).trans index
  rcases ends.of_bind with ⟨_, -, failed⟩ | ⟨_, _, _, _, before, later, rfl⟩
  · cases failed
  · obtain ⟨-, -, rfl⟩ := later.of_pure
    obtain ⟨plain, removed, given⟩ := before.of_mapError
    cases fate_remove index apart removed with
    | unwritten | unlisted => cases given
    | finished => exact ⟨listed?_reindexed still _, fun name named => get?_reindexed _ _ _ named⟩

theorem failed_eq_none (keys : List String) : ∀ {failed : Option Error} {secrets : StringMap String}
    {log : Script.Log}, (Credential.removeAll (SecretStore.keyring Script.store) keys failed).Ends
      secrets log (.ok none) after → failed = none := by
  induction keys with
  | nil =>
    intro failed secrets log ends
    obtain ⟨-, given, -⟩ := ends.of_pure
    exact (Except.ok.inj given).symm
  | cons key rest ih =>
    intro failed secrets log ends
    rcases ends.of_bind with ⟨_, -, given⟩ | ⟨_, error | _, _, _, -, later, -⟩
    · cases given
    · cases ih later
    · exact ih later

theorem ends_removeAll_ok (keys : List String) : ∀ {secrets : StringMap String}
    {listed : List String} {log : Script.Log},
    listed? secrets = some listed → indexName ∉ keys →
    (Credential.removeAll (SecretStore.keyring Script.store) keys none).Ends secrets log
      (.ok none) after →
    listed? after = some (listed.filter (· ∉ keys)) ∧ ∀ name, name ≠ indexName →
      after.get? name = if name ∈ keys then none else secrets.get? name := by
  induction keys with
  | nil =>
    intro secrets listed log index apart ends
    obtain ⟨-, -, rfl⟩ := ends.of_pure
    refine ⟨?_, fun _ _ => rfl⟩
    rw [index, List.filter_eq_self.mpr (by simp)]
  | cons key rest ih =>
    intro secrets listed log index apart ends
    obtain ⟨first, others⟩ := not_or.mp (mt List.mem_cons.mpr apart)
    rcases ends.of_bind with ⟨_, -, given⟩ | ⟨_, error | _, _, _, before, later, rfl⟩
    · cases given
    · cases failed_eq_none rest later
    · obtain ⟨plain, ended, given⟩ := before.of_attempt
      rcases plain with (_ | _) | _ <;> cases given
      obtain ⟨relisted, erased⟩ := ends_remove_ok index (Ne.symm first) ended
      obtain ⟨index, gone⟩ := ih relisted others later
      refine ⟨?_, fun name other => ?_⟩
      · rw [index, Operation.relist, List.filter_filter]
        congr 2
        funext name
        by_cases about : name = key <;> simp [about]
      · rw [gone name other, erased name other]
        by_cases about : name = key
        · simp [about]
        · simp [about, StringMap.get?_erase_of_ne _ about]

theorem ends_logout_ok (index : listed? secrets = some listed) (apart : indexName ∉ listed)
    (ends : (Credential.logout (SecretStore.keyring Script.store)).Ends secrets log (.ok ()) after) :
    listed? after = some [] ∧ ∀ name, name ≠ indexName →
      after.get? name = if name ∈ listed then none else secrets.get? name := by
  rcases ends.of_bind with ⟨_, -, given⟩ | ⟨_, keys, _, between, before, later, rfl⟩
  · cases given
  · obtain ⟨plain, read, given⟩ := before.of_mapError
    obtain ⟨-, ⟨rfl, rfl⟩ | ⟨⟨_, rfl⟩, -⟩⟩ := (indexes_readIndex index).ends read
    · cases given
      rcases later.of_bind with ⟨_, -, given⟩ | ⟨_, none | error, _, _, removed, ended, rfl⟩
      · cases given
      · obtain ⟨-, -, rfl⟩ := ended.of_pure
        obtain ⟨relisted, left⟩ := ends_removeAll_ok _ index apart removed
        refine ⟨?_, left⟩
        rw [relisted, List.filter_eq_nil_iff.mpr (by simp)]
      · cases ended
    · cases given

/-- In a store any of whose calls may fail, an item is there without its key's being listed exactly if it
went astray: a set that was to insert it wrote it and then ended in an error, and since then it was
neither set with success nor deleted. After a logout that ends well, these are the items that are left. -/
theorem left_iff_astray (run : Runs secrets astray) : ∃ listed,
    listed? secrets = some listed ∧
    (∀ key, key ≠ indexName → ((secrets.get? key).isSome ∧ key ∉ listed ↔ astray key)) ∧
    ∀ log after, (Credential.logout (SecretStore.keyring Script.store)).Ends secrets log (.ok ()) after →
      ∀ key, key ≠ indexName → ((after.get? key).isSome ↔ astray key) := by
  obtain ⟨listed, strewn⟩ := run.strewn
  refine ⟨listed, strewn.index, strewn.stray, fun log after ends key other => ?_⟩
  obtain ⟨-, left⟩ := ends_logout_ok strewn.index strewn.apart ends
  rw [left key other, ← strewn.stray key other]
  by_cases member : key ∈ listed <;> simp [member]

/-! A set whose index cannot be written. -/

def storedItem : KeyringItem := ⟨"key", "user", "data"⟩

def itemOnly : StringMap String := (∅ : StringMap String).insert "key" (encodeEntry storedItem.entry)

def noSpace : Error := .file "No space left on device"

def stranding : Script.Log := [
  (.set "key" (encodeEntry storedItem.entry), true), (.get indexName, true),
  (.set indexName (encodeIndex ["key"]), false)]

theorem ends_set_item :
    (script (.set storedItem)).Ends ∅ stranding (.error (.error noSpace)) itemOnly :=
  .answered (.answered (.failed noSpace .done))

theorem ends_logout_itemOnly :
    (Credential.logout (SecretStore.keyring Script.store)).Ends itemOnly [(.get indexName, true)]
      (.ok ()) itemOnly :=
  .answered .done

/-- The item that could not be listed is not found by a logout, which ends well and leaves it there. -/
theorem item_left_by_logout :
    ∃ astray, Runs itemOnly astray ∧ astray "key" ∧ (itemOnly.get? "key").isSome := by
  have run := Runs.start.operation (by decide) ends_set_item
  refine ⟨_, run, ?_⟩
  obtain ⟨listed, -, -, logout⟩ := left_iff_astray run
  have left := logout _ _ ends_logout_itemOnly "key" (by decide)
  have there : (itemOnly.get? "key").isSome := by decide
  exact ⟨left.mp there, there⟩

/-- A set may end in an error with its item in the store and its key not listed, and a logout may end
well then and leave the item there. -/
theorem unlisted_after_set :
    (script (.set storedItem)).Ends ∅ stranding (.error (.error noSpace)) itemOnly ∧
    (itemOnly.get? "key").isSome ∧ listed? itemOnly = some [] ∧
    (Credential.logout (SecretStore.keyring Script.store)).Ends itemOnly [(.get indexName, true)]
      (.ok ()) itemOnly :=
  ⟨ends_set_item, by decide, by decide, ends_logout_itemOnly⟩

end GrantKeeper.SecretStore
