import Mathlib.Data.List.Induction
import GrantKeeper.Proofs.Keyring.Answer
import GrantKeeper.Proofs.Keyring.Script

/-! The keyring in a store of secrets, used by one at a time while no call fails. What was done so far
decides which keys the index lists, and in which order, and what the items are. -/
namespace GrantKeeper

/-- The same answer, but for the order in which keys are listed. -/
def Answer.Alike : Answer → Answer → Prop
  | keys listed, keys others => listed.Perm others
  | answer, other => answer = other

namespace FileKeyring.Operation

def key? : Operation → Option String
  | get key | remove key => some key
  | set item => some item.key
  | keys => none

def isWrite : Operation → Bool
  | get _ | keys => false
  | set _ | remove _ => true

/-- The list of the keys after an operation: a new one comes last. -/
def relist (operation : Operation) (listed : List String) : List String :=
  match operation with
  | get _ | keys => listed
  | set item => if item.key ∈ listed then listed else listed ++ [item.key]
  | remove key => listed.filter (· != key)

theorem mem_relist_of_ne {operation : Operation} {key : String} (other : operation.key? ≠ some key)
    (listed : List String) : key ∈ operation.relist listed ↔ key ∈ listed := by
  cases operation with
  | get _ | keys => rfl
  | set item =>
    have differs : key ≠ item.key := fun same => other (same ▸ rfl)
    rw [relist]
    split <;> simp [differs]
  | remove removed =>
    have differs : key ≠ removed := fun same => other (same ▸ rfl)
    simp [relist, differs]

end FileKeyring.Operation

namespace SecretStore

open FileKeyring (Operation)

theorem mapM_asText?_treesOf (keys : List String) :
    (Json.treesOf (keys.map .text)).mapM Json.Tree.asText? = some keys := by
  induction keys with
  | nil => rfl
  | cons key rest ih =>
    rw [List.map_cons, Json.treesOf, List.mapM_cons, ih, Json.asText?_tree]
    rfl

theorem decodeIndex?_encodeIndex (keys : List String) :
    decodeIndex? (encodeIndex keys) = some keys := by
  have legible : (Json.Value.array (keys.map .text)).Legible := by
    rw [Json.Value.Legible]
    induction keys with
    | nil => trivial
    | cons key rest ih => exact ⟨trivial, ih⟩
  rw [decodeIndex?, encodeIndex, Json.parse?_toCompact legible, Option.bind_eq_bind,
    Option.bind_some]
  exact mapM_asText?_treesOf keys

theorem decodeEntry?_encodeEntry (entry : Entry) :
    decodeEntry? (encodeEntry entry) = some entry := by
  unfold decodeEntry? encodeEntry
  rw [Json.parse?_toCompact entry.legible_toJson, Option.bind_eq_bind, Option.bind_some]
  exact entry.ofJson?_toJson

/-- The key of no audience is the name of the index, which has an odd number of letters. -/
theorem keyOf_ne_indexName (audience : String) : Credential.keyOf audience ≠ indexName := by
  intro same
  have even (bytes : List UInt8) : (Hex.encode bytes).length = bytes.length * 2 := by
    simp [Hex.encode, List.length_flatMap, List.map_const']
  have odd : indexName.length = 13 := by decide
  have long := even (Sha1.digest (Utf8.encode audience))
  rw [show Hex.encode (Sha1.digest (Utf8.encode audience)) = indexName from same, odd] at long
  omega

/-- The keys that the index lists, if it can be read. -/
def listed? (secrets : StringMap String) : Option (List String) :=
  match secrets.get? indexName with
  | none => some []
  | some text => decodeIndex? text

theorem listed?_insert_indexName (secrets : StringMap String) (keys : List String) :
    listed? (secrets.insert indexName (encodeIndex keys)) = some keys := by
  rw [listed?, StringMap.get?_insert_self]
  exact decodeIndex?_encodeIndex keys

/-! What was done so far. -/

/-- The entries of a keyring in memory after some operations. -/
def remembered (operations : List Operation) : Entries :=
  operations.foldl (fun entries operation => operation.after entries) ∅

def relisted (operations : List Operation) : List String :=
  operations.foldl (fun listed operation => operation.relist listed) []

theorem remembered_concat (operations : List Operation) (operation : Operation) :
    remembered (operations ++ [operation]) = operation.after (remembered operations) := by
  simp [remembered]

theorem relisted_concat (operations : List Operation) (operation : Operation) :
    relisted (operations ++ [operation]) = operation.relist (relisted operations) := by
  simp [relisted]

theorem get?_after (operation : Operation) (entries : Entries) (key : String) :
    (operation.after entries).get? key =
      match operation with
      | .get _ | .keys => entries.get? key
      | .set item => if key = item.key then some item.entry else entries.get? key
      | .remove other => if key = other then none else entries.get? key := by
  cases operation with
  | get _ | keys => rfl
  | set item =>
    have after : (Operation.set item).after entries = entries.insert item.key item.entry := rfl
    simp only [after]
    split
    · next same => rw [same, StringMap.get?_insert_self]
    · next differs => exact StringMap.get?_insert_of_ne _ differs _
  | remove other =>
    simp only [Operation.after_remove]
    split
    · next same => rw [same, StringMap.get?_erase_self]
    · next differs => exact StringMap.get?_erase_of_ne _ differs

theorem mem_relisted_iff (operations : List Operation) (key : String) :
    key ∈ relisted operations ↔ ((remembered operations).get? key).isSome := by
  induction operations using List.reverseRecOn with
  | nil => simp [relisted, remembered]
  | append_singleton operations operation ih =>
    rw [relisted_concat, remembered_concat, get?_after]
    cases operation with
    | get _ | keys => exact ih
    | set item =>
      simp only [Operation.relist]
      split <;> split <;> simp_all
    | remove other =>
      simp only [Operation.relist, List.mem_filter, ih]
      split <;> simp_all

theorem nodup_relisted (operations : List Operation) : (relisted operations).Nodup := by
  induction operations using List.reverseRecOn with
  | nil => exact List.nodup_nil
  | append_singleton operations operation ih =>
    rw [relisted_concat]
    cases operation with
    | get _ | keys => exact ih
    | set item =>
      rw [Operation.relist]
      split
      · exact ih
      · next absent =>
        refine List.nodup_append.mpr ⟨ih, List.pairwise_singleton _ _, ?_⟩
        rintro key there _ last rfl
        exact absent (List.mem_singleton.mp last ▸ there)
    | remove other => exact ih.filter _

theorem indexName_notMem_relisted {operations : List Operation}
    (apart : ∀ operation ∈ operations, operation.key? ≠ some indexName) :
    indexName ∉ relisted operations := by
  induction operations using List.reverseRecOn with
  | nil => exact List.not_mem_nil
  | append_singleton operations operation ih =>
    rw [relisted_concat,
      Operation.mem_relist_of_ne (apart operation (List.mem_append_right _ List.mem_cons_self))]
    exact ih fun earlier member => apart earlier (List.mem_append_left _ member)

/-- Listed in one order or another, the keys are those that the keyring in memory gives. -/
theorem perm_relisted (operations : List Operation) :
    (relisted operations).Perm (remembered operations).keys := by
  refine (List.perm_ext_iff_of_nodup (nodup_relisted operations) (StringMap.nodup_keys _)).mpr ?_
  intro key
  rw [mem_relisted_iff, StringMap.isSome_get?_iff]

/-! When a key was inserted, and what was set for it last. -/

theorem getElem?_concat_eq_some_iff {α : Type} (list : List α) (last value : α) (n : Nat) :
    (list ++ [last])[n]? = some value ↔
      list[n]? = some value ∨ n = list.length ∧ last = value := by
  rcases Nat.lt_trichotomy n list.length with before | rfl | beyond
  · simp [List.getElem?_append_left before, Nat.ne_of_lt before]
  · simp
  · have after : ¬ n < (list ++ [last]).length := by simp; omega
    simp [List.getElem?_eq_none (Nat.le_of_not_lt after), List.getElem?_eq_none (Nat.le_of_lt beyond),
      Nat.ne_of_gt beyond]

/-- A key is inserted by an operation that sets it while it is not there, and is not removed after
that. -/
structure InsertedAt (operations : List Operation) (key : String) (n : Nat) : Prop where
  set : ∃ item : KeyringItem, operations[n]? = some (.set item) ∧ item.key = key
  fresh : (remembered (operations.take n)).get? key = none
  stays : ∀ m, n < m → operations[m]? ≠ some (.remove key)

theorem insertedAt_concat_iff (operations : List Operation) (operation : Operation) (key : String)
    (n : Nat) :
    InsertedAt (operations ++ [operation]) key n ↔
      InsertedAt operations key n ∧ operation ≠ .remove key ∨
      n = operations.length ∧ (remembered operations).get? key = none ∧
        ∃ item : KeyringItem, operation = .set item ∧ item.key = key := by
  constructor
  · rintro ⟨⟨item, there, rfl⟩, fresh, stays⟩
    rcases (getElem?_concat_eq_some_iff ..).mp there with there | ⟨rfl, rfl⟩
    · have before := (List.getElem?_eq_some_iff.mp there).1
      rw [List.take_append_of_le_length (Nat.le_of_lt before)] at fresh
      refine .inl ⟨⟨⟨item, there, rfl⟩, fresh, fun m later removed => ?_⟩, fun removed => ?_⟩
      · exact stays m later ((getElem?_concat_eq_some_iff ..).mpr (.inl removed))
      · exact stays _ before ((getElem?_concat_eq_some_iff ..).mpr (.inr ⟨rfl, removed⟩))
    · rw [List.take_left] at fresh
      exact .inr ⟨rfl, fresh, item, rfl, rfl⟩
  · rintro (⟨⟨⟨item, there, rfl⟩, fresh, stays⟩, kept⟩ | ⟨rfl, fresh, item, rfl, rfl⟩)
    · have before := (List.getElem?_eq_some_iff.mp there).1
      refine ⟨⟨item, (getElem?_concat_eq_some_iff ..).mpr (.inl there), rfl⟩, ?_,
        fun m later removed => ?_⟩
      · rwa [List.take_append_of_le_length (Nat.le_of_lt before)]
      · rcases (getElem?_concat_eq_some_iff ..).mp removed with removed | ⟨-, removed⟩
        · exact stays m later removed
        · exact kept removed
    · refine ⟨⟨item, List.getElem?_concat_length, rfl⟩, ?_, fun m later removed => ?_⟩
      · rwa [List.take_left]
      · rcases (getElem?_concat_eq_some_iff ..).mp removed with removed | ⟨rfl, -⟩
        · exact Nat.lt_asymm later (List.getElem?_eq_some_iff.mp removed).1
        · exact Nat.lt_irrefl _ later

theorem mem_relisted_iff_insertedAt (operations : List Operation) (key : String) :
    key ∈ relisted operations ↔ ∃ n, InsertedAt operations key n := by
  induction operations using List.reverseRecOn with
  | nil =>
    refine iff_of_false List.not_mem_nil ?_
    rintro ⟨n, ⟨item, there, -⟩, -, -⟩
    cases there
  | append_singleton operations operation ih =>
    have absent : (remembered operations).get? key = none ↔ key ∉ relisted operations := by
      rw [mem_relisted_iff]
      simp
    simp only [relisted_concat, insertedAt_concat_iff, absent, exists_or, exists_and_right, ← ih,
      exists_eq, true_and]
    cases operation with
    | get _ | keys => simp [Operation.relist]
    | set item =>
      by_cases there : item.key ∈ relisted operations
      · simp only [Operation.relist, there, if_true]
        constructor
        · exact fun member => .inl ⟨member, nofun⟩
        · rintro (⟨member, -⟩ | ⟨fresh, _, same, rfl⟩)
          · exact member
          · cases same
            exact absurd there fresh
      · simp only [Operation.relist, there, if_false, List.mem_append, List.mem_singleton]
        constructor
        · rintro (member | rfl)
          · exact .inl ⟨member, nofun⟩
          · exact .inr ⟨there, item, rfl, rfl⟩
        · rintro (⟨member, -⟩ | ⟨-, _, same, rfl⟩)
          · exact .inl member
          · cases same
            exact .inr rfl
    | remove other =>
      rw [Operation.relist, List.mem_filter, bne_iff_ne]
      constructor
      · rintro ⟨member, differs⟩
        exact .inl ⟨member, fun same => differs (Operation.remove.inj same).symm⟩
      · rintro (⟨member, differs⟩ | ⟨-, _, same, -⟩)
        · exact ⟨member, fun same => differs (same ▸ rfl)⟩
        · cases same

theorem pairwise_relisted (operations : List Operation) :
    (relisted operations).Pairwise fun a b =>
      ∀ m n, InsertedAt operations a m → InsertedAt operations b n → m < n := by
  induction operations using List.reverseRecOn with
  | nil => exact .nil
  | append_singleton operations operation ih =>
    -- An operation that inserts nothing new leaves the keys that stay in their places.
    have still {listed : List String} (sub : listed.Sublist (relisted operations)) :
        listed.Pairwise fun a b => ∀ m n, InsertedAt (operations ++ [operation]) a m →
          InsertedAt (operations ++ [operation]) b n → m < n := by
      refine (ih.sublist sub).imp_of_mem ?_
      intro a b a_in b_in before m n a_at b_at
      have old {key : String} {k : Nat} (member : key ∈ listed)
          (at_ : InsertedAt (operations ++ [operation]) key k) : InsertedAt operations key k := by
        rcases (insertedAt_concat_iff ..).mp at_ with ⟨old, -⟩ | ⟨-, fresh, -⟩
        · exact old
        · have there := (mem_relisted_iff operations key).mp (sub.subset member)
          rw [fresh] at there
          cases there
      exact before m n (old a_in a_at) (old b_in b_at)
    rw [relisted_concat]
    cases operation with
    | get _ | keys => exact still (List.Sublist.refl _)
    | remove key => exact still List.filter_sublist
    | set item =>
      rw [Operation.relist]
      split
      · exact still (List.Sublist.refl _)
      · next new =>
        refine List.pairwise_append.mpr ⟨still (List.Sublist.refl _), List.pairwise_singleton _ _, ?_⟩
        intro a member b last m n a_at b_at
        obtain rfl := List.mem_singleton.mp last
        have before : m < operations.length := by
          rcases (insertedAt_concat_iff ..).mp a_at with ⟨⟨⟨_, there, -⟩, -, -⟩, -⟩ | ⟨-, -, _, same, rfl⟩
          · exact (List.getElem?_eq_some_iff.mp there).1
          · cases same
            exact absurd member new
        have at_end : n = operations.length := by
          rcases (insertedAt_concat_iff ..).mp b_at with ⟨old, -⟩ | ⟨same, -⟩
          · exact absurd ((mem_relisted_iff_insertedAt ..).mpr ⟨n, old⟩) new
          · exact same
        omega

/-- An item that was set for its key, which no later operation set or removed. -/
def LastSet (operations : List Operation) (item : KeyringItem) : Prop :=
  ∃ n : Nat, operations[n]? = some (Operation.set item) ∧ ∀ (m : Nat) later, n < m → operations[m]? = some later →
    later.isWrite → later.key? ≠ some item.key

theorem lastSet_of_remembered {operations : List Operation} : ∀ {key : String} {entry : Entry},
    (remembered operations).get? key = some entry → LastSet operations (entry.item key) := by
  induction operations using List.reverseRecOn with
  | nil =>
    intro key entry found
    cases found
  | append_singleton operations operation ih =>
    intro key entry found
    rw [remembered_concat, get?_after] at found
    have earlier (found : (remembered operations).get? key = some entry)
        (other : operation.isWrite → operation.key? ≠ some key) :
        LastSet (operations ++ [operation]) (entry.item key) := by
      obtain ⟨n, there, last⟩ := ih found
      refine ⟨n, (getElem?_concat_eq_some_iff ..).mpr (.inl there), fun m later after followed => ?_⟩
      rcases (getElem?_concat_eq_some_iff ..).mp followed with followed | ⟨-, rfl⟩
      · exact last m later after followed
      · exact other
    cases operation with
    | get _ | keys => exact earlier found nofun
    | set item =>
      simp only at found
      split at found
      · next same =>
        cases found
        have whole : item.entry.item key = item := by rw [same]; rfl
        refine ⟨operations.length, by rw [whole]; exact List.getElem?_concat_length, ?_⟩
        intro m later after followed
        rcases (getElem?_concat_eq_some_iff ..).mp followed with followed | ⟨rfl, -⟩
        · exact absurd (List.getElem?_eq_some_iff.mp followed).1 (Nat.lt_asymm after)
        · exact absurd after (Nat.lt_irrefl _)
      · next differs => exact earlier found fun _ same => differs (Option.some.inj same).symm
    | remove other =>
      simp only at found
      split at found
      · cases found
      · next differs => exact earlier found fun _ same => differs (Option.some.inj same).symm

/-! What a write does: it changes its item, and then the index, if that has to change. -/

def script (operation : Operation) : Act Script Answer :=
  (SecretStore.keyring Script.store).answer operation

def reindex (before now : List String) : Act Script Unit :=
  if now = before then pure () else writeIndex Script.store now

theorem relist_set_eq_self_iff (item : KeyringItem) (listed : List String) :
    (Operation.set item).relist listed = listed ↔ item.key ∈ listed := by
  rw [Operation.relist]
  split <;> simp_all

theorem keyring_set (item : KeyringItem) : (SecretStore.keyring Script.store).set item = (do
    Script.store.set item.key (encodeEntry item.entry)
    let keys ← readIndex Script.store
    reindex keys ((Operation.set item).relist keys)) := by
  refine bind_congr fun _ => bind_congr fun keys => ?_
  simp only [reindex, relist_set_eq_self_iff, List.contains_iff_mem]
  by_cases there : item.key ∈ keys
  · simp only [there, if_true]
  · simp only [Operation.relist, there, if_false]

theorem keyring_remove (key : String) : (SecretStore.keyring Script.store).remove key = (do
    let removed ← Script.store.delete key
    let keys ← readIndex Script.store
    reindex keys ((Operation.remove key).relist keys)
    return removed) := by
  refine bind_congr fun removed => bind_congr fun keys => ?_
  have same_iff : (keys.filter (· != key)).length = keys.length ↔ keys.filter (· != key) = keys :=
    ⟨List.filter_sublist.eq_of_length, congrArg List.length⟩
  simp only [reindex, Operation.relist, same_iff]
  by_cases there : keys.filter (· != key) = keys
  · simp only [there, if_true]
    rfl
  · simp only [there, if_false]

/-- What an operation does to the items. -/
def onItems (operation : Operation) (secrets : StringMap String) : StringMap String :=
  match operation with
  | .get _ | .keys => secrets
  | .set item => secrets.insert item.key (encodeEntry item.entry)
  | .remove key => secrets.erase key

def reindexed (secrets : StringMap String) (before now : List String) : StringMap String :=
  if now = before then secrets else secrets.insert indexName (encodeIndex now)

variable {operations : List Operation} {operation : Operation} {secrets : StringMap String}
  {listed : List String}

theorem listed?_reindexed (index : listed? secrets = some listed) (now : List String) :
    listed? (reindexed secrets listed now) = some now := by
  rw [reindexed]
  split
  · next same => rw [index, same]
  · exact listed?_insert_indexName secrets now

theorem get?_reindexed (secrets : StringMap String) (before now : List String) {name : String}
    (other : name ≠ indexName) : (reindexed secrets before now).get? name = secrets.get? name := by
  rw [reindexed]
  split
  · rfl
  · exact StringMap.get?_insert_of_ne _ other _

theorem get?_onItems_of_ne {key : String} (other : operation.key? ≠ some key)
    (secrets : StringMap String) : (onItems operation secrets).get? key = secrets.get? key := by
  cases operation with
  | get _ | keys => rfl
  | set item =>
    have differs : key ≠ item.key := fun same => other (same ▸ rfl)
    exact StringMap.get?_insert_of_ne _ differs _
  | remove removed =>
    have differs : key ≠ removed := fun same => other (same ▸ rfl)
    exact StringMap.get?_erase_of_ne _ differs

theorem listed?_onItems (apart : operation.key? ≠ some indexName) (secrets : StringMap String) :
    listed? (onItems operation secrets) = listed? secrets := by
  rw [listed?, listed?, get?_onItems_of_ne apart]

/-! Operations on a store that nobody else uses, while no call fails. -/

theorem alone_readIndex (index : listed? secrets = some listed) :
    (readIndex Script.store).alone secrets = (.ok listed, secrets) := by
  have got : (Script.store.get indexName).alone secrets =
      (.ok (secrets.get? indexName), secrets) := rfl
  rw [readIndex, Act.alone_bind, got]
  rw [listed?] at index
  cases found : secrets.get? indexName with
  | none =>
    rw [found] at index
    cases index
    rfl
  | some text =>
    rw [found] at index
    simp only [index]
    rfl

theorem alone_reindex (secrets : StringMap String) (before now : List String) :
    (reindex before now).alone secrets = (.ok (), reindexed secrets before now) := by
  rw [reindex, reindexed]
  split <;> rfl

theorem alone_set (index : listed? secrets = some listed) {item : KeyringItem}
    (apart : (Operation.set item).key? ≠ some indexName) :
    (script (.set item)).alone secrets =
      (.ok .done, reindexed (onItems (.set item) secrets) listed
        ((Operation.set item).relist listed)) := by
  have written : (Script.store.set item.key (encodeEntry item.entry)).alone secrets =
      (.ok (), onItems (.set item) secrets) := rfl
  have still := (listed?_onItems apart secrets).trans index
  simp only [script, Keyring.answer, keyring_set, Act.alone_bind, written, alone_readIndex still,
    alone_reindex, Act.alone_pure]

theorem alone_remove (index : listed? secrets = some listed) {key : String}
    (apart : (Operation.remove key).key? ≠ some indexName) :
    (script (.remove key)).alone secrets =
      (.ok (.removed (secrets.get? key).isSome),
        reindexed (onItems (.remove key) secrets) listed ((Operation.remove key).relist listed)) := by
  have deleted : (Script.store.delete key).alone secrets =
      (.ok (secrets.get? key).isSome, onItems (.remove key) secrets) := rfl
  have still := (listed?_onItems apart secrets).trans index
  simp only [script, Keyring.answer, keyring_remove, Act.alone_bind, deleted,
    alone_readIndex still, alone_reindex, Act.alone_pure]

/-- The secrets are those of some operations: an index that lists the keys, and the items. -/
structure Kept (operations : List Operation) (secrets : StringMap String) : Prop where
  index : listed? secrets = some (relisted operations)
  items : ∀ key, key ≠ indexName →
    (secrets.get? key).map decodeEntry? = ((remembered operations).get? key).map some

theorem kept_empty : Kept [] ∅ where
  index := rfl
  items _ _ := rfl

theorem Kept.contains (kept : Kept operations secrets) {key : String} (other : key ≠ indexName) :
    (secrets.get? key).isSome = (remembered operations).contains key := by
  have item := congrArg Option.isSome (kept.items key other)
  rwa [Option.isSome_map, Option.isSome_map] at item

theorem Kept.reindexed (kept : Kept operations secrets)
    (apart : operation.key? ≠ some indexName) :
    Kept (operations ++ [operation])
      (reindexed (onItems operation secrets) (relisted operations)
        (operation.relist (relisted operations))) where
  index := by
    rw [relisted_concat]
    exact listed?_reindexed ((listed?_onItems apart secrets).trans kept.index) _
  items name named := by
    rw [get?_reindexed _ _ _ named, remembered_concat, get?_after]
    cases operation with
    | get _ | keys => exact kept.items name named
    | set item =>
      by_cases about : name = item.key
      · have read := decodeEntry?_encodeEntry item.entry
        simp only [onItems, about, StringMap.get?_insert_self, if_true, Option.map_some, read]
      · simp only [onItems, about, if_false, StringMap.get?_insert_of_ne _ about]
        exact kept.items name named
    | remove key =>
      by_cases about : name = key
      · simp only [onItems, about, StringMap.get?_erase_self, if_true, Option.map_none]
      · simp only [onItems, about, if_false, StringMap.get?_erase_of_ne _ about]
        exact kept.items name named

theorem Kept.write (kept : Kept operations secrets) (apart : operation.key? ≠ some indexName)
    (write : operation.isWrite) : ∃ after,
      (script operation).alone secrets =
        (.ok (operation.answerIn (remembered operations)), after) ∧
        Kept (operations ++ [operation]) after := by
  refine ⟨_, ?_, kept.reindexed apart⟩
  cases operation with
  | get _ | keys => cases write
  | set item => exact alone_set kept.index apart
  | remove key =>
    rw [alone_remove kept.index apart, kept.contains fun same => apart (same ▸ rfl)]
    rfl

theorem Kept.read (kept : Kept operations secrets) (apart : operation.key? ≠ some indexName)
    (read : operation.isWrite = false) : ∃ answer,
      (script operation).alone secrets = (.ok answer, secrets) ∧
        answer.Alike (operation.answerIn (remembered operations)) := by
  cases operation with
  | set _ | remove _ => cases read
  | keys =>
    refine ⟨.keys (relisted operations), ?_, perm_relisted operations⟩
    simp only [script, Keyring.answer, SecretStore.keyring, Act.alone_bind,
      alone_readIndex kept.index]
    rfl
  | get key =>
    have got : (Script.store.get key).alone secrets = (.ok (secrets.get? key), secrets) := rfl
    have item := kept.items key fun same => apart (same ▸ rfl)
    refine ⟨.item ((remembered operations).item? key), ?_, rfl⟩
    simp only [script, Keyring.answer, SecretStore.keyring, Act.alone_bind, got, Entries.item?]
    cases found : (remembered operations).get? key with
    | none =>
      rw [found, Option.map_none, Option.map_eq_none_iff] at item
      rw [item]
      rfl
    | some entry =>
      rw [found, Option.map_some, Option.map_eq_some_iff] at item
      obtain ⟨text, stored, decoded⟩ := item
      simp only [stored, decoded]
      rfl

theorem glances_script {operation : Operation} (read : operation.isWrite = false) :
    (script operation).Glances := by
  have glances_readIndex : (readIndex Script.store).Glances := by
    refine (Act.glances_get indexName).bind fun found => ?_
    rcases found with _ | text
    · exact Act.silent_pure []
    · cases decoded : decodeIndex? text with
      | none =>
        simp only [decoded]
        exact Act.silent_fail _
      | some listed =>
        simp only [decoded]
        exact Act.silent_pure listed
  cases operation with
  | set _ | remove _ => cases read
  | keys => exact glances_readIndex.bind fun listed => Act.silent_pure (Answer.keys listed)
  | get key =>
    refine Act.Glances.bind ?_ fun found => Act.silent_pure (Answer.item found)
    refine (Act.glances_get key).bind fun found => ?_
    rcases found with _ | text
    · exact Act.silent_pure none
    · cases decoded : decodeEntry? text with
      | none =>
        simp only [decoded]
        exact Act.silent_fail _
      | some entry =>
        simp only [decoded]
        exact Act.silent_pure (some (entry.item key))

end SecretStore
end GrantKeeper
