import GrantKeeper.Proofs.Credential.Cache

/-! What a token cache leaves as it is. A course of the cache is followed with a note of every write that
its keyring was asked for: each of them is of the credential that the cache was made of, with another
token, and there is one for every update and for every invalidation of an access token. -/
namespace GrantKeeper

variable {σ : Type}

namespace Keyring

inductive Write
  | set (item : KeyringItem)
  | remove (key : String)

/-- An effect on a world beside which writes are noted. -/
def beside {α : Type} (effect : StateM σ α) : StateM (σ × List Write) α := fun (world, writes) =>
  ((effect.run world).1, (effect.run world).2, writes)

def note (write : Write) : StateM (σ × List Write) Unit :=
  modify fun (world, writes) => (world, writes ++ [write])

/-- The keyring with a note of every write that it is asked for. -/
def noting (keyring : Keyring (StateM σ)) : Keyring (StateM (σ × List Write)) where
  get key := Act.hoist beside (keyring.get key)
  set item := do
    Act.step (note (.set item))
    Act.hoist beside (keyring.set item)
  remove key := do
    Act.step (note (.remove key))
    Act.hoist beside (keyring.remove key)
  keys := Act.hoist beside keyring.keys

variable {keyring : Keyring (StateM σ)} {ledger : σ → Ledger}

theorem outcome_set_noting (kept : keyring.Kept ledger) (writable : keyring.Writable)
    (item : KeyringItem) (world : σ × List Write) : ∃ after,
    (keyring.noting.set item).outcome world = (.ok (), after, world.2 ++ [.set item]) ∧
      ledger after = (ledger world.1).withItem item := by
  refine ⟨_, ?_, kept.set_ok writable item world.1⟩
  have ok := writable item world.1
  rw [noting, Act.outcome_bind, Act.outcome_step]
  exact Prod.ext ok rfl

end Keyring

/-- The record without its access token. -/
def GrantRecord.cleared (record : GrantRecord) : GrantRecord :=
  { record with token := record.token.map Token.invalidated }

def Credential.cleared (credential : Credential) : Credential :=
  { credential with grant := credential.grant.cleared }

theorem cleared_normalized (record : GrantRecord) :
    record.cleared.normalized = record.normalized.cleared := by
  obtain ⟨kind, keyFile, token⟩ := record
  cases token <;> rfl

/-- The label and the record, as it can be read back, that entries hold for an audience. -/
def Entries.recorded? (entries : Entries) (audience : String) : Option (String × GrantRecord) :=
  (entries.item? (Credential.keyOf audience)).bind fun item =>
    (GrantRecord.decode? item.data).map (item.label, ·.normalized)

namespace Cache

open Keyring (Write)

variable {keyring : Keyring (StateM σ)} {clock : StateM σ Instant} {ledger : σ → Ledger}
  {item memory : Credential} {start : σ} {world : σ × List Write}

theorem getD_change_invalidate (memory : Credential) :
    (Operation.invalidate.change memory).getD memory = memory.cleared := by
  obtain ⟨audience, userName, kind, keyFile, token⟩ := memory
  cases token with
  | none => rfl
  | some token =>
    by_cases access : token.hasAccessToken
    · simp [Operation.change, Credential.cleared, withToken, GrantRecord.cleared, cleared?, Option.filter,
        access]
    · have empty : token.accessToken = "" := by simpa [Token.hasAccessToken] using access
      have same : token.invalidated = token := by rw [Token.invalidated, ← empty]
      simp [Operation.change, Credential.cleared, GrantRecord.cleared, cleared?, Option.filter, access, same]

theorem Operation.change_eq {operation : Operation} {memory changed : Credential}
    (changes : operation.change memory = some changed) :
    ∃ token, changed = withToken memory token := by
  cases operation with
  | get => cases changes
  | update token => exact ⟨token, (Option.some.inj changes).symm⟩
  | invalidate =>
    obtain ⟨token, -, rfl⟩ := Option.map_eq_some_iff.mp changes
    exact ⟨_, rfl⟩

/-- A call of an operation, with the credential in memory at the time and how it ended. -/
structure Call where
  operation : Operation
  memory : Credential
  result : Except Failure (Option Token)

namespace Call

def updates (call : Call) : Bool :=
  match call.operation with
  | .update _ => true
  | _ => false

/-- Whether this is an invalidation while there was an access token. -/
def clears (call : Call) : Bool :=
  match call.operation with
  | .invalidate => call.memory.grant.token.any Token.hasAccessToken
  | _ => false

end Call

/-- An operation of a cache with its keyring, whose writes are noted. -/
def Operation.noted (keyring : Keyring (StateM σ)) (clock : StateM σ Instant)
    (operation : Operation) : Act (StateT Credential (StateM (σ × List Write))) (Option Token) :=
  operation.act keyring.noting (Keyring.beside clock)

/-- The courses of a cache that was made of an item: the calls so far, the credential in memory, and the
world with the writes so far. The world may also move unseen. -/
inductive Course (keyring : Keyring (StateM σ)) (clock : StateM σ Instant) (ledger : σ → Ledger)
    (item : Credential) (start : σ) : List Call → Credential → σ × List Write → Prop
  | start : Course keyring clock ledger item start [] item (start, [])
  | call {history : List Call} {memory : Credential} {world : σ × List Write} (operation : Operation) :
    Course keyring clock ledger item start history memory world →
    Course keyring clock ledger item start
      (history ++ [⟨operation, memory, ((operation.noted keyring clock).ending memory world).1⟩])
      ((operation.noted keyring clock).ending memory world).2.1
      ((operation.noted keyring clock).ending memory world).2.2
  | moved {history : List Call} {memory : Credential} {world : σ × List Write} {after : σ} :
    Course keyring clock ledger item start history memory world → ledger after = ledger world.1 →
    Course keyring clock ledger item start history memory (after, world.2)

theorem ending_noted_of_change_none (keyring : Keyring (StateM σ)) (unseen : Unseen ledger clock)
    {operation : Operation} (unchanged : operation.change memory = none) (world : σ × List Write) :
    ∃ result after,
      (operation.noted keyring clock).ending memory world = (result, memory, after, world.2) ∧
      ledger after = ledger world.1 := by
  cases operation with
  | get =>
    rw [Operation.noted, Operation.act, ending_token?]
    cases memory.grant.token with
    | none => exact ⟨_, world.1, rfl, rfl⟩
    | some token => exact ⟨_, _, rfl, unseen world.1⟩
  | update token => cases unchanged
  | invalidate =>
    have nothing : cleared? memory = none := Option.map_eq_none_iff.mp unchanged
    refine ⟨.ok none, world.1, ?_, rfl⟩
    rw [Operation.noted, Operation.act, Act.ending_bind, ending_invalidate, nothing]
    rfl

theorem ending_noted_of_change_some (clock : StateM σ Instant) (kept : keyring.Kept ledger)
    (writable : keyring.Writable) {operation : Operation} {changed : Credential}
    (changes : operation.change memory = some changed) (world : σ × List Write) : ∃ after,
    (operation.noted keyring clock).ending memory world =
      (.ok none, changed, after, world.2 ++ [.set changed.item]) ∧
      ledger after = (ledger world.1).withItem changed.item := by
  obtain ⟨after, wrote, holds⟩ := Keyring.outcome_set_noting kept writable changed.item world
  refine ⟨after, ?_, holds⟩
  rw [Operation.noted, Operation.ending_of_change_some changes, wrote]
  rfl

theorem isSome_change (call : Call) :
    (call.operation.change call.memory).isSome = (call.updates || call.clears) := by
  obtain ⟨operation, memory, result⟩ := call
  cases operation with
  | get | update => rfl
  | invalidate =>
    simp only [Operation.change, Option.isSome_map, cleared?, Option.isSome_filter, Call.updates,
      Call.clears, Bool.false_or]

theorem not_updates_and_clears (call : Call) : (call.updates && call.clears) = false := by
  obtain ⟨operation, memory, result⟩ := call
  cases operation <;> rfl

structure Framed (item : Credential) (before : Entries) (history : List Call) (memory : Credential)
    (now : Entries) (writes : List Write) : Prop where
  count : writes.length = history.countP Call.updates + history.countP Call.clears
  each : ∀ write ∈ writes, ∃ token, write = .set (withToken item token).item
  shape : memory = { item with grant := { item.grant with token := memory.grant.token } }
  unwritten : writes = [] → memory = item
  entries : ∀ key, now.item? key =
    if writes ≠ [] ∧ key = Credential.keyOf item.audience then some memory.item else before.item? key

theorem Framed.kept {before now : Entries} {history : List Call} {writes : List Write}
    (framed : Framed item before history memory now writes) {call : Call} (same : call.memory = memory)
    (unchanged : call.operation.change memory = none) :
    Framed item before (history ++ [call]) memory now writes := by
  have nothing : (call.updates || call.clears) = false := by
    rw [← isSome_change, same, unchanged]
    rfl
  obtain ⟨not_updates, not_clears⟩ := Bool.or_eq_false_iff.mp nothing
  refine ⟨?_, framed.each, framed.shape, framed.unwritten, framed.entries⟩
  simp [List.countP_append, not_updates, not_clears, framed.count]

theorem Framed.written {before now : Entries} {history : List Call} {writes : List Write}
    (framed : Framed item before history memory now writes) {call : Call} (same : call.memory = memory)
    {changed : Credential} (changes : call.operation.change memory = some changed) :
    Framed item before (history ++ [call]) changed (now.withItem changed.item)
      (writes ++ [.set changed.item]) := by
  obtain ⟨token, rfl⟩ := Operation.change_eq changes
  have one : (call.updates || call.clears) = true := by
    rw [← isSome_change, same, changes]
    rfl
  have shape : withToken memory token = withToken item token := by
    rw [framed.shape]
    rfl
  have own : (withToken memory token).item.key = Credential.keyOf item.audience := by
    rw [shape]
    rfl
  refine ⟨?_, ?_, ?_, by simp, fun key => ?_⟩
  · have either := not_updates_and_clears call
    rw [List.length_append, framed.count, List.countP_append, List.countP_append]
    cases updates : call.updates <;> cases clears : call.clears <;>
      simp_all <;> omega
  · intro write member
    rcases List.mem_append.mp member with member | member
    · exact framed.each write member
    · exact ⟨token, by rw [List.mem_singleton.mp member, shape]⟩
  · rw [shape]
    rfl
  · by_cases at_own : key = Credential.keyOf item.audience
    · rw [if_pos ⟨by simp, at_own⟩, at_own, ← own, Credential.item?_withItem]
    · have elsewhere : key ≠ (withToken memory token).item.key := by rwa [own]
      rw [if_neg (by simp [at_own]), Credential.item?_withItem_of_ne now elsewhere, framed.entries,
        if_neg (by simp [at_own])]

theorem Course.framed (kept : keyring.Kept ledger) (writable : keyring.Writable)
    (unseen : Unseen ledger clock) {history : List Call}
    (course : Course keyring clock ledger item start history memory world) :
    Framed item (ledger start).entries history memory (ledger world.1).entries world.2 := by
  induction course with
  | start => exact ⟨rfl, nofun, rfl, fun _ => rfl, fun key => by simp⟩
  | @call history memory world operation _ framed =>
    cases changes : operation.change memory with
    | none =>
      obtain ⟨result, after, ended, same⟩ :=
        ending_noted_of_change_none keyring unseen changes world
      rw [ended]
      dsimp only
      rw [same]
      exact framed.kept rfl changes
    | some changed =>
      obtain ⟨after, ended, holds⟩ :=
        ending_noted_of_change_some clock kept writable changes world
      rw [ended]
      dsimp only
      rw [holds]
      exact framed.written rfl changes
  | moved _ same framed =>
    dsimp only
    rw [same]
    exact framed

theorem recorded?_withItem (entries : Entries) (credential : Credential) :
    (entries.withItem credential.item).recorded? credential.audience =
      some (credential.userName, credential.grant.normalized) := by
  have found := Credential.item?_withItem entries credential.item
  simp only [Credential.item] at found
  simp [Entries.recorded?, Credential.item, found, GrantRecord.decode?_encode]

/-- The entry that a course has written, or found, can be read back. -/
theorem Framed.recorded {before now : Entries} {history : List Call} {writes : List Write}
    (framed : Framed item before history memory now writes)
    (stored : before.recorded? item.audience = some (item.userName, item.grant.normalized) ∨
      writes ≠ []) :
    now.recorded? item.audience = some (item.userName, memory.grant.normalized) := by
  have entry := framed.entries (Credential.keyOf item.audience)
  by_cases wrote : writes = []
  · rw [if_neg (by simp [wrote])] at entry
    rw [framed.unwritten wrote, Entries.recorded?, entry]
    exact stored.resolve_right (not_not_intro wrote)
  · rw [if_pos ⟨wrote, rfl⟩] at entry
    rw [Entries.recorded?, entry, framed.shape]
    simp [Credential.item, GrantRecord.decode?_encode]

/-- An invalidation ends well, without an access token in memory, and without one in the entry if that
was the credential's. -/
theorem ending_invalidate_noting (kept : keyring.Kept ledger) (writable : keyring.Writable)
    (memory : Credential) (world : σ × List Write) : ∃ after,
    (invalidate keyring.noting).ending memory world = (.ok (), memory.cleared, after) ∧
      ((ledger world.1).entries.recorded? memory.audience =
          some (memory.userName, memory.grant.normalized) →
        (ledger after.1).entries.recorded? memory.audience =
          some (memory.userName, memory.grant.normalized.cleared)) := by
  have changed := getD_change_invalidate memory
  rw [ending_invalidate]
  rw [Operation.change] at changed
  cases found : cleared? memory with
  | none =>
    have same : memory.cleared = memory := by simpa [found] using changed.symm
    have grant : memory.grant.normalized.cleared = memory.grant.normalized := by
      rw [← cleared_normalized]
      exact congrArg (·.grant.normalized) same
    exact ⟨world, by rw [same], by rw [grant]; exact id⟩
  | some token =>
    have put : withToken memory token.invalidated = memory.cleared := by simpa [found] using changed
    obtain ⟨after, wrote, holds⟩ :=
      Keyring.outcome_set_noting kept writable memory.cleared.item world
    refine ⟨(after, world.2 ++ [.set memory.cleared.item]), ?_, fun _ => ?_⟩
    · simp only [put, ending_persist, wrote]
      rfl
    · rw [← cleared_normalized]
      simp only [holds, Ledger.withItem_entries]
      exact recorded?_withItem (ledger world.1).entries memory.cleared

theorem cleared?_cleared (memory : Credential) : cleared? memory.cleared = none := by
  obtain ⟨audience, userName, kind, keyFile, token⟩ := memory
  cases token <;>
    simp [cleared?, Credential.cleared, GrantRecord.cleared, Option.filter, Token.invalidated,
      Token.hasAccessToken]

theorem invalidate_twice (kept : keyring.Kept ledger) (writable : keyring.Writable)
    (memory : Credential) (world : σ × List Write) :
    (do invalidate keyring.noting; invalidate keyring.noting).ending memory world =
      (invalidate keyring.noting).ending memory world := by
  obtain ⟨after, ended, -⟩ := ending_invalidate_noting kept writable memory world
  rw [Act.ending_bind, ended]
  simp only [ending_invalidate, cleared?_cleared]

theorem tokenAt_of_not_cleared? {memory : Credential} (nothing : cleared? memory = none)
    (now : Instant) : tokenAt memory now = .ok none := by
  unfold tokenAt
  cases present : memory.grant.token with
  | none => rfl
  | some token =>
    have without : token.hasAccessToken = false := by
      simpa [cleared?, present, Option.filter] using nothing
    simp only [Token.isUsable, without]
    rfl

theorem ending_noted_invalidate {after : σ × List Write}
    (ended : (invalidate keyring.noting).ending memory world = (.ok (), memory.cleared, after)) :
    (Operation.invalidate.noted keyring clock).ending memory world =
      (.ok none, memory.cleared, after) := by
  rw [Operation.noted, Operation.act, Act.ending_bind, ended]
  rfl

/-- From an invalidation to the next update, there is no access token, and nothing is given out. -/
theorem Course.missed (kept : keyring.Kept ledger) (writable : keyring.Writable)
    {history : List Call} (course : Course keyring clock ledger item start history memory world) :
    ∀ {earlier later : List Call} {call : Call}, history = earlier ++ call :: later →
      call.operation = .invalidate → (∀ next ∈ later, next.updates = false) →
      cleared? memory = none ∧
        ∀ next ∈ later, next.operation = .get → next.result = .ok none := by
  induction course with
  | start => simp
  | moved _ _ ih => exact ih
  | @call history memory world operation _ ih =>
    intro earlier later call split invalidation updates
    rcases List.eq_nil_or_concat later with rfl | ⟨later, last, rfl⟩
    · -- The call is the invalidation itself.
      obtain ⟨-, last⟩ := List.append_inj' split rfl
      rw [← List.singleton_inj.mp last] at invalidation
      obtain rfl : operation = .invalidate := invalidation
      obtain ⟨after, ended, -⟩ := ending_invalidate_noting kept writable memory world
      rw [ending_noted_invalidate ended]
      exact ⟨cleared?_cleared memory, by simp⟩
    · rw [List.concat_eq_append] at split updates ⊢
      rw [← List.cons_append, ← List.append_assoc] at split
      obtain ⟨rfl, last⟩ := List.append_inj' split rfl
      obtain rfl := List.singleton_inj.mp last
      obtain ⟨nothing, missed⟩ := ih rfl invalidation fun next member =>
        updates next (List.mem_append_left _ member)
      cases operation with
      | update token => cases updates _ (List.mem_append_right _ List.mem_cons_self)
      | invalidate =>
        obtain ⟨after, ended, -⟩ := ending_invalidate_noting kept writable memory world
        rw [ending_noted_invalidate ended]
        refine ⟨cleared?_cleared memory, fun next member got => ?_⟩
        rcases List.mem_append.mp member with member | member
        · exact missed next member got
        · rw [List.mem_singleton.mp member] at got
          cases got
      | get =>
        have result := result_token? (Keyring.beside clock) memory world
        rw [tokenAt_of_not_cleared? nothing] at result
        refine ⟨?_, fun next member got => ?_⟩
        · rw [Operation.noted, Operation.act, credential_token?]
          exact nothing
        · rcases List.mem_append.mp member with member | member
          · exact missed next member got
          · rw [List.mem_singleton.mp member]
            exact result

/-- In every course of a cache over a keyring whose writes succeed, the writes are as many as the updates
and the invalidations of an access token. Each is of the item that the cache was made of with another
token, so it goes to the key of its audience and has its label, its kind and its key file, and all other
entries stay. An invalidation changes the access token and nothing else, in memory and in the entry as
it is read back; nothing is given out after it until the next update, and a second one does nothing. -/
theorem writes_and_frame (kept : keyring.Kept ledger) (writable : keyring.Writable)
    (unseen : Unseen ledger clock) {history : List Call}
    (course : Course keyring clock ledger item start history memory world) :
    world.2.length = history.countP Call.updates + history.countP Call.clears ∧
    (∀ write ∈ world.2, ∃ token, write = .set ⟨Credential.keyOf item.audience, item.userName,
      ({ item.grant with token := some token } : GrantRecord).encode⟩) ∧
    memory = { item with grant := { item.grant with token := memory.grant.token } } ∧
    (∀ key, (ledger world.1).entries.item? key =
      if world.2 ≠ [] ∧ key = Credential.keyOf item.audience then
        some ⟨key, item.userName, memory.grant.encode⟩
      else (ledger start).entries.item? key) ∧
    ((ledger start).entries.recorded? item.audience = some (item.userName, item.grant.normalized) ∨
        world.2 ≠ [] →
      (ledger world.1).entries.recorded? item.audience =
        some (item.userName, memory.grant.normalized)) ∧
    (∃ after, (invalidate keyring.noting).ending memory world = (.ok (), memory.cleared, after) ∧
      ((ledger world.1).entries.recorded? item.audience =
          some (item.userName, memory.grant.normalized) →
        (ledger after.1).entries.recorded? item.audience =
          some (item.userName, memory.grant.normalized.cleared))) ∧
    (∀ earlier call later, history = earlier ++ call :: later → call.operation = .invalidate →
      (∀ next ∈ later, next.updates = false) →
      ∀ next ∈ later, next.operation = .get → next.result = .ok none) ∧
    (do invalidate keyring.noting; invalidate keyring.noting).ending memory world =
      (invalidate keyring.noting).ending memory world := by
  have framed := course.framed kept writable unseen
  obtain ⟨after, ended, stored⟩ := ending_invalidate_noting kept writable memory world
  have audience : memory.audience = item.audience := by rw [framed.shape]
  have userName : memory.userName = item.userName := by rw [framed.shape]
  rw [audience, userName] at stored
  refine ⟨framed.count, framed.each, framed.shape, fun key => ?_, framed.recorded,
    ⟨after, ended, stored⟩, ?_, invalidate_twice kept writable memory world⟩
  · rw [framed.entries]
    split
    · next own =>
      rw [own.2, framed.shape]
      rfl
    · rfl
  · intro earlier call later split invalidation updates
    exact (course.missed kept writable split invalidation updates).2

/-! A device's credential that also has a key file, which its kind does not need. -/

def withKeyFile : Credential :=
  ⟨"audience", "user",
    { kind := .deviceCode
      keyFile := some ⟨KeyFile.serviceAccount, "client", ⟨"secret"⟩, "robot@example"⟩
      token := some { accessToken := "access", refreshToken := "refresh" } }⟩

/-- A desk whose keyring has the credential, and one for another audience. -/
def sharedDesk : Desk where
  ledger := { entries :=
    (∅ : Entries).withItem withKeyFile.item |>.withItem ⟨"other", "other user", "other data"⟩ }
  now := Instant.epoch

/-- Of five calls three write, and in the end the entry has all that it had but the tokens. -/
theorem key_file_kept : ∃ history memory world,
    Course (Desk.keyring none) Desk.clock Desk.ledger withKeyFile sharedDesk history memory world ∧
    history.map Call.operation =
      [.invalidate, .get, .update { accessToken := "fresh" }, .invalidate, .invalidate] ∧
    world.2.length = 3 ∧
    world.1.ledger.entries.recorded? "audience" =
      some ("user", { withKeyFile.grant with token := some {} }) ∧
    world.1.ledger.entries.item? "other" = some ⟨"other", "other user", "other data"⟩ := by
  have course : Course (Desk.keyring none) Desk.clock Desk.ledger withKeyFile sharedDesk _ _ _ :=
    ((((Course.start.call .invalidate).call .get).call
      (.update { accessToken := "fresh" })).call .invalidate).call .invalidate
  obtain ⟨count, -, -, entries, recorded, -⟩ := writes_and_frame (Desk.kept_keyring none)
    Desk.writable_keyring Desk.unseen_clock course
  refine ⟨_, _, _, course, rfl, count.trans rfl, recorded (.inr ?_), (entries "other").trans ?_⟩
  · exact List.cons_ne_nil _ _
  · have apart : "other" ≠ Credential.keyOf "audience" := by decide +kernel
    rw [if_neg fun own => apart own.2]
    exact Credential.item?_withItem _ ⟨"other", "other user", "other data"⟩

end Cache
end GrantKeeper
