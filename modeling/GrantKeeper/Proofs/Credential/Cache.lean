import GrantKeeper.Proofs.Credential.Stored

/-! The token cache and the keyring behind it. A run of the cache is followed together with the
credential that was last written: that one is what the keyring holds, whichever writes failed. -/
namespace GrantKeeper.Cache

variable {σ : Type} {keyring : Keyring (StateM σ)} {clock : StateM σ Instant} {ledger : σ → Ledger}

/-! What each operation does. -/

@[simp] theorem withToken_audience (credential : Credential) (token : Token) :
    (withToken credential token).audience = credential.audience := rfl

@[simp] theorem withToken_token (credential : Credential) (token : Token) :
    (withToken credential token).grant.token = some token := rfl

theorem isUsable_withToken {credential : Credential} (usable : credential.grant.isUsable)
    (token : Token) : (withToken credential token).grant.isUsable := by
  unfold GrantRecord.isUsable at usable ⊢
  simp only [withToken]
  split <;> simp_all

/-- The token that an invalidation makes unusable, if any. -/
def cleared? (credential : Credential) : Option Token :=
  credential.grant.token.filter Token.hasAccessToken

theorem tokenAt_eq_some {credential : Credential} {now : Instant} {token : Token}
    (found : tokenAt credential now = .ok (some token)) :
    credential.grant.token = some token ∧ token.hasAccessToken := by
  unfold tokenAt Token.isUsable at found
  cases present : credential.grant.token with
  | none => simp [present] at found
  | some held =>
    simp only [present] at found
    split at found
    · next access =>
      cases within : held.expiresWithin now Token.margin with
      | error fault =>
        rw [within] at found
        cases found
      | ok soon =>
        rw [within] at found
        cases soon with
        | false =>
          cases found
          exact ⟨rfl, access⟩
        | true => cases found
    · cases found

theorem ending_token? (clock : StateM σ Instant) (credential : Credential) (world : σ) :
    (token? clock).ending credential world = match credential.grant.token with
      | none => (.ok none, credential, world)
      | some _ => ((tokenAt credential (clock.run world).1).mapError .fault, credential,
          (clock.run world).2) := by
  rw [token?, Act.ending_bind, Act.ending_get]
  cases present : credential.grant.token with
  | none => simp [present]
  | some token => simp [present, Act.ending_bind]

theorem credential_token? (clock : StateM σ Instant) (credential : Credential) (world : σ) :
    ((token? clock).ending credential world).2.1 = credential := by
  rw [ending_token?]
  cases credential.grant.token <;> rfl

theorem ending_persist (keyring : Keyring (StateM σ)) (credential : Credential) (world : σ) :
    (persist keyring).ending credential world =
      (((keyring.set credential.item).outcome world).1.mapError (Act.restated Credential.asWrite),
        credential, ((keyring.set credential.item).outcome world).2) := by
  rw [persist, Act.ending_bind, Act.ending_get]
  rfl

theorem ending_update (keyring : Keyring (StateM σ)) (token : Token) (credential : Credential)
    (world : σ) :
    (update keyring token).ending credential world =
      (persist keyring).ending (withToken credential token) world := by
  rw [update, Act.ending_bind, Act.ending_modify]

theorem ending_invalidate (keyring : Keyring (StateM σ)) (credential : Credential) (world : σ) :
    (invalidate keyring).ending credential world = match cleared? credential with
      | none => (.ok (), credential, world)
      | some token => (persist keyring).ending (withToken credential token.invalidated) world := by
  rw [invalidate, Act.ending_bind, Act.ending_get]
  cases present : credential.grant.token with
  | none => simp [cleared?, present]
  | some token =>
    by_cases access : token.hasAccessToken
    · simp [cleared?, present, Option.filter, access, Act.ending_bind]
    · simp [cleared?, present, Option.filter, access]

theorem result_token? (clock : StateM σ Instant) (credential : Credential) (world : σ) :
    ((token? clock).ending credential world).1 =
      (tokenAt credential (clock.run world).1).mapError .fault := by
  rw [ending_token?, tokenAt]
  cases credential.grant.token <;> rfl

theorem token?_eq_some {credential after : Credential} {world end_ : σ} {token : Token}
    (read : (token? clock).ending credential world = (.ok (some token), after, end_)) :
    credential.grant.token = some token ∧ token.hasAccessToken := by
  have found := result_token? clock credential world
  rw [read] at found
  cases usable : tokenAt credential (clock.run world).1 with
  | error fault => simp [usable] at found
  | ok cached =>
    rw [usable] at found
    cases found
    exact tokenAt_eq_some usable

theorem ledger_token? (unseen : Unseen ledger clock) (credential : Credential) (world : σ) :
    ledger ((token? clock).ending credential world).2.2 = ledger world := by
  rw [ending_token?]
  cases credential.grant.token with
  | none => rfl
  | some token => exact unseen world

theorem persist_ok (kept : keyring.Kept ledger) (writable : keyring.Writable)
    (credential : Credential) (world : σ) :
    ∃ after, (persist keyring).ending credential world = (.ok (), credential, after) ∧
      ledger after = (ledger world).withItem credential.item := by
  refine ⟨_, ?_, kept.set_ok writable credential.item world⟩
  rw [ending_persist, writable credential.item world]
  rfl

inductive Operation
  | get
  | update (token : Token)
  | invalidate

namespace Operation

/-- An operation, which answers with a token only if one was asked for and is usable. -/
def act (keyring : Keyring (StateM σ)) (clock : StateM σ Instant) :
    Operation → Act (StateT Credential (StateM σ)) (Option Token)
  | get => Cache.token? clock
  | update token => do
    Cache.update keyring token
    return none
  | invalidate => do
    Cache.invalidate keyring
    return none

/-- The credential that an operation puts in the place of another and writes, if it does. -/
def change (operation : Operation) (memory : Credential) : Option Credential :=
  match operation with
  | get => none
  | update token => some (withToken memory token)
  | invalidate => (cleared? memory).map fun token => withToken memory token.invalidated

theorem change_audience {operation : Operation} {memory changed : Credential}
    (changes : operation.change memory = some changed) : changed.audience = memory.audience := by
  cases operation with
  | get => cases changes
  | update token => cases changes; rfl
  | invalidate =>
    obtain ⟨token, -, rfl⟩ := Option.map_eq_some_iff.mp changes
    rfl

theorem isUsable_change {operation : Operation} {memory changed : Credential}
    (changes : operation.change memory = some changed) (usable : memory.grant.isUsable) :
    changed.grant.isUsable := by
  cases operation with
  | get => cases changes
  | update token => cases changes; exact isUsable_withToken usable token
  | invalidate =>
    obtain ⟨token, -, rfl⟩ := Option.map_eq_some_iff.mp changes
    exact isUsable_withToken usable _

theorem ending_of_change_none (keyring : Keyring (StateM σ)) (unseen : Unseen ledger clock)
    {operation : Operation} {memory : Credential} (unchanged : operation.change memory = none)
    (world : σ) :
    ((operation.act keyring clock).ending memory world).2.1 = memory ∧
      ledger ((operation.act keyring clock).ending memory world).2.2 = ledger world := by
  cases operation with
  | get =>
    exact ⟨credential_token? clock memory world, ledger_token? unseen memory world⟩
  | update token => cases unchanged
  | invalidate =>
    have nothing : cleared? memory = none := Option.map_eq_none_iff.mp unchanged
    rw [act, Act.ending_bind, ending_invalidate, nothing]
    exact ⟨rfl, rfl⟩

theorem ending_of_change_some {operation : Operation} {memory changed : Credential}
    (changes : operation.change memory = some changed) (world : σ) :
    (operation.act keyring clock).ending memory world =
      ((((keyring.set changed.item).outcome world).1.mapError
          (Act.restated Credential.asWrite)).map fun _ => none,
        changed, ((keyring.set changed.item).outcome world).2) := by
  have written (act : Act (StateT Credential (StateM σ)) Unit)
      (writes : act.ending memory world = (persist keyring).ending changed world) :
      (do act; return none : Act (StateT Credential (StateM σ)) (Option Token)).ending memory world =
        ((((keyring.set changed.item).outcome world).1.mapError
            (Act.restated Credential.asWrite)).map fun _ => none,
          changed, ((keyring.set changed.item).outcome world).2) := by
    rw [Act.ending_bind, writes, ending_persist]
    rcases (keyring.set changed.item).outcome world with ⟨_ | _, _⟩ <;> rfl
  cases operation with
  | get => cases changes
  | update token =>
    cases changes
    exact written _ (ending_update keyring token memory world)
  | invalidate =>
    obtain ⟨token, access, rfl⟩ := Option.map_eq_some_iff.mp changes
    refine written _ ?_
    rw [ending_invalidate, access]

/-- What is saved after an operation, given how it ended: its change, if that was written. -/
def saved (operation : Operation) (result : Except Failure (Option Token))
    (memory before : Credential) : Credential :=
  match result with
  | .ok _ => (operation.change memory).getD before
  | .error _ => before

theorem saved_of_change_none {operation : Operation} {memory : Credential}
    (unchanged : operation.change memory = none) (result : Except Failure (Option Token))
    (before : Credential) : operation.saved result memory before = before := by
  cases result <;> simp [saved, unchanged]

theorem change_of_answer {operation : Operation} {memory after : Credential} {token : Token}
    {world end_ : σ}
    (ended : (operation.act keyring clock).ending memory world = (.ok (some token), after, end_)) :
    operation.change memory = none := by
  cases changes : operation.change memory with
  | none => rfl
  | some changed =>
    rw [ending_of_change_some changes] at ended
    rcases set : (keyring.set changed.item).outcome world with ⟨_ | _, _⟩ <;>
      simp [set, Except.map] at ended

end Operation

/-- Runs of a cache from a loaded credential: what it holds, what of that was saved last, and the
world, which may also move unseen. -/
inductive Runs (keyring : Keyring (StateM σ)) (clock : StateM σ Instant) (ledger : σ → Ledger)
    (loaded : Credential) (start : σ) : Credential → Credential → σ → Prop
  | start : Runs keyring clock ledger loaded start loaded loaded start
  | operation {memory saved : Credential} {world : σ} (operation : Operation) :
    Runs keyring clock ledger loaded start memory saved world →
    Runs keyring clock ledger loaded start
      ((operation.act keyring clock).ending memory world).2.1
      (operation.saved ((operation.act keyring clock).ending memory world).1 memory saved)
      ((operation.act keyring clock).ending memory world).2.2
  | moved {memory saved : Credential} {world after : σ} :
    Runs keyring clock ledger loaded start memory saved world → ledger after = ledger world →
    Runs keyring clock ledger loaded start memory saved after

/-- The entries hold what was saved for an audience, whatever is in memory. -/
structure Saved (audience : String) (memory saved : Credential) (entries : Entries) : Prop where
  stored : saved.StoredIn entries
  usable : memory.grant.isUsable
  memory_audience : memory.audience = audience
  saved_audience : saved.audience = audience

theorem saved_load (kept : keyring.Kept ledger) {audience : String} {loaded : Credential}
    {origin start : σ}
    (load : (Credential.load keyring audience).outcome origin = (.ok loaded, start)) :
    Saved audience loaded loaded (ledger start).entries := by
  obtain ⟨-, about, usable, -⟩ := Credential.load_ok kept load
  exact ⟨Credential.load_storedIn kept load, usable, about, about⟩

theorem Saved.operation (kept : keyring.Kept ledger) (unseen : Unseen ledger clock)
    {audience : String} {memory saved : Credential} {world : σ}
    (holds : Saved audience memory saved (ledger world).entries) (operation : Operation) :
    Saved audience ((operation.act keyring clock).ending memory world).2.1
      (operation.saved ((operation.act keyring clock).ending memory world).1 memory saved)
      (ledger ((operation.act keyring clock).ending memory world).2.2).entries := by
  cases changes : operation.change memory with
  | none =>
    obtain ⟨same, after⟩ := Operation.ending_of_change_none keyring unseen changes world
    rw [same, after, Operation.saved_of_change_none changes]
    exact holds
  | some changed =>
    have audience := (Operation.change_audience changes).trans holds.memory_audience
    have usable := Operation.isUsable_change changes holds.usable
    rw [Operation.ending_of_change_some changes]
    rcases kept.set changed.item world with ⟨ok, after⟩ | ⟨⟨failure, failed⟩, after⟩
    · rw [ok, after]
      simp only [Act.except_mapError_ok, Except.map, Operation.saved, changes, Option.getD_some]
      exact ⟨Credential.storedIn_withItem usable _, usable, audience, audience⟩
    · rw [failed, after]
      exact ⟨holds.stored, usable, audience, holds.saved_audience⟩

/-- What was saved last is what the keyring holds, at every point of a run. -/
theorem Runs.saved (kept : keyring.Kept ledger) (unseen : Unseen ledger clock)
    {audience : String} {loaded memory saved : Credential} {start world : σ}
    (first : Saved audience loaded loaded (ledger start).entries)
    (run : Runs keyring clock ledger loaded start memory saved world) :
    Saved audience memory saved (ledger world).entries := by
  induction run with
  | start => exact first
  | operation operation _ holds => exact holds.operation kept unseen operation
  | moved _ unseen holds => rw [unseen]; exact holds

theorem cleared?_eq_none_iff_of_normalized {a b : Credential}
    (same : a.grant.token.map Token.normalized = b.grant.token.map Token.normalized) :
    cleared? a = none ↔ cleared? b = none := by
  have access (token : Token) : token.normalized.hasAccessToken = token.hasAccessToken := rfl
  have kept (credential : Credential) : (cleared? credential).map Token.normalized =
      (credential.grant.token.map Token.normalized).filter Token.hasAccessToken := by
    cases present : credential.grant.token with
    | none => simp [cleared?, present]
    | some token => by_cases usable : token.hasAccessToken <;>
        simp [cleared?, present, Option.filter, access, usable]
  rw [← Option.map_eq_none_iff (f := Token.normalized), kept, same, ← kept, Option.map_eq_none_iff]

theorem cleared?_withToken_invalidated (memory : Credential) (token : Token) :
    cleared? (withToken memory token.invalidated) = none := by
  simp [cleared?, withToken, Option.filter, Token.invalidated, Token.hasAccessToken]

/-- After an operation that ends well, the keyring holds what is in memory exactly if the operation
wrote it or what was saved last is still in memory. So an invalidation that ends well leaves an
access token in the keyring exactly if there was none in memory but one was saved, and the token
that the cache gives out is the stored one exactly if it was saved. -/
theorem storedIn_iff_of_ok (kept : keyring.Kept ledger) (unseen : Unseen ledger clock)
    {audience : String} {loaded memory saved after : Credential} {origin start world end_ : σ}
    (operation : Operation) {answer : Option Token}
    (load : (Credential.load keyring audience).outcome origin = (.ok loaded, start))
    (run : Runs keyring clock ledger loaded start memory saved world)
    (ended : (operation.act keyring clock).ending memory world = (.ok answer, after, end_)) :
    (after.StoredIn (ledger end_).entries ↔
      (operation.change memory).isSome ∨ memory.normalized = saved.normalized) ∧
    ∃ found, (ledger end_).entries.credential? audience = some found ∧
      (operation = .invalidate →
        (cleared? found = none ↔ (cleared? memory).isSome ∨ cleared? saved = none)) ∧
      ∀ token, answer = some token →
        (found.grant.token.map Token.normalized = some token.normalized ↔
          saved.grant.token.map Token.normalized = some token.normalized) := by
  have before := run.saved kept unseen (saved_load kept load)
  have holds := before.operation kept unseen operation
  rw [ended] at holds
  obtain ⟨found, present, same⟩ := holds.stored.token
  rw [holds.saved_audience] at present
  cases changes : operation.change memory with
  | none =>
    rw [Operation.saved_of_change_none changes] at holds same
    obtain ⟨unchanged, -⟩ := Operation.ending_of_change_none keyring unseen changes world
    rw [ended] at unchanged
    refine ⟨?_, found, present, ?_, ?_⟩
    · rw [holds.stored.iff (holds.memory_audience.trans holds.saved_audience.symm)]
      simp [← unchanged]
    · rintro rfl
      have nothing : cleared? memory = none := Option.map_eq_none_iff.mp changes
      simp [cleared?_eq_none_iff_of_normalized same, nothing]
    · intro token _
      rw [same]
  | some changed =>
    have written : operation.saved (.ok answer) memory saved = after := by
      have put := congrArg (·.2.1) (ended.symm.trans (Operation.ending_of_change_some changes world))
      simpa [Operation.saved, changes] using put.symm
    rw [written] at holds same
    refine ⟨iff_of_true holds.stored (.inl rfl), found, present, ?_, ?_⟩
    · rintro rfl
      obtain ⟨token, access, rfl⟩ := Option.map_eq_some_iff.mp changes
      have put : after = withToken memory token.invalidated :=
        congrArg (·.2.1) (ended.symm.trans (Operation.ending_of_change_some changes world))
      rw [cleared?_eq_none_iff_of_normalized same, put, cleared?_withToken_invalidated]
      simp [access]
    · rintro token rfl
      simp [Operation.change_of_answer ended] at changes

/-! A keyring that refuses every write, under a cache that is told twice to invalidate. -/

def refusing : Keyring (StateM Desk) := Desk.keyring (some (.file "disk full"))

def withoutAccess : Credential := withToken Desk.sample ⟨"", "bearer", "refresh", none⟩

/-- The second invalidation ends well without a write, so it leaves an access token in the keyring. -/
theorem access_left_behind : ∃ found,
    (Desk.stocked []).ledger.entries.credential? "audience" = some found ∧
      (cleared? found = none ↔ (cleared? withoutAccess).isSome ∨ cleared? Desk.sample = none) := by
  have failed : Runs refusing Desk.clock Desk.ledger Desk.sample (Desk.stocked []) withoutAccess
      Desk.sample (Desk.stocked []) := .operation .invalidate .start
  obtain ⟨-, found, present, access, -⟩ := storedIn_iff_of_ok (Desk.kept_keyring _)
    Desk.unseen_clock .invalidate (Desk.load_stocked _ []) failed rfl
  exact ⟨found, present, access rfl⟩

/-- An invalidation may end well though the keyring holds the access token of an earlier one, which
could not be written. -/
theorem ok_without_write :
    (Operation.invalidate.act refusing Desk.clock).ending Desk.sample (Desk.stocked []) =
      (.error (.error (.storeWrite "I/O error: disk full")), withoutAccess, Desk.stocked []) ∧
    (Operation.invalidate.act refusing Desk.clock).ending withoutAccess (Desk.stocked []) =
      (.ok none, withoutAccess, Desk.stocked []) ∧
    ¬withoutAccess.StoredIn (Desk.stocked []).ledger.entries ∧
    ∃ found token, (Desk.stocked []).ledger.entries.credential? "audience" = some found ∧
      cleared? found = some token := by
  refine ⟨rfl, rfl, ?_, Desk.sample, _, Desk.credential?_stocked [], rfl⟩
  rw [Credential.StoredIn, show withoutAccess.audience = "audience" from rfl,
    Desk.credential?_stocked []]
  decide

end GrantKeeper.Cache
