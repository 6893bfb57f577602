import GrantKeeper.Proofs.Grant.Record
import GrantKeeper.Proofs.Ledger
import GrantKeeper.Proofs.StringMap

/-! Credentials in the entries of a keyring. A credential is compared with what is stored for its
audience up to the changes that storing makes to its record. -/
namespace GrantKeeper

def Entries.credential? (entries : Entries) (audience : String) : Option Credential :=
  (entries.item? (Credential.keyOf audience)).bind fun item =>
    (Credential.ofItem audience item).toOption

/-- Entries to which a credential was written, if one was. -/
def Entries.withWritten (entries : Entries) : Option Credential → Entries
  | none => entries
  | some credential => entries.withItem credential.item

namespace Credential

/-- A credential as it is after having been stored. -/
def normalized (credential : Credential) : Credential :=
  { credential with grant := credential.grant.normalized }

/-- Entries hold a credential, up to what storing changes. -/
def StoredIn (credential : Credential) (entries : Entries) : Prop :=
  (entries.credential? credential.audience).map normalized = some credential.normalized

@[simp] theorem normalized_normalized (credential : Credential) :
    credential.normalized.normalized = credential.normalized := by
  simp [normalized]

@[simp] theorem normalized_audience (credential : Credential) :
    credential.normalized.audience = credential.audience := rfl

@[simp] theorem normalized_token (credential : Credential) :
    credential.normalized.grant.token = credential.grant.token.map Token.normalized := rfl

theorem ofItem_item {credential : Credential} (usable : credential.grant.isUsable) :
    ofItem credential.audience credential.item = .ok credential.normalized := by
  simp [ofItem, item, GrantRecord.decode?_encode, usable, normalized]

theorem item?_withItem (entries : Entries) (item : KeyringItem) :
    (entries.withItem item).item? item.key = some item := by
  simp [Entries.item?, Entries.withItem, KeyringItem.entry, Entry.item]

theorem item?_withItem_of_ne (entries : Entries) {item : KeyringItem} {key : String}
    (other : key ≠ item.key) : (entries.withItem item).item? key = entries.item? key := by
  simp only [Entries.item?, Entries.withItem, StringMap.get?_insert_of_ne entries other]

theorem isSome_item?_withItem {key : String} {entries : Entries} (item : KeyringItem)
    (present : (entries.item? key).isSome) : ((entries.withItem item).item? key).isSome := by
  by_cases own : key = item.key
  · rw [own, item?_withItem]
    rfl
  · rwa [item?_withItem_of_ne entries own]

theorem isSome_item?_withWritten {key : String} {entries : Entries} (written : Option Credential)
    (present : (entries.item? key).isSome) : ((entries.withWritten written).item? key).isSome := by
  cases written with
  | none => exact present
  | some credential => exact isSome_item?_withItem credential.item present

theorem item?_erase (entries : Entries) (key other : String) :
    Entries.item? (StringMap.erase entries key) other =
      if other = key then none else entries.item? other := by
  split
  · next same => simp [Entries.item?, same]
  · next different => simp [Entries.item?, StringMap.get?_erase_of_ne entries different]

theorem credential?_withItem {credential : Credential} (usable : credential.grant.isUsable)
    (entries : Entries) :
    (entries.withItem credential.item).credential? credential.audience =
      some credential.normalized := by
  have found := item?_withItem entries credential.item
  simp only [item] at found
  simp only [Entries.credential?, item, found, Option.bind_some]
  rw [← item, ofItem_item usable]
  rfl

theorem storedIn_withItem {credential : Credential} (usable : credential.grant.isUsable)
    (entries : Entries) : credential.StoredIn (entries.withItem credential.item) := by
  simp [StoredIn, credential?_withItem usable]

/-- Of the credentials for an audience, those are stored that storing makes the same. -/
theorem StoredIn.iff {saved memory : Credential} {entries : Entries}
    (stored : saved.StoredIn entries) (same : memory.audience = saved.audience) :
    memory.StoredIn entries ↔ memory.normalized = saved.normalized := by
  rw [StoredIn, same, stored, Option.some_inj]
  exact eq_comm

theorem StoredIn.token {credential : Credential} {entries : Entries}
    (stored : credential.StoredIn entries) :
    ∃ found, entries.credential? credential.audience = some found ∧
      found.grant.token.map Token.normalized = credential.grant.token.map Token.normalized := by
  obtain ⟨found, present, same⟩ := Option.map_eq_some_iff.mp stored
  exact ⟨found, present, congrArg (·.grant.token) same⟩

variable {σ : Type} {keyring : Keyring (StateM σ)} {ledger : σ → Ledger}

theorem ofItem_audience {audience : String} {item : KeyringItem} {credential : Credential}
    (read : ofItem audience item = .ok credential) :
    credential.audience = audience ∧ credential.grant.isUsable := by
  unfold ofItem at read
  split at read
  · split at read
    · next usable => cases read; exact ⟨rfl, usable⟩
    · cases read
  · cases read

theorem ofItem_userName {audience : String} {item : KeyringItem} {credential : Credential}
    (read : ofItem audience item = .ok credential) : credential.userName = item.label := by
  unfold ofItem at read
  split at read
  · split at read <;> cases read
    rfl
  · cases read

theorem credential?_eq_some {entries : Entries} {audience : String} {credential : Credential}
    (found : entries.credential? audience = some credential) :
    ∃ item, entries.item? (keyOf audience) = some item ∧ ofItem audience item = .ok credential := by
  obtain ⟨item, present, read⟩ := Option.bind_eq_some_iff.mp found
  refine ⟨item, present, ?_⟩
  cases data : ofItem audience item with
  | error error => simp [data, Except.toOption] at read
  | ok loaded => simpa [data, Except.toOption] using read

theorem dated_of_ofItem {audience : String} {item : KeyringItem} {credential : Credential}
    (read : ofItem audience item = .ok credential) {token : Token}
    (present : credential.grant.token = some token) : token.Dated := by
  unfold ofItem at read
  split at read
  · next decoded =>
    split at read <;> cases read
    exact GrantRecord.dated_of_decode? decoded present
  · cases read

theorem dated_of_credential? {entries : Entries} {audience : String} {credential : Credential}
    (found : entries.credential? audience = some credential) {token : Token}
    (present : credential.grant.token = some token) : token.Dated := by
  obtain ⟨item, -, read⟩ := credential?_eq_some found
  exact dated_of_ofItem read present

theorem ledger_load (kept : keyring.Kept ledger) (audience : String) (world : σ) :
    ledger ((load keyring audience).outcome world).2 = ledger world := by
  have got := kept.get (keyOf audience) world
  rw [load, Act.outcome_bind, Act.outcome_mapError]
  rcases found : (keyring.get (keyOf audience)).outcome world with ⟨_ | _ | item, after⟩ <;>
    rw [found] at got
  · exact got
  · exact got
  · simp only [Act.except_mapError_ok, Act.outcome_ofExcept]
    exact got

theorem outcome_load (kept : keyring.Kept ledger) {audience : String} {item : Option KeyringItem}
    {start world : σ} (got : (keyring.get (keyOf audience)).outcome start = (.ok item, world)) :
    (load keyring audience).outcome start =
      ((match (ledger start).entries.item? (keyOf audience) with
        | none => .error (.error .noAuthenticationData)
        | some item => (ofItem audience item).mapError .error), world) := by
  have answer : item = (ledger start).entries.item? (keyOf audience) :=
    kept.answer (keyOf audience) start item (by rw [got])
  rw [load, Act.outcome_bind, Act.outcome_mapError, got, ← answer]
  cases item with
  | none => rfl
  | some item => simp only [Act.except_mapError_ok, Act.outcome_ofExcept]

/-- A loaded credential is stored, usable and for the audience asked for. -/
theorem load_ok (kept : keyring.Kept ledger) {audience : String} {credential : Credential}
    {start world : σ} (loaded : (load keyring audience).outcome start = (.ok credential, world)) :
    ledger world = ledger start ∧ credential.audience = audience ∧ credential.grant.isUsable ∧
      (ledger world).entries.credential? audience = some credential := by
  have same := ledger_load kept audience start
  rw [loaded] at same
  rcases got : (keyring.get (keyOf audience)).outcome start with ⟨failure | item, after⟩
  · rw [load, Act.outcome_bind, Act.outcome_mapError, got] at loaded
    cases loaded
  · rw [outcome_load kept got] at loaded
    cases present : (ledger start).entries.item? (keyOf audience) with
    | none => simp [present] at loaded
    | some item =>
      cases read : ofItem audience item with
      | error error => simp [present, read] at loaded
      | ok found =>
        simp only [present, read, Act.except_mapError_ok, Prod.mk.injEq, Except.ok.injEq] at loaded
        obtain ⟨rfl, -⟩ := loaded
        obtain ⟨about, usable⟩ := ofItem_audience read
        refine ⟨same, about, usable, ?_⟩
        rw [Entries.credential?, same, present, Option.bind_some, read]
        rfl

theorem load_storedIn (kept : keyring.Kept ledger) {audience : String} {credential : Credential}
    {start world : σ} (loaded : (load keyring audience).outcome start = (.ok credential, world)) :
    credential.StoredIn (ledger world).entries := by
  obtain ⟨-, rfl, -, found⟩ := load_ok kept loaded
  rw [StoredIn, found, Option.map_some]

theorem load_of_credential? (kept : keyring.Kept ledger) {audience : String}
    {item : Option KeyringItem} {credential : Credential} {start world : σ}
    (got : (keyring.get (keyOf audience)).outcome start = (.ok item, world))
    (found : (ledger start).entries.credential? audience = some credential) :
    (load keyring audience).outcome start = (.ok credential, world) := by
  obtain ⟨item, present, read⟩ := credential?_eq_some found
  rw [outcome_load kept got, present]
  simp only [read, Act.except_mapError_ok]

theorem isUsable_of_userNameOf {record : GrantRecord} {userName : String}
    (named : userNameOf record = .ok userName) : record.isUsable := by
  unfold userNameOf at named
  unfold GrantRecord.isUsable
  split at named <;> split at named <;> simp_all

theorem outcome_store (keyring : Keyring (StateM σ)) (credential : Credential) (world : σ) :
    (store keyring credential).outcome world =
      (((keyring.set credential.item).outcome world).1.mapError (Act.restated asWrite),
        ((keyring.set credential.item).outcome world).2) := rfl

theorem outcome_save (keyring : Keyring (StateM σ)) (audience : String) (record : GrantRecord)
    (world : σ) :
    (save keyring audience record).outcome world = match userNameOf record with
      | .ok userName => (store keyring ⟨audience, userName, record⟩).outcome world
      | .error error => (.error (.error error), world) := by
  rw [save, Act.outcome_bind, Act.outcome_ofExcept]
  cases userNameOf record <;> rfl

/-- A record that is accepted for saving names its user, and is what is stored then. -/
theorem save_ok (kept : keyring.Kept ledger) {audience : String} {record : GrantRecord}
    {origin saved : σ}
    (accepted : (save keyring audience record).outcome origin = (.ok (), saved)) :
    ∃ userName, userNameOf record = .ok userName ∧
      ledger saved = (ledger origin).withItem (Credential.mk audience userName record).item := by
  rw [outcome_save] at accepted
  cases named : userNameOf record with
  | error error => simp [named] at accepted
  | ok userName =>
    simp only [named, outcome_store, Prod.mk.injEq] at accepted
    obtain ⟨ok, rfl⟩ := accepted
    refine ⟨userName, rfl, ?_⟩
    rcases kept.set (Credential.mk audience userName record).item origin with
      ⟨-, after⟩ | ⟨⟨failure, failed⟩, -⟩
    · exact after
    · rw [failed] at ok
      cases ok

/-! Removing everything. -/

theorem outcome_remove (reliable : keyring.Reliable ledger) (key : String) (world : σ) :
    ∃ after, (remove keyring key).outcome world = (.ok (), after) ∧
      ledger after = (ledger world).without key := by
  obtain ⟨present, after, removed, seen⟩ := reliable.remove key world
  refine ⟨after, ?_, seen⟩
  rw [remove, Act.outcome_bind, Act.outcome_mapError, removed]
  rfl

theorem outcome_removeAll (reliable : keyring.Reliable ledger) (keys : List String) (world : σ) :
    ∃ after, (removeAll keyring keys none).outcome world = (.ok none, after) ∧
      ∀ key, (ledger after).entries.item? key =
        if key ∈ keys then none else (ledger world).entries.item? key := by
  induction keys generalizing world with
  | nil => exact ⟨world, rfl, by simp⟩
  | cons first rest ih =>
    obtain ⟨middle, removed, seen⟩ := outcome_remove reliable first world
    obtain ⟨after, others, left⟩ := ih middle
    refine ⟨after, ?_, fun key => ?_⟩
    · rw [removeAll, Act.outcome_bind, Act.outcome_attempt, removed]
      exact others
    · rw [left, seen, Ledger.without_entries, item?_erase]
      by_cases same : key = first <;> by_cases other : key ∈ rest <;> simp [same, other]

theorem outcome_logout (reliable : keyring.Reliable ledger) (world : σ) :
    ∃ after, (logout keyring).outcome world = (.ok (), after) ∧
      ∀ key, (ledger after).entries.item? key = none := by
  obtain ⟨keys, listed, list, seen, all⟩ := reliable.keys world
  obtain ⟨after, removed, left⟩ := outcome_removeAll reliable keys listed
  refine ⟨after, ?_, fun key => ?_⟩
  · rw [logout, Act.outcome_bind, Credential.keys, Act.outcome_mapError, list]
    simp only [Act.except_mapError_ok, Act.outcome_bind, removed]
    rfl
  · rw [left, seen]
    split
    · rfl
    · next unlisted =>
      cases present : (ledger world).entries.item? key with
      | none => rfl
      | some item => exact absurd (all key (by simp [present])) unlisted

end Credential

namespace Desk

def sample : Credential :=
  ⟨"audience", "user", .deviceCode { accessToken := "access", refreshToken := "refresh" }⟩

def service (token : Token) : Credential :=
  ⟨"audience", "robot@example",
    .clientCredentials ⟨KeyFile.serviceAccount, "client", ⟨"secret"⟩, "robot@example"⟩ (some token)⟩

def stocked (answers : List (Except Failure TokenResponse)) : Desk where
  ledger := { entries := (∅ : Entries).withItem sample.item }
  now := Instant.epoch
  answers := answers

theorem credential?_stocked (answers : List (Except Failure TokenResponse)) :
    (stocked answers).ledger.entries.credential? "audience" = some sample :=
  @Credential.credential?_withItem sample rfl ∅

theorem load_stocked (refusal : Option Error) (answers : List (Except Failure TokenResponse)) :
    (Credential.load (keyring refusal) "audience").outcome (stocked answers) =
      (.ok sample, stocked answers) :=
  Credential.load_of_credential? (kept_keyring refusal) rfl (credential?_stocked answers)

end Desk
end GrantKeeper
