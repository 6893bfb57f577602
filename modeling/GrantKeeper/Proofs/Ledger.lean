import GrantKeeper.Authenticator
import GrantKeeper.Proofs.Act
import GrantKeeper.Proofs.StringMap

/-! What theorems see of a world: the entries of its keyring, and what its authorization server was
asked and answered. Parts of a provider are known by what they do to that. -/
namespace GrantKeeper

abbrev Exchange := ExchangeRequest × Except Failure TokenResponse

/-- The entries of a keyring and the exchanges so far, first first. -/
structure Ledger where
  entries : Entries := ∅
  exchanges : List Exchange := []

namespace Ledger

def withItem (ledger : Ledger) (item : KeyringItem) : Ledger :=
  { ledger with entries := ledger.entries.withItem item }

def withExchange (ledger : Ledger) (exchange : Exchange) : Ledger :=
  { ledger with exchanges := ledger.exchanges ++ [exchange] }

def without (ledger : Ledger) (key : String) : Ledger :=
  { ledger with entries := StringMap.erase ledger.entries key }

@[simp] theorem withItem_entries (ledger : Ledger) (item : KeyringItem) :
    (ledger.withItem item).entries = ledger.entries.withItem item := rfl

@[simp] theorem withItem_exchanges (ledger : Ledger) (item : KeyringItem) :
    (ledger.withItem item).exchanges = ledger.exchanges := rfl

@[simp] theorem without_entries (ledger : Ledger) (key : String) :
    (ledger.without key).entries = StringMap.erase ledger.entries key := rfl

@[simp] theorem withExchange_entries (ledger : Ledger) (exchange : Exchange) :
    (ledger.withExchange exchange).entries = ledger.entries := rfl

@[simp] theorem withExchange_exchanges (ledger : Ledger) (exchange : Exchange) :
    (ledger.withExchange exchange).exchanges = ledger.exchanges ++ [exchange] := rfl

end Ledger

variable {σ : Type}

/-- An effect that cannot be seen. -/
def Unseen (ledger : σ → Ledger) (effect : StateM σ α) : Prop :=
  ∀ world, ledger (effect.run world).2 = ledger world

/-- A keyring answers from its entries, and a write either counts or leaves them as they were. -/
structure Keyring.Kept (keyring : Keyring (StateM σ)) (ledger : σ → Ledger) : Prop where
  get : ∀ key world, ledger ((keyring.get key).outcome world).2 = ledger world
  answer : ∀ key world item, ((keyring.get key).outcome world).1 = .ok item →
    item = (ledger world).entries.item? key
  set : ∀ item world,
    (((keyring.set item).outcome world).1 = .ok () ∧
      ledger ((keyring.set item).outcome world).2 = (ledger world).withItem item) ∨
    ((∃ failure, ((keyring.set item).outcome world).1 = .error failure) ∧
      ledger ((keyring.set item).outcome world).2 = ledger world)

/-- A keyring all of whose writes succeed. -/
def Keyring.Writable (keyring : Keyring (StateM σ)) : Prop :=
  ∀ item world, ((keyring.set item).outcome world).1 = .ok ()

theorem Keyring.Kept.set_ok {keyring : Keyring (StateM σ)} {ledger : σ → Ledger}
    (kept : keyring.Kept ledger) (writable : keyring.Writable) (item : KeyringItem) (world : σ) :
    ledger ((keyring.set item).outcome world).2 = (ledger world).withItem item := by
  rcases kept.set item world with ⟨-, after⟩ | ⟨⟨failure, failed⟩, -⟩
  · exact after
  · simp [writable item world] at failed

theorem Keyring.Kept.exchanges_set {keyring : Keyring (StateM σ)} {ledger : σ → Ledger}
    (kept : keyring.Kept ledger) (item : KeyringItem) (world : σ) :
    (ledger ((keyring.set item).outcome world).2).exchanges = (ledger world).exchanges := by
  rcases kept.set item world with ⟨-, after⟩ | ⟨-, after⟩ <;> rw [after]
  rfl

theorem Entries.kept_keyring : Entries.keyring.Kept fun entries => { entries } where
  get _ _ := rfl
  answer key world item answered := by
    cases answered
    rfl
  set _ _ := .inl ⟨rfl, rfl⟩

theorem Entries.writable_keyring : Entries.keyring.Writable := fun _ _ => rfl

/-- A keyring none of whose operations fails. -/
structure Keyring.Reliable (keyring : Keyring (StateM σ)) (ledger : σ → Ledger) : Prop where
  get : ∀ key world, ∃ after,
    (keyring.get key).outcome world = (.ok ((ledger world).entries.item? key), after) ∧
      ledger after = ledger world
  set : ∀ item world, ∃ after, (keyring.set item).outcome world = (.ok (), after) ∧
    ledger after = (ledger world).withItem item
  remove : ∀ key world, ∃ present after, (keyring.remove key).outcome world = (.ok present, after) ∧
    ledger after = (ledger world).without key
  keys : ∀ world, ∃ keys after, keyring.keys.outcome world = (.ok keys, after) ∧
    ledger after = ledger world ∧ ∀ key, ((ledger world).entries.item? key).isSome → key ∈ keys

theorem Keyring.Reliable.kept {keyring : Keyring (StateM σ)} {ledger : σ → Ledger}
    (reliable : keyring.Reliable ledger) : keyring.Kept ledger where
  get key world := by
    obtain ⟨after, got, seen⟩ := reliable.get key world
    rw [got]
    exact seen
  answer key world item answered := by
    obtain ⟨after, got, -⟩ := reliable.get key world
    rw [got] at answered
    exact (Except.ok.inj answered).symm
  set item world := by
    obtain ⟨after, set, seen⟩ := reliable.set item world
    rw [set]
    exact .inl ⟨rfl, seen⟩

theorem Keyring.Reliable.writable {keyring : Keyring (StateM σ)} {ledger : σ → Ledger}
    (reliable : keyring.Reliable ledger) : keyring.Writable := fun item world => by
  obtain ⟨after, set, -⟩ := reliable.set item world
  rw [set]

/-- An exchanger all of whose exchanges are seen. -/
def Exchanger.Kept (exchanger : Exchanger (StateM σ)) (ledger : σ → Ledger) : Prop :=
  ∀ request world, ledger ((exchanger.exchange request).outcome world).2 =
    (ledger world).withExchange (request, ((exchanger.exchange request).outcome world).1)

/-- A provider of whose parts only the keyring and the exchanger do what can be seen. -/
structure TokenProvider.Kept (provider : TokenProvider (StateM σ)) (ledger : σ → Ledger) :
    Prop where
  keyring : provider.keyring.Kept ledger
  exchanger : provider.exchanger.Kept ledger
  clock : Unseen ledger provider.clock
  count : ∀ event, Unseen ledger (provider.count event)

/-- An authenticator of whose parts only the keyring and the exchanger do what can be seen. -/
structure Authenticator.Kept (a : Authenticator (StateM σ)) (ledger : σ → Ledger) : Prop where
  keyring : a.keyring.Kept ledger
  clock : Unseen ledger a.machine.clock
  count : ∀ event, Unseen ledger (a.count event)
  search : ∀ world, ledger (a.findExchanger.outcome world).2 = ledger world
  exchanger : ∀ world exchanger, (a.findExchanger.outcome world).1 = .ok exchanger →
    exchanger.Kept ledger

/-! A world that is little more than its ledger. -/

/-- A ledger, a clock that stands still, and the answers of an authorization server. -/
structure Desk where
  ledger : Ledger := {}
  now : Instant
  answers : List (Except Failure TokenResponse) := []

namespace Desk

def keyring (refusal : Option Error) : Keyring (StateM Desk) where
  get key := Act.step do return (← get).ledger.entries.item? key
  set item :=
    match refusal with
    | none => Act.step (modify fun desk => { desk with ledger := desk.ledger.withItem item })
    | some error => Act.fail error
  remove key := Act.step do
    let desk ← get
    set { desk with
      ledger := { desk.ledger with entries := StringMap.erase desk.ledger.entries key } }
    return desk.ledger.entries.contains key
  keys := Act.step do return StringMap.keys (← get).ledger.entries

/-- The exchanger of a desk gives one answer after the other, and fails when there are none left. -/
def exchanger : Exchanger (StateM Desk) where
  exchange request := ExceptT.mk do
    let desk ← get
    let answer := desk.answers.head?.getD (.error (.error (.tokenExchange "out of answers")))
    set { desk with
      ledger := desk.ledger.withExchange (request, answer), answers := desk.answers.drop 1 }
    return answer

def clock : StateM Desk Instant := return (← get).now

def files : Files (StateM Desk) where
  read _ := return .error .missing
  createDirectories _ := return .error (.other "no files")
  write _ _ := return .error (.other "no files")
  restrict _ := return .error .missing
  rename _ _ := return .error .missing

def authenticator (issuer : Issuer) (refusal : Option Error) : Authenticator (StateM Desk) where
  issuer
  keyring := keyring refusal
  machine := ⟨.unreachable, files, clock, ⟨pure 0, fun _ => pure ()⟩, 0⟩
  count _ := pure ()
  exchanger := some exchanger

theorem kept_keyring (refusal : Option Error) : (keyring refusal).Kept Desk.ledger where
  get _ _ := rfl
  answer key world item answered := by
    cases answered
    rfl
  set item world := by
    cases refusal with
    | none => exact .inl ⟨rfl, rfl⟩
    | some error => exact .inr ⟨⟨_, rfl⟩, rfl⟩

theorem writable_keyring : (keyring none).Writable := fun _ _ => rfl

theorem reliable_keyring : (keyring none).Reliable Desk.ledger where
  get _ _ := ⟨_, rfl, rfl⟩
  set _ _ := ⟨_, rfl, rfl⟩
  remove _ _ := ⟨_, _, rfl, rfl⟩
  keys world := by
    refine ⟨_, _, rfl, rfl, fun key present => ?_⟩
    rw [Entries.item?, Option.isSome_map] at present
    exact (StringMap.isSome_get?_iff world.ledger.entries key).mp present

theorem kept_exchanger : exchanger.Kept Desk.ledger := fun _ _ => rfl

theorem unseen_clock : Unseen Desk.ledger clock := fun _ => rfl

theorem kept_authenticator (issuer : Issuer) (refusal : Option Error) :
    (authenticator issuer refusal).Kept Desk.ledger where
  keyring := kept_keyring refusal
  clock := unseen_clock
  count _ _ := rfl
  search _ := rfl
  exchanger world found result := by
    cases result
    exact kept_exchanger

end Desk
end GrantKeeper
