import GrantKeeper.Authenticator
import GrantKeeper.Files.Tree
import GrantKeeper.Keyring.File
import GrantKeeper.Keyring.Secrets

/-! Rehearsals: credentials handled in a world of its own, whose clock is moved by hand, whose
files and secrets are in memory, whose keyring fails when told to and whose authorization server
answers from a script. What was written, asked and counted can be looked at. -/
namespace GrantKeeper.Rehearsal

inductive Backend
  | memory (entries : Entries)
  | file (keyring : FileKeyring)
  | secrets

inductive Call
  | get
  | set
  | remove
  | keys
  | secretGet
  | secretSet
  | secretDelete
deriving DecidableEq, Repr

/-- An order to fail with an error, for one key or for all. -/
structure Rule where
  call : Call
  key : Option String := none
  error : Error

structure World where
  clock : Instant := Instant.epoch
  files : Files.Tree := {}
  backend : Backend := .memory ∅
  secrets : StringMap String := ∅
  rules : List Rule := []
  /-- How often the keyring was told to change. -/
  writes : Nat := 0
  /-- What was asked of the authorization server, first first. -/
  asked : List ExchangeRequest := []
  script : List (Except Error TokenResponse) := []
  /-- How often each event happened that did happen. -/
  counts : List (Event × Nat) := []

abbrev InWorld := StateM World

/-- Fails if the first rule for a call says so. -/
def obey (call : Call) (key : String) : Act InWorld Unit := do
  let world ← Act.step get
  let applies (rule : Rule) : Bool := rule.call == call && (rule.key.isNone || rule.key == some key)
  match world.rules.find? applies with
  | some rule => Act.fail rule.error
  | none => return

def secretStore : SecretStore InWorld where
  get name := do
    obey .secretGet name
    return (← Act.step get).secrets.get? name
  set name secret := do
    obey .secretSet name
    Act.step (modify fun world => { world with secrets := world.secrets.insert name secret })
  delete name := do
    obey .secretDelete name
    let world ← Act.step get
    Act.step (set { world with secrets := world.secrets.erase name })
    return (world.secrets.get? name).isSome

def files : Files InWorld := Files.Tree.files.hoist fun act => do
  let world ← get
  let (value, tree) := act.run world.files
  set { world with files := tree }
  return value

def onBackend (operation : (m : Type → Type) → [Monad m] → Keyring m → Act m α) : Act InWorld α := do
  let world ← Act.step get
  match world.backend with
  | .memory entries =>
    let (ended, entries) := (operation (StateM Entries) Entries.keyring).run.run entries
    Act.step (set { world with backend := .memory entries })
    ExceptT.mk (pure ended)
  | .file keyring =>
    let ((ended, keyring), tree) :=
      ((operation (StateT FileKeyring (StateM Files.Tree))
        (FileKeyring.keyring Files.Tree.files)).run.run keyring).run world.files
    Act.step (set { world with backend := .file keyring, files := tree })
    ExceptT.mk (pure ended)
  | .secrets => operation InWorld secretStore.keyring

def countWrite : Act InWorld Unit :=
  Act.step (modify fun world => { world with writes := world.writes + 1 })

/-- The keyring of a world, which obeys the rules and counts what changes it. -/
def keyring : Keyring InWorld where
  get key := do
    obey .get key
    onBackend fun _ _ backend => backend.get key
  set item := do
    countWrite
    obey .set item.key
    onBackend fun _ _ backend => backend.set item
  remove key := do
    countWrite
    obey .remove key
    onBackend fun _ _ backend => backend.remove key
  keys := do
    obey .keys ""
    onBackend fun _ _ backend => backend.keys

def contents : Act InWorld (List (Except Failure (Option KeyringItem))) := do
  let keys ← onBackend fun _ _ backend => backend.keys
  Act.step (keys.mapM fun key => (onBackend fun _ _ backend => backend.get key).run)

def exchanger : Exchanger InWorld where
  exchange request := do
    let world ← Act.step get
    Act.step (set { world with asked := world.asked ++ [request], script := world.script.drop 1 })
    Act.ofExcept (world.script.head?.getD (.error (.tokenExchange "script exhausted")))

def clock : InWorld Instant := return (← get).clock

def advance (span : Span) : Act InWorld Instant := do
  let world ← Act.step get
  match world.clock.add? span with
  | some now =>
    Act.step (set { world with clock := now })
    return now
  | none => Act.crash .instantAboveRange

def count (event : Event) : InWorld Unit := modify fun world =>
  { world with counts :=
      match world.counts.find? (·.1 == event) with
      | some (_, n) => world.counts.filter (·.1 != event) ++ [(event, n + 1)]
      | none => world.counts ++ [(event, 1)] }

/-- The machine of a world: it reaches no network, and its timer stands still. -/
def machine : Login.Machine InWorld where
  network := .unreachable
  files := files
  clock := clock
  timer := ⟨pure 0, fun _ => pure ()⟩
  patience := 0

def authenticator (issuer : Issuer) (hasExchanger : Bool) : Authenticator InWorld where
  issuer
  keyring := keyring
  machine := machine
  count := count
  exchanger := if hasExchanger then some exchanger else none

def provider : TokenProvider InWorld where
  keyring := keyring
  exchanger := exchanger
  clock := clock
  count := count

/-- Opens the keyring file of a world, which then is its keyring. -/
def openFile (path : String) (process : Nat) : Act InWorld Unit := do
  let opened ← FileKeyring.load files path process
  Act.step (modify fun world => { world with backend := .file opened })

end GrantKeeper.Rehearsal
