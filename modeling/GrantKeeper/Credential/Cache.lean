import GrantKeeper.Credential

/-! The token cache of one credential: the credential in memory, whose changes are written to the
keyring. A change stays in memory even if it could not be written. -/
namespace GrantKeeper.Cache

variable {m : Type → Type} [Monad m]

def withToken (credential : Credential) (token : Token) : Credential :=
  { credential with grant := { credential.grant with token := some token } }

/-- The cached token, if it can still be used at an instant. -/
def tokenAt (credential : Credential) (now : Instant) : Except Fault (Option Token) :=
  match credential.grant.token with
  | none => .ok none
  | some token => (fun usable => if usable then some token else none) <$> token.isUsable now

def token? (clock : m Instant) : Act (StateT Credential m) (Option Token) := do
  let credential ← Act.step get
  match credential.grant.token with
  | none => return none
  | some _ => Act.ofTimes (tokenAt credential (← Act.step (StateT.lift clock)))

def persist (keyring : Keyring m) : Act (StateT Credential m) Unit := do
  let credential ← Act.step get
  Act.hoist StateT.lift (Credential.store keyring credential)

def update (keyring : Keyring m) (token : Token) : Act (StateT Credential m) Unit := do
  Act.step (modify (withToken · token))
  persist keyring

/-- Makes the token unusable, except for renewing it. -/
def invalidate (keyring : Keyring m) : Act (StateT Credential m) Unit := do
  match (← Act.step get).grant.token with
  | none => return
  | some token =>
    if token.hasAccessToken then
      Act.step (modify (withToken · token.invalidated))
      persist keyring
    else return

end GrantKeeper.Cache
