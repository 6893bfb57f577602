import GrantKeeper.Credential.Cache
import GrantKeeper.Grant

/-! Token providers: a live grant and a token cache, which together always have a token to give
while the authorization server agrees. -/
namespace GrantKeeper

inductive Event
  | refreshed
  | refreshFailed
  | invalidated
deriving DecidableEq, Repr

structure TokenProvider (m : Type → Type) where
  keyring : Keyring m
  exchanger : Exchanger m
  clock : m Instant
  count : Event → m Unit

structure TokenProvider.Holding where
  grant : Grant
  credential : Credential
deriving DecidableEq

def Act.onPart {m : Type → Type} [Monad m] (part : σ → τ) (withPart : τ → σ → σ)
    (act : Act (StateT τ m) α) : Act (StateT σ m) α :=
  ExceptT.mk fun whole => do
    let (ended, now) ← act.run.run (part whole)
    return (ended, withPart now whole)

namespace TokenProvider

variable {m : Type → Type} [Monad m]

def onGrant (act : Act (StateT Grant m) α) : Act (StateT Holding m) α :=
  act.onPart Holding.grant fun grant holding => { holding with grant }

def onCredential (act : Act (StateT Credential m) α) : Act (StateT Holding m) α :=
  act.onPart Holding.credential fun credential holding => { holding with credential }

def counting (provider : TokenProvider m) (event : Event) : Act (StateT Holding m) Unit :=
  Act.step (StateT.lift (provider.count event))

/-- A usable token: the cached one, or a fresh one, which is cached then. -/
def token (provider : TokenProvider m) : Act (StateT Holding m) Token := do
  match ← onCredential (Cache.token? provider.clock) with
  | some token => return token
  | none =>
    match ← (onGrant (Grant.refresh provider.exchanger provider.clock)).attempt with
    | .error error =>
      provider.counting .refreshFailed
      Act.fail (.during "authentication failure" error)
    | .ok token =>
      provider.counting .refreshed
      (onCredential (Cache.update provider.keyring token)).during "unable to update the token cache"
      return token

/-- Makes the cached token unusable, because a server did not accept it. -/
def invalidate (provider : TokenProvider m) : Act (StateT Holding m) Unit := do
  provider.counting .invalidated
  onCredential (Cache.invalidate provider.keyring)

end TokenProvider

/-- What gives out tokens and can be told that one was not accepted. -/
structure TokenSource (m : Type → Type) where
  token : Act m Token
  invalidate : Act m Unit

def TokenProvider.source {m : Type → Type} [Monad m] (provider : TokenProvider m) :
    TokenSource (StateT Holding m) where
  token := provider.token
  invalidate := provider.invalidate

end GrantKeeper
