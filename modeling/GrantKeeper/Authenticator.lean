import GrantKeeper.Credential.Provider
import GrantKeeper.Http.Bearer
import GrantKeeper.Login

/-! Authenticators: from the credentials in a keyring to tokens and authenticated requests. -/
namespace GrantKeeper

/-- What credentials are used with. Without an exchanger of its own, an authenticator asks its
issuer for one. -/
structure Authenticator (m : Type → Type) where
  issuer : Issuer
  keyring : Keyring m
  machine : Login.Machine m
  count : Event → m Unit
  exchanger : Option (Exchanger m) := none

/-- A provider ready for use, with what it holds at first. -/
structure Provision (m : Type → Type) where
  provider : TokenProvider m
  holding : TokenProvider.Holding

def Provision.token {m : Type → Type} [Monad m] (provision : Provision m) : Act m Token :=
  ExceptT.mk ((·.1) <$> provision.provider.token.run.run provision.holding)

inductive Authentication (m : Type → Type)
  | anonymous
  | oauth2 (provision : Provision m)

namespace Authentication

def shown {m : Type → Type} : Authentication m → String
  | anonymous => "Anonymous"
  | oauth2 _ => "OAuth2"

def isAnonymous {m : Type → Type} : Authentication m → Bool
  | anonymous => true
  | oauth2 _ => false

variable {m : Type → Type} [Monad m]

def send (authentication : Authentication m) (network : Http.Network m) (request : Http.Request) :
    m (Except Http.SendFailure Http.Response) := do
  match authentication with
  | anonymous =>
    match ← network.ask request with
    | .ok response => return .ok response
    | .error detail => return .error (.service detail)
  | oauth2 provision =>
    let (ended, _) ← (Http.sendAuthorized provision.provider.source
      (fun request => StateT.lift (network.ask request)) request).run provision.holding
    return ended

end Authentication

namespace Authenticator

variable {m : Type → Type} [Monad m]

def saveClientCredentials (a : Authenticator m) (audience : String) (keyFile : KeyFile)
    (token : Token) : Act m Unit :=
  Credential.save a.keyring audience (.clientCredentials keyFile (some token))

def saveDeviceCode (a : Authenticator m) (audience : String) (token : Token) : Act m Unit :=
  Credential.save a.keyring audience (.deviceCode token)

def saveGrant (a : Authenticator m) (grant : Grant) : Act m Unit :=
  Credential.save a.keyring grant.audience grant.record

def whoAmI (a : Authenticator m) (audience : String) : Act m String :=
  Credential.whoAmI a.keyring audience

def logout (a : Authenticator m) : Act m Unit := Credential.logout a.keyring

def findExchanger (a : Authenticator m) : Act m (Exchanger m) :=
  match a.exchanger with
  | some exchanger => pure exchanger
  | none =>
    if a.issuer.endpoint.isEmpty then Act.fail (.configuration "required: issuer-endpoint")
    else do
      let endpoints ← Endpoints.discover a.machine.network a.issuer.endpoint
      return (a.machine.tokenEndpoint endpoints).exchanger

/-- A provider of tokens for an audience, from what is stored for it. -/
def tokenProvider (a : Authenticator m) (audience : String) : Act m (Provision m) := do
  let credential ← Credential.load a.keyring audience
  let exchanger ← a.findExchanger
  let grant ← Act.ofExcept (Grant.ofRecord a.issuer audience credential.grant)
  return ⟨⟨a.keyring, exchanger, a.machine.clock, a.count⟩, ⟨grant, credential⟩⟩

/-- How to authenticate for an audience: with what is stored for it, and not at all only if
nothing is. -/
def authentication (a : Authenticator m) (audience : String) : Act m (Authentication m) := do
  match ← (a.tokenProvider audience).attempt with
  | .ok provision => return .oauth2 provision
  | .error error =>
    if error.kind = .credentialUnavailable then return .anonymous else Act.fail error

end Authenticator
end GrantKeeper
