import GrantKeeper.Exchange
import GrantKeeper.Grant.Record

/-! Live grants: a record for one audience, from which tokens are obtained. -/
namespace GrantKeeper

structure Issuer where
  endpoint : String := ""
  clientId : String := ""
  audience : String := ""
deriving DecidableEq, Repr

inductive Grant
  | clientCredentials (audience : String) (keyFile : KeyFile) (token : Option Token)
  | deviceCode (clientId audience : String) (token : Token)
deriving DecidableEq

namespace Grant

/-- The grant of a usable record. A device's client is the issuer's. -/
def ofRecord (issuer : Issuer) (audience : String) (record : GrantRecord) : Except Error Grant :=
  match record.kind, record.keyFile, record.token with
  | .clientCredentials, some keyFile, token => .ok (.clientCredentials audience keyFile token)
  | .deviceCode, _, some token => .ok (.deviceCode issuer.clientId audience token)
  | _, _, _ => .error .unusableAuthenticationData

def record : Grant → GrantRecord
  | clientCredentials _ keyFile token => .clientCredentials keyFile token
  | deviceCode _ _ token => .deviceCode token

def kind : Grant → GrantKind
  | clientCredentials .. => .clientCredentials
  | deviceCode .. => .deviceCode

def audience : Grant → String
  | clientCredentials audience _ _ => audience
  | deviceCode _ audience _ => audience

def shown (grant : Grant) : String :=
  "Grant \x7b type: " ++ grant.kind.shown ++ ", audience: " ++ Text.quoted grant.audience ++
    ", .. \x7d"

/-- The request that renews the grant's token. Without a refresh token a device needs a login. -/
def renewal : Grant → Except Error ExchangeRequest
  | clientCredentials audience keyFile _ =>
    .ok (.clientCredentials keyFile.clientId keyFile.clientSecret audience)
  | deviceCode clientId _ token =>
    if token.hasRefreshToken then .ok (.refreshToken clientId token.refreshToken)
    else .error .grantExpired

def restate : Grant → Error → Error
  | clientCredentials .. => .during "could not exchange client credentials"
  | deviceCode .. => id

/-- The token that an answer brings. A device keeps its refresh token unless given another. -/
def tokenFrom (response : TokenResponse) (now : Instant) : Grant → Except Fault Token
  | clientCredentials .. => Token.issued response now
  | deviceCode _ _ token =>
    let refreshToken :=
      if response.refreshToken.isEmpty then token.refreshToken else response.refreshToken
    Token.issued { response with refreshToken } now

def withToken (token : Token) : Grant → Grant
  | clientCredentials audience keyFile _ => clientCredentials audience keyFile (some token)
  | deviceCode clientId audience _ => deviceCode clientId audience token

variable {m : Type → Type} [Monad m]

/-- Obtains a fresh token. The grant changes only when it has one. -/
def refresh (exchanger : Exchanger m) (clock : m Instant) : Act (StateT Grant m) Token := do
  let grant ← Act.step get
  let request ← Act.ofExcept grant.renewal
  let response ← Act.hoist StateT.lift ((exchanger.exchange request).mapError grant.restate)
  let now ← Act.step (StateT.lift clock)
  let token ← Act.ofTimes (grant.tokenFrom response now)
  Act.step (set (grant.withToken token))
  return token

end Grant
end GrantKeeper
