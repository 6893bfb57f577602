import GrantKeeper.Act
import GrantKeeper.Secret
import GrantKeeper.Token

/-! Token exchanges: what is asked of a token endpoint, and the fields that ask it. -/
namespace GrantKeeper

/-- A request to a token endpoint. Lengths of time are in nanoseconds. -/
inductive ExchangeRequest
  /-- A service account asks for a token to an audience. -/
  | clientCredentials (clientId : String) (clientSecret : Secret) (audience : String)
  /-- A device asks whether its user has agreed. A lifetime of zero never ends. -/
  | deviceCode (clientId deviceCode : String) (pollInterval lifetime : Nat)
  /-- A token is to be renewed. -/
  | refreshToken (clientId refreshToken : String)
deriving DecidableEq, Repr

namespace ExchangeRequest

def fields : ExchangeRequest → List (String × String)
  | clientCredentials clientId clientSecret audience =>
    [("grant_type", "client_credentials"), ("client_id", clientId),
      ("client_secret", clientSecret.exposed), ("audience", audience)]
  | deviceCode clientId code _ _ =>
    [("grant_type", "urn:ietf:params:oauth:grant-type:device_code"), ("device_code", code),
      ("client_id", clientId)]
  | refreshToken clientId token =>
    [("grant_type", "refresh_token"), ("refresh_token", token), ("client_id", clientId)]

end ExchangeRequest

structure Exchanger (m : Type → Type) where
  exchange : ExchangeRequest → Act m TokenResponse

def Exchanger.hoist {m n : Type → Type} [Monad m] [Monad n] (move : ∀ {α}, m α → n α)
    (exchanger : Exchanger m) : Exchanger n where
  exchange request := Act.hoist move (exchanger.exchange request)

end GrantKeeper
