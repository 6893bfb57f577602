import GrantKeeper.Credential.Provider
import GrantKeeper.Http

/-! Bearer authentication: requests that bring no authorization of their own get a token, and a
token that is refused is not used again. -/
namespace GrantKeeper.Http

inductive SendFailure
  | token (failure : Failure)
  /-- The token cannot stand in a header. -/
  | headerValue
  | service (detail : String)
deriving DecidableEq

def authorizationName : String := "authorization"

def Request.authorization? (request : Request) : Option Header :=
  request.headers.find? (·.name == authorizationName)

/-- Whether a request brings an authorization that is not empty. -/
def Request.isAuthorized (request : Request) : Bool :=
  request.authorization?.any fun header => !header.value.isEmpty

def isHeaderByte (b : UInt8) : Bool := (0x20 ≤ b && b != 0x7F) || b == 0x09

def bearer? (token : Token) : Option Header :=
  let value := Utf8.encode token.authorization
  if value.all isHeaderByte then some ⟨authorizationName, value, true⟩ else none

/-- The request with a header in place of all its authorizations. -/
def Request.withAuthorization (request : Request) (header : Header) : Request :=
  { request with
    headers := request.headers.filter (·.name != authorizationName) ++ [header] }

variable {m : Type → Type} [Monad m]

/-- Sends a request with the token of a source. A response of 401 makes the source drop its token;
if it cannot, the response is given all the same. -/
def sendWithToken (source : TokenSource m) (service : Request → m (Except String Response))
    (request : Request) : m (Except SendFailure Response) := do
  match ← source.token.run with
  | .error failure => return .error (.token failure)
  | .ok token =>
    match bearer? token with
    | none => return .error .headerValue
    | some header =>
      match ← service (request.withAuthorization header) with
      | .error detail => return .error (.service detail)
      | .ok response =>
        if response.status = 401 then
          match ← source.invalidate.run with
          | .error (.fault fault) => return .error (.token (.fault fault))
          | _ => return .ok response
        else return .ok response

def sendAuthorized (source : TokenSource m) (service : Request → m (Except String Response))
    (request : Request) : m (Except SendFailure Response) := do
  if request.isAuthorized then
    match ← service request with
    | .error detail => return .error (.service detail)
    | .ok response => return .ok response
  else sendWithToken source service request

end GrantKeeper.Http
