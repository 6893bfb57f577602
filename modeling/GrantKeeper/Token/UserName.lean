import GrantKeeper.Encoding.Base64
import GrantKeeper.Text.Blank
import GrantKeeper.Token

/-! The user name in an access token: a claim in the middle of three segments that points
separate. The signature is not looked at; the name is only shown. -/
namespace GrantKeeper.Token

def userNameClaim : String := "https://streamnative.io/username"

def claimsSegment? (accessToken : String) : Option String :=
  match Text.pieces '.' accessToken.toList with
  | _ :: claims :: _ => some (String.ofList claims)
  | _ => none

def userName (token : Token) : Except Error String := do
  let some segment := claimsSegment? token.accessToken
    | throw (.invalidToken "access token is not a JWT")
  let some bytes := Base64.urlSafe.decode? (Text.trimEndOf '=' segment).toList
    | throw (.invalidToken "decoding claims: not in the URL-safe alphabet")
  let some claims := Json.Value.parse? bytes
    | throw (.invalidToken "parsing claims: not JSON")
  let some name := claims.member? userNameClaim >>= Json.Value.asText?
    | throw (.invalidToken ("access token doesn't contain a " ++ userNameClaim ++ " claim"))
  return name

end GrantKeeper.Token
