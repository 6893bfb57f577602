import GrantKeeper.Act
import GrantKeeper.Secret
import GrantKeeper.Text.Quoted
import GrantKeeper.Time.Timestamp

/-! Access tokens: the answer of a token endpoint, the token it becomes at an instant, and when
that token can still be used. -/
namespace GrantKeeper

/-- The answer of a token endpoint. The lifetime is in seconds; an empty refresh token means
that none was issued. -/
structure TokenResponse where
  accessToken : String
  idToken : String := ""
  refreshToken : String := ""
  expiresIn : Int := 0
deriving DecidableEq

/-- An access token. It never expires without an expiry, and is invalid if empty, though its
refresh token may still be good. -/
structure Token where
  accessToken : String := ""
  tokenType : String := "bearer"
  refreshToken : String := ""
  expiry : Option Instant := none
deriving DecidableEq

def memberUnlessEmpty (name text : String) : List (String × Json.Value) :=
  if text.isEmpty then [] else [(name, .text text)]

namespace TokenResponse

def ofJson? (tree : Json.Tree) : Option TokenResponse := do
  match ← tree.fields? ["access_token", "id_token", "refresh_token", "expires_in"] with
  | [access, id, refresh, lifetime] =>
    return {
      accessToken := ← Json.required Json.Tree.asText? access
      idToken := ← Json.optional "" Json.Tree.asText? id
      refreshToken := ← Json.optional "" Json.Tree.asText? refresh
      expiresIn := ← Json.optional 0 Json.Tree.asInt64? lifetime }
  | _ => none

def toJson (r : TokenResponse) : Json.Value :=
  .object <| ("access_token", .text r.accessToken) :: memberUnlessEmpty "id_token" r.idToken ++
    memberUnlessEmpty "refresh_token" r.refreshToken ++ [("expires_in", .ofInt r.expiresIn)]

def shown (r : TokenResponse) : String :=
  Text.shownRecord "TokenResult" [
    ("access_token", Text.quoted (Secret.redacted r.accessToken)),
    ("id_token", Text.quoted (Secret.redacted r.idToken)),
    ("refresh_token", Text.quoted (Secret.redacted r.refreshToken)),
    ("expires_in", toString r.expiresIn)]

end TokenResponse

namespace Token

/-- The longest span in whole seconds, of milliseconds that fit into 64 bits. -/
def longestSpan : Int := 9223372036854775

def issued (response : TokenResponse) (now : Instant) : Except Fault Token :=
  if -longestSpan ≤ response.expiresIn ∧ response.expiresIn ≤ longestSpan then
    match now.add? (Span.ofSeconds response.expiresIn) with
    | some expiry => .ok ⟨response.accessToken, "bearer", response.refreshToken, some expiry⟩
    | none => .error .instantAboveRange
  else .error .spanOutOfRange

def hasAccessToken (token : Token) : Bool := !token.accessToken.isEmpty
def hasRefreshToken (token : Token) : Bool := !token.refreshToken.isEmpty

/-- Whether a token has expired at an instant or will have within a span. -/
def expiresWithin (token : Token) (now : Instant) (margin : Span) : Except Fault Bool :=
  match token.expiry with
  | none => .ok false
  | some expiry =>
    match expiry.sub? margin with
    | some deadline => .ok (deadline.le now)
    | none => .error .instantBelowRange

/-- How long before its expiry a token counts as stale. -/
def margin : Span := Span.ofSeconds 60

def isUsable (token : Token) (now : Instant) : Except Fault Bool :=
  if token.hasAccessToken then (!·) <$> token.expiresWithin now margin else .ok false

def authorization (token : Token) : String := "Bearer " ++ token.accessToken

def invalidated (token : Token) : Token := { token with accessToken := "" }

/-- The last second of the instant that stands for no expiry, the beginning of year one. -/
def noExpiry : Int := -62135596800

def expiryOf? (tree : Json.Tree) : Option Instant := tree.asText? >>= Timestamp.read?

def ofJson? (tree : Json.Tree) : Option Token := do
  match ← tree.fields? ["access_token", "token_type", "refresh_token", "expiry"] with
  | [access, type, refresh, expiry] =>
    return {
      accessToken := ← Json.optional "" Json.Tree.asText? access
      tokenType := ← Json.optional "bearer" Json.Tree.asText? type
      refreshToken := ← Json.optional "" Json.Tree.asText? refresh
      expiry := (← Json.nullable expiryOf? expiry).filter fun t => decide (noExpiry < t.seconds) }
  | _ => none

def toJson (token : Token) : Json.Value :=
  .object <| ("access_token", .text token.accessToken) ::
    memberUnlessEmpty "token_type" token.tokenType ++
    memberUnlessEmpty "refresh_token" token.refreshToken ++
    (token.expiry.map fun t => ("expiry", .text (Timestamp.write t))).toList

def shown (token : Token) : String :=
  Text.shownRecord "Token" [
    ("access_token", Text.quoted (Secret.redacted token.accessToken)),
    ("token_type", Text.quoted token.tokenType),
    ("refresh_token", Text.quoted (Secret.redacted token.refreshToken)),
    ("expiry", Text.shownOption Timestamp.write token.expiry)]

end Token

/-- An activity from an arithmetic result. -/
def Act.ofTimes [Monad m] : Except Fault α → Act m α
  | .ok value => pure value
  | .error fault => Act.crash fault

end GrantKeeper
