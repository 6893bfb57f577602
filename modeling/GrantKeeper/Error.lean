/-! Errors of authentication: their causes, their wording, and the kinds by which a caller tells
what to do about them. -/
namespace GrantKeeper

/-- What a caller can do about an error. -/
inductive ErrorKind
  /-- An issuer, key file or grant type is wrong; trying again does not help. -/
  | configuration
  /-- Nothing is stored for the audience: a login is needed. -/
  | credentialUnavailable
  /-- What is stored cannot be used: a login is needed. -/
  | credentialUnusable
  /-- The authorization server could not be reached or refused. -/
  | exchangeFailure
  /-- There is no refresh token: a login is needed. -/
  | grantExpired
  | storeWriteFailure
  | storeReadFailure
  /-- The user interface gave up a login. -/
  | interaction
deriving DecidableEq, Repr

inductive Error
  | configuration (detail : String)
  | unsupportedFormat (subject : String)
  | file (detail : String)
  | noAuthenticationData
  | unusableAuthenticationData
  | invalidToken (detail : String)
  | http (detail : String)
  | tokenExchange (detail : String)
  | grantExpired
  | storeWrite (detail : String)
  | storeRead (detail : String)
  | interaction (detail : String)
  /-- An error with a word on what was being done. -/
  | during (activity : String) (cause : Error)
deriving DecidableEq, Repr

namespace Error

/-- The text of an error; an activity stands before its cause. -/
def message : Error → String
  | configuration detail => "configuration error: " ++ detail
  | unsupportedFormat subject => subject ++ ": unsupported format"
  | file detail => "I/O error: " ++ detail
  | noAuthenticationData => "authentication data is not available"
  | unusableAuthenticationData => "authentication data is not usable"
  | invalidToken detail => "invalid access token: " ++ detail
  | http detail => "HTTP request failed: " ++ detail
  | tokenExchange detail => "token exchange failed: " ++ detail
  | grantExpired => "the authorization grant has expired (no refresh token); please re-login"
  | storeWrite detail => "unable to update the keyring: " ++ detail
  | storeRead detail => "unable to get information from the keyring: " ++ detail
  | interaction detail => "login aborted: " ++ detail
  | during activity cause => activity ++ ": " ++ cause.message

def kind : Error → ErrorKind
  | configuration _ | unsupportedFormat _ | file _ => .configuration
  | noAuthenticationData => .credentialUnavailable
  | unusableAuthenticationData | invalidToken _ => .credentialUnusable
  | http _ | tokenExchange _ => .exchangeFailure
  | grantExpired => .grantExpired
  | storeWrite _ => .storeWriteFailure
  | storeRead _ => .storeReadFailure
  | interaction _ => .interaction
  | during _ cause => cause.kind

def requiresLogin (error : Error) : Bool :=
  match error.kind with
  | .credentialUnavailable | .credentialUnusable | .grantExpired => true
  | _ => false

@[simp] theorem kind_during (activity : String) (cause : Error) :
    (during activity cause).kind = cause.kind := rfl

end Error
end GrantKeeper
