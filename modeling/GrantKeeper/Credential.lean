import GrantKeeper.Digest.Sha1
import GrantKeeper.Grant.Record
import GrantKeeper.Keyring
import GrantKeeper.Token.UserName

/-! Credentials: grant records kept in a keyring, one for each audience, labelled with the name of
their user. -/
namespace GrantKeeper

/-- A grant record for an audience, and whose it is. -/
structure Credential where
  audience : String
  userName : String
  grant : GrantRecord
deriving DecidableEq

namespace Credential

def keyOf (audience : String) : String := Hex.encode (Sha1.digest (Utf8.encode audience))

/-- The name of a record's user: that of its service account, or the one in its token. -/
def userNameOf (record : GrantRecord) : Except Error String :=
  match record.kind with
  | .clientCredentials =>
    match record.keyFile with
    | some keyFile => .ok keyFile.clientEmail
    | none => .error .unusableAuthenticationData
  | .deviceCode =>
    match record.token with
    | some token => token.userName
    | none => .error .unusableAuthenticationData

def item (credential : Credential) : KeyringItem :=
  ⟨keyOf credential.audience, credential.userName, credential.grant.encode⟩

def ofItem (audience : String) (item : KeyringItem) : Except Error Credential :=
  match GrantRecord.decode? item.data with
  | some grant =>
    if grant.isUsable then .ok ⟨audience, item.label, grant⟩
    else .error .unusableAuthenticationData
  | none => .error .unusableAuthenticationData

variable {m : Type → Type} [Monad m]

def asRead (error : Error) : Error := .storeRead error.message

def asWrite (error : Error) : Error := .storeWrite error.message

def load (keyring : Keyring m) (audience : String) : Act m Credential := do
  match ← (keyring.get (keyOf audience)).mapError asRead with
  | none => Act.fail .noAuthenticationData
  | some item => Act.ofExcept (ofItem audience item)

def store (keyring : Keyring m) (credential : Credential) : Act m Unit :=
  (keyring.set credential.item).mapError asWrite

/-- Stores a record for an audience, if it names a user. -/
def save (keyring : Keyring m) (audience : String) (record : GrantRecord) : Act m Unit := do
  let userName ← Act.ofExcept (userNameOf record)
  store keyring ⟨audience, userName, record⟩

def loadGrant (keyring : Keyring m) (audience : String) : Act m GrantRecord := do
  return (← load keyring audience).grant

def whoAmI (keyring : Keyring m) (audience : String) : Act m String := do
  return (← load keyring audience).userName

def keys (keyring : Keyring m) : Act m (List String) := keyring.keys.mapError asRead

def remove (keyring : Keyring m) (key : String) : Act m Unit := do
  let _ ← (keyring.remove key).mapError asWrite

/-- Removes the credentials with some keys; of those that could not be removed, the last one's
error is given. -/
def removeAll (keyring : Keyring m) : List String → Option Error → Act m (Option Error)
  | [], failed => return failed
  | key :: rest, failed => do
    match ← (remove keyring key).attempt with
    | .ok () => removeAll keyring rest failed
    | .error error => removeAll keyring rest (some error)

def logout (keyring : Keyring m) : Act m Unit := do
  match ← removeAll keyring (← keys keyring) none with
  | none => return
  | some error => Act.fail error

end Credential
end GrantKeeper
