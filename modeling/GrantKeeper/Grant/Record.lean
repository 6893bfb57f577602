import GrantKeeper.KeyFile
import GrantKeeper.Token

/-! Grant records: what is stored of a grant, and what a usable one must hold. -/
namespace GrantKeeper

inductive GrantKind
  | clientCredentials
  | deviceCode
deriving DecidableEq, Repr

namespace GrantKind

def name : GrantKind → String
  | clientCredentials => "client_credentials"
  | deviceCode => "device_code"

def ofName? (name : String) : Option GrantKind :=
  if name = "client_credentials" then some clientCredentials
  else if name = "device_code" then some deviceCode
  else none

/-- A kind is given by its name, alone or as the only key of an object that maps it to null. -/
def ofJson? : Json.Tree → Option GrantKind
  | .text written => Json.text? written >>= ofName?
  | .object [(key, .null)] => Json.text? key >>= ofName?
  | _ => none

def shown : GrantKind → String
  | clientCredentials => "ClientCredentials"
  | deviceCode => "DeviceCode"

end GrantKind

structure GrantRecord where
  kind : GrantKind
  keyFile : Option KeyFile := none
  token : Option Token := none
deriving DecidableEq

namespace GrantRecord

def clientCredentials (keyFile : KeyFile) (token : Option Token) : GrantRecord :=
  ⟨.clientCredentials, some keyFile, token⟩

def deviceCode (token : Token) : GrantRecord := ⟨.deviceCode, none, some token⟩

/-- Whether a record holds what its kind needs: a key file, or a token. -/
def isUsable (record : GrantRecord) : Bool :=
  match record.kind with
  | .clientCredentials => record.keyFile.isSome
  | .deviceCode => record.token.isSome

def validate (record : GrantRecord) : Except Error Unit :=
  if record.isUsable then .ok () else .error .unusableAuthenticationData

def ofJson? (tree : Json.Tree) : Option GrantRecord := do
  match ← tree.fields? ["type", "client_credentials", "token"] with
  | [kind, keyFile, token] =>
    return {
      kind := ← Json.required GrantKind.ofJson? kind
      keyFile := ← Json.nullable KeyFile.ofJson? keyFile
      token := ← Json.nullable Token.ofJson? token }
  | _ => none

def toJson (record : GrantRecord) : Json.Value :=
  .object <| ("type", .text record.kind.name) ::
    (record.keyFile.map fun k => ("client_credentials", k.toJson)).toList ++
    (record.token.map fun t => ("token", t.toJson)).toList

def encode (record : GrantRecord) : String := record.toJson.toCompact

def decode? (text : String) : Option GrantRecord :=
  Json.Tree.parse? (Utf8.encode text) >>= ofJson?

def shown (record : GrantRecord) : String :=
  Text.shownRecord "AuthorizationGrant" [
    ("grant_type", record.kind.shown),
    ("client_credentials", Text.shownOption KeyFile.shown record.keyFile),
    ("token", Text.shownOption Token.shown record.token)]

end GrantRecord
end GrantKeeper
