import GrantKeeper.Error
import GrantKeeper.Secret
import GrantKeeper.Text.Quoted

/-! Key files: the credentials of a service account. -/
namespace GrantKeeper

structure KeyFile where
  type : String
  clientId : String
  clientSecret : Secret
  clientEmail : String := ""
deriving DecidableEq

namespace KeyFile

def serviceAccount : String := "sn_service_account"

def ofJson? (tree : Json.Tree) : Option KeyFile := do
  match ← tree.fields? ["type", "client_id", "client_secret", "client_email"] with
  | [type, id, secret, email] =>
    return {
      type := ← Json.required Json.Tree.asText? type
      clientId := ← Json.required Json.Tree.asText? id
      clientSecret := ← Json.required Secret.ofJson? secret
      clientEmail := ← Json.optional "" Json.Tree.asText? email }
  | _ => none

def toJson (k : KeyFile) : Json.Value :=
  .object [("type", .text k.type), ("client_id", .text k.clientId),
    ("client_secret", k.clientSecret.toJson), ("client_email", .text k.clientEmail)]

def parse (bytes : List UInt8) (origin : String) : Except Error KeyFile :=
  match Json.Tree.parse? bytes >>= ofJson? with
  | none => .error (.configuration ("parsing key file " ++ origin ++ ": not a key file in JSON"))
  | some k => if k.type = serviceAccount then .ok k else .error (.unsupportedFormat origin)

/-- The key file for debugging, without its secret. -/
def shown (k : KeyFile) : String :=
  Text.shownRecord "KeyFile" [
    ("key_type", Text.quoted k.type),
    ("client_id", Text.quoted k.clientId),
    ("client_secret", k.clientSecret.shown),
    ("client_email", Text.quoted k.clientEmail)]

end KeyFile
end GrantKeeper
