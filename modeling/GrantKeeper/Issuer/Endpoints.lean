import GrantKeeper.Act
import GrantKeeper.Http
import GrantKeeper.Json.Fields
import GrantKeeper.Text.Quoted

/-! The endpoints of an authorization server, as its configuration document names them, and discovery: asking
an issuer for the document, which lies at a well-known path under the issuer's own. -/
namespace GrantKeeper

structure Endpoints where
  authorization : String := ""
  token : String
  deviceAuthorization : String := ""
deriving DecidableEq, Repr

namespace Endpoints

def ofJson? (tree : Json.Tree) : Option Endpoints := do
  match ← tree.fields?
      ["authorization_endpoint", "token_endpoint", "device_authorization_endpoint"] with
  | [authorization, token, device] =>
    return {
      authorization := ← Json.optional "" Json.Tree.asText? authorization
      token := ← Json.required Json.Tree.asText? token
      deviceAuthorization := ← Json.optional "" Json.Tree.asText? device }
  | _ => none

def documentUrl (endpoint : String) : Except Error Url :=
  match Url.read endpoint with
  | .error error =>
    .error (.configuration
      ("invalid issuer endpoint " ++ Text.quoted endpoint ++ ": " ++ error.message))
  | .ok url =>
    .ok (url.withPath (Text.trimEndOf '/' url.path.text ++ "/.well-known/openid-configuration"))

def ofResponse (url : Url) (response : Http.Response) : Except Error Endpoints :=
  if response.isSuccess then
    match Json.Tree.parse? response.body >>= ofJson? with
    | some endpoints => .ok endpoints
    | none => .error (.http
        ("invalid OpenID configuration at " ++ url.text ++ ": not a configuration document"))
  else .error (.http ("could not get well-known endpoints from " ++ url.text ++ ": " ++
    Http.statusText response.status))

def discover [Monad m] (network : Http.Network m) (endpoint : String) : Act m Endpoints := do
  let url ← Act.ofExcept (documentUrl endpoint)
  match ← Act.step (network.ask { url }) with
  | .ok response => Act.ofExcept (ofResponse url response)
  | .error detail =>
    Act.fail (.http ("could not get well-known endpoints from " ++ url.text ++ ": " ++ detail))

end Endpoints
end GrantKeeper
