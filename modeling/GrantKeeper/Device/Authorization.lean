import GrantKeeper.Device
import GrantKeeper.Grant
import GrantKeeper.Http
import GrantKeeper.Issuer.Endpoints

/-! Device authorization: asking an issuer for a device code. -/
namespace GrantKeeper.DeviceCode

def requestFields (issuer : Issuer) (additional : List String) : List (String × String) :=
  [("client_id", issuer.clientId), ("scope", Scopes.parameter additional),
    ("audience", issuer.audience)]

def ofResponse (response : Http.Response) : Except Error DeviceCode :=
  if response.isSuccess then
    match Json.Tree.parse? response.body >>= ofJson? with
    | some code => .ok code
    | none => .error (.tokenExchange "invalid device code response: not a device code")
  else .error (.tokenExchange ("device authorization endpoint returned " ++
    Http.statusText response.status ++ ": " ++ response.text))

variable {m : Type → Type} [Monad m]

def sourceAt (network : Http.Network m) (issuer : Issuer) (address : String) :
    DeviceCodeSource m where
  request additional := do
    match ← Act.step (network.post address (requestFields issuer additional)) with
    | .ok response => Act.ofExcept (ofResponse response)
    | .error detail => Act.fail (.http ("device code request failed: " ++ detail))

def source (network : Http.Network m) (issuer : Issuer) (endpoints : Endpoints) :
    Except Error (DeviceCodeSource m) :=
  if endpoints.deviceAuthorization.isEmpty then
    .error (.configuration ("issuer " ++ issuer.endpoint ++
      " does not support the device authorization grant"))
  else .ok (sourceAt network issuer endpoints.deviceAuthorization)

end GrantKeeper.DeviceCode
