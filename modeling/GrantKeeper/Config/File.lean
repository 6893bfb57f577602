import GrantKeeper.Config
import GrantKeeper.Toml.Reader

/-! Configuration files. A section is a table with some fields, or an array of these fields in
order; what is missing keeps its value, and what is unknown is skipped. -/
namespace GrantKeeper.Config

open Toml (Value)

/-- The fields of a section: those with a known name. What is skipped must still fit its kind. -/
def fieldsOf? (names : List String) : Value → Option (List (String × Value))
  | .table members =>
    if members.all fun (name, value) => names.contains name || value.fits then
      some (members.filter fun (name, _) => names.contains name)
    else none
  | .array items => some (names.zip items)
  | .moment => some []
  | _ => none

def fieldOr (read : Value → Option α) (default : α) (fields : List (String × Value))
    (name : String) : Option α :=
  match fields.lookup name with
  | none => some default
  | some value => read value

def text? : Value → Option String
  | .text text => some text
  | _ => none

def texts? : Value → Option (List String)
  | .array items => items.mapM text?
  | _ => none

def isEmpty : Value → Bool
  | .array [] | .table [] => true
  | _ => false

def Backend.ofName? : String → Option Backend
  | "file" => some .file
  | "system" => some .system
  | _ => none

/-- A backend: its name, or a table with the name and nothing else. -/
def backend? : Value → Option Backend
  | .text name => Backend.ofName? name
  | .table [(name, value)] => if isEmpty value then Backend.ofName? name else none
  | _ => none

def fieldsUnder? (names : List String) (fields : List (String × Value)) (name : String) :
    Option (List (String × Value)) :=
  fieldOr (fieldsOf? names) [] fields name

def ofDocument? (document : Value) : Option Config := do
  let sections ← fieldsOf? ["admin", "oauth2", "keyring"] document
  let admin ← fieldsUnder? ["web_service_url"] sections "admin"
  let oauth2 ←
    fieldsUnder? ["issuer_endpoint", "client_id", "audience", "key_file", "scope"] sections "oauth2"
  let keyring ← fieldsUnder? ["backend", "path"] sections "keyring"
  let usual : Config := {}
  return {
    webServiceUrl := ← fieldOr text? usual.webServiceUrl admin "web_service_url"
    issuer := ⟨← fieldOr text? "" oauth2 "issuer_endpoint", ← fieldOr text? "" oauth2 "client_id",
      ← fieldOr text? "" oauth2 "audience"⟩
    keyFile := ← fieldOr text? usual.keyFile oauth2 "key_file"
    scopes := ← fieldOr texts? usual.scopes oauth2 "scope"
    backend := ← fieldOr backend? usual.backend keyring "backend"
    keyringPath := ← fieldOr (some <$> text? ·) none keyring "path" }

def ofText (text : String) : Except ConfigError Config :=
  match Toml.Value.parse? text with
  | none => .error (.format "the document is malformed")
  | some document =>
    match ofDocument? document with
    | none => .error (.format "a setting has a value of the wrong kind")
    | some config => .ok config

/-- The configuration of a file's content under an environment. A file that is missing is the
same as an empty one. -/
def ofContent (environment : Environment) (content : Except FileError String) :
    Except ConfigError Config := do
  let config ← match content with
    | .ok text => ofText text
    | .error .missing => .ok {}
    | .error cause => .error (.file cause)
  config.apply (.ofEnvironment environment)

def load [Monad m] (files : Files m) (environment : Environment) (path : String) :
    m (Except ConfigError Config) :=
  ofContent environment <$> files.readText path

end GrantKeeper.Config
