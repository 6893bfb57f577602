import GrantKeeper.Files
import GrantKeeper.Files.Path
import GrantKeeper.Grant

/-! The configuration: what servers to use and where credentials are kept. Command line options
win over environment variables, these over the configuration file, and the file over what holds
when nothing is said. -/
namespace GrantKeeper

abbrev Environment := String → Option String

def Environment.names : List String :=
  ["HOME", "PULSARCTL_CONFIG", "PULSAR_ISSUER_ENDPOINT", "PULSAR_CLIENT_ID", "PULSAR_AUDIENCE",
    "PULSAR_KEY_FILE"]

inductive ConfigError
  | setting (detail : String)
  | file (cause : FileError)
  | format (detail : String)
deriving DecidableEq, Repr

namespace ConfigError

def message : ConfigError → String
  | setting detail => "Configuration error: " ++ detail
  | file cause => "I/O error: " ++ cause.text
  | format detail => "TOML parse error: " ++ detail

def causes : ConfigError → List String
  | setting _ => []
  | file cause => [cause.text]
  | format detail => [detail]

end ConfigError

inductive Config.Backend
  | file
  | system
deriving DecidableEq, Repr

structure Config where
  webServiceUrl : String := "http://localhost:8080"
  issuer : Issuer := ⟨"", "", ""⟩
  keyFile : String := ""
  /-- Scopes to ask for when a user logs in, besides the usual ones. -/
  scopes : List String := []
  backend : Config.Backend := .file
  /-- The keyring file, if it is not the usual one. -/
  keyringPath : Option String := none
deriving DecidableEq, Repr

structure Overrides where
  issuerEndpoint : Option String := none
  clientId : Option String := none
  audience : Option String := none
  keyFile : Option String := none
  webServiceUrl : Option String := none
deriving DecidableEq, Repr

def Overrides.ofEnvironment (environment : Environment) : Overrides where
  issuerEndpoint := environment "PULSAR_ISSUER_ENDPOINT"
  clientId := environment "PULSAR_CLIENT_ID"
  audience := environment "PULSAR_AUDIENCE"
  keyFile := environment "PULSAR_KEY_FILE"

namespace Config

def override (config : Config) (overrides : Overrides) : Config :=
  { config with
    webServiceUrl := overrides.webServiceUrl.getD config.webServiceUrl
    issuer := ⟨overrides.issuerEndpoint.getD config.issuer.endpoint,
      overrides.clientId.getD config.issuer.clientId,
      overrides.audience.getD config.issuer.audience⟩
    keyFile := overrides.keyFile.getD config.keyFile }

def isWebAddress (address : String) : Bool :=
  address.startsWith "http://" || address.startsWith "https://"

def validate (config : Config) : Except ConfigError Unit :=
  if isWebAddress config.webServiceUrl then .ok ()
  else .error (.setting ("web_service_url must start with http:// or https://, got: " ++
    config.webServiceUrl))

/-- The configuration with some settings replaced, if it is valid. -/
def apply (config : Config) (overrides : Overrides) : Except ConfigError Config := do
  let config := config.override overrides
  config.validate
  return config

def required (setting value : String) : Except ConfigError Unit :=
  if value.isEmpty then .error (.setting ("required: " ++ setting)) else .ok ()

def loginIssuer (config : Config) : Except ConfigError Issuer := do
  required "issuer-endpoint" config.issuer.endpoint
  required "client-id" config.issuer.clientId
  required "audience" config.issuer.audience
  return config.issuer

/-- The issuer and the key that a service account logs in with. The key names the client. -/
def activation (config : Config) : Except ConfigError (Issuer × String) := do
  required "issuer-endpoint" config.issuer.endpoint
  required "audience" config.issuer.audience
  required "key-file" config.keyFile
  return (config.issuer, config.keyFile)

def audience (config : Config) : Except ConfigError String := do
  required "audience" config.issuer.audience
  return config.issuer.audience

def inHome (environment : Environment) (path : String) : Except ConfigError String :=
  match environment "HOME" with
  | some home => if home.isEmpty then homeless else .ok (Path.join home path)
  | none => homeless
where
  homeless : Except ConfigError String := .error (.setting "HOME is not set")

def keyringFile (config : Config) (environment : Environment) : Except ConfigError String :=
  match config.keyringPath with
  | some path => .ok path
  | none => inHome environment ".config/pulsar/credentials/keyring.json"

/-- The configuration file: the one asked for, or else the one that the environment names. -/
def path (asked : Option String) (environment : Environment) : Except ConfigError String :=
  match asked.or (environment "PULSARCTL_CONFIG") with
  | some path => .ok path
  | none => inHome environment ".config/pulsar/pulsarctl.toml"

end Config
end GrantKeeper
