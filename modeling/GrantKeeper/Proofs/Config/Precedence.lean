import GrantKeeper.Config.File
import GrantKeeper.Proofs.Act
import GrantKeeper.Proofs.Files.Tree
import GrantKeeper.Proofs.Json.Text

/-! Which values of a configuration file count. An overridden one has no influence on the configuration, but
the address of the service in the file must be one on the web even where an option replaces it. -/
namespace GrantKeeper.Config

variable {σ : Type} {files : Files (StateM σ)} {environment : Environment} {overrides : Overrides}
  {path : String} {world : σ} {a b config : Config}

/-- What comes of loading a file under an environment and then applying the options of a command
line. -/
def configured (files : Files (StateM σ)) (environment : Environment) (overrides : Overrides)
    (path : String) (world : σ) : Except ConfigError Config := do
  (← ((load files environment path).run world).1).apply overrides

/-- A file can be read and decoded, to a configuration in which nothing is overridden yet. -/
def Decodes (files : Files (StateM σ)) (path : String) (world : σ) (config : Config) : Prop :=
  ∃ text, ((files.readText path).run world).1 = .ok text ∧ ofText text = .ok config

/-- Two configurations differ only in values that a variable or an option overrides. -/
structure DifferOverridden (environment : Environment) (overrides : Overrides) (a b : Config) : Prop where
  webServiceUrl : overrides.webServiceUrl = none → a.webServiceUrl = b.webServiceUrl
  endpoint : environment "PULSAR_ISSUER_ENDPOINT" = none → overrides.issuerEndpoint = none →
    a.issuer.endpoint = b.issuer.endpoint
  clientId : environment "PULSAR_CLIENT_ID" = none → overrides.clientId = none →
    a.issuer.clientId = b.issuer.clientId
  audience : environment "PULSAR_AUDIENCE" = none → overrides.audience = none →
    a.issuer.audience = b.issuer.audience
  keyFile : environment "PULSAR_KEY_FILE" = none → overrides.keyFile = none → a.keyFile = b.keyFile
  scopes : a.scopes = b.scopes
  backend : a.backend = b.backend
  keyringPath : a.keyringPath = b.keyringPath

theorem getD_getD_congr {α : Type} {first second : Option α} {x y : α}
    (same : first = none → second = none → x = y) :
    second.getD (first.getD x) = second.getD (first.getD y) := by
  cases second with
  | some value => rfl
  | none =>
    cases first with
    | some value => rfl
    | none => exact same rfl rfl

theorem DifferOverridden.override_eq (differ : DifferOverridden environment overrides a b) :
    (a.override (.ofEnvironment environment)).override overrides =
      (b.override (.ofEnvironment environment)).override overrides := by
  have url : overrides.webServiceUrl.getD a.webServiceUrl =
      overrides.webServiceUrl.getD b.webServiceUrl :=
    @getD_getD_congr _ none _ _ _ fun _ => differ.webServiceUrl
  simp only [override, Overrides.ofEnvironment, Option.getD_none, url, differ.scopes,
    differ.backend, differ.keyringPath, getD_getD_congr differ.endpoint,
    getD_getD_congr differ.clientId, getD_getD_congr differ.audience, getD_getD_congr differ.keyFile]

def notWeb (address : String) : ConfigError :=
  .setting ("web_service_url must start with http:// or https://, got: " ++ address)

theorem notWeb_inj {one other : String} : notWeb one = notWeb other ↔ one = other := by
  simp [notWeb]

theorem apply_eq (config : Config) (overrides : Overrides) :
    config.apply overrides =
      if isWebAddress (config.override overrides).webServiceUrl then .ok (config.override overrides)
      else .error (notWeb (config.override overrides).webServiceUrl) := by
  rw [apply, validate]
  split <;> rfl

/-- A file is first checked by itself, and then with the options. -/
theorem Decodes.configured_eq (decodes : Decodes files path world config) :
    configured files environment overrides path world =
      if isWebAddress config.webServiceUrl then
        (config.override (.ofEnvironment environment)).apply overrides
      else .error (notWeb config.webServiceUrl) := by
  obtain ⟨text, read, decoded⟩ := decodes
  have address : (config.override (.ofEnvironment environment)).webServiceUrl =
    config.webServiceUrl := rfl
  have loads : ((load files environment path).run world).1 =
      config.apply (.ofEnvironment environment) := by
    have content : ((load files environment path).run world).1 =
      ofContent environment ((files.readText path).run world).1 := rfl
    rw [content, read, ofContent, decoded]
    rfl
  rw [configured, loads, apply_eq, address]
  split <;> rfl

/-- A file whose address is one on the web and one whose address is not give the same only if that is
also the address that replaces both: then either is refused for it. -/
theorem apply_eq_error_iff (config : Config) (overrides : Overrides) {address : String}
    (not_web : ¬isWebAddress address) :
    config.apply overrides = .error (notWeb address) ↔
      (config.override overrides).webServiceUrl = address := by
  rw [apply_eq]
  split
  · next web =>
    refine iff_of_false nofun ?_
    rintro rfl
    exact not_web web
  · rw [Except.error.injEq, notWeb_inj]

/-- Of two files that differ only in overridden values, the same comes exactly if the addresses of the
service in them are the same, or both on the web, or if one is on the web and the other one is also what
the option says. So a value that a variable overrides has no influence, and one that an option overrides
has none but that the address in the file must be on the web. -/
theorem configured_eq_iff {σ' : Type} {files' : Files (StateM σ')} {path' : String} {world' : σ'}
    (one : Decodes files path world a) (other : Decodes files' path' world' b)
    (differ : DifferOverridden environment overrides a b) :
    configured files environment overrides path world =
        configured files' environment overrides path' world' ↔
      a.webServiceUrl = b.webServiceUrl ∨
      (isWebAddress a.webServiceUrl ∧ isWebAddress b.webServiceUrl) ∨
      (isWebAddress a.webServiceUrl ∧ overrides.webServiceUrl = some b.webServiceUrl) ∨
      (isWebAddress b.webServiceUrl ∧ overrides.webServiceUrl = some a.webServiceUrl) := by
  have applied : (a.override (.ofEnvironment environment)).apply overrides =
      (b.override (.ofEnvironment environment)).apply overrides := by
    rw [apply_eq, apply_eq, differ.override_eq]
  have replaced {address : String} (flag : overrides.webServiceUrl = some address) (config : Config) :
      (config.override overrides).webServiceUrl = address := by
    rw [override, flag]
    rfl
  rw [one.configured_eq, other.configured_eq]
  by_cases same : a.webServiceUrl = b.webServiceUrl
  · rw [same, applied]
    exact iff_of_true rfl (.inl rfl)
  obtain ⟨address, flag⟩ : ∃ address, overrides.webServiceUrl = some address :=
    Option.ne_none_iff_exists'.mp fun none => same (differ.webServiceUrl none)
  by_cases web_a : isWebAddress a.webServiceUrl <;> by_cases web_b : isWebAddress b.webServiceUrl
  · simp [web_a, web_b, applied]
  · simp [web_a, web_b, same, flag, apply_eq_error_iff _ _ web_b, replaced flag]
  · rw [← applied, eq_comm]
    simp [web_a, web_b, same, flag, apply_eq_error_iff _ _ web_a, replaced flag]
  · simp [web_a, web_b, same, notWeb_inj]

/-! Files on a shelf, for a command line that names the service. -/

def addressed : Overrides := { webServiceUrl := some "http://localhost" }

/-- An environment that names the client. -/
def named : Environment := fun name => if name = "PULSAR_CLIENT_ID" then some "cli" else none

def nearText : String := "[admin]\nweb_service_url = \"http://near\"\n[oauth2]\nclient_id = \"one\"\n"

def farText : String := "[oauth2]\nclient_id = \"other\"\n[admin]\nweb_service_url = \"https://far\"\n"

def tcpText : String :=
  "[admin]\nweb_service_url = \"pulsar://broker\"\n[oauth2]\nclient_id = \"one\"\n"

def shelf : Files.Tree where
  nodes := .ofList [
    ("/near", .file (Utf8.encode nearText) 0o644),
    ("/far", .file (Utf8.encode farText) 0o644),
    ("/tcp", .file (Utf8.encode tcpText) 0o644)]

theorem decodes_of_node {tree : Files.Tree} (full text : String) (mode : Nat)
    (place : (tree.place path).toOption = some ⟨full, false⟩)
    (node : tree.node? full = some (.file (Utf8.encode text) mode))
    (decoded : (ofText text).toOption = some config) :
    Decodes Files.Tree.files path tree config := by
  refine ⟨text, ?_, eq_ok_of_toOption decoded⟩
  have read : tree.read path = .ok (Utf8.encode text) :=
    Files.Tree.read_eq_ok.mpr ⟨full, mode, eq_ok_of_toOption place, Files.Tree.file?_of_node? node⟩
  simp [Files.readText, Files.Tree.files, read, Utf8.decode?_encode]
  rfl

def near : Config := { webServiceUrl := "http://near", issuer := ⟨"", "one", ""⟩ }

theorem decodes_near : Decodes Files.Tree.files "/near" shelf near :=
  decodes_of_node "/near" nearText 0o644
    (by decide +kernel) (by decide +kernel) (by decide +kernel)

theorem decodes_far : Decodes Files.Tree.files "/far" shelf
    { near with webServiceUrl := "https://far", issuer := ⟨"", "other", ""⟩ } :=
  decodes_of_node "/far" farText 0o644
    (by decide +kernel) (by decide +kernel) (by decide +kernel)

theorem decodes_tcp : Decodes Files.Tree.files "/tcp" shelf
    { near with webServiceUrl := "pulsar://broker" } :=
  decodes_of_node "/tcp" tcpText 0o644
    (by decide +kernel) (by decide +kernel) (by decide +kernel)

/-- Two files with different clients and addresses on the web make one configuration. -/
theorem near_and_far_alike :
    configured Files.Tree.files named addressed "/near" shelf =
      configured Files.Tree.files named addressed "/far" shelf := by
  refine (configured_eq_iff decodes_near decodes_far ?_).mpr (.inr (.inl ?_))
  · constructor <;> simp [named, addressed, near]
  · decide +kernel

/-- The address in the file is refused though an option replaces it. -/
theorem replaced_address_counts :
    Decodes Files.Tree.files "/near" shelf near ∧
    Decodes Files.Tree.files "/tcp" shelf { near with webServiceUrl := "pulsar://broker" } ∧
    DifferOverridden (fun _ => none) addressed near
      { near with webServiceUrl := "pulsar://broker" } ∧
    configured Files.Tree.files (fun _ => none) addressed "/near" shelf =
      .ok { near with webServiceUrl := "http://localhost" } ∧
    configured Files.Tree.files (fun _ => none) addressed "/tcp" shelf =
      .error (notWeb "pulsar://broker") := by
  refine ⟨decodes_near, decodes_tcp, ?_, ?_, ?_⟩
  · constructor <;> simp [addressed, near]
  · rw [decodes_near.configured_eq, if_pos (by decide +kernel), apply_eq, if_pos (by decide +kernel)]
    rfl
  · rw [decodes_tcp.configured_eq, if_neg (by decide +kernel)]

end GrantKeeper.Config
