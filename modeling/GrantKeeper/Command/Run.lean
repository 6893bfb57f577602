import GrantKeeper.Authenticator
import GrantKeeper.CommandLine
import GrantKeeper.Config.File
import GrantKeeper.Keyring.File
import GrantKeeper.Report
import GrantKeeper.Url.Reader

/-! The commands at work. -/
namespace GrantKeeper

/-- What commands work with: a machine, an environment, and where texts are written. -/
structure Workstation (m : Type → Type) extends Login.Machine m where
  environment : Environment
  /-- Tells the files that are being written from those of other workstations. -/
  process : Nat
  /-- Writes what a command yields. This cannot fail: a standard output that cannot be written, which would end
  the program in a fault, is not modelled. -/
  print : String → m Unit
  /-- Writes what the user is told besides, which may fail. -/
  tell : String → m (Except FileError Unit)

namespace Command

variable {m : Type → Type} [Monad m]

def present (w : Workstation m) (code : DeviceCode) : Act m Unit := do
  match ← Act.step (w.tell code.prompt) with
  | .ok () => return
  | .error error => Act.fail (.interaction error.text)

def openKeyring (w : Workstation m) (config : Config) : Job m FileKeyring := do
  match config.backend with
  | .file =>
    let path ← Job.ofConfig (config.keyringFile w.environment)
    (Job.ofAct (FileKeyring.load w.files path w.process)).during ("failed to open keyring " ++ path)
  | .system => Job.fail ⟨"pulsarctl was built without system keyring support " ++
      "(enable the \x60keyring\x60 feature)", []⟩

def withAuthenticator (w : Workstation m) (config : Config)
    (use : Authenticator (StateT FileKeyring m) → Job (StateT FileKeyring m) α) : Job m α := do
  let keyring ← openKeyring w config
  let authenticator : Authenticator (StateT FileKeyring m) :=
    { issuer := config.issuer, keyring := FileKeyring.keyring w.files
      machine := w.toMachine.hoist StateT.lift, count := fun _ => pure () }
  ExceptT.mk ((·.1) <$> (use authenticator).run.run keyring)

def onKeyring (w : Workstation m) (config : Config)
    (act : Authenticator (StateT FileKeyring m) → Act (StateT FileKeyring m) α) : Job m α :=
  withAuthenticator w config fun a => Job.ofAct (act a)

def printLine (w : Workstation m) (line : String) : Job m Unit := Job.step (w.print (line ++ "\n"))

def logIn (w : Workstation m) (config : Config) (issuer : Issuer) (ready : Act m (Login.Ready m)) :
    Job m Unit := do
  let login ← (Job.ofAct ready).during ("failed to contact issuer " ++ issuer.endpoint)
  let outcome ← Job.ofAct (login issuer.audience)
  let user ← onKeyring w config fun a => do
    a.saveGrant outcome.grant
    a.whoAmI issuer.audience
  printLine w ("Logged in as " ++ user ++ ".")

/-- The scopes that a login asks for: the configured ones and those of the command. -/
def loginScopes (config : Config) (scopes : List String) : List String :=
  scopes.foldl Scopes.add config.scopes

def sendEnding : Http.SendFailure → Ending
  | .token failure => Job.ending failure
  | .headerValue => .report ⟨"failed to parse header value", []⟩
  | .service detail => .report ⟨detail, ["no response"]⟩

def dropSlashes (text : List Char) : List Char := text.dropWhile (· == '/')

/-- A path under an address, with one slash between them. -/
def joinAddress (address path : String) : String :=
  String.ofList ((dropSlashes address.toList.reverse).reverse ++ '/' :: dropSlashes path.toList)

def resource (config : Config) (path : String) : Except UrlError Url :=
  Url.read (joinAddress config.webServiceUrl path)

def pretty (body : String) : String :=
  match Json.Value.parse? (Utf8.encode body) with
  | some value => value.toPretty
  | none => body

/-- Sends a request to the configured service, with a token if there is an audience. -/
def sendRequest (w : Workstation m) (config : Config) (request : Http.Request) :
    Job m (Except Http.SendFailure Http.Response) :=
  if config.issuer.audience.isEmpty then Job.step (Authentication.anonymous.send w.network request)
  else withAuthenticator w config fun a => do
    let authentication ← Job.ofAct (a.authentication config.issuer.audience)
    Job.step (authentication.send a.machine.network request)

def printResource (w : Workstation m) (config : Config) (path : String) : Job m Unit := do
  match resource config path with
  | .error error =>
    Job.fail ⟨"invalid admin URL: " ++ joinAddress config.webServiceUrl path, [error.message]⟩
  | .ok url =>
    let accept : Http.Header := ⟨"accept", Utf8.encode "application/json", false⟩
    let sent ← sendRequest w config { url, headers := [accept] }
    let response ← Job.during ("request to " ++ url.text ++ " failed")
      (ExceptT.adapt sendEnding (ExceptT.mk (pure sent)))
    if response.isSuccess then printLine w (pretty response.text)
    else
      Job.fail ⟨url.text ++ " returned " ++ Http.statusText response.status ++ ": " ++ response.text,
        []⟩

def run (w : Workstation m) (config : Config) : Command → Job m Unit
  | .login scopes allowRefresh => do
    let issuer ← Job.ofConfig config.loginIssuer
    let options : Login.DeviceOptions := ⟨loginScopes config scopes, allowRefresh⟩
    logIn w config issuer (Login.prepareDeviceCode w.toMachine issuer options (present w))
  | .activate => do
    let (issuer, keyFile) ← Job.ofConfig config.activation
    logIn w config issuer (Login.prepareClientCredentials w.toMachine issuer keyFile)
  | .whoAmI => do
    let audience ← Job.ofConfig config.audience
    printLine w (← onKeyring w config fun a => a.whoAmI audience)
  | .logout => do
    onKeyring w config fun a => a.logout
    printLine w "Logged out."
  | .token => do
    let audience ← Job.ofConfig config.audience
    let token ← onKeyring w config fun a => do (← a.tokenProvider audience).token
    printLine w token.accessToken
  | .get path => printResource w config path

end Command

/-- Runs a command with its settings on top of those of the environment and the configuration
file. -/
def Invocation.run {m : Type → Type} [Monad m] (w : Workstation m) (invocation : Invocation) :
    Job m Unit := do
  let path ← Job.ofConfig (Config.path invocation.configPath w.environment)
  let loaded ← Job.step (Config.load w.files w.environment path)
  let config ← (Job.ofConfig loaded).during ("failed to load config from " ++ path)
  let config ← Job.ofConfig (config.apply invocation.overrides)
  invocation.command.run w config

namespace Workstation

variable {m : Type → Type} [Monad m]

def conclude (w : Workstation m) (ended : Except Ending Unit) : m Nat := do
  match ended with
  | .ok () => return 0
  | .error (.report report) =>
    let _ ← w.tell report.toText
    return 1
  | .error (.fault fault) =>
    let _ ← w.tell (fault.message ++ "\n")
    return 101

def answer (w : Workstation m) : CommandLine.Request → m Nat
  | .run invocation => do w.conclude (← (invocation.run w).run)
  | .help => do
    w.print CommandLine.usage
    return 0
  | .version => do
    w.print CommandLine.version
    return 0
  | .misuse => do
    let _ ← w.tell CommandLine.usage
    return 2

def run (w : Workstation m) (arguments : List String) : m Nat := w.answer (CommandLine.read arguments)

end Workstation
end GrantKeeper
