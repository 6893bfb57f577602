import GrantKeeper.Device.Authorization
import GrantKeeper.Exchange.TokenEndpoint
import GrantKeeper.Issuer.Endpoints
import GrantKeeper.KeyFile.Location

/-! Logins: how a grant for an audience is obtained, with the credentials of a service account or
through a device whose user agrees elsewhere. -/
namespace GrantKeeper.Login

variable {m : Type → Type} [Monad m]

/-- A grant and the token that came with it. -/
structure Outcome where
  grant : Grant
  token : Token
deriving DecidableEq

def withClientCredentials (keyFile : Act m KeyFile) (exchanger : Exchanger m) (clock : m Instant)
    (audience : String) : Act m Outcome := do
  let keyFile ← keyFile.during "could not get client credentials"
  let (token, grant) ← ExceptT.mk do
    let (ended, grant) ← (((Grant.refresh exchanger clock).during
      "authentication failed using client credentials").run.run
        (.clientCredentials audience keyFile none))
    return ended.map (·, grant)
  return ⟨grant, token⟩

structure DeviceOptions where
  additionalScopes : List String := []
  allowRefresh : Bool := false
deriving DecidableEq, Repr

def DeviceOptions.scopes (options : DeviceOptions) : List String :=
  if options.allowRefresh then Scopes.add options.additionalScopes Scopes.offlineAccess
  else options.additionalScopes

/-- Logs in through a device. `show` shows the code to the user, and may give up. -/
def withDeviceCode (issuer : Issuer) (options : DeviceOptions) (codes : DeviceCodeSource m)
    (exchanger : Exchanger m) (present : DeviceCode → Act m Unit) (clock : m Instant)
    (audience : String) : Act m Outcome := do
  let code ← (codes.request options.scopes).during "could not get device code"
  present code
  let response ← (exchanger.exchange (.deviceCode issuer.clientId code.deviceCode
    (code.interval * 1000000000) (code.expiresIn * 1000000000))).during "could not exchange code"
  let token ← Act.ofTimes (Token.issued response (← Act.step clock))
  return ⟨.deviceCode issuer.clientId audience token, token⟩

/-- What a login needs of the machine it runs on. -/
structure Machine (m : Type → Type) where
  network : Http.Network m
  files : Files m
  clock : m Instant
  timer : Timer m
  /-- How often to poll for a code that never expires. -/
  patience : Nat

def Machine.hoist {n : Type → Type} (move : ∀ {α}, m α → n α) (machine : Machine m) : Machine n :=
  ⟨machine.network.hoist move, machine.files.hoist move, move machine.clock,
    machine.timer.hoist move, machine.patience⟩

def Machine.tokenEndpoint (machine : Machine m) (endpoints : Endpoints) : TokenEndpoint m :=
  ⟨machine.network, endpoints.token, machine.timer, machine.patience⟩

/-- A login that is ready to ask for an audience. -/
abbrev Ready (m : Type → Type) := String → Act m Outcome

def prepareClientCredentials (machine : Machine m) (issuer : Issuer) (keyFile : String) :
    Act m (Ready m) := do
  let endpoints ← Endpoints.discover machine.network issuer.endpoint
  return withClientCredentials ((KeyFile.Location.ofText keyFile).load machine.files)
    (machine.tokenEndpoint endpoints).exchanger machine.clock

def prepareDeviceCode (machine : Machine m) (issuer : Issuer) (options : DeviceOptions)
    (present : DeviceCode → Act m Unit) : Act m (Ready m) := do
  let endpoints ← Endpoints.discover machine.network issuer.endpoint
  let codes ← Act.ofExcept (DeviceCode.source machine.network issuer endpoints)
  return withDeviceCode issuer options codes (machine.tokenEndpoint endpoints).exchanger present
    machine.clock

end GrantKeeper.Login
