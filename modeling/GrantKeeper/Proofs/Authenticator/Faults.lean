import GrantKeeper.Proofs.Credential.Provider
import GrantKeeper.Proofs.Login

/-! Which calls of a provider end in a fault, and all the ways in which what an authorization server
answers can make one. -/
namespace GrantKeeper

variable {σ : Type} {time : σ → Nat}

theorem Cache.faulted_token? (clock : StateM σ Instant) (credential : Credential) (world : σ) :
    Faulted ((Cache.token? clock).ending credential world).1 ↔
      ∃ token, credential.grant.token = some token ∧ ¬ token.Testable := by
  rw [Cache.result_token?, faulted_mapError_fault, Cache.tokenAt]
  cases credential.grant.token with
  | none => simp
  | some token =>
    have untestable := token.isUsable_eq_error_iff (clock.run world).1
    cases usable : token.isUsable (clock.run world).1 <;> rw [usable] at untestable <;>
      simp_all

structure Keyring.Faultless (keyring : Keyring (StateM σ)) : Prop where
  get : ∀ key, (keyring.get key).Faultless
  set : ∀ item, (keyring.set item).Faultless

/-- A provider ends in a fault exactly if its cached token cannot be tested, or if there is no usable
one and the response for a fresh one cannot be dated. -/
theorem TokenProvider.faulted_token {provider : TokenProvider (StateM σ)}
    {endpoint : TokenEndpoint (StateM σ)} (asks : provider.exchanger = endpoint.exchanger)
    (sound : provider.keyring.Faultless) (holding : Holding) (world : σ) :
    Faulted (provider.token.ending holding world).1 ↔
      (∃ token, holding.credential.grant.token = some token ∧ ¬ token.Testable) ∨
      ∃ after request,
        (Cache.token? provider.clock).ending holding.credential world =
          (.ok none, holding.credential, after) ∧
        holding.grant.renewal = .ok request ∧
        endpoint.exchanger.Undatable provider.clock request after := by
  have gives := gives_token provider holding world
  have cached := Cache.faulted_token? provider.clock holding.credential world
  have refreshed := Grant.faulted_refresh endpoint provider.clock holding.grant
  rw [← asks] at refreshed ⊢
  simp only [← cached, exists_and_left, ← refreshed]
  generalize provider.token.ending holding world = ended at gives ⊢
  cases gives with
  | cached read => simp [read]
  | unread read => simp [read, Faulted]
  | unrenewed read refresh => simp [read, refresh]
  | faulted read refresh => simp [read, refresh]
  | renewed read refresh update =>
    rw [Cache.ending_update, Cache.ending_persist] at update
    cases update
    simpa [read, refresh, Act.Faults] using sound.set _ _

namespace Authenticator

theorem provision_ok {a : Authenticator (StateM σ)} (issuers : a.exchanger = none) {audience : String}
    {provision : Provision (StateM σ)} {world after : σ}
    (provided : (a.tokenProvider audience).outcome world = (.ok provision, after)) :
    (∃ endpoints, provision.provider =
      ⟨a.keyring, (a.machine.tokenEndpoint endpoints).exchanger, a.machine.clock, a.count⟩) ∧
    ∀ token, provision.holding.credential.grant.token = some token → token.Testable := by
  obtain ⟨credential, loaded, load, provided⟩ := Act.outcome_bind_eq_ok provided
  obtain ⟨exchanger, found, search, provided⟩ := Act.outcome_bind_eq_ok provided
  obtain ⟨grant, made, _, provided⟩ := Act.outcome_bind_eq_ok provided
  cases provided
  refine ⟨?_, fun token present => ?_⟩
  · rw [findExchanger, issuers] at search
    dsimp only at search
    split at search
    · cases search
    · obtain ⟨endpoints, _, -, search⟩ := Act.outcome_bind_eq_ok search
      cases search
      exact ⟨endpoints, rfl⟩
  · obtain ⟨item, _, -, read⟩ := Act.outcome_bind_eq_ok load
    cases item with
    | none => cases read
    | some item =>
      rw [Act.outcome_ofExcept] at read
      cases kept : Credential.ofItem audience item with
      | error error =>
        rw [kept] at read
        cases read
      | ok found =>
        rw [kept] at read
        cases read
        exact (Credential.dated_of_ofItem kept present).testable

theorem faultless_tokenProvider {a : Authenticator (StateM σ)} (issuers : a.exchanger = none)
    (sound : a.keyring.Faultless) (audience : String) : (a.tokenProvider audience).Faultless := by
  refine Act.Faultless.bind ?_ fun credential => Act.Faultless.bind ?_ fun exchanger =>
    (Act.faultless_ofExcept _).bind fun grant => Act.faultless_pure _
  · refine ((sound.get _).mapError _).bind fun item => ?_
    cases item with
    | none => exact Act.faultless_fail _
    | some item => exact Act.faultless_ofExcept _
  · rw [findExchanger, issuers]
    dsimp only
    split
    · exact Act.faultless_fail _
    · exact (Endpoints.faultless_discover _ _).bind fun endpoints => Act.faultless_pure _

/-- What an authorization server answers makes a fault exactly if a lifetime or an interval leads out of the
range of times: the lifetime of a token, when it is issued or tested, or the lifetime or the interval of a
device code, when it is polled for. Otherwise logins, renewals and providers end with a value or an
error. -/
theorem faults_iff_out_of_range {a : Authenticator (StateM σ)}
    {present : DeviceCode → Act (StateM σ) Unit} (steady : a.machine.Steady time)
    (issuers : a.exchanger = none) (sound : a.keyring.Faultless)
    (presents : ∀ code, (present code).Faultless) :
    (∀ issuer keyFile audience world,
      (do (← Login.prepareClientCredentials a.machine issuer keyFile) audience).Faults world ↔
        ∃ endpoints found key read,
          (Endpoints.discover a.machine.network issuer.endpoint).outcome world = (.ok endpoints, found) ∧
          ((KeyFile.Location.ofText keyFile).load a.machine.files).outcome found = (.ok key, read) ∧
          (a.machine.tokenEndpoint endpoints).exchanger.Undatable a.machine.clock
            (.clientCredentials key.clientId key.clientSecret audience) read) ∧
    (∀ issuer options audience world,
      (∀ endpoints code after, Login.Shows a.machine issuer options present world endpoints code after →
        Login.Decides a.machine issuer endpoints code after) →
      ((do (← Login.prepareDeviceCode a.machine issuer options present) audience).Faults world ↔
        ∃ endpoints code after,
          Login.Shows a.machine issuer options present world endpoints code after ∧
          (Login.Overtaxed a.machine issuer endpoints code after ∨
            (a.machine.tokenEndpoint endpoints).exchanger.Undatable a.machine.clock
              (Login.exchangeOf issuer code) after))) ∧
    (∀ endpoints grant world,
      Faulted ((Grant.refresh (a.machine.tokenEndpoint endpoints).exchanger a.machine.clock).ending
          grant world).1 ↔
        ∃ request, grant.renewal = .ok request ∧
          (a.machine.tokenEndpoint endpoints).exchanger.Undatable a.machine.clock request world) ∧
    (∀ audience world, ¬ (a.tokenProvider audience).Faults world ∧
      ∀ provision after, (a.tokenProvider audience).outcome world = (.ok provision, after) →
        (∀ token, provision.holding.credential.grant.token = some token → token.Testable) ∧
        ∃ endpoints, ∀ holding start,
          Faulted (provision.provider.token.ending holding start).1 ↔
            (∃ token, holding.credential.grant.token = some token ∧ ¬ token.Testable) ∨
            ∃ between request,
              (Cache.token? a.machine.clock).ending holding.credential start =
                (.ok none, holding.credential, between) ∧
              holding.grant.renewal = .ok request ∧
              (a.machine.tokenEndpoint endpoints).exchanger.Undatable a.machine.clock request
                between) ∧
    (∀ response now, (∃ fault, Token.issued response now = .error fault) ↔ ¬ response.Datable now) ∧
    ∀ token now, (∃ fault, Token.isUsable token now = .error fault) ↔ ¬ token.Testable := by
  refine ⟨fun issuer keyFile audience world => ?_, fun issuer options audience world decides => ?_,
    fun endpoints grant world => ?_, fun audience world => ⟨?_, fun provision after provided => ?_⟩,
    Token.issued_eq_error_iff, Token.isUsable_eq_error_iff⟩
  · exact Login.faults_clientCredentials a.machine issuer keyFile audience world
  · exact Login.faults_deviceCode steady presents audience decides
  · exact Grant.faulted_refresh _ a.machine.clock grant world
  · exact faultless_tokenProvider issuers sound audience world
  · obtain ⟨⟨endpoints, parts⟩, testable⟩ := provision_ok issuers provided
    refine ⟨testable, endpoints, fun holding start => ?_⟩
    rw [parts]
    exact TokenProvider.faulted_token rfl sound holding start

end Authenticator

instance decidableEqExcept {ε α : Type} [DecidableEq ε] [DecidableEq α] : DecidableEq (Except ε α)
  | .ok a, .ok b => decidable_of_iff (a = b) ⟨congrArg _, Except.ok.inj⟩
  | .error a, .error b => decidable_of_iff (a = b) ⟨congrArg _, Except.error.inj⟩
  | .ok _, .error _ | .error _, .ok _ => isFalse nofun

/-- A world that is the responses that are going to come in, and the time. -/
structure Line where
  responses : List Http.Response
  elapsed : Nat := 0
deriving DecidableEq

namespace Line

def network : Http.Network (StateM Line) where
  send _ := do
    let line ← get
    match line.responses with
    | [] => return .error "connection refused"
    | response :: rest =>
      set { line with responses := rest }
      return .ok response

def files : Files (StateM Line) where
  read _ := return .error .missing
  createDirectories _ := return .error (.other "no files")
  write _ _ := return .error (.other "no files")
  restrict _ := return .error .missing
  rename _ _ := return .error .missing

def machine : Login.Machine (StateM Line) where
  network := network
  files := files
  clock := return Instant.epoch
  timer := {
    now := return (← get).elapsed
    sleep length := modify fun line => { line with elapsed := line.elapsed + length } }
  patience := 10

def authenticator : Authenticator (StateM Line) where
  issuer := { endpoint := "http://issuer", clientId := "client" }
  keyring := {
    get _ := return none
    set _ := return ()
    remove _ := return false
    keys := return [] }
  machine := machine
  count _ := return ()

theorem steady_machine : machine.Steady Line.elapsed where
  reads _ := rfl
  now _ := Nat.le_refl _
  rests _ _ := Nat.le_refl _
  sends request line := by
    obtain ⟨_ | ⟨response, rest⟩, elapsed⟩ := line <;> exact Nat.le_refl elapsed

theorem faultless_keyring : authenticator.keyring.Faultless where
  get _ := Act.faultless_pure none
  set _ := Act.faultless_pure ()

def endpoints : Endpoints := { token := "http://t", deviceAuthorization := "http://d" }

def document : Http.Response := ⟨200, Utf8.encode
  "\x7b\"token_endpoint\":\"http://t\",\"device_authorization_endpoint\":\"http://d\"\x7d"⟩

/-- A token that is good for so many seconds, in digits. -/
def issuing (lifetime : String) : Http.Response :=
  ⟨200, Utf8.encode ("\x7b\"access_token\":\"a\",\"expires_in\":" ++ lifetime ++ "\x7d")⟩

/-- A device code that is good for 300 billion years. -/
def offering : Http.Response := ⟨200, Utf8.encode (
  "\x7b\"device_code\":\"c\",\"user_code\":\"u\",\"verification_uri\":\"v\"," ++
    "\"expires_in\":9223372036854775808\x7d")⟩

def code : DeviceCode := ⟨"c", "u", "v", "", 9223372036854775808, 5⟩

def account : KeyFile := ⟨KeyFile.serviceAccount, "client", ⟨"secret"⟩, "robot@example"⟩

def exchanger : Exchanger (StateM Line) := (machine.tokenEndpoint endpoints).exchanger

/-- Renewing a service account's token ends in a fault if it is said to be good for 300 million years,
and not if for an hour, and a device's login does if its code is good for too long. -/
theorem faults_by_lifetime :
    Faulted ((Grant.refresh exchanger machine.clock).ending (.clientCredentials "audience" account none)
      ⟨[issuing "9223372036854776"], 0⟩).1 ∧
    ¬ Faulted ((Grant.refresh exchanger machine.clock).ending (.clientCredentials "audience" account none)
      ⟨[issuing "3600"], 0⟩).1 ∧
    (do (← Login.prepareDeviceCode machine authenticator.issuer {} fun _ => return) "audience").Faults
      ⟨[document, offering], 0⟩ := by
  obtain ⟨-, device, refresh, -⟩ := Authenticator.faults_iff_out_of_range steady_machine rfl
    faultless_keyring (fun _ => Act.faultless_pure ())
  have discover : (Endpoints.discover machine.network authenticator.issuer.endpoint).outcome
      ⟨[document, offering], 0⟩ = (.ok endpoints, ⟨[offering], 0⟩) := by
    decide +kernel
  have request : ((DeviceCode.sourceAt machine.network authenticator.issuer
      endpoints.deviceAuthorization).request (Login.DeviceOptions.scopes {})).outcome
        ⟨[offering], 0⟩ = (.ok code, ⟨[], 0⟩) := by
    decide +kernel
  refine ⟨(refresh endpoints _ _).mpr ?_, fun faults => ?_, (device _ _ _ _ ?_).mpr ?_⟩
  · refine ⟨_, rfl, { accessToken := "a", expiresIn := 9223372036854776 }, ⟨[], 0⟩, ?_, ?_⟩
    · decide +kernel
    · decide
  · obtain ⟨_, renewal, response, after, answered, undatable⟩ := (refresh endpoints _ _).mp faults
    have exchange : (exchanger.exchange (.clientCredentials account.clientId account.clientSecret
        "audience")).outcome ⟨[issuing "3600"], 0⟩ =
          (.ok { accessToken := "a", expiresIn := 3600 }, ⟨[], 0⟩) := by
      decide +kernel
    cases renewal
    cases exchange.symm.trans answered
    exact undatable (by decide)
  · rintro _ _ after ⟨found, asked, codes, discovered, source, given, shown⟩ endless
    cases discover.symm.trans discovered
    cases source
    cases request.symm.trans given
    cases endless
  · refine ⟨endpoints, code, ⟨[], 0⟩, ⟨_, _, _, discover, rfl, request, rfl⟩, .inl ?_⟩
    rw [Login.Overtaxed, Polling.Overtaxes, if_neg (by decide)]
    exact .inl (by decide)

/-- A login ends in a fault if a server says that a token is good for 300 million years. -/
theorem login_in_fault :
    (Login.withClientCredentials (pure account) exchanger machine.clock "audience").outcome
      ⟨[issuing "9223372036854776"], 0⟩ = (.error (.fault .spanOutOfRange), ⟨[], 0⟩) := by
  decide +kernel

end Line
end GrantKeeper
