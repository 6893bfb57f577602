import GrantKeeper.Proofs.Exchange.Faults

/-! Which logins end in a fault: what comes before the exchange of a token never does. -/
namespace GrantKeeper

variable {σ β : Type} {time : σ → Nat}

theorem Endpoints.faultless_discover (network : Http.Network (StateM σ)) (endpoint : String) :
    (discover network endpoint).Faultless :=
  (Act.faultless_ofExcept _).bind fun _ => Act.faultless_response

theorem DeviceCode.faultless_request (network : Http.Network (StateM σ)) (issuer : Issuer)
    (address : String) (scopes : List String) :
    ((sourceAt network issuer address).request scopes).Faultless := Act.faultless_response

theorem KeyFile.Location.faultless_load (files : Files (StateM σ)) (location : Location) :
    (location.load files).Faultless := by
  cases location with
  | inline data => exact Act.faultless_ofExcept _
  | path name =>
    refine (Act.faultless_step _).bind fun result => ?_
    cases result with
    | ok bytes => exact Act.faultless_ofExcept _
    | error error => exact Act.faultless_fail _

namespace Login

variable {machine : Machine (StateM σ)}

theorem faults_withClientCredentials {keyFile : Act (StateM σ) KeyFile} (sound : keyFile.Faultless)
    (endpoint : TokenEndpoint (StateM σ)) (clock : StateM σ Instant) (audience : String) (world : σ) :
    (withClientCredentials keyFile endpoint.exchanger clock audience).Faults world ↔
      ∃ key read, keyFile.outcome world = (.ok key, read) ∧ endpoint.exchanger.Undatable clock
        (.clientCredentials key.clientId key.clientSecret audience) read := by
  rw [withClientCredentials, Act.during, (sound.mapError _).faults_bind]
  refine exists_congr fun key => exists_congr fun read => ?_
  rw [Act.outcome_mapError_eq_ok]
  refine and_congr_right fun _ => ?_
  have request : (Grant.clientCredentials audience key none).renewal =
      .ok (.clientCredentials key.clientId key.clientSecret audience) := rfl
  have refresh := Grant.faulted_refresh endpoint clock (.clientCredentials audience key none) read
  simp only [request, Except.ok.injEq, exists_eq_left'] at refresh
  rw [Act.faults_bind, Act.faults_holding, Act.during, Act.ending_mapError,
    faulted_mapError_restated, refresh]
  refine or_iff_left ?_
  rintro ⟨_, after, -, faults⟩
  exact Act.faultless_pure _ after faults

/-- A login prepared for a service account ends in a fault exactly if, with endpoints that were found and
a key file that could be read, the response cannot be dated. -/
theorem faults_clientCredentials (machine : Machine (StateM σ)) (issuer : Issuer)
    (keyFile audience : String) (world : σ) :
    (do (← prepareClientCredentials machine issuer keyFile) audience : Act (StateM σ) Outcome).Faults
        world ↔
      ∃ endpoints found key read,
        (Endpoints.discover machine.network issuer.endpoint).outcome world = (.ok endpoints, found) ∧
        ((KeyFile.Location.ofText keyFile).load machine.files).outcome found = (.ok key, read) ∧
        (machine.tokenEndpoint endpoints).exchanger.Undatable machine.clock
          (.clientCredentials key.clientId key.clientSecret audience) read := by
  rw [prepareClientCredentials, bind_assoc, (Endpoints.faultless_discover _ _).faults_bind]
  simp only [pure_bind]
  refine exists_congr fun endpoints => exists_congr fun found => ?_
  rw [faults_withClientCredentials (KeyFile.Location.faultless_load _ _)]
  simp only [exists_and_left]

def exchangeOf (issuer : Issuer) (code : DeviceCode) : ExchangeRequest :=
  .deviceCode issuer.clientId code.deviceCode (code.interval * 1000000000)
    (code.expiresIn * 1000000000)

theorem faults_issuing (response : TokenResponse) (clock : StateM σ Instant)
    (use : Token → β) (world : σ) :
    (do
      let token ← Act.ofTimes (Token.issued response (← Act.step clock))
      return use token : Act (StateM σ) β).Faults world ↔ ¬ response.Datable (clock.run world).1 := by
  rw [← Token.issued_eq_error_iff, ← Act.faults_ofTimes _ (clock.run world).2]
  rw [(Act.faultless_step clock).faults_bind]
  constructor
  · rintro ⟨now, after, read, faults⟩
    cases read
    rcases (Act.faults_bind _ _ _).mp faults with faults | ⟨token, last, -, faults⟩
    · exact faults
    · exact absurd faults (Act.faultless_pure (use token) last)
  · exact fun faults => ⟨_, _, rfl, (Act.faults_bind _ _ _).mpr (.inl faults)⟩

theorem faults_exchanging (exchanger : Exchanger (StateM σ)) (clock : StateM σ Instant)
    (request : ExchangeRequest) (activity : String) (use : Token → β) (world : σ) :
    (do
      let response ← (exchanger.exchange request).during activity
      let token ← Act.ofTimes (Token.issued response (← Act.step clock))
      return use token : Act (StateM σ) β).Faults world ↔
      (exchanger.exchange request).Faults world ∨ exchanger.Undatable clock request world := by
  rw [Act.faults_bind, Act.during, Act.faults_mapError]
  refine or_congr_right (exists_congr fun response => exists_congr fun after => ?_)
  rw [Act.outcome_mapError_eq_ok, faults_issuing]

variable {issuer : Issuer} {options : DeviceOptions} {present : DeviceCode → Act (StateM σ) Unit}

theorem faults_withDeviceCode {codes : DeviceCodeSource (StateM σ)} {exchanger : Exchanger (StateM σ)}
    {clock : StateM σ Instant} {audience : String} {world : σ}
    (sound : ∀ scopes, (codes.request scopes).Faultless)
    (presents : ∀ code, (present code).Faultless) :
    (withDeviceCode issuer options codes exchanger present clock audience).Faults world ↔
      ∃ code asked after, (codes.request options.scopes).outcome world = (.ok code, asked) ∧
        (present code).outcome asked = (.ok (), after) ∧
        ((exchanger.exchange (exchangeOf issuer code)).Faults after ∨
          exchanger.Undatable clock (exchangeOf issuer code) after) := by
  rw [withDeviceCode, Act.during, ((sound options.scopes).mapError _).faults_bind]
  refine exists_congr fun code => exists_congr fun asked => ?_
  rw [Act.outcome_mapError_eq_ok, (presents code).faults_bind, exists_and_left]
  refine and_congr_right fun _ => ⟨?_, ?_⟩
  · rintro ⟨_, after, shown, faults⟩
    exact ⟨after, shown, (faults_exchanging _ _ _ _ _ after).mp faults⟩
  · rintro ⟨after, shown, faults⟩
    exact ⟨(), after, shown, (faults_exchanging _ _ _ _ _ after).mpr faults⟩

/-- A login through a device has found an issuer's endpoints, and has been given a code and shown it. -/
def Shows (machine : Machine (StateM σ)) (issuer : Issuer) (options : DeviceOptions)
    (present : DeviceCode → Act (StateM σ) Unit) (world : σ) (endpoints : Endpoints)
    (code : DeviceCode) (after : σ) : Prop :=
  ∃ found asked codes,
    (Endpoints.discover machine.network issuer.endpoint).outcome world = (.ok endpoints, found) ∧
    DeviceCode.source machine.network issuer endpoints = .ok codes ∧
    (codes.request options.scopes).outcome found = (.ok code, asked) ∧
    (present code).outcome asked = (.ok (), after)

theorem source_ok {network : Http.Network (StateM σ)} {endpoints : Endpoints}
    {codes : DeviceCodeSource (StateM σ)}
    (offered : DeviceCode.source network issuer endpoints = .ok codes) :
    codes = DeviceCode.sourceAt network issuer endpoints.deviceAuthorization := by
  unfold DeviceCode.source at offered
  split at offered <;> cases offered
  rfl

/-- Polling for a shown code comes to times that are out of range. -/
def Overtaxed (machine : Machine (StateM σ)) (issuer : Issuer) (endpoints : Endpoints)
    (code : DeviceCode) (world : σ) : Prop :=
  Polling.Overtaxes machine.timer ((machine.tokenEndpoint endpoints).ask (exchangeOf issuer code).fields)
    (code.interval * 1000000000) (code.expiresIn * 1000000000) world

/-- For a code without a lifetime, a server relents before a machine stops polling. -/
def Decides (machine : Machine (StateM σ)) (issuer : Issuer) (endpoints : Endpoints)
    (code : DeviceCode) (world : σ) : Prop :=
  code.expiresIn = 0 → Polling.Relents machine.timer
    ((machine.tokenEndpoint endpoints).ask (exchangeOf issuer code).fields) machine.patience
    (max (code.interval * 1000000000) Polling.leastInterval) world

theorem faults_polling (steady : machine.Steady time) {endpoints : Endpoints} {code : DeviceCode}
    {world : σ} (decides : Decides machine issuer endpoints code world) :
    ((machine.tokenEndpoint endpoints).exchanger.exchange (exchangeOf issuer code)).Faults world ↔
      Overtaxed machine issuer endpoints code world :=
  Polling.faults_start_iff (steady.polling endpoints _) fun endless => decides (by omega)

/-- A login prepared for a device ends in a fault exactly if, with a code that was given and shown,
polling comes to times that are out of range or the response cannot be dated. -/
theorem faults_deviceCode (steady : machine.Steady time)
    (presents : ∀ code, (present code).Faultless) (audience : String) {world : σ}
    (decides : ∀ endpoints code after, Shows machine issuer options present world endpoints code after →
      Decides machine issuer endpoints code after) :
    (do (← prepareDeviceCode machine issuer options present) audience : Act (StateM σ) Outcome).Faults
        world ↔
      ∃ endpoints code after, Shows machine issuer options present world endpoints code after ∧
        (Overtaxed machine issuer endpoints code after ∨
          (machine.tokenEndpoint endpoints).exchanger.Undatable machine.clock
            (exchangeOf issuer code) after) := by
  have polls {endpoints : Endpoints} {code : DeviceCode} {after : σ}
      (shows : Shows machine issuer options present world endpoints code after) :=
    faults_polling steady (decides endpoints code after shows)
  have sound {endpoints : Endpoints} {codes : DeviceCodeSource (StateM σ)}
      (offered : DeviceCode.source machine.network issuer endpoints = .ok codes)
      (scopes : List String) : (codes.request scopes).Faultless := by
    rw [source_ok offered]
    exact DeviceCode.faultless_request _ _ _ scopes
  rw [prepareDeviceCode, bind_assoc, (Endpoints.faultless_discover _ _).faults_bind]
  simp only [bind_assoc, pure_bind, (Act.faultless_ofExcept _).faults_bind, Act.outcome_ofExcept]
  constructor
  · rintro ⟨endpoints, found, discovered, _, _, ended, faults⟩
    cases offered : DeviceCode.source machine.network issuer endpoints with
    | error error =>
      rw [offered] at ended
      cases ended
    | ok _ =>
      rw [offered] at ended
      cases ended
      obtain ⟨code, asked, after, given, shown, faults⟩ :=
        (faults_withDeviceCode (sound offered) presents).mp faults
      have shows : Shows machine issuer options present world endpoints code after :=
        ⟨found, asked, _, discovered, offered, given, shown⟩
      exact ⟨endpoints, code, after, shows, faults.imp_left (polls shows).mp⟩
  · rintro ⟨endpoints, code, after, shows, faults⟩
    have exchanging := faults.imp_left (polls shows).mpr
    obtain ⟨found, asked, codes, discovered, offered, given, shown⟩ := shows
    refine ⟨endpoints, found, discovered, codes, found, ?_, ?_⟩
    · rw [offered]
      rfl
    · exact (faults_withDeviceCode (sound offered) presents).mpr
        ⟨code, asked, after, given, shown, exchanging⟩

end Login
end GrantKeeper
