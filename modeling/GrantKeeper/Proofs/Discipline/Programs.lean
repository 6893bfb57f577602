import GrantKeeper.Authenticator
import GrantKeeper.Proofs.Credential.Cache
import GrantKeeper.Proofs.Discipline

/-! Programs under a discipline: logins, providers and authenticated requests keep to a rule that the
effects of a machine keep to. Of a keyring it is asked that what a provider writes may be written: for
the key that was read, under the label that was read. -/
namespace GrantKeeper

open Discipline

variable {m : Type → Type} [Monad m] {d : Discipline m} {α : Type}

theorem Discipline.tries_ofConfig {result : Except ConfigError α} {good : α → Prop}
    (fine : ∀ value, result = .ok value → good value) :
    d.Tries (Job.ofConfig result : Job m α) good := by
  cases result with
  | ok value => exact tries_pure (fine value rfl)
  | error error => exact tries_throw _ _

theorem Discipline.permits_ofConfig (result : Except ConfigError α) :
    d.Permits (Job.ofConfig result : Job m α) := tries_ofConfig fun _ _ => trivial

theorem Discipline.allows_readText {files : Files m} (read : ∀ path, d.Allows (files.read path))
    (path : String) : d.Allows (files.readText path) := by
  refine (read path).bind fun content => ?_
  split
  · exact allows_pure _
  · split <;> exact allows_pure _

/-! Networks. -/

def Http.Network.Within (network : Http.Network m) (d : Discipline m) : Prop :=
  ∀ request, d.Allows (network.send request)

namespace Http.Network.Within

variable {network : Http.Network m}

theorem ask (within : network.Within d) (request : Http.Request) : d.Allows (network.ask request) := by
  rw [Network.ask]
  split
  · exact within request
  · exact allows_pure _

theorem post (within : network.Within d) (address : String) (fields : List (String × String)) :
    d.Allows (network.post address fields) := by
  rw [Network.post]
  split
  · exact within.ask _
  · exact allows_pure _

end Http.Network.Within

variable [LawfulMonad m]

theorem Discipline.permits_answer {effect : m (Except String Http.Response)}
    {read : Http.Response → Except Error α} {restate : String → Error} (allowed : d.Allows effect) :
    d.Permits (do
      match ← Act.step effect with
      | .ok response => Act.ofExcept (read response)
      | .error detail => Act.fail (restate detail)) := by
  refine Permits.bind (tries_lift allowed) fun answer => ?_
  cases answer with
  | ok response => exact permits_ofExcept _
  | error detail => exact tries_throw _ _

theorem Endpoints.permits_discover {network : Http.Network m} (within : network.Within d)
    (endpoint : String) : d.Permits (discover network endpoint) :=
  (permits_ofExcept _).bind fun _ => permits_answer (within.ask _)

theorem DeviceCode.permits_request {network : Http.Network m} (within : network.Within d)
    (issuer : Issuer) (address : String) (scopes : List String) :
    d.Permits ((sourceAt network issuer address).request scopes) :=
  permits_answer (within.post _ _)

/-! Machines. -/

/-- A machine with which no more than is allowed is done than to ask, to read files and to wait. -/
structure Login.Machine.Within (machine : Login.Machine m) (d : Discipline m) : Prop where
  network : machine.network.Within d
  read : ∀ path, d.Allows (machine.files.read path)
  clock : d.Allows machine.clock
  now : d.Allows machine.timer.now
  sleep : ∀ length, d.Allows (machine.timer.sleep length)

def Exchanger.Within (exchanger : Exchanger m) (d : Discipline m) : Prop :=
  ∀ request, d.Permits (exchanger.exchange request)

namespace TokenEndpoint

theorem permits_ask {endpoint : TokenEndpoint m} (within : endpoint.network.Within d)
    (fields : List (String × String)) : d.Permits (endpoint.ask fields) :=
  permits_answer (within.post _ _)

theorem permits_askOnce {endpoint : TokenEndpoint m} (within : endpoint.network.Within d)
    (fields : List (String × String)) : d.Permits (endpoint.askOnce fields) := by
  refine (permits_ask within fields).bind fun reply => ?_
  cases reply with
  | granted response => exact tries_pure trivial
  | refused status error => exact tries_throw _ _

end TokenEndpoint

namespace Polling

variable {timer : Timer m} {ask : Act m ExchangeReply}

/-- Waiting for the next poll, if that is in time, and what comes then. -/
theorem permits_wait (now : d.Allows timer.now) (sleep : ∀ length, d.Allows (timer.sleep length))
    (lifetime : Nat) (deadline : Option Nat) {rest : Act m TokenResponse} (goes : d.Permits rest)
    (next : Nat) :
    d.Permits (do
      if let some last := deadline then
        let due ← Act.ofTimes (after (← Act.step timer.now) next)
        if last ≤ due then Act.fail (expired lifetime)
      Act.step (timer.sleep next)
      rest) := by
  have waits : d.Permits (do
      Act.step (timer.sleep next)
      rest) := Permits.bind (tries_lift (sleep next)) fun _ => goes
  cases deadline with
  | none => exact waits
  | some last =>
    refine Permits.bind (tries_lift now) fun time => ?_
    refine (permits_ofTimes _).bind fun due => ?_
    split
    · exact Permits.bind (tries_throw _ _) fun _ => waits
    · exact waits

theorem permits_run (asks : d.Permits ask) (now : d.Allows timer.now)
    (sleep : ∀ length, d.Allows (timer.sleep length)) (lifetime : Nat) (deadline : Option Nat)
    (polls interval : Nat) : d.Permits (run timer ask lifetime deadline polls interval) := by
  induction polls generalizing interval with
  | zero => exact tries_throw _ _
  | succ polls ih =>
    rw [run]
    refine asks.bind fun reply => ?_
    cases reply with
    | granted response => exact tries_pure trivial
    | refused status error =>
      simp only
      cases nextInterval interval error.code with
      | none => exact tries_throw _ _
      | some next =>
        exact (permits_ofTimes next).bind fun interval =>
          permits_wait now sleep lifetime deadline (ih interval) interval

theorem permits_start (asks : d.Permits ask) (now : d.Allows timer.now)
    (sleep : ∀ length, d.Allows (timer.sleep length)) (patience pollInterval lifetime : Nat) :
    d.Permits (start timer ask patience pollInterval lifetime) := by
  rw [start]
  split
  · exact permits_run asks now sleep _ _ _ _
  · refine Permits.bind (tries_lift now) fun time => ?_
    exact (permits_ofTimes _).bind fun deadline => permits_run asks now sleep _ _ _ _

end Polling

theorem Login.Machine.Within.tokenEndpoint {machine : Login.Machine m} (within : machine.Within d)
    (endpoints : Endpoints) : (machine.tokenEndpoint endpoints).exchanger.Within d := by
  intro request
  cases request with
  | deviceCode =>
    exact Polling.permits_start (TokenEndpoint.permits_ask within.network _) within.now within.sleep
      _ _ _
  | clientCredentials | refreshToken => exact TokenEndpoint.permits_askOnce within.network _

theorem KeyFile.Location.permits_load {files : Files m} (read : ∀ path, d.Allows (files.read path))
    (location : KeyFile.Location) : d.Permits (location.load files) := by
  cases location with
  | inline data => exact permits_ofExcept _
  | path name =>
    refine Permits.bind (tries_lift (read name)) fun content => ?_
    cases content with
    | ok bytes => exact permits_ofExcept _
    | error error => exact tries_throw _ _

/-! Logins. -/

theorem Grant.audience_withToken (grant : Grant) (token : Token) :
    (grant.withToken token).audience = grant.audience := by
  cases grant <;> rfl

theorem Grant.permits_refresh {exchanger : Exchanger m} {clock : m Instant} {rule : Grant → Prop}
    (within : exchanger.Within d) (clocks : d.Allows clock)
    (renewable : ∀ grant token, rule grant → rule (grant.withToken token)) :
    (d.holding rule).Permits (refresh exchanger clock) := by
  rw [refresh]
  refine Tries.bind (tries_lift ensures_get) fun grant keeps => ?_
  refine (permits_ofExcept _).bind fun request => ?_
  refine Permits.bind (tries_hoist ((within request).mapError _)) fun response => ?_
  refine Permits.bind (tries_lift (ensures_lift clocks)) fun now => ?_
  refine (permits_ofTimes _).bind fun token => ?_
  refine Permits.bind (tries_lift (allows_set ?_)) fun _ => tries_pure trivial
  exact renewable grant token keeps

namespace Login

/-- A login of which nothing but what is allowed is done, to obtain grants for the audiences that it is
asked for. -/
def Ready.Within (ready : Ready m) (d : Discipline m) : Prop :=
  ∀ audience, d.Tries (ready audience) (·.grant.audience = audience)

theorem within_withClientCredentials {keyFile : Act m KeyFile} {exchanger : Exchanger m}
    {clock : m Instant} (reads : d.Permits keyFile) (within : exchanger.Within d)
    (clocks : d.Allows clock) :
    Ready.Within (withClientCredentials keyFile exchanger clock) d := by
  intro audience
  rw [withClientCredentials]
  refine Permits.bind (reads.mapError _) fun keyFile => ?_
  have refreshes : (d.holding (·.audience = audience)).Permits
      ((Grant.refresh exchanger clock).during "authentication failed using client credentials") :=
    (Grant.permits_refresh within clocks fun grant token same =>
      (grant.audience_withToken token).trans same).mapError _
  exact (refreshes.starting rfl).bind fun result same => tries_pure same.2

theorem within_withDeviceCode {issuer : Issuer} {options : DeviceOptions}
    {codes : DeviceCodeSource m} {exchanger : Exchanger m} {present : DeviceCode → Act m Unit}
    {clock : m Instant} (requests : ∀ scopes, d.Permits (codes.request scopes))
    (within : exchanger.Within d) (presents : ∀ code, d.Permits (present code))
    (clocks : d.Allows clock) :
    Ready.Within (withDeviceCode issuer options codes exchanger present clock) d := by
  intro audience
  rw [withDeviceCode]
  refine Permits.bind ((requests _).mapError _) fun code => ?_
  refine (presents code).bind fun _ => ?_
  refine Permits.bind ((within _).mapError _) fun response => ?_
  refine Permits.bind (tries_lift clocks) fun now => ?_
  exact (permits_ofTimes _).bind fun token => tries_pure rfl

theorem tries_prepareClientCredentials {machine : Machine m} (within : machine.Within d)
    (issuer : Issuer) (keyFile : String) :
    d.Tries (prepareClientCredentials machine issuer keyFile) (Ready.Within · d) := by
  rw [prepareClientCredentials]
  refine Tries.bind (Endpoints.permits_discover within.network _) fun endpoints _ => tries_pure ?_
  exact within_withClientCredentials (KeyFile.Location.permits_load within.read _)
    (within.tokenEndpoint endpoints) within.clock

theorem tries_prepareDeviceCode {machine : Machine m} (within : machine.Within d) (issuer : Issuer)
    (options : DeviceOptions) {present : DeviceCode → Act m Unit}
    (presents : ∀ code, d.Permits (present code)) :
    d.Tries (prepareDeviceCode machine issuer options present) (Ready.Within · d) := by
  rw [prepareDeviceCode]
  refine Tries.bind (Endpoints.permits_discover within.network _) fun endpoints _ => ?_
  have offers : d.Tries (Act.ofExcept (DeviceCode.source machine.network issuer endpoints))
      fun codes => ∀ scopes, d.Permits (codes.request scopes) := by
    refine tries_ofExcept fun codes offered => ?_
    unfold DeviceCode.source at offered
    split at offered <;> cases offered
    exact DeviceCode.permits_request within.network issuer _
  refine offers.bind fun codes requests => tries_pure ?_
  exact within_withDeviceCode requests (within.tokenEndpoint endpoints) presents within.clock

end Login

/-! Providers. -/

/-- A credential that is usable and may be written with any usable record. -/
def Credential.Renewable (credential : Credential) (keyring : Keyring m) (d : Discipline m) : Prop :=
  credential.grant.isUsable ∧ ∀ record : GrantRecord, record.isUsable →
    d.Permits (keyring.set (Credential.mk credential.audience credential.userName record).item)

/-- Credentials of some kind may be written, and are still of that kind with another token. -/
structure Credential.Writes (rule : Credential → Prop) (keyring : Keyring m) (d : Discipline m) :
    Prop where
  set : ∀ credential, rule credential → d.Permits (keyring.set credential.item)
  withToken : ∀ credential token, rule credential → rule (Cache.withToken credential token)

omit [LawfulMonad m] in
theorem Credential.writes_renewable (keyring : Keyring m) :
    Writes (·.Renewable keyring d) keyring d where
  set credential renewable := renewable.2 credential.grant renewable.1
  withToken _ token renewable := ⟨Cache.isUsable_withToken renewable.1 token, renewable.2⟩

namespace Cache

variable {keyring : Keyring m} {clock : m Instant} {rule : Credential → Prop}

theorem permits_token? (clocks : d.Allows clock) : (d.holding rule).Permits (token? clock) := by
  rw [token?]
  refine Permits.bind (tries_lift ensures_get.allows) fun credential => ?_
  split
  · exact tries_pure trivial
  · exact Permits.bind (tries_lift (ensures_lift clocks)) fun now => permits_ofTimes _

theorem permits_persist (writes : Credential.Writes rule keyring d) :
    (d.holding rule).Permits (persist keyring) := by
  rw [persist]
  refine Tries.bind (tries_lift ensures_get) fun credential kind => ?_
  exact tries_hoist ((writes.set credential kind).mapError _)

theorem permits_update (writes : Credential.Writes rule keyring d) (token : Token) :
    (d.holding rule).Permits (update keyring token) := by
  rw [update]
  refine Permits.bind (tries_lift (allows_modify ?_)) fun _ => permits_persist writes
  exact fun credential kind => writes.withToken credential token kind

theorem permits_invalidate (writes : Credential.Writes rule keyring d) :
    (d.holding rule).Permits (invalidate keyring) := by
  rw [invalidate]
  refine Permits.bind (tries_lift ensures_get.allows) fun credential => ?_
  split
  · exact tries_pure trivial
  · split
    · refine Permits.bind (tries_lift (allows_modify ?_)) fun _ => permits_persist writes
      exact fun held kind => writes.withToken held _ kind
    · exact tries_pure trivial

end Cache

namespace TokenProvider

structure Within (provider : TokenProvider m) (d : Discipline m) : Prop where
  exchanger : provider.exchanger.Within d
  clock : d.Allows provider.clock
  count : ∀ event, d.Allows (provider.count event)

variable {provider : TokenProvider m} {rule : Credential → Prop}

omit [LawfulMonad m] in
theorem permits_onCredential {act : Act (StateT Credential m) α}
    (permits : (d.holding rule).Permits act) :
    (d.holding fun holding : Holding => rule holding.credential).Permits (onCredential act) :=
  permits.onPart (fun _ kind => kind) fun _ _ _ kind => kind

omit [LawfulMonad m] in
theorem permits_onGrant {act : Act (StateT Grant m) α}
    (permits : (d.holding fun _ => True).Permits act) :
    (d.holding fun holding : Holding => rule holding.credential).Permits (onGrant act) :=
  permits.onPart (fun _ _ => trivial) fun _ _ kind _ => kind

theorem permits_counting {rule : Holding → Prop} (within : provider.Within d) (event : Event) :
    (d.holding rule).Permits (provider.counting event) :=
  tries_lift (ensures_lift (within.count event))

theorem permits_token (within : provider.Within d)
    (writes : Credential.Writes rule provider.keyring d) :
    (d.holding fun holding : Holding => rule holding.credential).Permits provider.token := by
  rw [token]
  refine (permits_onCredential (Cache.permits_token? within.clock)).bind fun cached => ?_
  cases cached with
  | some token => exact tries_pure trivial
  | none =>
    have refreshes : (d.holding fun _ => True).Permits
        (Grant.refresh provider.exchanger provider.clock) :=
      Grant.permits_refresh within.exchanger within.clock fun _ _ _ => trivial
    -- Renewing leaves the credential alone, so that can be written with the new token after it.
    refine Permits.bind (permits_onGrant refreshes).attempt.permits fun renewed => ?_
    cases renewed with
    | error error => exact (permits_counting within _).bind fun _ => tries_throw _ _
    | ok token =>
      refine (permits_counting within _).bind fun _ => ?_
      refine Permits.bind ((permits_onCredential (Cache.permits_update writes token)).mapError _)
        fun _ => ?_
      exact tries_pure trivial

theorem permits_invalidate (within : provider.Within d)
    (writes : Credential.Writes rule provider.keyring d) :
    (d.holding fun holding : Holding => rule holding.credential).Permits provider.invalidate := by
  rw [invalidate]
  exact (permits_counting within _).bind fun _ => permits_onCredential (Cache.permits_invalidate writes)

end TokenProvider

/-! Authenticated requests. -/

namespace Http

variable {source : TokenSource m} {service : Request → m (Except String Response)}

theorem allows_sendWithToken (token : d.Permits source.token) (invalidate : d.Permits source.invalidate)
    (serves : ∀ request, d.Allows (service request)) (request : Request) :
    d.Allows (sendWithToken source service request) := by
  rw [sendWithToken]
  refine token.allows.bind fun given => ?_
  obtain failure | token := given
  · exact allows_pure _
  · simp only
    split
    · exact allows_pure _
    · refine (serves _).bind fun answer => ?_
      obtain detail | response := answer
      · exact allows_pure _
      · simp only
        split
        · refine invalidate.allows.bind fun ended => ?_
          split <;> exact allows_pure _
        · exact allows_pure _

theorem allows_sendAuthorized (token : d.Permits source.token)
    (invalidate : d.Permits source.invalidate) (serves : ∀ request, d.Allows (service request))
    (request : Request) : d.Allows (sendAuthorized source service request) := by
  rw [sendAuthorized]
  split
  · refine (serves _).bind fun answer => ?_
    split <;> exact allows_pure _
  · exact allows_sendWithToken token invalidate serves request

end Http

/-- A provision whose provider keeps to a rule and may write its credential. -/
structure Provision.Within (provision : Provision m) (d : Discipline m) : Prop where
  provider : provision.provider.Within d
  renewable : provision.holding.credential.Renewable provision.provider.keyring d

theorem Provision.Within.permits_token {provision : Provision m} (within : provision.Within d) :
    d.Permits provision.token :=
  (TokenProvider.permits_token within.provider (Credential.writes_renewable _)).forgetting
    within.renewable

namespace Authentication

def Within (authentication : Authentication m) (d : Discipline m) : Prop :=
  match authentication with
  | anonymous => True
  | oauth2 provision => provision.Within d

theorem Within.allows_send {authentication : Authentication m} (within : authentication.Within d)
    {network : Http.Network m} (asks : network.Within d) (request : Http.Request) :
    d.Allows (authentication.send network request) := by
  cases authentication with
  | anonymous =>
    refine (asks.ask request).bind fun answer => ?_
    split <;> exact allows_pure _
  | oauth2 provision =>
    have sends : (d.holding fun holding : TokenProvider.Holding =>
        holding.credential.Renewable provision.provider.keyring d).Allows
          (Http.sendAuthorized provision.provider.source
            (fun request => StateT.lift (network.ask request)) request) :=
      Http.allows_sendAuthorized
        (TokenProvider.permits_token within.provider (Credential.writes_renewable _))
        (TokenProvider.permits_invalidate within.provider (Credential.writes_renewable _))
        (fun request => ensures_lift (asks.ask request)) request
    exact Allows.bind (sends provision.holding within.renewable).allows fun _ => allows_pure _

end Authentication

/-! Authenticators. -/

/-- A keyring in which what was read may be written again, under its label, with any usable record. -/
def Keyring.Rewritable (keyring : Keyring m) (d : Discipline m) : Prop :=
  ∀ key, d.Tries (keyring.get key) fun found => ∀ item, found = some item →
    ∀ record : GrantRecord, record.isUsable → d.Permits (keyring.set ⟨key, item.label, record.encode⟩)

theorem Credential.tries_load {keyring : Keyring m} (rewritable : keyring.Rewritable d)
    (audience : String) : d.Tries (load keyring audience) (·.Renewable keyring d) := by
  rw [load]
  refine Tries.bind ((rewritable _).mapError asRead) fun found writes => ?_
  cases found with
  | none => exact tries_throw _ _
  | some item =>
    refine tries_ofExcept fun credential read => ?_
    obtain ⟨rfl, usable⟩ := ofItem_audience read
    exact ⟨usable, ofItem_userName read ▸ writes item rfl⟩

structure Authenticator.Within (a : Authenticator m) (d : Discipline m) : Prop where
  keyring : a.keyring.Rewritable d
  machine : a.machine.Within d
  count : ∀ event, d.Allows (a.count event)
  exchanger : ∀ exchanger, a.exchanger = some exchanger → exchanger.Within d

namespace Authenticator.Within

variable {a : Authenticator m}

theorem tries_findExchanger (within : a.Within d) : d.Tries a.findExchanger (Exchanger.Within · d) := by
  rw [findExchanger]
  split
  · exact tries_pure (within.exchanger _ ‹_›)
  · split
    · exact tries_throw _ _
    · refine (Endpoints.permits_discover within.machine.network _).bind fun endpoints => ?_
      exact tries_pure (within.machine.tokenEndpoint endpoints)

theorem tries_tokenProvider (within : a.Within d) (audience : String) :
    d.Tries (a.tokenProvider audience) (Provision.Within · d) := by
  rw [tokenProvider]
  refine (Credential.tries_load within.keyring audience).bind fun credential renewable => ?_
  refine within.tries_findExchanger.bind fun exchanger exchanges => ?_
  refine (permits_ofExcept _).bind fun grant => ?_
  exact tries_pure ⟨⟨exchanges, within.machine.clock, within.count⟩, renewable⟩

theorem tries_authentication (within : a.Within d) (audience : String) :
    d.Tries (a.authentication audience) (Authentication.Within · d) := by
  rw [authentication]
  refine (within.tries_tokenProvider audience).attempt.bind fun ended provides => ?_
  cases ended with
  | ok provision => exact tries_pure (provides provision rfl)
  | error error =>
    simp only
    split
    · exact tries_pure trivial
    · exact tries_throw _ _

end Authenticator.Within

end GrantKeeper
