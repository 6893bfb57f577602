import GrantKeeper.Proofs.Authenticator.Anonymous
import GrantKeeper.Proofs.Discipline.Programs
import GrantKeeper.Proofs.Encoding.Form

/-! The requests that logins send, and the fields in their forms. -/
namespace GrantKeeper

variable {σ α : Type} {sent : σ → List Http.Request}

/-! Forms. -/
namespace Http

def Request.field? (name : String) (request : Request) : Option String :=
  Form.decode request.body >>= (·.lookup name)

@[simp] theorem Request.field?_ofForm (name : String) (url : Url) (fields : List (String × String)) :
    (ofForm url fields).field? name = fields.lookup name := by
  rw [field?, ofForm, Form.decode_encode]
  rfl

namespace Network

/-- The requests by which a form is posted: one, if its address can be asked. -/
def posted (address : String) (fields : List (String × String)) : List Request :=
  match Url.read address with
  | .ok url => if accepts url then [.ofForm url fields] else []
  | .error _ => []

variable {network : Network (StateM σ)} {address : String} {fields : List (String × String)}

theorem posted_cases (address : String) (fields : List (String × String)) :
    posted address fields = [] ∨ ∃ url, posted address fields = [.ofForm url fields] := by
  rw [posted]
  cases Url.read address with
  | error error => exact .inl rfl
  | ok url =>
    by_cases accepted : accepts url
    · exact .inr ⟨url, if_pos accepted⟩
    · exact .inl (if_neg accepted)

theorem Logged.post (logged : network.Logged sent) (address : String)
    (fields : List (String × String)) (world : σ) :
    sent ((network.post address fields).run world).2 = sent world ++ posted address fields := by
  rw [Network.post, posted]
  cases Url.read address with
  | error error => exact (List.append_nil _).symm
  | ok url => exact logged.ask (.ofForm url fields) world

theorem posted_of_answered {world : σ} {response : Response}
    (answered : ((network.post address fields).run world).1 = .ok response) :
    posted address fields ≠ [] := by
  rw [Network.post] at answered
  rw [posted]
  cases read : Url.read address with
  | error error =>
    rw [read] at answered
    cases answered
  | ok url =>
    rw [read] at answered
    by_cases accepted : accepts url
    · simp [accepted]
    · have refused : network.ask (.ofForm url fields) = pure (.error refusal) := if_neg accepted
      simp only [refused] at answered
      cases answered

end Network

/-- A request without the fields that say which token is asked for. -/
def Request.IsNeutral (request : Request) : Prop :=
  request.field? "audience" = none ∧ request.field? "scope" = none

/-- One of the requests is a form with these fields, and the others do not say which token is asked for. -/
def Asks (fields : List (String × String)) (requests : List Request) : Prop :=
  ∃ before url behind, requests = before ++ .ofForm url fields :: behind ∧
    (∀ request ∈ before, request.IsNeutral) ∧ ∀ request ∈ behind, request.IsNeutral

theorem filterMap_neutral {requests : List Request}
    (neutral : ∀ request ∈ requests, request.IsNeutral) {name : String}
    (named : name ∈ ["audience", "scope"]) : requests.filterMap (·.field? name) = [] := by
  refine List.filterMap_eq_nil_iff.mpr fun request member => ?_
  simp only [List.mem_cons, List.not_mem_nil, or_false] at named
  rcases named with rfl | rfl
  · exact (neutral request member).1
  · exact (neutral request member).2

theorem Asks.filterMap {fields : List (String × String)} {requests : List Request}
    (asks : Asks fields requests) {name : String} (named : name ∈ ["audience", "scope"]) :
    requests.filterMap (·.field? name) = (fields.lookup name).toList := by
  obtain ⟨before, url, behind, rfl, first, last⟩ := asks
  rw [List.filterMap_append, List.filterMap_cons, Request.field?_ofForm,
    filterMap_neutral first named, filterMap_neutral last named]
  cases fields.lookup name <;> rfl

end Http

/-! Effects by what they send. -/
namespace Discipline

/-- The rule for effects that send requests of one kind only. -/
def saying (sent : σ → List Http.Request) (may : Http.Request → Prop) : Discipline (StateM σ) where
  Ensures effect good := ∀ world, good (effect.run world).1 ∧
    ∃ new, sent (effect.run world).2 = sent world ++ new ∧ ∀ request ∈ new, may request
  ensures_pure fine _ := ⟨fine, [], (List.append_nil _).symm, by simp⟩
  ensures_bind first rest world := by
    obtain ⟨fine, before, grown, all⟩ := first world
    obtain ⟨fine, behind, again, others⟩ := rest _ fine _
    refine ⟨fine, before ++ behind, ?_, fun request member => ?_⟩
    · rw [← List.append_assoc, ← grown]
      exact again
    · exact (List.mem_append.mp member).elim (all request) (others request)

variable {may : Http.Request → Prop}

theorem allows_of_unseen {effect : StateM σ α}
    (unseen : ∀ world, sent (effect.run world).2 = sent world) : (saying sent may).Allows effect :=
  fun world => ⟨trivial, [], by rw [unseen, List.append_nil], by simp⟩

theorem allows_post {network : Http.Network (StateM σ)} (logged : network.Logged sent)
    {address : String} {fields : List (String × String)} (fits : ∀ url, may (.ofForm url fields)) :
    (saying sent may).Allows (network.post address fields) := by
  refine fun world => ⟨trivial, _, logged.post address fields world, ?_⟩
  obtain none_ | ⟨url, one⟩ := Http.Network.posted_cases address fields
  · simp [none_]
  · simp [one, fits]

theorem sent_bind {β : Type} {act : Act (StateM σ) α} {next : α → Act (StateM σ) β} {world : σ}
    {ended : Except Failure β × σ} (sent : σ → List Http.Request) (may : Http.Request → Prop)
    (good : β → Prop) (ends : (act >>= next).outcome world = ended)
    (rest : ∀ value, (saying sent may).Tries (next value) good) :
    ∃ new, sent ended.2 = sent (act.outcome world).2 ++ new ∧ (∀ request ∈ new, may request) ∧
      ∀ value, ended.1 = .ok value → good value ∧ ∃ found, (act.outcome world).1 = .ok found := by
  rw [Act.outcome_bind] at ends
  subst ends
  rcases act.outcome world with ⟨failure | found, between⟩
  · exact ⟨[], (List.append_nil _).symm, by simp, nofun⟩
  · obtain ⟨finds, new, grown, all⟩ := rest found between
    exact ⟨new, grown, all, fun value ended => ⟨finds value ended, found, rfl⟩⟩

end Discipline

namespace Login

open Discipline

/-- A machine whose requests are all seen, and nothing else that it does. -/
structure Machine.Logged (machine : Machine (StateM σ)) (sent : σ → List Http.Request) : Prop where
  network : machine.network.Logged sent
  read : ∀ path world, sent ((machine.files.read path).run world).2 = sent world
  clock : ∀ world, sent (machine.clock.run world).2 = sent world
  now : ∀ world, sent (machine.timer.now.run world).2 = sent world
  sleep : ∀ length world, sent ((machine.timer.sleep length).run world).2 = sent world

/-- A login gave what was asked for: a grant for an audience that keeps the token. -/
def Outcome.Fits (audience : String) (outcome : Outcome) : Prop :=
  outcome.grant.audience = audience ∧ outcome.grant.record.token = some outcome.token

variable {machine : Machine (StateM σ)} {issuer : Issuer} {audience : String} {world after : σ}
  {outcome : Outcome}

theorem neutral_inquiry (endpoint : String) :
    ∀ request ∈ Endpoints.inquiry endpoint, request.IsNeutral := by
  intro request member
  unfold Endpoints.inquiry at member
  split at member
  · split at member
    · rw [List.mem_singleton.mp member]
      exact ⟨rfl, rfl⟩
    · cases member
  · cases member

theorem permits_polling (logged : machine.Logged sent) (endpoints : Endpoints)
    (clientId code : String) (interval lifetime : Nat) :
    (saying sent Http.Request.IsNeutral).Permits ((machine.tokenEndpoint endpoints).exchanger.exchange
      (.deviceCode clientId code interval lifetime)) :=
  Polling.permits_start
    (permits_answer (allows_post logged.network fun url => by
      simp [Http.Request.IsNeutral, ExchangeRequest.fields]))
    (allows_of_unseen logged.now) (fun length => allows_of_unseen (logged.sleep length)) _ _ _

theorem sent_answer {network : Http.Network (StateM σ)} (logged : network.Logged sent)
    (address : String) (fields : List (String × String)) {read : Http.Response → Except Error α}
    {restate : String → Error} {world : σ} {ended : Except Failure α × σ}
    (ends : (do
      match ← Act.step (network.post address fields) with
      | .ok response => Act.ofExcept (read response)
      | .error detail => Act.fail (restate detail) : Act (StateM σ) α).outcome world = ended) :
    sent ended.2 = sent world ++ Http.Network.posted address fields ∧
      ∀ value, ended.1 = .ok value → Http.Network.posted address fields ≠ [] := by
  have grown := logged.post address fields world
  rw [Act.outcome_bind, Act.outcome_step] at ends
  rcases asked : (network.post address fields).run world with ⟨detail | response, after⟩ <;>
    rw [asked] at ends grown
  · subst ends
    exact ⟨grown, fun _ done => by cases done⟩
  · simp only [Act.outcome_ofExcept] at ends
    subst ends
    exact ⟨grown, fun _ _ => Http.Network.posted_of_answered (congrArg Prod.fst asked)⟩

/-- Once there is a code, it is only polled. -/
theorem sent_withDeviceCode (logged : machine.Logged sent) (endpoints : Endpoints)
    (options : DeviceOptions) {present : DeviceCode → Act (StateM σ) Unit}
    (unseen : ∀ code world, sent ((present code).outcome world).2 = sent world) (address : String)
    (world : σ) {ended : Except Failure Outcome × σ}
    (ends : (withDeviceCode issuer options (DeviceCode.sourceAt machine.network issuer address)
      (machine.tokenEndpoint endpoints).exchanger present machine.clock audience).outcome world = ended) :
    ∃ polls, sent ended.2 = sent world ++
        Http.Network.posted address (DeviceCode.requestFields issuer options.scopes) ++ polls ∧
      (∀ request ∈ polls, request.IsNeutral) ∧
      ∀ outcome, ended.1 = .ok outcome → outcome.Fits audience ∧
        Http.Network.posted address (DeviceCode.requestFields issuer options.scopes) ≠ [] := by
  obtain ⟨asked, answered⟩ := sent_answer logged.network address
    (DeviceCode.requestFields issuer options.scopes)
    (show ((DeviceCode.sourceAt machine.network issuer address).request options.scopes).outcome world = _
      from rfl)
  obtain ⟨polls, grown, neutral, fits⟩ := sent_bind sent Http.Request.IsNeutral (Outcome.Fits audience)
    ends fun code => by
      have presents : (saying sent Http.Request.IsNeutral).Permits (present code) :=
        (allows_of_unseen (unseen code)).mono fun _ _ _ _ => trivial
      refine presents.bind fun _ => ?_
      refine Permits.bind ((permits_polling logged endpoints _ _ _ _).mapError _) fun response => ?_
      refine Permits.bind (tries_lift (allows_of_unseen logged.clock)) fun now => ?_
      exact (permits_ofTimes _).bind fun token => tries_pure ⟨rfl, rfl⟩
  rw [Act.during, Act.outcome_mapError, asked] at grown
  refine ⟨polls, grown, neutral, fun outcome done => ?_⟩
  obtain ⟨fit, code, found⟩ := fits outcome done
  have given := Act.outcome_mapError_eq_ok.mp (Prod.ext found rfl)
  exact ⟨fit, answered code (congrArg Prod.fst given)⟩

/-- A login through a device asks for what the issuer and the options say, whatever audience its grant is
for. -/
theorem sent_deviceCode (logged : machine.Logged sent) (issuer : Issuer) (options : DeviceOptions)
    {present : DeviceCode → Act (StateM σ) Unit}
    (unseen : ∀ code world, sent ((present code).outcome world).2 = sent world) (audience : String)
    (world : σ) {ended : Except Failure Outcome × σ}
    (ends : (do (← prepareDeviceCode machine issuer options present) audience :
      Act (StateM σ) Outcome).outcome world = ended) :
    ∃ new, sent ended.2 = sent world ++ new ∧
      ((∀ request ∈ new, request.IsNeutral) ∨
        Http.Asks (DeviceCode.requestFields issuer options.scopes) new) ∧
      ∀ outcome, ended.1 = .ok outcome →
        outcome.Fits audience ∧ Http.Asks (DeviceCode.requestFields issuer options.scopes) new := by
  have inquired := Endpoints.sent_discover logged.network issuer.endpoint world
  have plain := neutral_inquiry issuer.endpoint
  rw [prepareDeviceCode, bind_assoc, Act.outcome_bind] at ends
  rcases discovered : (Endpoints.discover machine.network issuer.endpoint).outcome world with
    ⟨failure | endpoints, found⟩ <;> rw [discovered] at ends inquired
  · subst ends
    exact ⟨_, inquired, .inl plain, fun _ done => by cases done⟩
  simp only [bind_assoc, pure_bind, Act.outcome_bind, Act.outcome_ofExcept] at ends
  cases offered : DeviceCode.source machine.network issuer endpoints with
  | error error =>
    rw [offered] at ends
    subst ends
    exact ⟨_, inquired, .inl plain, fun _ done => by cases done⟩
  | ok codes =>
    rw [offered] at ends
    cases source_ok offered
    obtain ⟨polls, grown, neutral, fits⟩ := sent_withDeviceCode logged endpoints options unseen
      endpoints.deviceAuthorization found ends
    rw [inquired, List.append_assoc, List.append_assoc] at grown
    refine ⟨_, grown, ?_⟩
    -- Where the address of the issuer cannot be asked no form is sent, but nothing is obtained either.
    obtain none_ | ⟨url, one⟩ := Http.Network.posted_cases endpoints.deviceAuthorization
      (DeviceCode.requestFields issuer options.scopes)
    · rw [none_] at fits ⊢
      refine ⟨.inl ?_, fun outcome done => absurd rfl (fits outcome done).2⟩
      simpa [or_imp, forall_and] using ⟨plain, neutral⟩
    · rw [one]
      have asks : Http.Asks (DeviceCode.requestFields issuer options.scopes) _ :=
        ⟨Endpoints.inquiry issuer.endpoint, url, polls, rfl, plain, neutral⟩
      exact ⟨.inr asks, fun outcome done => ⟨(fits outcome done).1, asks⟩⟩

theorem sent_askOnce {endpoint : TokenEndpoint (StateM σ)} (logged : endpoint.network.Logged sent)
    {fields : List (String × String)} {response : TokenResponse}
    (ends : (endpoint.askOnce fields).outcome world = (.ok response, after)) :
    ∃ url, sent after = sent world ++ [.ofForm url fields] := by
  obtain ⟨reply, between, replied, ends⟩ := Act.outcome_bind_eq_ok ends
  obtain ⟨asked, answered⟩ := sent_answer logged endpoint.address fields replied
  have same : between = after := by
    cases reply with
    | granted response => exact congrArg Prod.snd ends
    | refused status error => cases ends
  obtain none_ | ⟨url, one⟩ := Http.Network.posted_cases endpoint.address fields
  · exact absurd none_ (answered reply rfl)
  · exact ⟨url, by rw [← same, asked, one]⟩

/-- A service account asks once for a token, for the audience of its grant. -/
theorem sent_clientCredentials (logged : machine.Logged sent) {keyFile : String}
    (ends : (do (← prepareClientCredentials machine issuer keyFile) audience :
      Act (StateM σ) Outcome).outcome world = (.ok outcome, after)) :
    outcome.Fits audience ∧ ∃ (key : KeyFile) (new : List Http.Request), sent after = sent world ++ new ∧
      Http.Asks (ExchangeRequest.clientCredentials key.clientId key.clientSecret audience).fields new := by
  have inquired := Endpoints.sent_discover logged.network issuer.endpoint world
  rw [prepareClientCredentials, bind_assoc] at ends
  obtain ⟨endpoints, found, discovered, ends⟩ := Act.outcome_bind_eq_ok ends
  rw [discovered] at inquired
  rw [pure_bind, withClientCredentials] at ends
  obtain ⟨key, loaded, loads, ends⟩ := Act.outcome_bind_eq_ok ends
  have reads : (saying sent Http.Request.IsNeutral).Permits
      ((KeyFile.Location.ofText keyFile).load machine.files) :=
    KeyFile.Location.permits_load (fun path => allows_of_unseen (logged.read path)) _
  obtain ⟨-, reading, grown, neutral⟩ := reads found
  obtain ⟨⟨token, grant⟩, last, refreshed, ends⟩ := Act.outcome_bind_eq_ok ends
  rw [Act.outcome_holding, Act.during, Act.ending_mapError] at refreshed
  -- How a renewal can end says what was asked for: the new grant is renewed once before it is handed out.
  have renews := Grant.renews_refresh (machine.tokenEndpoint endpoints).exchanger machine.clock
    (.clientCredentials audience key none) loaded
  generalize (Grant.refresh (machine.tokenEndpoint endpoints).exchanger machine.clock).ending
    (.clientCredentials audience key none) loaded = ended at renews refreshed
  cases renews with
  | refused | unanswered | unissued => cases refreshed
  | renewed asks exchanged issued =>
    cases refreshed
    cases asks
    cases ends
    obtain ⟨url, asked⟩ := sent_askOnce logged.network exchanged
    have same : sent loaded = sent found ++ reading := by
      have kept := Act.outcome_mapError_eq_ok.mp loads
      exact (congrArg (fun ended => sent ended.2) kept).symm.trans grown
    refine ⟨⟨rfl, rfl⟩, key, (Endpoints.inquiry issuer.endpoint ++ reading) ++ .ofForm url _ :: [], ?_,
      _, url, [], rfl, ?_, by simp⟩
    · rw [logged.clock, asked, same, inquired]
      simp
    · simpa [or_imp, forall_and] using ⟨neutral_inquiry issuer.endpoint, neutral⟩

/-- The grant of a login is for the audience that it is given, and keeps the token. A service account asks
for that audience, once; a device asks once too, but for the audience of the issuer. -/
theorem audience_asked (logged : machine.Logged sent) (issuer : Issuer) (audience : String) (world : σ) :
    (∀ keyFile outcome after,
      (do (← prepareClientCredentials machine issuer keyFile) audience :
        Act (StateM σ) Outcome).outcome world = (.ok outcome, after) →
      outcome.Fits audience ∧ ∃ new, sent after = sent world ++ new ∧
        new.filterMap (·.field? "audience") = [audience]) ∧
    ∀ (options : DeviceOptions) (present : DeviceCode → Act (StateM σ) Unit),
      (∀ code world, sent ((present code).outcome world).2 = sent world) → ∀ outcome after,
      (do (← prepareDeviceCode machine issuer options present) audience :
        Act (StateM σ) Outcome).outcome world = (.ok outcome, after) →
      outcome.Fits audience ∧ ∃ new, sent after = sent world ++ new ∧
        new.filterMap (·.field? "audience") = [issuer.audience] := by
  constructor
  · intro keyFile outcome after ends
    obtain ⟨fits, key, new, grown, asks⟩ := sent_clientCredentials logged ends
    exact ⟨fits, new, grown, asks.filterMap (by simp)⟩
  · intro options present unseen outcome after ends
    obtain ⟨new, grown, -, done⟩ := sent_deviceCode logged issuer options unseen audience world ends
    obtain ⟨fits, asks⟩ := done outcome rfl
    exact ⟨fits, new, grown, asks.filterMap (by simp)⟩

end Login

/-- A world that is the responses that are going to come in, and the requests that were sent. -/
structure Mail where
  responses : List Http.Response
  sent : List Http.Request := []
deriving DecidableEq

namespace Mail

def machine : Login.Machine (StateM Mail) where
  network := { send request := do
    let mail ← get
    match mail.responses with
    | [] =>
      set { mail with sent := mail.sent ++ [request] }
      return .error "connection refused"
    | response :: rest =>
      set (⟨rest, mail.sent ++ [request]⟩ : Mail)
      return .ok response }
  files := {
    read _ := return .error .missing
    createDirectories _ := return .ok ()
    write _ _ := return .ok ()
    restrict _ := return .ok ()
    rename _ _ := return .ok () }
  clock := return Instant.epoch
  timer := { now := return 0, sleep _ := return }
  patience := 10

theorem logged : machine.Logged Mail.sent where
  network := by rintro request ⟨_ | ⟨response, rest⟩, sent⟩ <;> rfl
  read _ _ := rfl
  clock _ := rfl
  now _ := rfl
  sleep _ _ := rfl

def issuer : Issuer := { endpoint := "http://issuer", clientId := "client", audience := "issued" }

/-- A device code that is good for a quarter of an hour. -/
def offering : Http.Response := ⟨200, Utf8.encode (
  "\x7b\"device_code\":\"c\",\"user_code\":\"u\",\"verification_uri\":\"v\",\"expires_in\":900\x7d")⟩

/-- What a login through a device comes to that is to be for another audience than the issuer's. -/
def device : Except Failure Login.Outcome × Mail :=
  (do (← Login.prepareDeviceCode machine issuer {} fun _ => return) "given" :
    Act (StateM Mail) Login.Outcome).outcome ⟨[Line.document, offering, Line.issuing "3600"], []⟩

def serviceAccount : Except Failure Login.Outcome × Mail :=
  (do (← Login.prepareClientCredentials machine issuer
      ("data:application/json," ++ Line.account.toJson.toCompact)) "given" :
    Act (StateM Mail) Login.Outcome).outcome ⟨[Line.document, Line.issuing "3600"], []⟩

theorem exists_of_isSome {ended : Except Failure Login.Outcome × Mail}
    (ok : ended.1.toOption.isSome) : ∃ outcome, ended = (.ok outcome, ended.2) := by
  obtain ⟨outcome, found⟩ := Option.isSome_iff_exists.mp ok
  exact ⟨outcome, Prod.ext (eq_ok_of_toOption found) rfl⟩

theorem exists_user : ∃ user, device = (.ok user, device.2) :=
  exists_of_isSome (by decide +kernel)

theorem audience_asked_given :
    (∃ outcome, serviceAccount.1 = .ok outcome ∧ outcome.Fits "given" ∧
      serviceAccount.2.sent.filterMap (·.field? "audience") = ["given"]) ∧
    ∃ outcome, device.1 = .ok outcome ∧ outcome.Fits "given" ∧
      device.2.sent.filterMap (·.field? "audience") = ["issued"] := by
  have serves : serviceAccount.1.toOption.isSome := by decide +kernel
  obtain ⟨account, served⟩ := exists_of_isSome serves
  obtain ⟨user, loggedIn⟩ := exists_user
  obtain ⟨fits, new, sent, asked⟩ :=
    (Login.audience_asked logged issuer "given" _).1 _ account serviceAccount.2 served
  obtain ⟨alsoFits, also, alsoSent, alsoAsked⟩ := (Login.audience_asked logged issuer "given" _).2 {}
    (fun _ => return) (fun _ _ => rfl) user device.2 loggedIn
  rw [List.nil_append] at sent alsoSent
  exact ⟨⟨account, congrArg Prod.fst served, fits, sent ▸ asked⟩,
    user, congrArg Prod.fst loggedIn, alsoFits, alsoSent ▸ alsoAsked⟩

/-- A login through a device that is given another audience than the issuer's asks for the issuer's, and
makes a grant for the other. -/
theorem device_asks_issuer :
    (device.1.toOption.map (·.grant.audience)) = some "given" ∧
      device.2.sent.filterMap (·.field? "audience") = ["issued"] := by
  obtain ⟨user, loggedIn⟩ := exists_user
  obtain ⟨new, sent, -, done⟩ := Login.sent_deviceCode logged issuer {} (fun _ _ => rfl) "given" _ loggedIn
  obtain ⟨fits, asks⟩ := done user rfl
  constructor
  · have given := congrArg (fun ended => ended.1.toOption.map (·.grant.audience)) loggedIn
    exact given.trans (congrArg some fits.1)
  · rw [sent, List.nil_append]
    exact asks.filterMap (by simp)

end Mail
end GrantKeeper
