import GrantKeeper.Proofs.Login.Requests

/-! The forms that exchanges and requests for device codes post. Each is read as the fields it is to have, in
their order, whatever characters the values hold, so what is in one field is never taken for another, and two
requests are posted as one form only if they ask for the same. -/
namespace GrantKeeper

open Discipline

variable {σ α β : Type} {sent : σ → List Http.Request} {address : String}
  {fields : List (String × String)}

namespace Http.Request

def Posts (address : String) (fields : List (String × String)) (request : Request) : Prop :=
  ∃ url, Url.read address = .ok url ∧ request = .ofForm url fields

/-- A request is a form that is read as these fields. -/
structure IsForm (request : Request) (fields : List (String × String)) : Prop where
  method : request.method = "POST"
  headers : request.headers =
    [⟨"content-type", Utf8.encode "application/x-www-form-urlencoded", false⟩]
  body : Form.decode request.body = some fields

variable {request other : Request} {fields_ : List (String × String)}

theorem Posts.isForm (posts : request.Posts address fields) : request.IsForm fields := by
  obtain ⟨url, -, rfl⟩ := posts
  exact ⟨rfl, rfl, Form.decode_encode fields⟩

theorem IsForm.fields_eq (form : request.IsForm fields) (also : other.IsForm fields_)
    (same : request.body = other.body) : fields = fields_ := by
  have body := form.body
  rw [same, also.body] at body
  exact (Option.some.inj body).symm

theorem Posts.body_eq_iff {elsewhere : String} (posts : request.Posts address fields)
    (also : other.Posts elsewhere fields_) : request.body = other.body ↔ fields = fields_ := by
  constructor
  · exact posts.isForm.fields_eq also.isForm
  · rintro rfl
    obtain ⟨url, -, rfl⟩ := posts
    obtain ⟨url_, -, rfl⟩ := also
    rfl

end Http.Request

theorem Http.Network.posts_of_mem_posted {request : Http.Request}
    (member : request ∈ posted address fields) : request.Posts address fields := by
  rw [posted] at member
  cases read : Url.read address with
  | error error =>
    rw [read] at member
    cases member
  | ok url =>
    rw [read] at member
    simp only at member
    split at member
    · exact ⟨url, read, List.mem_singleton.mp member⟩
    · cases member

/-! Activities that post one form, as often as they like. -/
namespace Act

def Sends (sent : σ → List Http.Request) (act : Act (StateM σ) α) (request : Http.Request) : Prop :=
  ∃ world new, sent (act.outcome world).2 = sent world ++ new ∧ request ∈ new

/-- All that an activity sends is one form to one address, and it has a value only if it sends that. -/
def Posting (sent : σ → List Http.Request) (address : String) (fields : List (String × String))
    (act : Act (StateM σ) α) : Prop :=
  ∀ world, ∃ new, sent (act.outcome world).2 = sent world ++ new ∧
    (∀ request ∈ new, request.Posts address fields) ∧
    ∀ value, (act.outcome world).1 = .ok value → new ≠ []

variable {act : Act (StateM σ) α} {next : α → Act (StateM σ) β}

theorem Posting.posts (posting : act.Posting sent address fields) {request : Http.Request}
    (sends : act.Sends sent request) : request.Posts address fields := by
  obtain ⟨world, new, grown, member⟩ := sends
  obtain ⟨posted, grown_, posts, -⟩ := posting world
  obtain rfl := List.append_cancel_left (grown.symm.trans grown_)
  exact posts request member

theorem Posting.exists_sends (posting : act.Posting sent address fields) {world after : σ} {value : α}
    (ended : act.outcome world = (.ok value, after)) : ∃ request, act.Sends sent request := by
  obtain ⟨new, grown, -, answered⟩ := posting world
  obtain ⟨request, member⟩ := List.exists_mem_of_ne_nil new (answered value (by rw [ended]))
  exact ⟨request, world, new, grown, member⟩

theorem posting_fail (failure : Failure) :
    (throw failure : Act (StateM σ) α).Posting sent address fields :=
  fun _ => ⟨[], (List.append_nil _).symm, by simp, nofun⟩

theorem Posting.bind (posting : act.Posting sent address fields)
    (rest : ∀ value, (saying sent (Http.Request.Posts address fields)).Permits (next value)) :
    (act >>= next).Posting sent address fields := by
  intro world
  obtain ⟨first, grown, posts, answered⟩ := posting world
  obtain ⟨new, grown_, posts_, done⟩ := sent_bind sent (Http.Request.Posts address fields)
    (fun _ => True) (rfl : (act >>= next).outcome world = _) rest
  refine ⟨first ++ new, ?_, fun request member => ?_, fun value ended => ?_⟩
  · rw [grown_, grown, List.append_assoc]
  · exact (List.mem_append.mp member).elim (posts request) (posts_ request)
  · obtain ⟨-, found, given⟩ := done value ended
    exact List.append_ne_nil_of_left_ne_nil (answered found given) new

theorem posting_of_unseen {effect : StateM σ α} (unseen : ∀ world, sent (effect.run world).2 = sent world)
    (rest : ∀ value, (next value).Posting sent address fields) :
    (Act.step effect >>= next).Posting sent address fields := by
  intro world
  rw [outcome_bind, outcome_step]
  obtain ⟨new, grown, posts, answered⟩ := rest (effect.run world).1 (effect.run world).2
  exact ⟨new, by rw [grown, unseen], posts, answered⟩

theorem posting_answer {network : Http.Network (StateM σ)} (logged : network.Logged sent)
    {read : Http.Response → Except Error α} {restate : String → Error} :
    (do
      match ← Act.step (network.post address fields) with
      | .ok response => Act.ofExcept (read response)
      | .error detail => Act.fail (restate detail) : Act (StateM σ) α).Posting sent address fields := by
  intro world
  obtain ⟨grown, answered⟩ := Login.sent_answer logged address fields rfl
  exact ⟨_, grown, fun request => Http.Network.posts_of_mem_posted, answered⟩

end Act

/-- An endpoint whose requests are all seen, and nothing else that it does. -/
structure TokenEndpoint.Logged (endpoint : TokenEndpoint (StateM σ)) (sent : σ → List Http.Request) :
    Prop where
  network : endpoint.network.Logged sent
  now : ∀ world, sent (endpoint.timer.now.run world).2 = sent world
  sleep : ∀ length world, sent ((endpoint.timer.sleep length).run world).2 = sent world

/-! Exchanges. -/

namespace Polling

variable {timer : Timer (StateM σ)} {ask : Act (StateM σ) ExchangeReply}

theorem posting_run (asks : ask.Posting sent address fields)
    (now : ∀ world, sent (timer.now.run world).2 = sent world)
    (sleep : ∀ length world, sent ((timer.sleep length).run world).2 = sent world)
    (lifetime : Nat) (deadline : Option Nat) (polls interval : Nat) :
    (run timer ask lifetime deadline polls interval).Posting sent address fields := by
  have again : (saying sent (Http.Request.Posts address fields)).Permits ask := fun world => by
    obtain ⟨new, grown, posts, -⟩ := asks world
    exact ⟨fun _ _ => trivial, new, grown, posts⟩
  have nows : (saying sent (Http.Request.Posts address fields)).Allows timer.now := allows_of_unseen now
  have sleeps (length : Nat) : (saying sent (Http.Request.Posts address fields)).Allows
      (timer.sleep length) := allows_of_unseen (sleep length)
  cases polls with
  | zero => exact Act.posting_fail _
  | succ polls =>
    rw [run]
    refine asks.bind fun reply => ?_
    cases reply with
    | granted response => exact tries_pure trivial
    | refused status error =>
      simp only
      cases nextInterval interval error.code with
      | none => exact tries_throw _ _
      | some next =>
        exact (permits_ofTimes next).bind fun interval => permits_wait nows sleeps lifetime deadline
          (permits_run again nows sleeps lifetime deadline polls interval) interval

theorem posting_start (asks : ask.Posting sent address fields)
    (now : ∀ world, sent (timer.now.run world).2 = sent world)
    (sleep : ∀ length world, sent ((timer.sleep length).run world).2 = sent world)
    (patience pollInterval lifetime : Nat) :
    (start timer ask patience pollInterval lifetime).Posting sent address fields := by
  rw [start]
  split
  · exact posting_run asks now sleep lifetime none patience _
  · refine Act.posting_of_unseen now fun time => ?_
    cases after time lifetime with
    | error fault => exact Act.posting_fail _
    | ok deadline => exact posting_run asks now sleep lifetime (some deadline) _ _

end Polling

namespace TokenEndpoint

variable {endpoint : TokenEndpoint (StateM σ)}

theorem posting_askOnce (logged : endpoint.network.Logged sent) (fields : List (String × String)) :
    (endpoint.askOnce fields).Posting sent endpoint.address fields := by
  refine (Act.posting_answer logged).bind fun reply => ?_
  cases reply with
  | granted response => exact tries_pure trivial
  | refused status error => exact tries_throw _ _

/-- An exchange posts the fields of what is asked for to the endpoint, and nothing else. -/
theorem posting_exchange (logged : endpoint.Logged sent) (request : ExchangeRequest) :
    (endpoint.exchanger.exchange request).Posting sent endpoint.address request.fields := by
  cases request with
  | deviceCode =>
    exact Polling.posting_start (Act.posting_answer logged.network) logged.now logged.sleep _ _ _
  | clientCredentials | refreshToken => exact posting_askOnce logged.network _

end TokenEndpoint

namespace ExchangeRequest

/-- Two requests are of one kind and agree in all that is posted. How long to wait for a device is not. -/
inductive Coincides : ExchangeRequest → ExchangeRequest → Prop
  | clientCredentials (clientId : String) (clientSecret : Secret) (audience : String) :
    Coincides (.clientCredentials clientId clientSecret audience)
      (.clientCredentials clientId clientSecret audience)
  | deviceCode (clientId code : String) (interval interval_ lifetime lifetime_ : Nat) :
    Coincides (.deviceCode clientId code interval lifetime) (.deviceCode clientId code interval_ lifetime_)
  | refreshToken (clientId token : String) :
    Coincides (.refreshToken clientId token) (.refreshToken clientId token)

/-- Requests of different kinds differ in the type of grant, which comes first. -/
theorem fields_eq_iff (request other : ExchangeRequest) :
    request.fields = other.fields ↔ request.Coincides other := by
  constructor
  · intro same
    cases request with
    | clientCredentials clientId clientSecret audience =>
      cases other with
      | clientCredentials clientId_ clientSecret_ audience_ =>
        obtain ⟨exposed⟩ := clientSecret
        obtain ⟨exposed_⟩ := clientSecret_
        simp only [fields, List.cons.injEq, Prod.mk.injEq, true_and, and_true] at same
        obtain ⟨rfl, rfl, rfl⟩ := same
        exact .clientCredentials clientId ⟨exposed⟩ audience
      | deviceCode | refreshToken => simp [fields] at same
    | deviceCode clientId code interval lifetime =>
      cases other with
      | deviceCode clientId_ code_ interval_ lifetime_ =>
        simp only [fields, List.cons.injEq, Prod.mk.injEq, true_and, and_true] at same
        obtain ⟨rfl, rfl⟩ := same
        exact .deviceCode clientId code interval interval_ lifetime lifetime_
      | clientCredentials | refreshToken => simp [fields] at same
    | refreshToken clientId token =>
      cases other with
      | refreshToken clientId_ token_ =>
        simp only [fields, List.cons.injEq, Prod.mk.injEq, true_and, and_true] at same
        obtain ⟨rfl, rfl⟩ := same
        exact .refreshToken clientId token
      | clientCredentials | deviceCode => simp [fields] at same
  · rintro (_ | _ | _) <;> rfl

theorem fields_ne_requestFields (request : ExchangeRequest) (issuer : Issuer) (scopes : List String) :
    request.fields ≠ DeviceCode.requestFields issuer scopes := by
  cases request <;> simp [fields, DeviceCode.requestFields]

end ExchangeRequest

namespace TokenEndpoint

def Sends (sent : σ → List Http.Request) (endpoint : TokenEndpoint (StateM σ))
    (request : ExchangeRequest) (asked : Http.Request) : Prop :=
  (endpoint.exchanger.exchange request).Sends sent asked

variable {endpoint : TokenEndpoint (StateM σ)}

theorem Logged.posts (logged : endpoint.Logged sent) {request : ExchangeRequest} {asked : Http.Request}
    (sends : endpoint.Sends sent request asked) : asked.Posts endpoint.address request.fields :=
  (posting_exchange logged request).posts sends

/-- All that is sent for an exchange is a form with the fields of its kind, and for a device code one with the
client, the scopes and the audience. Two exchanges send one body exactly if they ask for the same, and none sends
the body of a request for a device code. Nothing is obtained without a form that was sent. -/
theorem forms_tell_apart (logged : endpoint.Logged sent) :
    (∀ clientId clientSecret audience asked,
      endpoint.Sends sent (.clientCredentials clientId clientSecret audience) asked →
      asked.IsForm [("grant_type", "client_credentials"), ("client_id", clientId),
        ("client_secret", clientSecret.exposed), ("audience", audience)]) ∧
    (∀ clientId code interval lifetime asked,
      endpoint.Sends sent (.deviceCode clientId code interval lifetime) asked →
      asked.IsForm [("grant_type", "urn:ietf:params:oauth:grant-type:device_code"),
        ("device_code", code), ("client_id", clientId)]) ∧
    (∀ clientId token asked, endpoint.Sends sent (.refreshToken clientId token) asked →
      asked.IsForm [("grant_type", "refresh_token"), ("refresh_token", token),
        ("client_id", clientId)]) ∧
    (∀ issuer address scopes asked,
      ((DeviceCode.sourceAt endpoint.network issuer address).request scopes).Sends sent asked →
      asked.IsForm [("client_id", issuer.clientId), ("scope", Scopes.parameter scopes),
        ("audience", issuer.audience)] ∧
      ∀ request also, endpoint.Sends sent request also → asked.body ≠ also.body) ∧
    (∀ request other asked also, endpoint.Sends sent request asked → endpoint.Sends sent other also →
      (asked.body = also.body ↔ request.Coincides other)) ∧
    (∀ request world response after,
      (endpoint.exchanger.exchange request).outcome world = (.ok response, after) →
      ∃ asked, endpoint.Sends sent request asked) ∧
    ∀ issuer address scopes world code after,
      ((DeviceCode.sourceAt endpoint.network issuer address).request scopes).outcome world =
        (.ok code, after) →
      ∃ asked, ((DeviceCode.sourceAt endpoint.network issuer address).request scopes).Sends sent asked := by
  have codes (issuer : Issuer) (address : String) (scopes : List String) :
      ((DeviceCode.sourceAt endpoint.network issuer address).request scopes).Posting sent address
        (DeviceCode.requestFields issuer scopes) := Act.posting_answer logged.network
  refine ⟨fun clientId clientSecret audience asked sends => (logged.posts sends).isForm,
    fun clientId code interval lifetime asked sends => (logged.posts sends).isForm,
    fun clientId token asked sends => (logged.posts sends).isForm,
    fun issuer address scopes asked sends => ?_, fun request other asked also sends sends_ => ?_,
    fun request world response after ended => ?_, fun issuer address scopes world code after ended => ?_⟩
  · have posts := (codes issuer address scopes).posts sends
    refine ⟨posts.isForm, fun request also exchanges same => ?_⟩
    have fields := ((logged.posts exchanges).body_eq_iff posts).mp same.symm
    exact request.fields_ne_requestFields issuer scopes fields
  · rw [(logged.posts sends).body_eq_iff (logged.posts sends_), ExchangeRequest.fields_eq_iff]
  · exact (posting_exchange logged request).exists_sends ended
  · exact (codes issuer address scopes).exists_sends ended

end TokenEndpoint

namespace Mail

def endpoint : TokenEndpoint (StateM Mail) := machine.tokenEndpoint { token := "http://issuer/token" }

/-- A secret that looks like the end of its field and another audience. -/
def confusing : ExchangeRequest := .clientCredentials "c" ⟨"s&audience=a+%20é"⟩ "b"

/-- What the other request would be if the secret were taken for what it looks like. -/
def confused : ExchangeRequest := .clientCredentials "c" ⟨"s"⟩ "a+%20é&audience=b"

theorem confusing_forms_told_apart : ∃ asked also polled renewed posted,
    endpoint.Sends Mail.sent confusing asked ∧ endpoint.Sends Mail.sent confused also ∧
    endpoint.Sends Mail.sent (.deviceCode "c" "r&client_id=c" 5 900) polled ∧
    endpoint.Sends Mail.sent (.refreshToken "c" "r&client_id=c") renewed ∧
    ((DeviceCode.sourceAt endpoint.network issuer "http://issuer/device").request ["read"]).Sends Mail.sent
      posted ∧
    Form.decode asked.body = some [("grant_type", "client_credentials"), ("client_id", "c"),
      ("client_secret", "s&audience=a+%20é"), ("audience", "b")] ∧ asked.body ≠ also.body ∧
    Form.decode polled.body = some [("grant_type", "urn:ietf:params:oauth:grant-type:device_code"),
      ("device_code", "r&client_id=c"), ("client_id", "c")] ∧
    Form.decode renewed.body = some [("grant_type", "refresh_token"), ("refresh_token", "r&client_id=c"),
      ("client_id", "c")] ∧ polled.body ≠ renewed.body ∧
    Form.decode posted.body = some [("client_id", "client"), ("scope", "openid read"),
      ("audience", "issued")] ∧ posted.body ≠ renewed.body := by
  have logged : endpoint.Logged Mail.sent := ⟨logged.network, logged.now, logged.sleep⟩
  obtain ⟨credentials, codes, tokens, devices, same, obtains, obtains_code⟩ :=
    TokenEndpoint.forms_tell_apart logged
  have answers (request : ExchangeRequest) (ok : ((endpoint.exchanger.exchange request).outcome
      ⟨[Line.issuing "3600"], []⟩).1.toOption.isSome) : ∃ asked, endpoint.Sends Mail.sent request asked := by
    obtain ⟨response, found⟩ := Option.isSome_iff_exists.mp ok
    exact obtains request _ response _ (Prod.ext (eq_ok_of_toOption found) rfl)
  have apart {request other : ExchangeRequest} {asked also : Http.Request}
      (sends : endpoint.Sends Mail.sent request asked) (sends_ : endpoint.Sends Mail.sent other also)
      (differ : request.fields ≠ other.fields) : asked.body ≠ also.body := fun equal =>
    differ ((ExchangeRequest.fields_eq_iff _ _).mpr ((same _ _ _ _ sends sends_).mp equal))
  obtain ⟨asked, sends⟩ := answers confusing (by decide +kernel)
  obtain ⟨also, sends_⟩ := answers confused (by decide +kernel)
  obtain ⟨polled, polls⟩ := answers (.deviceCode "c" "r&client_id=c" 5 900) (by decide +kernel)
  obtain ⟨renewed, renews⟩ := answers (.refreshToken "c" "r&client_id=c") (by decide +kernel)
  have offered : (((DeviceCode.sourceAt endpoint.network issuer "http://issuer/device").request
      ["read"]).outcome ⟨[offering], []⟩).1.toOption.isSome := by decide +kernel
  obtain ⟨code, found⟩ := Option.isSome_iff_exists.mp offered
  obtain ⟨posted, posts⟩ := obtains_code _ _ _ _ code _ (Prod.ext (eq_ok_of_toOption found) rfl)
  obtain ⟨form, other⟩ := devices _ _ _ _ posts
  exact ⟨asked, also, polled, renewed, posted, sends, sends_, polls, renews, posts,
    (credentials _ _ _ _ sends).body, apart sends sends_ (by decide), (codes _ _ _ _ _ polls).body,
    (tokens _ _ _ renews).body, apart polls renews (by decide), form.body, other _ _ renews⟩

end Mail
end GrantKeeper
