import Mathlib.Data.List.Count
import GrantKeeper.Proofs.Faults
import GrantKeeper.Proofs.Http.Rejection

/-! What sending a request uses: which tokens are looked up, what is given to the service, and what is
invalidated, in their order. The source and the service are any effects on a world that they share; a
sender whose uses are put down does to the world what the sender itself does. -/
namespace GrantKeeper.Http

/-! Requests and tokens, as headers have them. -/

/-- The first authorization of a request is not empty. -/
def Request.Presets (request : Request) : Prop :=
  ∃ before header after, request.headers = before ++ header :: after ∧
    (∀ other ∈ before, other.name ≠ "authorization") ∧
    header.name = "authorization" ∧ header.value ≠ []

theorem Request.presets_iff (request : Request) : request.Presets ↔ request.isAuthorized := by
  constructor
  · rintro ⟨before, header, after, split, none_before, named, full⟩
    have first : request.authorization? = some header := by
      refine List.find?_eq_some_iff_append.mpr ⟨by simp [named, authorizationName], before, after,
        split, ?_⟩
      intro other member
      simpa [authorizationName] using none_before other member
    simp [isAuthorized, first, full]
  · intro authorized
    obtain ⟨header, first, full⟩ := Option.any_eq_true _ _ |>.mp authorized
    obtain ⟨named, before, after, split, none_before⟩ := List.find?_eq_some_iff_append.mp first
    refine ⟨before, header, after, split, fun other member => ?_, ?_, by
      simpa using full⟩
    · simpa [authorizationName] using none_before other member
    · simpa [authorizationName] using named

instance (request : Request) : Decidable request.Presets :=
  decidable_of_iff _ request.presets_iff.symm

/-- No byte of what a token is shown as is a control character other than a tab. -/
def Legal (token : Token) : Prop :=
  ∀ b ∈ Utf8.encode ("Bearer " ++ token.accessToken), b = 0x09 ∨ 0x20 ≤ b ∧ b ≠ 0x7F

instance (token : Token) : Decidable (Legal token) :=
  inferInstanceAs (Decidable (∀ b ∈ Utf8.encode ("Bearer " ++ token.accessToken), _))

theorem legal_iff (token : Token) : Legal token ↔ ∃ header, bearer? token = some header := by
  have bytes : Legal token ↔ (Utf8.encode token.authorization).all isHeaderByte := by
    simp [Legal, Token.authorization, isHeaderByte, or_comm]
  by_cases all : (Utf8.encode token.authorization).all isHeaderByte
  · exact iff_of_true (bytes.mpr all) ⟨_, if_pos all⟩
  · exact iff_of_false (all ∘ bytes.mp) (by simp [bearer?, all])

/-- What is sent is a request with a token as its only authorization, and in nothing else different. -/
structure Request.Bears (request : Request) (token : Token) (sent : Request) : Prop where
  method : sent.method = request.method
  url : sent.url = request.url
  body : sent.body = request.body
  others : sent.headers.filter (·.name != "authorization") =
    request.headers.filter (·.name != "authorization")
  authorization : sent.headers.filter (·.name == "authorization") =
    [⟨"authorization", Utf8.encode ("Bearer " ++ token.accessToken), true⟩]

theorem Request.bears_withAuthorization (request : Request) {token : Token} {header : Header}
    (shown : bearer? token = some header) :
    request.Bears token (request.withAuthorization header) := by
  obtain rfl := bearer?_eq_some shown
  refine ⟨rfl, rfl, rfl, ?_, ?_⟩
  · simp [withAuthorization, authorizationName]
  · simp [withAuthorization, authorizationName, List.filter_filter]

/-! Uses of a source and a service. -/

/-- A use of a token source or of a service, with what came of it. -/
inductive Use
  | lookup (given : Except Failure Token)
  | forward (sent : Request) (answer : Except String Response)
  | invalidation (ended : Except Failure Unit)

namespace Use

@[simp] def isLookup : Use → Bool
  | lookup _ => true
  | _ => false

/-- A token was looked up that can be shown. -/
@[simp] def isLegal : Use → Bool
  | lookup (.ok token) => decide (Legal token)
  | _ => false

@[simp] def isForward : Use → Bool
  | forward .. => true
  | _ => false

/-- What was forwarded was not authorized. -/
@[simp] def isRefusal : Use → Bool
  | forward _ (.ok response) => response.status == 401
  | _ => false

@[simp] def isInvalidation : Use → Bool
  | invalidation _ => true
  | _ => false

end Use

variable {σ α β : Type}

/-- An effect that is put down with what came of it. -/
def noted (note : α → Use) (effect : StateM σ α) : StateT (List Use) (StateM σ) α := do
  let value ← StateT.lift effect
  modify (· ++ [note value])
  return value

/-- An effect ends with a value in a world, and so does one that puts these uses down. -/
structure Puts (plain : StateM σ α) (noting : StateT (List Use) (StateM σ) α) (world : σ) (value : α)
    (made : List Use) (after : σ) : Prop where
  run : plain.run world = (value, after)
  noted : ∀ uses, (noting.run uses).run world = ((value, uses ++ made), after)

theorem puts_pure (value : α) (world : σ) : Puts (pure value) (pure value) world value [] world :=
  ⟨rfl, fun uses => by rw [List.append_nil]; rfl⟩

theorem puts_noted (note : α → Use) {effect : StateM σ α} {world after : σ} {value : α}
    (ran : effect.run world = (value, after)) :
    Puts effect (noted note effect) world value [note value] after := by
  refine ⟨ran, fun uses => ?_⟩
  simp only [Http.noted, StateT.run_bind_run, StateT.run_lift_run, ran]
  rfl

theorem Puts.bind {plain : StateM σ α} {noting : StateT (List Use) (StateM σ) α} {value : α}
    {next : α → StateM σ β} {noting_next : α → StateT (List Use) (StateM σ) β} {result : β}
    {world after last : σ} {made more : List Use} (first : Puts plain noting world value made after)
    (rest : Puts (next value) (noting_next value) after result more last) :
    Puts (plain >>= next) (noting >>= noting_next) world result (made ++ more) last := by
  constructor
  · rw [StateT.run_bind, first.run]
    exact rest.run
  · intro uses
    rw [StateT.run_bind_run, first.noted]
    simp only [rest.noted, List.append_assoc]

theorem Puts.bind_pure {plain : StateM σ α} {noting : StateT (List Use) (StateM σ) α} {value : α}
    {world after : σ} {made : List Use} (first : Puts plain noting world value made after)
    (use : α → β) :
    Puts (plain >>= fun value => pure (use value)) (noting >>= fun value => pure (use value)) world
      (use value) made after := by
  rw [← List.append_nil made]
  exact first.bind (puts_pure (use value) after)

def notedSource (source : TokenSource (StateM σ)) :
    TokenSource (StateT (List Use) (StateM σ)) where
  token := .mk (noted .lookup source.token.run)
  invalidate := .mk (noted .invalidation source.invalidate.run)

def notedService (service : Request → StateM σ (Except String Response)) (sent : Request) :
    StateT (List Use) (StateM σ) (Except String Response) :=
  noted (.forward sent) (service sent)

variable (source : TokenSource (StateM σ)) (service : Request → StateM σ (Except String Response))

/-- How one request is sent: its result, the uses for it, and the world after the last of them. -/
inductive Trace (request : Request) (world : σ) :
    Except SendFailure Response → List Use → σ → Prop
  /-- The request goes as it is, whatever comes of that. -/
  | preset {answer : Except String Response} {after : σ} :
    request.Presets → (service request).run world = (answer, after) →
    Trace request world (answer.mapError .service) [.forward request answer] after
  | tokenless {failure : Failure} {after : σ} :
    ¬request.Presets → source.token.outcome world = (.error failure, after) →
    Trace request world (.error (.token failure)) [.lookup (.error failure)] after
  | illegal {token : Token} {after : σ} :
    ¬request.Presets → source.token.outcome world = (.ok token, after) → ¬Legal token →
    Trace request world (.error .headerValue) [.lookup (.ok token)] after
  | answered {token : Token} {sent : Request} {answer : Except String Response} {after last : σ} :
    ¬request.Presets → source.token.outcome world = (.ok token, after) → Legal token →
    request.Bears token sent → (service sent).run after = (answer, last) →
    (∀ response, answer = .ok response → response.status ≠ 401) →
    Trace request world (answer.mapError .service)
      [.lookup (.ok token), .forward sent answer] last
  /-- An error of the invalidation changes nothing. -/
  | refused {token : Token} {sent : Request} {response : Response} {after last end_ : σ}
    {ended : Except Failure Unit} :
    ¬request.Presets → source.token.outcome world = (.ok token, after) → Legal token →
    request.Bears token sent → (service sent).run after = (.ok response, last) →
    response.status = 401 → source.invalidate.outcome last = (ended, end_) → ¬Faulted ended →
    Trace request world (.ok response)
      [.lookup (.ok token), .forward sent (.ok response), .invalidation ended] end_
  | faulted {token : Token} {sent : Request} {response : Response} {after last end_ : σ}
    {fault : Fault} :
    ¬request.Presets → source.token.outcome world = (.ok token, after) → Legal token →
    request.Bears token sent → (service sent).run after = (.ok response, last) →
    response.status = 401 → source.invalidate.outcome last = (.error (.fault fault), end_) →
    Trace request world (.error (.token (.fault fault)))
      [.lookup (.ok token), .forward sent (.ok response), .invalidation (.error (.fault fault))] end_

variable {source service} {request : Request} {world : σ}

/-! The sender, one effect at a time. -/

theorem puts_of_presets (preset : request.Presets) {answer : Except String Response} {after : σ}
    (answered : (service request).run world = (answer, after)) :
    Puts (sendAuthorized source service request)
      (sendAuthorized (notedSource source) (notedService service) request) world
      (answer.mapError .service) [.forward request answer] after := by
  simp only [sendAuthorized, if_pos (request.presets_iff.mp preset)]
  refine (puts_noted (.forward request) answered).bind ?_
  cases answer <;> exact puts_pure _ after

section
variable {token : Token} {header : Header} {answer : Except String Response} {response : Response}
  {after last end_ : σ}

theorem puts_of_answered (gave : source.token.outcome world = (.ok token, after))
    (shown : bearer? token = some header)
    (answered : (service (request.withAuthorization header)).run after = (answer, last))
    (accepted : ∀ response, answer = .ok response → response.status ≠ 401) :
    Puts (sendWithToken source service request)
      (sendWithToken (notedSource source) (notedService service) request) world
      (answer.mapError .service)
      [.lookup (.ok token), .forward (request.withAuthorization header) answer] last := by
  simp only [sendWithToken]
  refine (puts_noted .lookup gave).bind ?_
  simp only [shown]
  refine (puts_noted (.forward _) answered).bind ?_
  cases answer with
  | error detail => exact puts_pure _ last
  | ok response =>
    simp only [if_neg (accepted response rfl)]
    exact puts_pure _ last

/-- What a refused request ends with, after the invalidation. -/
def refusedResult (response : Response) : Except Failure Unit → Except SendFailure Response
  | .error (.fault fault) => .error (.token (.fault fault))
  | _ => .ok response

theorem puts_of_refused (gave : source.token.outcome world = (.ok token, after))
    (shown : bearer? token = some header)
    (answered : (service (request.withAuthorization header)).run after = (.ok response, last))
    (status : response.status = 401) {ended : Except Failure Unit}
    (invalidated : source.invalidate.outcome last = (ended, end_)) :
    Puts (sendWithToken source service request)
      (sendWithToken (notedSource source) (notedService service) request) world
      (refusedResult response ended)
      [.lookup (.ok token), .forward (request.withAuthorization header) (.ok response),
        .invalidation ended] end_ := by
  simp only [sendWithToken]
  refine (puts_noted .lookup gave).bind ?_
  simp only [shown]
  refine (puts_noted (.forward _) answered).bind ?_
  simp only [if_pos status]
  refine (puts_noted .invalidation invalidated).bind ?_
  rcases ended with (error | fault) | done <;> exact puts_pure _ end_

end

/-- A request without an authorization is what the two do, one after the other. -/
theorem trace_of_not_presets (unset : ¬request.Presets) :
    ∃ result made after,
      Puts (sendWithToken source service request)
        (sendWithToken (notedSource source) (notedService service) request) world result made after ∧
      Trace source service request world result made after := by
  rcases gave : source.token.outcome world with ⟨failure | token, after⟩
  · exact ⟨_, _, after, (puts_noted .lookup gave).bind (puts_pure _ after), .tokenless unset gave⟩
  by_cases legal : Legal token
  case neg =>
    have unshown : bearer? token = none :=
      Option.eq_none_iff_forall_ne_some.mpr fun header shown =>
        legal ((legal_iff token).mpr ⟨header, shown⟩)
    refine ⟨_, _, after, (puts_noted .lookup gave).bind ?_, .illegal unset gave legal⟩
    simp only [unshown]
    exact puts_pure _ after
  obtain ⟨header, shown⟩ := (legal_iff token).mp legal
  have bears := request.bears_withAuthorization shown
  rcases answered : (service (request.withAuthorization header)).run after with ⟨answer, last⟩
  by_cases refusal : ∃ response, answer = .ok response ∧ response.status = 401
  case neg =>
    have accepted (response : Response) (ok : answer = .ok response) : response.status ≠ 401 :=
      fun status => refusal ⟨response, ok, status⟩
    exact ⟨_, _, last, puts_of_answered gave shown answered accepted,
      .answered unset gave legal bears answered accepted⟩
  obtain ⟨response, rfl, status⟩ := refusal
  rcases invalidated : source.invalidate.outcome last with ⟨ended, end_⟩
  refine ⟨_, _, end_, puts_of_refused gave shown answered status invalidated, ?_⟩
  rcases ended with (error | fault) | done
  · exact .refused unset gave legal bears answered status invalidated (not_faulted_error error)
  · exact .faulted unset gave legal bears answered status invalidated
  · exact .refused unset gave legal bears answered status invalidated (not_faulted_ok done)

variable (source service) in
theorem trace_of_request (request : Request) (world : σ) :
    ∃ result made after,
      Puts (sendAuthorized source service request)
        (sendAuthorized (notedSource source) (notedService service) request) world result made after ∧
      Trace source service request world result made after := by
  by_cases preset : request.Presets
  · rcases answered : (service request).run world with ⟨answer, after⟩
    exact ⟨_, _, after, puts_of_presets preset answered, .preset preset answered⟩
  · have unauthorized : ¬request.isAuthorized := preset ∘ request.presets_iff.mpr
    simp only [sendAuthorized, if_neg unauthorized]
    exact trace_of_not_presets preset

/-! Requests one after the other. -/

structure Call where
  request : Request
  result : Except SendFailure Response
  uses : List Use

variable (source service) in
/-- Calls one after the other, each in the world that the one before left. -/
inductive Calls : σ → List Call → σ → Prop
  | none {world : σ} : Calls world [] world
  | next {call : Call} {calls : List Call} {world after last : σ} :
    Trace source service call.request world call.result call.uses after →
    Calls after calls last → Calls world (call :: calls) last

variable (source service) in
theorem calls_of_requests (requests : List Request) (world : σ) :
    ∃ calls after, calls.map Call.request = requests ∧
      Puts (requests.mapM (sendAuthorized source service))
        (requests.mapM (sendAuthorized (notedSource source) (notedService service))) world
        (calls.map Call.result) (calls.flatMap Call.uses) after ∧
      Calls source service world calls after := by
  induction requests generalizing world with
  | nil => exact ⟨[], world, rfl, puts_pure _ world, .none⟩
  | cons request requests ih =>
    obtain ⟨result, made, after, puts, trace⟩ :=
      trace_of_request source service request world
    obtain ⟨calls, last, rfl, rest, later⟩ := ih after
    refine ⟨⟨request, result, made⟩ :: calls, last, rfl, ?_, .next trace later⟩
    simp only [List.mapM_cons]
    exact puts.bind (rest.bind_pure (result :: ·))

/-! How often the source and the service are used. -/

/-- Lookups, forwards and invalidations, as the requests and the answers have it: what is not
authorized needs a lookup; what is, and what gets a token that can be shown, is forwarded; and what
shows a token and gets a 401 is followed by an invalidation. -/
structure Counted (calls : List Call) : Prop where
  lookups : (calls.flatMap Call.uses).countP Use.isLookup =
    calls.countP fun call => ¬call.request.Presets
  forwards : (calls.flatMap Call.uses).countP Use.isForward =
    calls.countP (·.request.Presets) + (calls.flatMap Call.uses).countP Use.isLegal
  invalidations : (calls.flatMap Call.uses).countP Use.isInvalidation =
    calls.countP fun call => ¬call.request.Presets ∧ call.uses.any Use.isRefusal

theorem Trace.counted {result : Except SendFailure Response} {made : List Use} {after : σ}
    (trace : Trace source service request world result made after) :
    Counted [⟨request, result, made⟩] := by
  cases trace with
  | preset preset => constructor <;> simp [List.countP_cons, preset]
  | tokenless unset => constructor <;> simp [List.countP_cons, unset]
  | illegal unset _ illegal => constructor <;> simp [List.countP_cons, unset, illegal]
  | @answered token sent answer _ _ unset _ legal _ _ accepted =>
    cases answer with
    | error => constructor <;> simp [List.countP_cons, unset, legal]
    | ok response =>
      constructor <;> simp [List.countP_cons, unset, legal, accepted response rfl]
  | refused unset _ legal _ _ status | faulted unset _ legal _ _ status =>
    constructor <;> simp [List.countP_cons, unset, legal, status]

theorem Counted.append {calls more : List Call} (first : Counted calls) (rest : Counted more) :
    Counted (calls ++ more) := by
  obtain ⟨lookups, forwards, invalidations⟩ := first
  obtain ⟨lookups', forwards', invalidations'⟩ := rest
  constructor <;> simp only [List.flatMap_append, List.countP_append] <;> omega

theorem Calls.counted {calls : List Call} {last : σ} (run : Calls source service world calls last) :
    Counted calls := by
  induction run with
  | none => exact ⟨rfl, rfl, rfl⟩
  | next trace _ ih => exact trace.counted.append ih

/-- However a source and a service behave, and whatever is sent through them, one after the other: each
request is sent as its trace tells, and nothing else is done to the world; and this is how often tokens
are looked up, requests forwarded and tokens invalidated. -/
theorem requests_traced (source : TokenSource (StateM σ))
    (service : Request → StateM σ (Except String Response)) (requests : List Request) (world : σ) :
    ∃ calls after, calls.map Call.request = requests ∧
      (requests.mapM (sendAuthorized source service)).run world = (calls.map Call.result, after) ∧
      ((requests.mapM (sendAuthorized (notedSource source) (notedService service))).run []).run world =
        ((calls.map Call.result, calls.flatMap Call.uses), after) ∧
      Calls source service world calls after ∧ Counted calls := by
  obtain ⟨calls, after, same, puts, run⟩ :=
    calls_of_requests source service requests world
  exact ⟨calls, after, same, puts.run, by simpa using puts.noted [], run, run.counted⟩

/-- A response of 401 is given also if the token cannot be invalidated. -/
example :
    (((sendAuthorized (notedSource ⟨pure { accessToken := "a" }, Act.fail .noAuthenticationData⟩)
      (notedService fun _ => pure (.ok ⟨401, []⟩)) Wire.address).run []).run ()).1.1 =
      .ok ⟨401, []⟩ := by
  rfl

end GrantKeeper.Http
