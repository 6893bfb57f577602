import Mathlib.Data.List.Basic
import GrantKeeper.Http.Bearer
import GrantKeeper.Proofs.Credential.Provider
import GrantKeeper.Proofs.Json.Text

/-! Requests through one provider, one after the other. The token in its cache is always the one that
was shown last, so a service that refuses one makes it unusable, whether or not that could be written;
and a token comes into the cache from an exchange only. -/
namespace GrantKeeper.Http

open TokenProvider (Holding)

/-! Headers that show access tokens. -/

def Request.Shows (request : Request) (access : String) : Prop :=
  request.authorization? = some ⟨authorizationName, Utf8.encode ("Bearer " ++ access), true⟩

theorem bearer?_eq_some {token : Token} {header : Header} (shown : bearer? token = some header) :
    header = ⟨authorizationName, Utf8.encode ("Bearer " ++ token.accessToken), true⟩ := by
  simp only [bearer?] at shown
  split at shown
  · exact (Option.some.inj shown).symm
  · cases shown

theorem authorization?_withAuthorization (request : Request) {header : Header}
    (named : header.name = authorizationName) :
    (request.withAuthorization header).authorization? = some header := by
  have others : (request.headers.filter (·.name != authorizationName)).find?
      (·.name == authorizationName) = none := by
    simp [List.find?_eq_none]
  rw [Request.authorization?, Request.withAuthorization, List.find?_append, others]
  simp [named]

theorem accessToken_of_shows {request : Request} {token : Token} {header : Header} {access : String}
    (made : bearer? token = some header) (shows_ : (request.withAuthorization header).Shows access) :
    token.accessToken = access := by
  obtain rfl := bearer?_eq_some made
  rw [Request.Shows, authorization?_withAuthorization request rfl] at shows_
  have bytes : Utf8.encode ("Bearer " ++ token.accessToken) = Utf8.encode ("Bearer " ++ access) :=
    congrArg Header.value (Option.some.inj shows_)
  have texts := congrArg Utf8.decode? bytes
  rw [Utf8.decode?_encode, Utf8.decode?_encode] at texts
  exact String.append_right_inj _ |>.mp (Option.some.inj texts)

/-! What is seen of requests. -/

inductive Traffic
  | exchanged (exchange : Exchange)
  | sent (request : Request) (answer : Except String Response)

/-- An exchange gave an access token. -/
def Traffic.Gave (access : String) (traffic : List Traffic) : Prop :=
  ∃ request response, .exchanged (request, .ok response) ∈ traffic ∧ response.accessToken = access

theorem Traffic.Gave.mono {access : String} {some_ all : List Traffic} (gave : Gave access some_)
    (part : some_ ⊆ all) : Gave access all := by
  obtain ⟨request, response, member, same⟩ := gave
  exact ⟨request, response, part member, same⟩

variable {σ : Type}

/-- A provider and a service of which all exchanges and all requests are seen, and nothing else is. -/
structure Observed (provider : TokenProvider (StateM σ))
    (service : Request → StateM σ (Except String Response)) (traffic : σ → List Traffic) : Prop where
  exchange : ∀ request world, traffic ((provider.exchanger.exchange request).outcome world).2 =
    traffic world ++ [.exchanged (request, ((provider.exchanger.exchange request).outcome world).1)]
  service : ∀ request world, traffic ((service request).run world).2 =
    traffic world ++ [.sent request ((service request).run world).1]
  write : ∀ item world, traffic ((provider.keyring.set item).outcome world).2 = traffic world
  clock : ∀ world, traffic (provider.clock.run world).2 = traffic world
  count : ∀ event world, traffic ((provider.count event).run world).2 = traffic world

variable {provider : TokenProvider (StateM σ)}
  {service : Request → StateM σ (Except String Response)} {traffic : σ → List Traffic}

namespace Observed

theorem token? (observed : Observed provider service traffic) (credential : Credential) (world : σ) :
    traffic ((Cache.token? provider.clock).ending credential world).2.2 = traffic world := by
  rw [Cache.ending_token?]
  cases credential.grant.token with
  | none => rfl
  | some token => exact observed.clock world

theorem refresh (observed : Observed provider service traffic) (grant : Grant) (world : σ) :
    ∃ asked, traffic ((Grant.refresh provider.exchanger provider.clock).ending grant world).2.2 =
        traffic world ++ asked ∧
      (∀ request answer, .sent request answer ∉ asked) ∧
      ∀ token, ((Grant.refresh provider.exchanger provider.clock).ending grant world).1 = .ok token →
        Traffic.Gave token.accessToken asked := by
  have renews := Grant.renews_refresh provider.exchanger provider.clock grant world
  generalize (Grant.refresh provider.exchanger provider.clock).ending grant world = ended
    at renews ⊢
  cases renews with
  | refused => exact ⟨[], by simp, by simp, by simp⟩
  | @unanswered request failure after _ exchange =>
    have seen := observed.exchange request world
    rw [exchange] at seen
    exact ⟨_, seen, by simp, by simp⟩
  | @unissued request response after fault _ exchange =>
    have seen := observed.exchange request world
    rw [exchange] at seen
    exact ⟨_, (observed.clock after).trans seen, by simp, by simp⟩
  | @renewed request response after token _ exchange issued =>
    have seen := observed.exchange request world
    rw [exchange] at seen
    refine ⟨_, (observed.clock after).trans seen, by simp, ?_⟩
    rintro _ ⟨⟩
    refine ⟨request, response, List.mem_singleton_self _, ?_⟩
    rw [Grant.accessToken_tokenFrom issued]

theorem update (observed : Observed provider service traffic) (token : Token)
    (credential : Credential) (world : σ) :
    traffic ((Cache.update provider.keyring token).ending credential world).2.2 = traffic world := by
  rw [Cache.ending_update, Cache.ending_persist]
  exact observed.write _ world

theorem invalidate (observed : Observed provider service traffic) (holding : Holding) (world : σ) :
    traffic (provider.invalidate.ending holding world).2.2 = traffic world := by
  rw [TokenProvider.ending_invalidate, Cache.ending_invalidate]
  cases Cache.cleared? holding.credential with
  | none => exact observed.count .invalidated world
  | some token =>
    simp only [Cache.ending_persist]
    rw [observed.write, observed.count .invalidated world]

end Observed

/-! Access tokens that are not in a cache. -/

/-- An access token is not in the cache, where it could be used again. -/
def Spent (access : String) (holding : Holding) : Prop :=
  ∀ token, holding.credential.grant.token = some token → token.hasAccessToken →
    token.accessToken ≠ access

theorem spent_invalidate (provider : TokenProvider (StateM σ)) (holding : Holding) (world : σ)
    (access : String) :
    Spent access (provider.invalidate.ending holding world).2.1 := by
  rcases TokenProvider.held_invalidate provider holding world with ⟨nothing, same⟩ | ⟨_, _, _, same⟩
  · rw [same]
    intro token held access
    rw [TokenProvider.cleared?, Cache.cleared?, held] at nothing
    simp [access] at nothing
  · rw [same]
    rintro _ ⟨⟩ has
    cases has

/-- Giving out a token sends nothing. A token that is given out is the one in the cache then, and what
was spent comes back by an exchange only. -/
theorem Observed.token (observed : Observed provider service traffic) (holding : Holding)
    (world : σ) :
    ∃ asked, traffic (provider.token.ending holding world).2.2 = traffic world ++ asked ∧
      (∀ request answer, .sent request answer ∉ asked) ∧
      (∀ token, (provider.token.ending holding world).1 = .ok token →
        (provider.token.ending holding world).2.1.credential.grant.token = some token ∧
          ∀ access, Spent access holding → token.accessToken = access → Traffic.Gave access asked) ∧
      ∀ access, Spent access holding → ¬Traffic.Gave access asked →
        Spent access (provider.token.ending holding world).2.1 := by
  have reading := observed.token? holding.credential world
  have gives := TokenProvider.gives_token provider holding world
  generalize provider.token.ending holding world = ended at gives ⊢
  cases gives with
  | @cached token after read =>
    rw [read] at reading
    refine ⟨[], by simpa using reading, by simp, ?_, fun _ spent _ => spent⟩
    rintro _ ⟨⟩
    obtain ⟨present, access⟩ := Cache.token?_eq_some read
    exact ⟨present, fun _ spent same => absurd same (spent token present access)⟩
  | unread read =>
    rw [read] at reading
    exact ⟨[], by simpa using reading, by simp, by simp, fun _ spent _ => spent⟩
  | @unrenewed _ _ after last read refresh =>
    obtain ⟨asked, seen, quiet, -⟩ := observed.refresh holding.grant after
    rw [read] at reading
    rw [refresh, reading] at seen
    exact ⟨asked, (observed.count _ last).trans seen, quiet, by simp, fun _ spent _ => spent⟩
  | @faulted _ _ after last read refresh =>
    obtain ⟨asked, seen, quiet, -⟩ := observed.refresh holding.grant after
    rw [read] at reading
    rw [refresh, reading] at seen
    exact ⟨asked, seen, quiet, by simp, fun _ spent _ => spent⟩
  | @renewed token grant after last end_ credential result read refresh update =>
    obtain ⟨asked, seen, quiet, gave⟩ := observed.refresh holding.grant after
    rw [read] at reading
    rw [refresh, reading] at seen
    have wrote := observed.update token holding.credential ((provider.count .refreshed).run last).2
    rw [update, observed.count, seen] at wrote
    have gave := gave token (by rw [refresh])
    rw [Cache.ending_update, Cache.ending_persist] at update
    cases update
    refine ⟨asked, wrote, quiet, ?_, ?_⟩
    · intro given ok
      have same : token = given := by
        revert ok
        cases ((provider.keyring.set _).outcome _).1 <;> simp [Except.map, Except.mapError]
      subst same
      exact ⟨rfl, fun _ _ same => same ▸ gave⟩
    · rintro access - never _ ⟨⟩ - rfl
      exact never gave

/-! Requests. -/

/-- A request is sent in a world, by what holds something: the result, what is held then, and the world
then. -/
def handle (provider : TokenProvider (StateM σ))
    (service : Request → StateM σ (Except String Response)) (request : Request) (holding : Holding)
    (world : σ) : Except SendFailure Response × Holding × σ :=
  let ((result, held), after) :=
    ((sendAuthorized provider.source (fun request => StateT.lift (service request)) request).run
      holding).run world
  (result, held, after)

/-- How sending a request without an authorization may end. -/
inductive Handles (provider : TokenProvider (StateM σ))
    (service : Request → StateM σ (Except String Response)) (request : Request) (holding : Holding)
    (world : σ) : Except SendFailure Response × Holding × σ → Prop
  | tokenless {failure : Failure} {held : Holding} {after : σ} :
    provider.token.ending holding world = (.error failure, held, after) →
    Handles provider service request holding world (.error (.token failure), held, after)
  | unshown {token : Token} {held : Holding} {after : σ} :
    provider.token.ending holding world = (.ok token, held, after) → bearer? token = none →
    Handles provider service request holding world (.error .headerValue, held, after)
  /-- Nothing is invalidated. -/
  | sent {token : Token} {held : Holding} {after last : σ} {header : Header}
    {answer : Except String Response} :
    provider.token.ending holding world = (.ok token, held, after) → bearer? token = some header →
    (service (request.withAuthorization header)).run after = (answer, last) →
    (∀ response, answer = .ok response → response.status ≠ 401) →
    Handles provider service request holding world (answer.mapError .service, held, last)
  | refused {token : Token} {held cleared : Holding} {after last end_ : σ} {header : Header}
    {response : Response} {result : Except Failure Unit} {given : Except SendFailure Response} :
    provider.token.ending holding world = (.ok token, held, after) → bearer? token = some header →
    (service (request.withAuthorization header)).run after = (.ok response, last) →
    response.status = 401 →
    provider.invalidate.ending held last = (result, cleared, end_) →
    Handles provider service request holding world (given, cleared, end_)

theorem handle_of_isAuthorized (provider : TokenProvider (StateM σ))
    (service : Request → StateM σ (Except String Response)) {request : Request}
    (preset : request.isAuthorized) (holding : Holding) (world : σ) :
    (handle provider service request holding world).2 =
      (holding, ((service request).run world).2) := by
  simp only [handle, sendAuthorized, if_pos preset, StateT.run_bind, StateT.run_lift]
  rcases (service request).run world with ⟨_ | _, _⟩ <;> rfl

theorem handles_handle (provider : TokenProvider (StateM σ))
    (service : Request → StateM σ (Except String Response)) {request : Request}
    (unset : ¬request.isAuthorized) (holding : Holding) (world : σ) :
    Handles provider service request holding world
      (handle provider service request holding world) := by
  simp only [handle, sendAuthorized, if_neg unset, sendWithToken, StateT.run_bind_run,
    TokenProvider.source]
  rcases gave : provider.token.ending holding world with ⟨failure | token, held, after⟩ <;>
    rw [Act.run_of_ending gave]
  · exact .tokenless gave
  · cases shown : bearer? token with
    | none =>
      simp only [shown]
      exact .unshown gave shown
    | some header =>
      simp only [shown, StateT.run_bind_run, StateT.run_lift_run]
      rcases answered : (service (request.withAuthorization header)).run after with
        ⟨detail | response, last⟩
      · exact .sent gave shown answered (by simp)
      · by_cases status : response.status = 401
        · simp only [if_pos status, StateT.run_bind_run]
          rcases cleared : provider.invalidate.ending held last with ⟨(_ | _) | _, _, _⟩ <;>
            rw [Act.run_of_ending cleared] <;>
            exact .refused gave shown answered status cleared
        · simp only [if_neg status]
          exact .sent gave shown answered (by simpa using status)

theorem eq_of_sent_last {asked earlier later : List Traffic} {request sent : Request}
    {answer given : Except String Response} (quiet : ∀ request answer, .sent request answer ∉ asked)
    (split : asked ++ [.sent request answer] = earlier ++ .sent sent given :: later) :
    earlier = asked ∧ sent = request ∧ given = answer := by
  rcases List.append_eq_append_iff.mp split with ⟨more, rfl, rest⟩ | ⟨more, rfl, rest⟩
  · cases more with
    | nil =>
      cases rest
      exact ⟨List.append_nil _, rfl, rfl⟩
    | cons first more =>
      have ended := congrArg List.length rest
      simp at ended
  · cases more with
    | nil =>
      cases rest
      exact ⟨(List.append_nil _).symm, rfl, rfl⟩
    | cons first more =>
      cases rest
      exact absurd (by simp) (quiet sent given)

/-- What a request brings: an access token that is shown was in the cache before or is given by an
exchange first, and is spent if it is refused; and no other way leads back to one that was spent. -/
theorem Observed.request (observed : Observed provider service traffic) (request : Request)
    (holding : Holding) (world : σ) :
    ∃ gained, traffic (handle provider service request holding world).2.2 = traffic world ++ gained ∧
      (∀ access, Spent access holding → ¬Traffic.Gave access gained →
        Spent access (handle provider service request holding world).2.1) ∧
      (¬request.isAuthorized → ∀ access earlier sent answer later,
        gained = earlier ++ .sent sent answer :: later → sent.Shows access →
        (Spent access holding → Traffic.Gave access earlier) ∧
          ∀ response, answer = .ok response → response.status = 401 →
            Spent access (handle provider service request holding world).2.1) := by
  by_cases preset : request.isAuthorized
  · rw [handle_of_isAuthorized provider service preset]
    exact ⟨_, observed.service request world, fun _ spent _ => spent, fun unset => absurd preset unset⟩
  obtain ⟨asked, seen, quiet, given, spent⟩ := observed.token holding world
  have handles := handles_handle provider service preset holding world
  generalize handle provider service request holding world = ended at handles ⊢
  cases handles with
  | tokenless gave | unshown gave =>
    rw [gave] at seen spent
    refine ⟨asked, seen, spent, fun _ _ earlier sent answer later split => ?_⟩
    exact absurd (by simp [split]) (quiet sent answer)
  | @sent token held after last header answer gave shown answered accepted =>
    rw [gave] at seen spent given
    obtain ⟨-, given⟩ := given token rfl
    have sending := observed.service (request.withAuthorization header) after
    rw [answered, seen, List.append_assoc] at sending
    refine ⟨_, sending, fun access before never => ?_, ?_⟩
    · exact spent access before fun gave => never (gave.mono (by simp))
    · rintro - access earlier sent_ answer_ later split shows_
      obtain ⟨rfl, rfl, rfl⟩ := eq_of_sent_last quiet split
      have same := accessToken_of_shows shown shows_
      exact ⟨fun before => given access before same,
        fun response ok status => absurd status (accepted response ok)⟩
  | @refused token held cleared after last end_ header response result _ gave shown answered status
      invalidated =>
    rw [gave] at seen given
    obtain ⟨-, given⟩ := given token rfl
    have sending := observed.service (request.withAuthorization header) after
    have quietly := observed.invalidate held last
    have cleared := spent_invalidate provider held last
    rw [invalidated] at quietly cleared
    rw [answered, seen, List.append_assoc] at sending
    refine ⟨_, quietly.trans sending, fun access _ _ => cleared access, ?_⟩
    rintro - access earlier sent_ answer_ later split shows_
    obtain ⟨rfl, rfl, rfl⟩ := eq_of_sent_last quiet split
    have same := accessToken_of_shows shown shows_
    exact ⟨fun before => given access before same, fun _ _ _ => cleared access⟩

/-! Runs of requests. -/

/-- A request and what was seen from its beginning to its end. -/
structure Turn where
  request : Request
  traffic : List Traffic

/-- A service refused the access token that it was shown for a request. -/
def Turn.Refused (turn : Turn) (access : String) : Prop :=
  ¬turn.request.isAuthorized ∧ ∃ sent response, .sent sent (.ok response) ∈ turn.traffic ∧
    sent.Shows access ∧ response.status = 401

/-- Runs of requests through one provider, one at a time. Between them the world may move in any way
that is not seen. -/
inductive Runs (provider : TokenProvider (StateM σ))
    (service : Request → StateM σ (Except String Response)) (traffic : σ → List Traffic)
    (first : Holding) (start : σ) : List Turn → Holding → σ → Prop
  | start : Runs provider service traffic first start [] first start
  | request {turns : List Turn} {holding : Holding} {world : σ} (request : Request) :
    Runs provider service traffic first start turns holding world →
    Runs provider service traffic first start
      (turns ++ [⟨request, (traffic (handle provider service request holding world).2.2).drop
        (traffic world).length⟩])
      (handle provider service request holding world).2.1
      (handle provider service request holding world).2.2
  | moved {turns : List Turn} {holding : Holding} {world after : σ} :
    Runs provider service traffic first start turns holding world →
    traffic after = traffic world →
    Runs provider service traffic first start turns holding after

variable {first holding : Holding} {start world : σ} {turns : List Turn}

/-- An access token that was refused is spent, unless an exchange has given it again. -/
theorem Runs.spent (observed : Observed provider service traffic)
    (runs : Runs provider service traffic first start turns holding world)
    {before between : List Turn} {refused : Turn} {access : String}
    (split : turns = before ++ refused :: between) (refusal : refused.Refused access)
    (never : ¬Traffic.Gave access (between.flatMap Turn.traffic)) : Spent access holding := by
  induction runs generalizing between with
  | start => simp at split
  | moved _ _ ih => exact ih split never
  | @request turns holding world request _ ih =>
    obtain ⟨gained, seen, kept, showing⟩ := observed.request request holding world
    rw [seen, List.drop_left] at split
    rcases List.eq_nil_or_concat' between with rfl | ⟨between, last, rfl⟩
    · obtain ⟨rfl, last⟩ := List.append_inj' split rfl
      cases last
      obtain ⟨unset, sent, response, member, shows_, status⟩ := refusal
      obtain ⟨earlier, later, gained⟩ := List.append_of_mem member
      exact (showing unset access earlier sent _ later gained shows_).2 response rfl status
    · rw [← List.cons_append, ← List.append_assoc] at split
      obtain ⟨rfl, last⟩ := List.append_inj' split rfl
      cases last
      rw [List.flatMap_append] at never
      refine kept access (ih rfl ?_) ?_
      · exact fun gave => never (gave.mono (by simp))
      · exact fun gave => never (gave.mono (by simp))

/-- Whatever is needed to have a token fails: there is none in the cache that is usable, and obtaining
one fails, or writing it. -/
inductive Unprovided (provider : TokenProvider (StateM σ)) (holding : Holding) (world : σ) : Prop
  | unrenewed {failure : Failure} {grant : Grant} {after last : σ} :
    (Cache.token? provider.clock).ending holding.credential world =
      (.ok none, holding.credential, after) →
    (Grant.refresh provider.exchanger provider.clock).ending holding.grant after =
      (.error failure, grant, last) →
    Unprovided provider holding world
  | unwritten {token : Token} {grant : Grant} {after last end_ : σ} {failure : Failure}
    {credential : Credential} :
    (Cache.token? provider.clock).ending holding.credential world =
      (.ok none, holding.credential, after) →
    (Grant.refresh provider.exchanger provider.clock).ending holding.grant after =
      (.ok token, grant, last) →
    (Cache.update provider.keyring token).ending holding.credential
      ((provider.count .refreshed).run last).2 = (.error failure, credential, end_) →
    Unprovided provider holding world

theorem Unprovided.fails (unprovided : Unprovided provider holding world) :
    ∃ failure, (provider.token.ending holding world).1 = .error failure := by
  have gives := TokenProvider.gives_token provider holding world
  generalize provider.token.ending holding world = ended at gives ⊢
  cases gives with
  | cached found =>
    cases unprovided with
    | unrenewed read | unwritten read => cases found.symm.trans read
  | unread | unrenewed | faulted => exact ⟨_, rfl⟩
  | renewed read refresh update =>
    cases unprovided with
    | unrenewed read' refresh' =>
      cases read.symm.trans read'
      cases refresh.symm.trans refresh'
    | unwritten read' refresh' update' =>
      cases read.symm.trans read'
      cases refresh.symm.trans refresh'
      cases update.symm.trans update'
      exact ⟨_, rfl⟩

theorem Unprovided.not_sent (observed : Observed provider service traffic)
    (unprovided : Unprovided provider holding world) {request : Request}
    (unset : ¬request.isAuthorized) :
    ∃ failure asked, (handle provider service request holding world).1 = .error (.token failure) ∧
      traffic (handle provider service request holding world).2.2 = traffic world ++ asked ∧
      ∀ sent answer, .sent sent answer ∉ asked := by
  obtain ⟨failure, failed⟩ := unprovided.fails
  obtain ⟨asked, seen, quiet, -⟩ := observed.token holding world
  have handles := handles_handle provider service unset holding world
  generalize handle provider service request holding world = ended at handles ⊢
  cases handles with
  | tokenless gave =>
    rw [gave] at seen
    exact ⟨_, asked, rfl, seen, quiet⟩
  | unshown gave | sent gave | refused gave =>
    rw [gave] at failed
    cases failed

/-- However a run of requests goes, an access token that a service refused with a 401 is shown to it
again for a later request only if an exchange gave it anew after that; and a request for which the token
that is needed cannot be obtained, or cannot be written, is not sent at all. -/
theorem shown_again_of_given (observed : Observed provider service traffic) :
    (∀ first start turns holding world,
      Runs provider service traffic first start turns holding world →
      ∀ before refused between again after access,
        turns = before ++ refused :: (between ++ again :: after) →
        refused.Refused access → ¬again.request.isAuthorized →
        ∀ earlier sent answer later, again.traffic = earlier ++ .sent sent answer :: later →
          sent.Shows access → Traffic.Gave access (between.flatMap Turn.traffic ++ earlier)) ∧
      ∀ holding world request, Unprovided provider holding world → ¬request.isAuthorized →
        ∃ failure asked,
          (handle provider service request holding world).1 = .error (.token failure) ∧
          traffic (handle provider service request holding world).2.2 = traffic world ++ asked ∧
          ∀ sent answer, .sent sent answer ∉ asked := by
  refine ⟨?_, fun holding world request unprovided unset => unprovided.not_sent observed unset⟩
  intro first start turns holding world runs
  induction runs with
  | start => simp
  | moved _ _ ih => exact ih
  | @request turns holding world request runs ih =>
    intro before refused between again after access split refusal unset earlier sent answer later
      shown shows_
    obtain ⟨gained, seen, -, showing⟩ := observed.request request holding world
    rw [seen, List.drop_left] at split
    rcases List.eq_nil_or_concat' after with rfl | ⟨after, last, rfl⟩
    · rw [← List.cons_append, ← List.append_assoc] at split
      obtain ⟨rfl, last⟩ := List.append_inj' split rfl
      cases last
      by_contra never
      have spent : Spent access holding := runs.spent observed rfl refusal fun gave =>
        never (gave.mono (List.subset_append_left _ _))
      have gave := (showing unset access earlier sent answer later shown shows_).1 spent
      exact never (gave.mono (List.subset_append_right _ _))
    · rw [← List.cons_append, ← List.cons_append, ← List.append_assoc, ← List.append_assoc] at split
      obtain ⟨rfl, last⟩ := List.append_inj' split rfl
      exact ih before refused between again after access (by simp) refusal unset earlier sent answer
        later shown shows_

/-! A world that is nothing but what was seen, with a service that refuses everything. -/
namespace Wire

def exchanger : Exchanger (StateM (List Traffic)) where
  exchange request := ExceptT.mk do
    modify (· ++ [.exchanged (request, .ok Desk.rotation)])
    return .ok Desk.rotation

def server (request : Request) : StateM (List Traffic) (Except String Response) := do
  modify (· ++ [.sent request (.ok ⟨401, []⟩)])
  return .ok ⟨401, []⟩

def source : TokenProvider (StateM (List Traffic)) where
  keyring := ⟨fun _ => pure none, fun _ => pure (), fun _ => pure false, pure []⟩
  exchanger
  clock := pure Instant.epoch
  count _ := pure ()

/-- A device with a refresh token, or without one. -/
def device (refreshToken : String) : Holding :=
  ⟨.deviceCode "client" "audience" { refreshToken }, "audience", "user", .deviceCode { refreshToken }⟩

theorem observed : Observed source server id where
  exchange _ _ := rfl
  service _ _ := rfl
  write _ _ := rfl
  clock _ := rfl
  count _ _ := rfl

def address : Request := { url := { scheme := "https", path := .segments ["topics"] } }

def shown : Request :=
  address.withAuthorization ⟨authorizationName, Utf8.encode ("Bearer " ++ "fresh"), true⟩

def turn (refreshToken : String) : Turn where
  request := address
  traffic :=
    [.exchanged (.refreshToken "client" refreshToken, .ok Desk.rotation),
      .sent shown (.ok ⟨401, []⟩)]

/-- What is held and seen after one request, and after two. -/
def once : Holding × List Traffic := (handle source server address (device "first") []).2
def twice : Holding × List Traffic := (handle source server address once.1 once.2).2

theorem runs_twice :
    Runs source server id (device "first") [] [turn "first", turn "second"] twice.1 twice.2 :=
  .request address (.request address .start)

theorem refused_turn (refreshToken : String) : (turn refreshToken).Refused "fresh" :=
  ⟨(by decide : ¬address.isAuthorized), shown, _, .tail _ (.head _),
    authorization?_withAuthorization address rfl, rfl⟩

theorem unprovided_device : Unprovided source (device "") [] :=
  .unrenewed rfl rfl

end Wire

/-- A token that was refused is shown again, because an exchange gave it again. -/
theorem shown_again_of_given_on_wire :
    Observed Wire.source Wire.server id ∧
      Runs Wire.source Wire.server id (Wire.device "first") [] [Wire.turn "first", Wire.turn "second"]
        Wire.twice.1 Wire.twice.2 ∧
      (Wire.turn "first").Refused "fresh" ∧
      Traffic.Gave "fresh" [.exchanged (.refreshToken "client" "second", .ok Desk.rotation)] ∧
      Unprovided Wire.source (Wire.device "") [] ∧
      ∃ failure asked,
        (handle Wire.source Wire.server Wire.address (Wire.device "") []).1 =
          .error (.token failure) ∧
        (handle Wire.source Wire.server Wire.address (Wire.device "") []).2.2 = asked ∧
        ∀ sent answer, .sent sent answer ∉ asked := by
  obtain ⟨again, unsent⟩ := shown_again_of_given Wire.observed
  refine ⟨Wire.observed, Wire.runs_twice, Wire.refused_turn "first", ?_, Wire.unprovided_device,
    unsent _ _ _ Wire.unprovided_device (by decide)⟩
  exact again _ _ _ _ _ Wire.runs_twice [] (Wire.turn "first") [] (Wire.turn "second") [] "fresh" rfl
    (Wire.refused_turn "first") (by decide) _ Wire.shown _ [] rfl
    (authorization?_withAuthorization Wire.address rfl)

end GrantKeeper.Http
