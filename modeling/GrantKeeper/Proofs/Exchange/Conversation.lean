import Mathlib.Data.List.Count
import GrantKeeper.Proofs.Exchange.Polling

/-! Polling a server with a script: what is sent to it and how long is waited in between, up to the first
answer that does not ask to wait, and what is made of that answer. -/
namespace GrantKeeper.Polling

/-! What answers mean. -/

/-- The code of the error that an answer is, if it is a refusal that tells one. -/
def code? : Except String Http.Response → Option String
  | .error _ => none
  | .ok response =>
    if response.isSuccess then none
    else (Json.Tree.parse? (Utf8.encode response.text) >>= OAuthError.ofJson?).map OAuthError.code

def Slows (answer : Except String Http.Response) : Prop := code? answer = some "slow_down"

/-- An answer asks to wait and to poll again. -/
def Pends (answer : Except String Http.Response) : Prop :=
  code? answer = some "authorization_pending" ∨ Slows answer

instance (answer : Except String Http.Response) : Decidable (Slows answer) :=
  inferInstanceAs (Decidable (_ = _))

instance (answer : Except String Http.Response) : Decidable (Pends answer) :=
  inferInstanceAs (Decidable (_ ∨ _))

/-- What an answer means that ends the polling: a token, or an error that says what was wrong, with the
status and the server's own error where there are any. -/
inductive Means : Except String Http.Response → Except Error TokenResponse → Prop
  | dropped (detail : String) :
    Means (.error detail) (.error (.http ("token request failed: " ++ detail)))
  | granted {response : Http.Response} {token : TokenResponse} : response.isSuccess →
    Json.Tree.parse? response.body >>= TokenResponse.ofJson? = some token →
    Means (.ok response) (.ok token)
  | garbled {response : Http.Response} : response.isSuccess →
    Json.Tree.parse? response.body >>= TokenResponse.ofJson? = none →
    Means (.ok response)
      (.error (.tokenExchange "invalid token response: not a token response"))
  | refused {response : Http.Response} {code description : String} : ¬response.isSuccess →
    Json.Tree.parse? (Utf8.encode response.text) >>= OAuthError.ofJson? =
      some ⟨code, description⟩ →
    Means (.ok response) (.error (.tokenExchange
      ("token endpoint returned " ++ Http.statusText response.status ++ ": " ++ code ++
        if description.isEmpty then "" else " (" ++ description ++ ")")))
  | unexplained {response : Http.Response} : ¬response.isSuccess →
    Json.Tree.parse? (Utf8.encode response.text) >>= OAuthError.ofJson? = none →
    Means (.ok response) (.error (.tokenExchange
      ("token endpoint returned " ++ Http.statusText response.status ++ ": " ++ response.text)))

theorem Means.kind {answer : Except String Http.Response} {error : Error}
    (means : Means answer (.error error)) : error.kind = .exchangeFailure := by
  cases means <;> rfl

theorem Means.unique {answer : Except String Http.Response} {one other : Except Error TokenResponse}
    (means : Means answer one) (also : Means answer other) : one = other := by
  cases means with
  | dropped => cases also; rfl
  | granted success read | garbled success read =>
    cases also with
    | granted _ again | garbled _ again => cases read.symm.trans again <;> rfl
    | refused failed | unexplained failed => exact absurd success failed
  | refused failed read | unexplained failed read =>
    cases also with
    | granted success | garbled success => exact absurd success failed
    | refused _ again | unexplained _ again => cases read.symm.trans again <;> rfl

/-- What an endpoint takes an answer for. -/
def reading : Except String Http.Response → Except Error ExchangeReply
  | .error detail => .error (.http ("token request failed: " ++ detail))
  | .ok response => ExchangeReply.ofResponse response

inductive Reads (answer : Except String Http.Response) : Except Error ExchangeReply → Prop
  | granted {token : TokenResponse} : code? answer = none → Means answer (.ok token) →
    Reads answer (.ok (.granted token))
  | refused {status : Nat} {error : OAuthError} : code? answer = some error.code →
    Means answer (.error (error.toError status)) → Reads answer (.ok (.refused status error))
  | failed {error : Error} : code? answer = none → Means answer (.error error) →
    Reads answer (.error error)

theorem reads_reading (answer : Except String Http.Response) : Reads answer (reading answer) := by
  rcases answer with detail | response
  · exact .failed rfl (.dropped detail)
  simp only [reading, ExchangeReply.ofResponse]
  by_cases success : response.isSuccess
  · have quiet : code? (.ok response) = none := by simp only [code?, if_pos success]
    simp only [if_pos success]
    cases read : Json.Tree.parse? response.body >>= TokenResponse.ofJson? with
    | none => exact .failed quiet (.garbled success read)
    | some token => exact .granted quiet (.granted success read)
  · have told : code? (.ok response) =
        (Json.Tree.parse? (Utf8.encode response.text) >>= OAuthError.ofJson?).map OAuthError.code := by
      simp only [code?, if_neg success]
    simp only [if_neg success]
    cases read : Json.Tree.parse? (Utf8.encode response.text) >>= OAuthError.ofJson? with
    | none => exact .failed (by rw [told, read]; rfl) (.unexplained success read)
    | some error => exact .refused (by rw [told, read]; rfl) (.refused success read)

/-! Intervals and times. -/

/-- Answers that are going to come, each with how long it takes. -/
abbrev Script := Nat → Nat × Except String Http.Response

namespace Script

def rest (script : Script) : Script := fun k => script (k + 1)

/-- How many of so many answers ask to slow down. -/
def slows (script : Script) (k : Nat) : Nat := (List.range k).countP fun i => Slows (script i).2

/-- The interval after so many answers, five seconds longer for each of them that asks to slow down. -/
def interval (script : Script) (first k : Nat) : Nat :=
  first + slowDown * script.slows k

/-- How long so many polls take, with the waits after them. -/
def span (script : Script) (first : Nat) : Nat → Nat
  | 0 => 0
  | k + 1 => script.span first k + ((script k).1 + script.interval first (k + 1))

theorem slows_rest (script : Script) (k : Nat) :
    script.slows (k + 1) = script.slows 1 + script.rest.slows k := by
  simp only [slows, List.range_succ_eq_map, List.countP_cons, List.countP_map, List.range_zero,
    List.map_nil, List.countP_nil, Nat.zero_add]
  exact Nat.add_comm _ _

theorem interval_rest (script : Script) (first k : Nat) :
    script.interval first (k + 1) = script.rest.interval (script.interval first 1) k := by
  rw [interval, interval, interval, slows_rest, Nat.mul_add, Nat.add_assoc]

theorem span_rest (script : Script) (first n : Nat) :
    script.span first (n + 1) =
      (script 0).1 + script.interval first 1 + script.rest.span (script.interval first 1) n := by
  induction n with
  | zero => simp [span]
  | succ n ih =>
    rw [span, ih, span, interval_rest script first (n + 1)]
    simp only [rest]
    omega

theorem interval_one_of_slows {script : Script} (first : Nat) (slow : Slows (script 0).2) :
    script.interval first 1 = first + slowDown := by
  simp [interval, slows, slow]

theorem le_interval (script : Script) (first k : Nat) : first ≤ script.interval first k :=
  Nat.le_add_right _ _

theorem mul_le_span (script : Script) (first n : Nat) : n * first ≤ script.span first n := by
  induction n generalizing script first with
  | zero => simp
  | succ n ih =>
    have rest := ih script.rest (script.interval first 1)
    have longer := Nat.mul_le_mul_left n (le_interval script first 1)
    have own := le_interval script first 1
    rw [span_rest, Nat.succ_mul]
    omega

end Script

/-! A server that answers by its script whatever it is asked, and the time. -/

/-- What is done while polling. -/
inductive Move
  | sent (request : Http.Request)
  | waited (length : Nat)
deriving DecidableEq

structure Server where
  script : Script
  time : Nat := 0
  moves : List Move := []

namespace Server

def answered (server : Server) (request : Http.Request) : Server where
  script := server.script.rest
  time := server.time + (server.script 0).1
  moves := server.moves ++ [.sent request]

def rested (server : Server) (length : Nat) : Server :=
  { server with time := server.time + length, moves := server.moves ++ [.waited length] }

/-- An endpoint on the server, however often it may be polled. -/
def endpoint (address : String) (patience : Nat) : TokenEndpoint (StateM Server) where
  network := { send request := do
    let server ← get
    set (server.answered request)
    return (server.script 0).2 }
  address := address
  timer := {
    now := return (← get).time
    sleep length := modify (·.rested length) }
  patience := patience

/-- The same request was sent so often, and each time it was waited. -/
def polled (server : Server) (request : Http.Request) (first n : Nat) : Server where
  script := fun k => server.script (n + k)
  time := server.time + server.script.span first n
  moves := server.moves ++ (List.range n).flatMap fun k =>
    [.sent request, .waited (server.script.interval first (k + 1))]

variable (server : Server) (request : Http.Request) (first : Nat)

theorem polled_zero : server.polled request first 0 = server := by
  simp [polled, Script.span]

theorem polled_succ (n : Nat) :
    server.polled request first (n + 1) =
      ((server.answered request).rested (server.script.interval first 1)).polled request
        (server.script.interval first 1) n := by
  simp only [polled, rested, answered, Server.mk.injEq]
  refine ⟨?_, ?_, ?_⟩
  · funext k
    rw [Script.rest, Nat.add_right_comm]
  · rw [Script.span_rest]
    omega
  · simp only [List.range_succ_eq_map, List.flatMap_cons, List.flatMap_map, Nat.succ_eq_add_one,
      Script.interval_rest server.script first (_ + 1), Nat.zero_add]
    simp

theorem answered_polled (n : Nat) :
    (server.polled request first n).answered request =
      { script := fun k => server.script (n + 1 + k)
        time := server.time + server.script.span first n + (server.script n).1
        moves := server.moves ++ ((List.range n).flatMap fun k =>
            [.sent request, .waited (server.script.interval first (k + 1))]) ++ [.sent request] } := by
  simp only [answered, polled, Server.mk.injEq, and_true, Nat.add_zero]
  funext k
  rw [Script.rest, Nat.add_right_comm, Nat.add_assoc]

end Server

/-! Polling, one answer at a time. -/

section
variable {address : String} {url : Url} {patience : Nat} {fields : List (String × String)}

variable (patience fields) in
theorem outcome_ask (read : Url.read address = .ok url) (accepted : Http.Network.accepts url)
    (server : Server) :
    ((Server.endpoint address patience).ask fields).outcome server =
      ((reading (server.script 0).2).mapError .error,
        server.answered (Http.Request.ofForm url fields)) := by
  have posted : ((Server.endpoint address patience).network.post
      (Server.endpoint address patience).address fields).run server =
        ((server.script 0).2, server.answered (Http.Request.ofForm url fields)) := by
    have sent : (Server.endpoint address patience).address = address := rfl
    rw [Http.Network.post, sent, read]
    exact congrArg (StateT.run · server) (if_pos accepted)
  rw [TokenEndpoint.ask, Act.outcome_bind, Act.outcome_step, posted]
  cases (server.script 0).2 with
  | error detail => rfl
  | ok response => simp only [Act.outcome_ofExcept, reading]

variable (patience fields) in
theorem refused_of_code (read : Url.read address = .ok url) (accepted : Http.Network.accepts url)
    {server : Server} {code : String} (told : code? (server.script 0).2 = some code) :
    ∃ status error, error.code = code ∧
      ((Server.endpoint address patience).ask fields).outcome server =
        (.ok (.refused status error), server.answered (Http.Request.ofForm url fields)) := by
  have asked := outcome_ask patience fields read accepted server
  have reads := reads_reading (server.script 0).2
  generalize reading (server.script 0).2 = result at asked reads
  cases reads with
  | granted quiet | failed quiet => cases quiet.symm.trans told
  | @refused status error named =>
    exact ⟨status, error, Option.some.inj (named.symm.trans told), asked⟩

variable (patience fields) in
theorem pending_of_pends (read : Url.read address = .ok url) (accepted : Http.Network.accepts url)
    {server : Server} {first : Nat} (pends : Pends (server.script 0).2)
    (short : Slows (server.script 0).2 → first + slowDown < intervalLimit) :
    Pending ((Server.endpoint address patience).ask fields) first server
      (server.script.interval first 1) (server.answered (Http.Request.ofForm url fields)) := by
  by_cases slow : Slows (server.script 0).2
  · obtain ⟨status, error, told, asked⟩ := refused_of_code patience fields read accepted slow
    refine ⟨status, error, asked, ?_⟩
    simp [nextInterval, told, Script.interval_one_of_slows first slow, short slow]
  · obtain ⟨status, error, told, asked⟩ :=
      refused_of_code patience fields read accepted (pends.resolve_right slow)
    have same : server.script.interval first 1 = first := by
      simp [Script.interval, Script.slows, slow]
    refine ⟨status, error, asked, ?_⟩
    simp [nextInterval, told, same]

/-- After an answer that asks to wait, it is waited for the interval, if the next poll is in time. -/
theorem outcome_run_of_pends {server : Server} {lifetime first polls : Nat} {deadline : Option Nat}
    (pending : Pending ((Server.endpoint address patience).ask fields) first server
      (server.script.interval first 1) (server.answered (Http.Request.ofForm url fields)))
    (early : ∀ last, deadline = some last →
      server.time + (server.script 0).1 + server.script.interval first 1 < last ∧
        last ≤ timerLimit) :
    (run (Server.endpoint address patience).timer ((Server.endpoint address patience).ask fields)
      lifetime deadline (polls + 1) first).outcome server =
      (run (Server.endpoint address patience).timer ((Server.endpoint address patience).ask fields)
        lifetime deadline polls (server.script.interval first 1)).outcome
          ((server.answered (Http.Request.ofForm url fields)).rested
            (server.script.interval first 1)) := by
  have next : ((Server.endpoint address patience).timer.sleep
      (server.script.interval first 1)).run
        (seen (Server.endpoint address patience).timer deadline
          (server.answered (Http.Request.ofForm url fields))) = (⟨⟩,
        (server.answered (Http.Request.ofForm url fields)).rested
          (server.script.interval first 1)) := by
    rw [seen]
    split <;> rfl
  rw [outcome_run_of_pending pending early, next]

/-- An answer that does not ask to wait ends the polling with what it means. -/
theorem outcome_run_of_decisive (read : Url.read address = .ok url)
    (accepted : Http.Network.accepts url) {server : Server}
    (decisive : ¬Pends (server.script 0).2) (timer : Timer (StateM Server)) (lifetime : Nat)
    (deadline : Option Nat) (polls interval : Nat) :
    ∃ result, Means (server.script 0).2 result ∧
      (run timer ((Server.endpoint address patience).ask fields) lifetime deadline (polls + 1)
        interval).outcome server =
        (result.mapError .error, server.answered (Http.Request.ofForm url fields)) := by
  have asked := outcome_ask patience fields read accepted server
  have reads := reads_reading (server.script 0).2
  generalize reading (server.script 0).2 = result at asked reads
  rw [run, Act.outcome_bind, asked]
  cases reads with
  | granted _ means => exact ⟨_, means, rfl⟩
  | failed _ means => exact ⟨_, means, rfl⟩
  | @refused status error told means =>
    have final : nextInterval interval error.code = none := by
      simp only [Pends, Slows, told, Option.some.injEq, not_or] at decisive
      simp [nextInterval, decisive]
    refine ⟨_, means, ?_⟩
    simp only [Act.except_mapError_ok, final]
    rfl

/-- Polling takes as many polls as there are answers that ask to wait, and one. -/
theorem outcome_run (read : Url.read address = .ok url) (accepted : Http.Network.accepts url)
    {lifetime : Nat} (deadline : Option Nat) (n : Nat) :
    ∀ (server : Server) {first polls : Nat}, n < polls →
      (∀ k < n, Pends (server.script k).2) → ¬Pends (server.script n).2 →
      server.script.interval first n < intervalLimit →
      (∀ last, deadline = some last →
        server.time + server.script.span first n < last ∧ last ≤ timerLimit) →
      ∃ result, Means (server.script n).2 result ∧
        (run (Server.endpoint address patience).timer ((Server.endpoint address patience).ask fields)
          lifetime deadline polls first).outcome server =
          (result.mapError .error,
            (server.polled (Http.Request.ofForm url fields) first n).answered
              (Http.Request.ofForm url fields)) := by
  induction n with
  | zero =>
    intro server first polls enough _ decisive _ _
    obtain ⟨polls, rfl⟩ := Nat.exists_eq_succ_of_ne_zero (Nat.ne_of_gt enough)
    rw [Server.polled_zero]
    exact outcome_run_of_decisive read accepted decisive _ _ _ _ _
  | succ n ih =>
    intro server first polls enough pends decisive short timely
    obtain ⟨polls, rfl⟩ := Nat.exists_eq_succ_of_ne_zero (Nat.ne_of_gt (Nat.zero_lt_of_lt enough))
    have longer : server.script.interval first 1 ≤ server.script.interval first (n + 1) := by
      rw [Script.interval_rest server.script first n]
      exact Script.le_interval _ _ _
    have pending := pending_of_pends patience fields read accepted
      (pends 0 (Nat.succ_pos n)) fun slow => by
        rw [← Script.interval_one_of_slows first slow]
        exact Nat.lt_of_le_of_lt longer short
    have early (last : Nat) (ends : deadline = some last) :
        server.time + (server.script 0).1 + server.script.interval first 1 < last ∧
          last ≤ timerLimit := by
      obtain ⟨soon, near⟩ := timely last ends
      rw [Script.span_rest] at soon
      exact ⟨by omega, near⟩
    rw [outcome_run_of_pends pending early, Server.polled_succ]
    refine ih ((server.answered _).rested _) (Nat.lt_of_succ_lt_succ enough)
      (fun k lt => pends (k + 1) (Nat.succ_lt_succ lt)) decisive ?_ ?_
    · rw [Script.interval_rest server.script first n] at short
      exact short
    · intro last ends
      obtain ⟨soon, near⟩ := timely last ends
      rw [Script.span_rest] at soon
      refine ⟨?_, near⟩
      simp only [Server.rested, Server.answered]
      omega

end

def deviceForm (url : Url) (clientId deviceCode : String) : Http.Request :=
  .ofForm url
    [("grant_type", "urn:ietf:params:oauth:grant-type:device_code"), ("device_code", deviceCode),
      ("client_id", clientId)]

/-- Polling for a device follows the server: it sends one form as often as there are answers that ask to
wait, and once more; after each but the last it waits for the interval, which is five seconds longer for
each answer so far that asked to slow down; and what it ends with is what the last answer means. -/
theorem exchange_follows_script {address : String} {url : Url}
    (read : Url.read address = .ok url) (accepted : Http.Network.accepts url)
    (clientId deviceCode : String) (pollInterval lifetime patience : Nat) (server : Server) {n : Nat}
    (pends : ∀ k < n, Pends (server.script k).2) (decisive : ¬Pends (server.script n).2)
    (short : server.script.interval (max pollInterval leastInterval) n < intervalLimit)
    (timely : lifetime ≠ 0 → server.script.span (max pollInterval leastInterval) n < lifetime ∧
      server.time + lifetime < timerLimit)
    (patient : lifetime = 0 → n < patience) :
    ∃ result, Means (server.script n).2 result ∧
      (∀ error, result = .error error → error.kind = .exchangeFailure) ∧
      ((Server.endpoint address patience).exchanger.exchange
        (.deviceCode clientId deviceCode pollInterval lifetime)).outcome server =
        (result.mapError .error,
          { script := fun k => server.script (n + 1 + k)
            time := server.time + server.script.span (max pollInterval leastInterval) n +
              (server.script n).1
            moves := server.moves ++ ((List.range n).flatMap fun k =>
                [.sent (deviceForm url clientId deviceCode),
                  .waited (server.script.interval (max pollInterval leastInterval) (k + 1))]) ++
              [.sent (deviceForm url clientId deviceCode)] }) := by
  have positive : 0 < max pollInterval leastInterval := by
    simp only [leastInterval]
    omega
  have started : (Server.endpoint address patience).exchanger.exchange
      (.deviceCode clientId deviceCode pollInterval lifetime) =
        start (Server.endpoint address patience).timer
          ((Server.endpoint address patience).ask (ExchangeRequest.deviceCode clientId deviceCode
            pollInterval lifetime).fields) patience pollInterval lifetime := rfl
  rw [← Server.answered_polled server (deviceForm url clientId deviceCode)
    (max pollInterval leastInterval) n, started]
  by_cases endless : lifetime = 0
  · obtain ⟨result, means, ended⟩ := outcome_run read accepted none n server
      (patient endless) pends decisive short (by simp)
    refine ⟨result, means, ?_, ?_⟩
    · rintro error rfl
      exact means.kind
    · rw [start, if_pos endless]
      exact ended
  · obtain ⟨soon, near⟩ := timely endless
    have enough : n < room (max pollInterval leastInterval) lifetime := by
      have least := Script.mul_le_span server.script (max pollInterval leastInterval) n
      rw [room, Nat.lt_succ_iff, Nat.le_div_iff_mul_le positive]
      omega
    obtain ⟨result, means, ended⟩ := outcome_run read accepted
      (some (server.time + lifetime)) n server enough pends decisive short (by rintro _ ⟨⟩; omega)
    refine ⟨result, means, ?_, ?_⟩
    · rintro error rfl
      exact means.kind
    · have reached : ((Server.endpoint address patience).timer.now.run server).1 + lifetime <
          timerLimit := near
      rw [outcome_start_of_lifetime endless reached]
      exact ended

namespace Server

def refusing (code : String) : Except String Http.Response :=
  .ok ⟨400, Utf8.encode ("\x7b\"error\":\"" ++ code ++ "\"\x7d")⟩

/-- A server that asks to wait, then to slow down, and then gives a token. -/
def relenting : Server where
  script
    | 0 => (0, refusing "authorization_pending")
    | 1 => (0, refusing "slow_down")
    | _ => (0, .ok ⟨200, Utf8.encode "\x7b\"access_token\":\"a\"\x7d"⟩)

end Server

def tokenUrl : Url where
  scheme := "http"
  authority := some { host := some (.domain "t") }
  path := .segments [""]

/-- A server that relents gets three polls, of which the last comes six seconds after the one before. -/
theorem relenting_followed :
    Url.read "http://t" = .ok tokenUrl ∧ Http.Network.accepts tokenUrl ∧
      ∃ after : Server,
        ((Server.endpoint "http://t" 0).exchanger.exchange
          (.deviceCode "client" "code" 10000000 900000000000)).outcome Server.relenting =
            (.ok { accessToken := "a" }, after) ∧
        after.moves =
          [.sent (deviceForm tokenUrl "client" "code"), .waited 1000000000,
            .sent (deviceForm tokenUrl "client" "code"), .waited 6000000000,
            .sent (deviceForm tokenUrl "client" "code")] := by
  have read : Url.read "http://t" = .ok tokenUrl := by decide +kernel
  have accepted : Http.Network.accepts tokenUrl := by decide
  have pends : ∀ k < 2, Pends (Server.relenting.script k).2 := by decide +kernel
  have decisive : ¬Pends (Server.relenting.script 2).2 := by decide +kernel
  obtain ⟨result, means, -, ended⟩ := exchange_follows_script read accepted "client" "code" 10000000
    900000000000 0 Server.relenting pends decisive (by decide +kernel) (fun _ => by decide +kernel)
    (by decide)
  have granted : Means (Server.relenting.script 2).2 (.ok { accessToken := "a" }) :=
    .granted (by decide) (by decide +kernel)
  obtain rfl := means.unique granted
  exact ⟨read, accepted, _, ended, by decide +kernel⟩

end GrantKeeper.Polling
