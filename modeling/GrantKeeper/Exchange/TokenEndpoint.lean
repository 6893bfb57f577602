import GrantKeeper.Exchange
import GrantKeeper.Http

/-! Token endpoints: what they answer to a form, and polling one while a user makes up their
mind. Waiting is measured in nanoseconds. -/
namespace GrantKeeper

structure OAuthError where
  code : String
  description : String := ""
deriving DecidableEq, Repr

namespace OAuthError

def ofJson? (tree : Json.Tree) : Option OAuthError := do
  match ← tree.fields? ["error", "error_description"] with
  | [code, description] =>
    return {
      code := ← Json.required Json.Tree.asText? code
      description := ← Json.optional "" Json.Tree.asText? description }
  | _ => none

def toError (status : Nat) (e : OAuthError) : Error :=
  .tokenExchange ("token endpoint returned " ++ Http.statusText status ++ ": " ++ e.code ++
    (if e.description.isEmpty then "" else " (" ++ e.description ++ ")"))

end OAuthError

/-- What a token endpoint answers, if it is not out of order. -/
inductive ExchangeReply
  | granted (response : TokenResponse)
  | refused (status : Nat) (error : OAuthError)
deriving DecidableEq

def ExchangeReply.ofResponse (response : Http.Response) : Except Error ExchangeReply :=
  if response.isSuccess then
    match Json.Tree.parse? response.body >>= TokenResponse.ofJson? with
    | some answer => .ok (.granted answer)
    | none => .error (.tokenExchange "invalid token response: not a token response")
  else
    let body := response.text
    match Json.Tree.parse? (Utf8.encode body) >>= OAuthError.ofJson? with
    | some error => .ok (.refused response.status error)
    | none => .error (.tokenExchange
        ("token endpoint returned " ++ Http.statusText response.status ++ ": " ++ body))

/-- A clock for waiting, which starts anywhere, and the way to wait. -/
structure Timer (m : Type → Type) where
  now : m Nat
  sleep : Nat → m Unit

def Timer.hoist {m n : Type → Type} (move : ∀ {α}, m α → n α) (timer : Timer m) : Timer n where
  now := move timer.now
  sleep length := move (timer.sleep length)

namespace Polling

def leastInterval : Nat := 1000000000

def slowDown : Nat := 5000000000

/-- The end of the range of intervals: seconds of 64 bits. -/
def intervalLimit : Nat := 0x10000000000000000 * 1000000000

/-- The end of the range of a timer: seconds of 63 bits. -/
def timerLimit : Nat := 0x8000000000000000 * 1000000000

def nextInterval (interval : Nat) (code : String) : Option (Except Fault Nat) :=
  if code = "authorization_pending" then some (.ok interval)
  else if code = "slow_down" then
    some (if interval + slowDown < intervalLimit then .ok (interval + slowDown)
      else .error .intervalOutOfRange)
  else none

def after (now length : Nat) : Except Fault Nat :=
  if now + length < timerLimit then .ok (now + length) else .error .deadlineOutOfRange

def expired (lifetime : Nat) : Error :=
  .tokenExchange ("device code expired after " ++ toString (lifetime / 1000000000) ++
    "s without authorization")

/-- How many polls a lifetime has room for. -/
def room (interval lifetime : Nat) : Nat := lifetime / interval + 1

variable {m : Type → Type} [Monad m]

/-- Polls until the answer is decisive or the next poll would come too late, and at most a given
number of times. -/
def run (timer : Timer m) (ask : Act m ExchangeReply) (lifetime : Nat) (deadline : Option Nat) :
    Nat → Nat → Act m TokenResponse
  | 0, _ => Act.crash .pollsExhausted
  | polls + 1, interval => do
    match ← ask with
    | .granted response => return response
    | .refused status error =>
      match nextInterval interval error.code with
      | none => Act.fail (error.toError status)
      | some next =>
        let interval ← Act.ofTimes next
        if let some deadline := deadline then
          let next ← Act.ofTimes (after (← Act.step timer.now) interval)
          if deadline ≤ next then Act.fail (expired lifetime)
        Act.step (timer.sleep interval)
        run timer ask lifetime deadline polls interval

/-- Polls for a code with a lifetime, of which zero never ends; `patience` bounds the polls for
such a code. -/
def start (timer : Timer m) (ask : Act m ExchangeReply) (patience pollInterval lifetime : Nat) :
    Act m TokenResponse := do
  let interval := max pollInterval leastInterval
  if lifetime = 0 then run timer ask lifetime none patience interval
  else
    let deadline ← Act.ofTimes (after (← Act.step timer.now) lifetime)
    run timer ask lifetime (some deadline) (room interval lifetime) interval

end Polling

structure TokenEndpoint (m : Type → Type) where
  network : Http.Network m
  address : String
  timer : Timer m
  /-- How often to poll for a code that never expires. -/
  patience : Nat

namespace TokenEndpoint

variable {m : Type → Type} [Monad m]

def ask (endpoint : TokenEndpoint m) (fields : List (String × String)) : Act m ExchangeReply := do
  match ← Act.step (endpoint.network.post endpoint.address fields) with
  | .ok response => Act.ofExcept (ExchangeReply.ofResponse response)
  | .error detail => Act.fail (.http ("token request failed: " ++ detail))

def askOnce (endpoint : TokenEndpoint m) (fields : List (String × String)) : Act m TokenResponse := do
  match ← endpoint.ask fields with
  | .granted response => return response
  | .refused status error => Act.fail (error.toError status)

def exchanger (endpoint : TokenEndpoint m) : Exchanger m where
  exchange request :=
    match request with
    | .deviceCode _ _ pollInterval lifetime =>
      Polling.start endpoint.timer (endpoint.ask request.fields) endpoint.patience pollInterval lifetime
    | _ => endpoint.askOnce request.fields

end TokenEndpoint
end GrantKeeper
