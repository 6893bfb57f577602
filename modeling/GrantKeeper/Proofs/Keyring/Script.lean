import GrantKeeper.Keyring.Secrets
import GrantKeeper.Proofs.Act

/-! Computations on a store of secrets, up to each of their calls of the store. What they make of an
answer is given apart from what the store answers, so that calls may fail, and others may use the
store in between. -/
namespace GrantKeeper

inductive StoreCall
  | get (name : String)
  | set (name secret : String)
  | delete (name : String)
deriving DecidableEq

namespace StoreCall

def name : StoreCall → String
  | get name | set name _ | delete name => name

/-- What the answer to a call is, if the call does not fail. -/
def Reply : StoreCall → Type
  | get _ => Option String
  | set _ _ => Unit
  | delete _ => Bool

def reply (secrets : StringMap String) : (call : StoreCall) → call.Reply
  | get name => secrets.get? name
  | set _ _ => ()
  | delete name => (secrets.get? name).isSome

/-- The secrets after a call that does not fail. -/
def after (secrets : StringMap String) : StoreCall → StringMap String
  | get _ => secrets
  | set name secret => secrets.insert name secret
  | delete name => secrets.erase name

end StoreCall

/-- A computation that is done, or calls the store and goes on with the answer. -/
inductive Script (α : Type)
  | done (value : α)
  | call (call : StoreCall) (next : Except Error call.Reply → Script α)

namespace Script

variable {α β : Type}

def bind : Script α → (α → Script β) → Script β
  | done value, rest => rest value
  | call request next, rest => call request fun answer => (next answer).bind rest

instance : Monad Script where
  pure := done
  bind := bind

def ask (request : StoreCall) : Act Script request.Reply :=
  ExceptT.mk (call request fun answer => done (answer.mapError .error))

def store : SecretStore Script where
  get name := ask (.get name)
  set name secret := ask (.set name secret)
  delete name := ask (.delete name)

/-- What comes of a computation while no call fails and nobody else uses the store. -/
def alone : Script α → StringMap String → α × StringMap String
  | done value, secrets => (value, secrets)
  | call request next, secrets =>
    (next (.ok (request.reply secrets))).alone (request.after secrets)

theorem alone_bind (script : Script α) (rest : α → Script β) : ∀ secrets : StringMap String,
    (script.bind rest).alone secrets =
      (rest (script.alone secrets).1).alone (script.alone secrets).2 := by
  induction script with
  | done value =>
    intro secrets
    rfl
  | call request next ih =>
    intro secrets
    exact ih _ _

/-- The calls of a computation, each with whether it was answered. -/
abbrev Log := List (StoreCall × Bool)

/-- What may come of a computation whose calls may fail. A call that fails changes nothing. -/
inductive Ends {α : Type} : Script α → StringMap String → Log → α → StringMap String → Prop
  | done {value : α} {secrets : StringMap String} : Ends (.done value) secrets [] value secrets
  | answered {request : StoreCall} {next : Except Error request.Reply → Script α}
    {secrets after : StringMap String} {log : Log} {value : α} :
    Ends (next (.ok (request.reply secrets))) (request.after secrets) log value after →
    Ends (.call request next) secrets ((request, true) :: log) value after
  | failed {request : StoreCall} {next : Except Error request.Reply → Script α}
    {secrets after : StringMap String} {log : Log} {value : α} (error : Error) :
    Ends (next (.error error)) secrets log value after →
    Ends (.call request next) secrets ((request, false) :: log) value after

theorem Ends.of_bind {script : Script α} {rest : α → Script β} : ∀ {secrets after : StringMap String}
    {log : Log} {value : β}, (script.bind rest).Ends secrets log value after →
      ∃ first middle second between, script.Ends secrets first middle between ∧
        (rest middle).Ends between second value after ∧ log = first ++ second := by
  induction script with
  | done value =>
    intro secrets after log result ends
    exact ⟨[], value, log, secrets, .done, ends, rfl⟩
  | call request next ih =>
    intro secrets after log result ends
    cases ends with
    | answered ends =>
      obtain ⟨first, middle, second, between, before, later, rfl⟩ := ih _ ends
      exact ⟨_, middle, second, between, .answered before, later, rfl⟩
    | failed error ends =>
      obtain ⟨first, middle, second, between, before, later, rfl⟩ := ih _ ends
      exact ⟨_, middle, second, between, .failed error before, later, rfl⟩

end Script

namespace Act

variable {α β : Type}

/-- How an activity ends that uses a store alone, while no call fails. -/
def alone (act : Act Script α) (secrets : StringMap String) :
    Except Failure α × StringMap String :=
  Script.alone act.run secrets

@[simp] theorem alone_pure (value : α) (secrets : StringMap String) :
    (pure value : Act Script α).alone secrets = (.ok value, secrets) := rfl

theorem alone_bind (act : Act Script α) (next : α → Act Script β) (secrets : StringMap String) :
    (act >>= next).alone secrets = match act.alone secrets with
      | (.ok value, after) => (next value).alone after
      | (.error failure, after) => (.error failure, after) := by
  refine (Script.alone_bind act.run _ secrets).trans ?_
  rw [show Script.alone act.run secrets = act.alone secrets from rfl]
  rcases act.alone secrets with ⟨_ | _, _⟩ <;> rfl

/-! Activities whose calls may fail. -/

/-- How an activity may end that uses a store alone, with its calls. -/
def Ends (act : Act Script α) (secrets : StringMap String) (log : Script.Log)
    (result : Except Failure α) (after : StringMap String) : Prop :=
  Script.Ends act.run secrets log result after

variable {act : Act Script α} {next : α → Act Script β} {secrets after : StringMap String}
  {log : Script.Log}

theorem Ends.of_pure {value : α} {result : Except Failure α}
    (ends : (pure value : Act Script α).Ends secrets log result after) :
    log = [] ∧ result = .ok value ∧ after = secrets := by
  cases ends
  exact ⟨rfl, rfl, rfl⟩

theorem Ends.of_ask {request : StoreCall} {result : Except Failure request.Reply}
    (ends : (Script.ask request).Ends secrets log result after) :
    log = [(request, true)] ∧ result = .ok (request.reply secrets) ∧
      after = request.after secrets ∨
    log = [(request, false)] ∧ (∃ failure, result = .error failure) ∧ after = secrets := by
  cases ends with
  | answered ends =>
    cases ends
    exact .inl ⟨rfl, rfl, rfl⟩
  | failed error ends =>
    cases ends
    exact .inr ⟨rfl, ⟨_, rfl⟩, rfl⟩

theorem Ends.of_bind {result : Except Failure β} (ends : (act >>= next).Ends secrets log result after) :
    (∃ failure, act.Ends secrets log (.error failure) after ∧ result = .error failure) ∨
    ∃ first value second between, act.Ends secrets first (.ok value) between ∧
      (next value).Ends between second result after ∧ log = first ++ second := by
  obtain ⟨first, failure | value, second, between, before, later, rfl⟩ := Script.Ends.of_bind ends
  · cases later
    rw [List.append_nil]
    exact .inl ⟨failure, before, rfl⟩
  · exact .inr ⟨first, value, second, between, before, later, rfl⟩

theorem Ends.of_mapError {restate : Error → Error} {result : Except Failure α}
    (ends : (act.mapError restate).Ends secrets log result after) :
    ∃ plain, act.Ends secrets log plain after ∧ result = plain.mapError (restated restate) := by
  obtain ⟨first, plain, second, between, before, later, rfl⟩ := Script.Ends.of_bind ends
  cases later
  rw [List.append_nil]
  exact ⟨plain, before, rfl⟩

theorem Ends.of_attempt {result : Except Failure (Except Error α)}
    (ends : act.attempt.Ends secrets log result after) :
    ∃ plain, act.Ends secrets log plain after ∧ result = (match plain with
      | .ok value => .ok (.ok value)
      | .error (.error error) => .ok (.error error)
      | .error (.fault fault) => .error (.fault fault)) := by
  obtain ⟨first, plain, second, between, before, later, rfl⟩ := Script.Ends.of_bind ends
  refine ⟨plain, ?_, ?_⟩
  · rcases plain with (_ | _) | _ <;> cases later <;> rwa [List.append_nil]
  · rcases plain with (_ | _) | _ <;> cases later <;> rfl

/-- An activity that calls nothing. -/
def Silent (act : Act Script α) : Prop := ∃ result, act.run = .done result

/-- An activity that calls for one secret, and then for nothing. -/
def Glances (act : Act Script α) : Prop :=
  ∃ name next, act.run = .call (.get name) next ∧ ∀ answer, ∃ result, next answer = .done result

theorem silent_pure (value : α) : (pure value : Act Script α).Silent := ⟨_, rfl⟩

theorem silent_fail (error : Error) : (fail error : Act Script α).Silent := ⟨_, rfl⟩

theorem glances_get (name : String) : (Script.store.get name).Glances :=
  ⟨name, _, rfl, fun _ => ⟨_, rfl⟩⟩

theorem Glances.ends (glances : act.Glances) {result : Except Failure α}
    (ends : act.Ends secrets log result after) :
    after = secrets ∧ ∀ call ∈ log, ∃ name, call.1 = .get name := by
  obtain ⟨name, next, calls, silent⟩ := glances
  rw [Ends, calls] at ends
  cases ends with
  | answered ends | failed error ends =>
    obtain ⟨ended, done⟩ := silent _
    rw [done] at ends
    cases ends
    exact ⟨rfl, fun call member => ⟨name, congrArg Prod.fst (List.mem_singleton.mp member)⟩⟩

theorem Glances.bind {act : Act Script α} {next : α → Act Script β} (first : act.Glances)
    (rest : ∀ value, (next value).Silent) : (act >>= next).Glances := by
  obtain ⟨name, after, calls, ends⟩ := first
  refine ⟨name, fun answer => (after answer).bind (ExceptT.bindCont next), ?_, fun answer => ?_⟩
  · change Script.bind act.run (ExceptT.bindCont next) = _
    rw [calls]
    rfl
  · obtain ⟨failure | value, done⟩ := ends answer
    · simp only [done]
      exact ⟨_, rfl⟩
    · simp only [done]
      exact rest value

end Act
end GrantKeeper
