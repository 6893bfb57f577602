import GrantKeeper.Command.Run
import GrantKeeper.Proofs.Keyring.Labels

/-! What invocations do in the end. A command is followed together with the deed that it ends with, and
from the deeds of some invocations it is told who is logged in after them. -/
namespace GrantKeeper

inductive Deed
  | loggedIn (audience : String) (grant : Grant)
  | loggedOut
  /-- Nothing that changes who is logged in. -/
  | nothing
deriving DecidableEq

namespace Deed

def ofEnd : Except Ending Deed → Deed
  | .ok deed => deed
  | .error _ => nothing

/-- A login has a grant for its audience that names its user. -/
def Fair : Deed → Prop
  | loggedIn audience grant =>
    grant.audience = audience ∧ ∃ user, Credential.userNameOf grant.record = .ok user
  | loggedOut | nothing => True

/-- The user who is logged in for an audience after some deeds, of which the latest comes first. -/
def userAfter (audience : String) : List Deed → Option String
  | [] => none
  | loggedIn about grant :: earlier =>
    if about = audience then (Credential.userNameOf grant.record).toOption
    else userAfter audience earlier
  | loggedOut :: _ => none
  | nothing :: earlier => userAfter audience earlier

def relabel (deed : Deed) (labels : Labels) : Labels :=
  match deed with
  | loggedIn audience grant =>
    Function.update labels (Credential.keyOf audience) (Credential.userNameOf grant.record).toOption
  | loggedOut => fun _ => none
  | nothing => labels

def relabelIfOk {ε α : Type} (deed : Deed) (labels : Labels) : Except ε α → Labels
  | .ok _ => deed.relabel labels
  | .error _ => labels

/-- The labels in a keyring after some deeds, of which the latest comes first. -/
def labelsAfter (deeds : List Deed) : Labels := deeds.foldr relabel fun _ => none

/-- Where no other audience that was logged in for has its key, an audience's label is its user. -/
theorem labelsAfter_keyOf {audience : String} {deeds : List Deed}
    (distinct : ∀ about grant, loggedIn about grant ∈ deeds →
      Credential.keyOf about = Credential.keyOf audience → about = audience) :
    labelsAfter deeds (Credential.keyOf audience) = userAfter audience deeds := by
  induction deeds with
  | nil => rfl
  | cons deed earlier ih =>
    -- Only the latest deed is told apart: a login for another audience labels another key.
    have ih := ih fun about grant member => distinct about grant (List.mem_cons_of_mem _ member)
    rw [labelsAfter, List.foldr_cons]
    cases deed with
    | loggedIn about grant =>
      rw [relabel, userAfter]
      split
      · next same => rw [same, Function.update_self]
      · next differs =>
        have apart : Credential.keyOf audience ≠ Credential.keyOf about := fun same =>
          differs (distinct about grant List.mem_cons_self same.symm)
        rw [Function.update_of_ne apart]
        exact ih
    | loggedOut => rfl
    | nothing => exact ih

end Deed

variable {m : Type → Type} [Monad m]

namespace Command

def acquire (issuer : Issuer) (ready : Act m (Login.Ready m)) : Job m Login.Outcome := do
  let login ← (Job.ofAct ready).during ("failed to contact issuer " ++ issuer.endpoint)
  Job.ofAct (login issuer.audience)

/-- Saves a grant and asks whose it is. -/
def enter (audience : String) (grant : Grant) (a : Authenticator m) : Act m String := do
  a.saveGrant grant
  a.whoAmI audience

def keep (w : Workstation m) (config : Config) (audience : String) (grant : Grant) : Job m Unit := do
  let user ← onKeyring w config (enter audience grant)
  printLine w ("Logged in as " ++ user ++ ".")

def performLogIn (w : Workstation m) (config : Config) (issuer : Issuer)
    (ready : Act m (Login.Ready m)) : Job m Deed := do
  let outcome ← acquire issuer ready
  keep w config issuer.audience outcome.grant
  return .loggedIn issuer.audience outcome.grant

def perform (w : Workstation m) (config : Config) : Command → Job m Deed
  | .login scopes allowRefresh => do
    let issuer ← Job.ofConfig config.loginIssuer
    let options : Login.DeviceOptions := ⟨loginScopes config scopes, allowRefresh⟩
    performLogIn w config issuer (Login.prepareDeviceCode w.toMachine issuer options (present w))
  | .activate => do
    let (issuer, keyFile) ← Job.ofConfig config.activation
    performLogIn w config issuer (Login.prepareClientCredentials w.toMachine issuer keyFile)
  | .logout => do
    run w config .logout
    return .loggedOut
  | command => do
    run w config command
    return .nothing

theorem run_eq_perform [LawfulMonad m] (w : Workstation m) (config : Config) (command : Command) :
    run w config command = (fun _ => ()) <$> perform w config command := by
  cases command with
  | login | activate =>
    simp [run, perform, logIn, performLogIn, acquire, keep]
    rfl
  | whoAmI | logout | token | get => simp [run, perform]

end Command

/-- The configuration that an invocation settles on. -/
def Invocation.settle (w : Workstation m) (invocation : Invocation) : Job m Config := do
  let path ← Job.ofConfig (Config.path invocation.configPath w.environment)
  let loaded ← Job.step (Config.load w.files w.environment path)
  let config ← (Job.ofConfig loaded).during ("failed to load config from " ++ path)
  Job.ofConfig (config.apply invocation.overrides)

def Invocation.perform (w : Workstation m) (invocation : Invocation) : Job m Deed := do
  invocation.command.perform w (← invocation.settle w)

theorem Job.ofConfig_ok {α : Type} (value : α) :
    (Job.ofConfig (.ok value) : Job m α) = pure value := rfl

variable [LawfulMonad m]

theorem Invocation.run_eq_settle (w : Workstation m) (invocation : Invocation) :
    invocation.run w = (do invocation.command.run w (← invocation.settle w)) := by
  simp [run, settle]

theorem Invocation.run_eq_perform (w : Workstation m) (invocation : Invocation) :
    invocation.run w = (fun _ => ()) <$> invocation.perform w := by
  simp [run_eq_settle, perform, Command.run_eq_perform]

variable {σ : Type}

/-- What a command line does in a world. -/
def Workstation.deed (w : Workstation (StateM σ)) (arguments : List String) (world : σ) : Deed :=
  match CommandLine.read arguments with
  | .run invocation => .ofEnd ((invocation.perform w).run.run world).1
  | .help | .version | .misuse => .nothing

end GrantKeeper
