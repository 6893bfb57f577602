import Mathlib.Data.List.Nodup
import GrantKeeper.Proofs.Command.Intact
import GrantKeeper.Proofs.Login.Requests

/-! The scopes that a login asks for. They are put together in three places, of which each drops some
repetitions; what comes out is one list that is cleaned once. -/
namespace GrantKeeper

open Discipline

theorem eraseDups_of_nodup {α : Type} [BEq α] [LawfulBEq α] {items : List α} (nodup : items.Nodup) :
    items.eraseDups = items := by
  induction items with
  | nil => rfl
  | cons item rest ih =>
    obtain ⟨fresh, others⟩ := List.nodup_cons.mp nodup
    have kept : rest.filter (fun other => !other == item) = rest := by
      rw [List.filter_eq_self]
      intro other member
      have differs : other ≠ item := fun same => fresh (same ▸ member)
      simpa using differs
    rw [List.eraseDups_cons, kept, ih others]

theorem eraseDups_append_of_subset {α : Type} [BEq α] [LawfulBEq α] {front middle : List α}
    (known : middle ⊆ front) (back : List α) :
    (front ++ middle ++ back).eraseDups = (front ++ back).eraseDups := by
  have gone : middle.removeAll front = [] := by
    simpa [List.removeAll] using fun x member => known member
  have same : back.removeAll (front ++ middle) = back.removeAll front := by
    refine List.filter_congr fun x _ => ?_
    have covered : x ∈ middle → x ∈ front := @known x
    grind
  rw [List.eraseDups_append, List.eraseDups_append, gone, List.eraseDups_nil, List.append_nil, same,
    ← List.eraseDups_append]

namespace Scopes

/-! Lists that grow. -/

theorem nodup_add {scopes : List String} (nodup : scopes.Nodup) (scope : String) :
    (add scopes scope).Nodup := by
  rw [add]
  split
  · exact nodup
  · next fresh =>
    rw [List.nodup_append]
    refine ⟨nodup, List.nodup_singleton _, fun other there scope' new => ?_⟩
    rintro rfl
    rw [List.mem_singleton.mp new] at there
    exact fresh (by simpa using there)

theorem nodup_foldl_add (more : List String) {scopes : List String} (nodup : scopes.Nodup) :
    (more.foldl add scopes).Nodup := by
  induction more generalizing scopes with
  | nil => exact nodup
  | cons scope more ih => exact ih (nodup_add nodup scope)

/-- However scopes are worded, and whatever comes before them, one that is not added because it is there
would not have been the first of its wording. -/
theorem eraseDups_foldl_add (front : List String) (wording : String → Option String)
    (more : List String) : ∀ scopes : List String,
      (front ++ (more.foldl add scopes).filterMap wording).eraseDups =
        (front ++ (scopes ++ more).filterMap wording).eraseDups := by
  -- For every list so far, since each step moves one scope from those to come into it, or drops it.
  induction more with
  | nil => simp
  | cons scope more ih =>
    intro scopes
    rw [List.foldl_cons, ih, add]
    split
    · next there =>
      have known : [scope].filterMap wording ⊆ front ++ scopes.filterMap wording :=
        List.subset_append_of_subset_right _ (List.filterMap_subset _ (by simpa using there))
      have dropped := eraseDups_append_of_subset known (more.filterMap wording)
      rw [List.append_cons scopes, List.filterMap_append, List.filterMap_append, List.filterMap_append,
        ← List.append_assoc, ← List.append_assoc, ← List.append_assoc, dropped]
    · rw [List.append_assoc, List.singleton_append]

theorem foldl_add_eq (more : List String) {scopes : List String} (nodup : scopes.Nodup) :
    more.foldl add scopes = (scopes ++ more).eraseDups := by
  have same := eraseDups_foldl_add [] some more scopes
  rwa [List.filterMap_some, List.filterMap_some, List.nil_append, List.nil_append,
    eraseDups_of_nodup (nodup_foldl_add more nodup)] at same

/-! Scopes as they are sent. -/

/-- A scope as it is sent, if it is not blank. -/
def worded? (scope : String) : Option String :=
  if Text.trim scope = "" then none else some (Text.trim scope)

/-- The scopes to ask for: the one always asked for, and then the first of each other one, without the
blanks around it. -/
def cleaned (scopes : List String) : List String :=
  openId :: ((scopes.map Text.trim).filter fun scope => scope ≠ "" ∧ scope ≠ openId).eraseDups

theorem filterMap_worded? (scopes : List String) :
    scopes.filterMap worded? = (scopes.map Text.trim).filter (· ≠ "") := by
  induction scopes with
  | nil => rfl
  | cons scope scopes ih => by_cases blank : Text.trim scope = "" <;> simp [worded?, blank, ih]

theorem cleaned_eq (scopes : List String) :
    cleaned scopes = (openId :: scopes.filterMap worded?).eraseDups := by
  rw [List.eraseDups_cons, filterMap_worded?, List.filter_filter, cleaned]
  congr 3
  funext scope
  rw [Bool.eq_iff_iff]
  simp [and_comm]

theorem foldl_addTrimmed (scopes seed : List String) :
    scopes.foldl addTrimmed seed = (scopes.filterMap worded?).foldl add seed := by
  rw [List.foldl_filterMap]
  refine List.foldl_ext _ _ _ fun kept scope _ => ?_
  by_cases blank : Text.trim scope = "" <;> simp [addTrimmed, worded?, blank]

theorem parameter_eq (scopes : List String) : parameter scopes = " ".intercalate (cleaned scopes) := by
  rw [parameter, foldl_addTrimmed, foldl_add_eq _ (List.nodup_singleton _), List.singleton_append,
    cleaned_eq]

theorem cleaned_foldl_add (scopes more : List String) :
    cleaned (more.foldl add scopes) = cleaned (scopes ++ more) := by
  rw [cleaned_eq, cleaned_eq]
  exact eraseDups_foldl_add [openId] worded? more scopes

theorem nodup_cleaned (scopes : List String) : (cleaned scopes).Nodup := by
  have grown := nodup_foldl_add (scopes.filterMap worded?) (List.nodup_singleton openId)
  rwa [foldl_add_eq _ (List.nodup_singleton _), List.singleton_append, ← cleaned_eq] at grown

theorem mem_cleaned {scopes : List String} {scope : String} :
    scope ∈ cleaned scopes ↔
      scope = openId ∨ scope ≠ "" ∧ ∃ asked ∈ scopes, Text.trim asked = scope := by
  rw [cleaned_eq, List.mem_eraseDups, List.mem_cons, filterMap_worded?, List.mem_filter, List.mem_map,
    and_comm, decide_eq_true_iff]

theorem trim_of_mem_cleaned {scopes : List String} {scope : String} (member : scope ∈ cleaned scopes) :
    Text.trim scope = scope ∧ scope ≠ "" := by
  rcases mem_cleaned.mp member with rfl | ⟨worded, asked, -, rfl⟩
  · decide
  · exact ⟨Text.trim_trim asked, worded⟩

end Scopes

namespace Command

def requested (config : Config) (scopes : List String) (allowRefresh : Bool) : List String :=
  config.scopes ++ scopes ++ if allowRefresh then [Scopes.offlineAccess] else []

theorem cleaned_loginScopes (config : Config) (scopes : List String) (allowRefresh : Bool) :
    Scopes.cleaned (Login.DeviceOptions.scopes ⟨loginScopes config scopes, allowRefresh⟩) =
      Scopes.cleaned (requested config scopes allowRefresh) := by
  have folded : Login.DeviceOptions.scopes ⟨loginScopes config scopes, allowRefresh⟩ =
      (scopes ++ if allowRefresh then [Scopes.offlineAccess] else []).foldl Scopes.add config.scopes := by
    rw [List.foldl_append]
    cases allowRefresh <;> rfl
  rw [folded, Scopes.cleaned_foldl_add, requested, List.append_assoc]

section
variable {m : Type → Type} [Monad m] [LawfulMonad m] {d : Discipline m} {w : Workstation m}

/-! What comes after a login. -/

theorem permits_openKeyring (read : ∀ path, d.Allows (w.files.read path)) (config : Config) :
    d.Permits (openKeyring w config) := by
  unfold openKeyring
  split
  · refine (permits_ofConfig _).bind fun path => ?_
    refine (Tries.adapt ?_ _).adapt _
    refine Permits.bind (tries_lift (allows_readText read path)) fun content => ?_
    split
    · split
      · exact tries_pure trivial
      · exact tries_throw _ _
    · exact tries_pure trivial
    · exact tries_throw _ _
  · exact tries_throw _ _

theorem permits_enter (files : w.files.Within d) (config : Config) (audience : String) (grant : Grant) :
    (d.holding fun _ => True).Permits (enter audience grant
      { issuer := config.issuer, keyring := FileKeyring.keyring w.files
        machine := w.toMachine.hoist StateT.lift, count := fun _ => pure () }) := by
  have current : (d.holding fun _ : FileKeyring => True).Permits FileKeyring.current :=
    tries_lift (Ensures.allows (Allows.bind ensures_get.allows fun _ => allows_pure _))
  have replace (entries : Entries) :
      (d.holding fun _ : FileKeyring => True).Permits (FileKeyring.replace entries) :=
    tries_lift (allows_modify fun _ _ => trivial)
  have save : (d.holding fun _ : FileKeyring => True).Permits (FileKeyring.save w.files) :=
    Permits.bind (tries_lift ensures_get.allows) fun keyring =>
      tries_hoist (FileKeyring.permits_write files keyring)
  refine Permits.bind ?_ fun _ => ?_
  · refine (permits_ofExcept _).bind fun userName => Tries.mapError ?_ _
    exact current.bind fun entries => (replace _).bind fun _ => save
  · refine Permits.bind ?_ fun credential => tries_pure trivial
    refine Permits.bind (Tries.mapError (current.bind fun _ => tries_pure trivial) _) fun item => ?_
    cases item with
    | none => exact tries_throw _ _
    | some item => exact permits_ofExcept _

theorem permits_keep (files : w.files.Within d) (print : ∀ text, d.Allows (w.print text))
    (config : Config) (audience : String) (grant : Grant) :
    d.Permits (keep w config audience grant) := by
  unfold keep onKeyring withAuthenticator
  refine Permits.bind ?_ fun user => tries_lift (print _)
  refine (permits_openKeyring files.read config).bind fun keyring => ?_
  exact Ensures.forgetting ((permits_enter files config audience grant).adapt _) trivial

end

variable {σ : Type} {w : Workstation (StateM σ)}

theorem run_acquire (issuer : Issuer) (ready : Act (StateM σ) (Login.Ready (StateM σ))) {world : σ}
    {ended : Except Ending Login.Outcome × σ} (ends : (acquire issuer ready).run.run world = ended) :
    ∃ obtained, (do (← ready) issuer.audience : Act (StateM σ) Login.Outcome).outcome world =
        (obtained, ended.2) ∧ ∀ outcome, ended.1 = .ok outcome → obtained = .ok outcome := by
  -- How failures are told plays no part, so it is only given a name.
  obtain ⟨restate, adapts⟩ : ∃ restate, ∀ job : Job (StateM σ) (Login.Ready (StateM σ)),
      job.during ("failed to contact issuer " ++ issuer.endpoint) = ExceptT.adapt restate job :=
    ⟨_, fun _ => rfl⟩
  have readied : ((Job.ofAct ready).during ("failed to contact issuer " ++ issuer.endpoint)).run.run world =
      (((ready.outcome world).1.mapError Job.ending).mapError restate, (ready.outcome world).2) := by
    rw [adapts]
    rfl
  rw [acquire, ExceptT.run_bind, StateT.run_bind, readied] at ends
  rw [Act.outcome_bind]
  rcases made : ready.outcome world with ⟨failure | login, between⟩ <;> rw [made] at ends
  · subst ends
    exact ⟨_, rfl, fun _ done => by cases done⟩
  · have obtains : (Job.ofAct (login issuer.audience)).run.run between =
        (((login issuer.audience).outcome between).1.mapError Job.ending,
          ((login issuer.audience).outcome between).2) := rfl
    replace ends : (Job.ofAct (login issuer.audience)).run.run between = ended := ends
    rw [obtains] at ends
    subst ends
    refine ⟨_, rfl, fun outcome done => ?_⟩
    cases obtained : ((login issuer.audience).outcome between).1 with
    | error failure =>
      rw [obtained] at done
      cases done
    | ok other =>
      rw [obtained] at done
      cases done
      exact obtained

theorem run_login (w : Workstation (StateM σ)) (config : Config) (scopes : List String)
    (allowRefresh : Bool) :
    run w config (.login scopes allowRefresh) = (do
      let issuer ← Job.ofConfig config.loginIssuer
      let outcome ← acquire issuer (Login.prepareDeviceCode w.toMachine issuer
        ⟨loginScopes config scopes, allowRefresh⟩ (present w))
      keep w config issuer.audience outcome.grant) := by
  simp [run, logIn, acquire, keep, onKeyring, enter]

end Command

/-- A workstation whose requests are all seen, and nothing else that it does. -/
structure Workstation.Logged {σ : Type} (w : Workstation (StateM σ)) (sent : σ → List Http.Request) :
    Prop where
  machine : w.toMachine.Logged sent
  files : w.files.Within (preserving (fun _ => True) sent)
  tell : ∀ text world, sent ((w.tell text).run world).2 = sent world
  print : ∀ text world, sent ((w.print text).run world).2 = sent world

namespace Command

variable {σ : Type} {w : Workstation (StateM σ)} {sent : σ → List Http.Request}

theorem sent_present (logged : w.Logged sent) (code : DeviceCode) (world : σ) :
    sent ((present w code).outcome world).2 = sent world := by
  have tells (text : String) : (preserving (fun _ => True) sent).Allows (w.tell text) :=
    fun world _ => ⟨trivial, trivial, logged.tell text world⟩
  obtain ⟨-, -, same⟩ := permits_present tells code world trivial
  exact same

theorem sent_keep (logged : w.Logged sent) (config : Config) (audience : String) (grant : Grant)
    (world : σ) : sent ((keep w config audience grant).run.run world).2 = sent world := by
  have prints (text : String) : (preserving (fun _ => True) sent).Allows (w.print text) :=
    fun world _ => ⟨trivial, trivial, logged.print text world⟩
  obtain ⟨-, -, same⟩ := permits_keep logged.files prints config audience grant world trivial
  exact same

/-- However a login goes, the device code is asked for once at most, with the scopes that were cleaned
once. -/
theorem scopes_sent (logged : w.Logged sent) (config : Config) (scopes : List String)
    (allowRefresh : Bool) (world : σ) {ended : Except Ending Unit × σ}
    (ends : (run w config (.login scopes allowRefresh)).run.run world = ended) :
    ∃ new, sent ended.2 = sent world ++ new ∧
      (new.filterMap (·.field? "scope") =
          [" ".intercalate (Scopes.cleaned (requested config scopes allowRefresh))] ∨
        new.filterMap (·.field? "scope") = [] ∧ ended.1 ≠ .ok ()) := by
  rw [run_login] at ends
  cases configured : config.loginIssuer with
  | error error =>
    rw [configured] at ends
    subst ends
    exact ⟨[], (List.append_nil _).symm, .inr ⟨rfl, fun done => by cases done⟩⟩
  | ok issuer =>
    rw [configured, Job.ofConfig_ok, pure_bind, ExceptT.run_bind, StateT.run_bind] at ends
    have asked : (DeviceCode.requestFields issuer
        (Login.DeviceOptions.scopes ⟨loginScopes config scopes, allowRefresh⟩)).lookup "scope" =
          some (" ".intercalate (Scopes.cleaned (requested config scopes allowRefresh))) := by
      rw [← cleaned_loginScopes, ← Scopes.parameter_eq]
      rfl
    rcases acquired : (acquire issuer (Login.prepareDeviceCode w.toMachine issuer
        ⟨loginScopes config scopes, allowRefresh⟩ (present w))).run.run world with ⟨result, between⟩
    obtain ⟨obtained, loggedIn, succeeds⟩ := run_acquire issuer _ acquired
    obtain ⟨new, grown, kinds, done⟩ := Login.sent_deviceCode logged.machine issuer _
      (sent_present logged) issuer.audience world loggedIn
    rw [acquired] at ends
    cases result with
    | error ending =>
      subst ends
      refine ⟨new, grown, ?_⟩
      rcases kinds with neutral | asks
      · exact .inr ⟨Http.filterMap_neutral neutral (by simp), fun done => by cases done⟩
      · exact .inl (by rw [asks.filterMap (by simp), asked]; rfl)
    | ok outcome =>
      subst ends
      obtain ⟨-, asks⟩ := done outcome (succeeds outcome rfl)
      refine ⟨new, (sent_keep logged config issuer.audience outcome.grant between).trans grown, .inl ?_⟩
      rw [asks.filterMap (by simp), asked]
      rfl

/-- The scope parameter of the request for a device code is the list of all scopes that the configuration,
the command and its option ask for, cleaned once. That has no repetition and no blank element, and no scope
that was asked for is missing. -/
theorem scopes_cleaned_once (logged : w.Logged sent) (config : Config) (scopes : List String)
    (allowRefresh : Bool) (world : σ) :
    (∃ new, sent ((run w config (.login scopes allowRefresh)).run.run world).2 = sent world ++ new ∧
      (new.filterMap (·.field? "scope") =
          [" ".intercalate (Scopes.cleaned (requested config scopes allowRefresh))] ∨
        new.filterMap (·.field? "scope") = [] ∧
          ((run w config (.login scopes allowRefresh)).run.run world).1 ≠ .ok ())) ∧
    (Scopes.cleaned (requested config scopes allowRefresh)).Nodup ∧
    (∀ scope ∈ Scopes.cleaned (requested config scopes allowRefresh),
      Text.trim scope = scope ∧ scope ≠ "") ∧
    (∀ scope ∈ requested config scopes allowRefresh, Text.trim scope ≠ "" →
      Text.trim scope ∈ Scopes.cleaned (requested config scopes allowRefresh)) ∧
    (allowRefresh → Scopes.offlineAccess ∈ Scopes.cleaned (requested config scopes allowRefresh)) := by
  refine ⟨scopes_sent logged config scopes allowRefresh world rfl, Scopes.nodup_cleaned _,
    fun scope => Scopes.trim_of_mem_cleaned, fun scope asked worded => ?_, fun allowed => ?_⟩
  · exact Scopes.mem_cleaned.mpr (.inr ⟨worded, scope, asked, rfl⟩)
  · refine Scopes.mem_cleaned.mpr (.inr ⟨by decide, Scopes.offlineAccess, ?_, by decide⟩)
    simp [requested, allowed]

end Command

namespace Mail

def workstation : Workstation (StateM Mail) where
  toMachine := machine
  environment _ := none
  process := 1
  print _ := return
  tell _ := return .ok ()

theorem logged_workstation : workstation.Logged Mail.sent where
  machine := logged
  files := by
    constructor <;> intros <;> exact fun _ _ => ⟨trivial, trivial, rfl⟩
  tell _ _ := rfl
  print _ _ := rfl

def naming : Http.Response := ⟨200, Utf8.encode ("\x7b\"access_token\":\"." ++ Base64.urlSafe.encode
  (Utf8.encode ("\x7b\"" ++ Token.userNameClaim ++ "\":\"u\"\x7d")) ++ "\",\"expires_in\":3600\x7d")⟩

def config : Config where
  issuer := issuer
  scopes := ["read\u00a0", "openid"]
  keyringPath := some "/keys"

/-- How a login goes that names some scopes again. -/
def loggedIn : Except Ending Unit × Mail :=
  (Command.run workstation config (.login ["", "write", " read"] true)).run.run
    ⟨[Line.document, offering, naming], []⟩

theorem read_write_asked :
    loggedIn.2.sent.filterMap (·.field? "scope") = ["openid read write offline_access"] := by
  have granted : loggedIn.1 = .ok () := by decide +kernel
  obtain ⟨⟨new, sent, asked | ⟨-, failed⟩⟩, -⟩ := Command.scopes_cleaned_once logged_workstation config
    ["", "write", " read"] true ⟨[Line.document, offering, naming], []⟩
  · rw [loggedIn, sent]
    exact asked
  · exact absurd granted failed

end Mail
end GrantKeeper
