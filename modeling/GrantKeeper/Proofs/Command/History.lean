import GrantKeeper.Proofs.Authenticator.Faults
import GrantKeeper.Proofs.Command.Site

/-! Histories of a keyring file: runs of whole command lines, one after the other, each at a workstation
of its own. What is preserved is that the file holds usable records, labelled as the deeds so far label
them; from that, whoever asks is told who logged in last. -/
namespace GrantKeeper

open Discipline

variable {σ : Type} {w : Workstation (StateM σ)} {site : Site σ} {labels : Labels}
  {arguments : List String} {world : σ}

theorem Invocation.permits_settle {d : Discipline (StateM σ)}
    (read : ∀ path, d.Allows (w.files.read path)) (invocation : Invocation) :
    d.Permits (invocation.settle w) := by
  rw [settle]
  refine (permits_ofConfig _).bind fun path => ?_
  refine Permits.bind (tries_lift ((allows_readText read path).map _)) fun loaded => ?_
  exact Permits.bind ((permits_ofConfig _).adapt _) fun config => permits_ofConfig _

theorem Job.run_step {α : Type} (effect : StateM σ α) (world : σ) :
    (Job.step effect).run.run world = (.ok (effect.run world).1, (effect.run world).2) := rfl

theorem Invocation.settle_ok {invocation : Invocation} {path : String} {loaded config : Config}
    {settled : σ} (named : Config.path invocation.configPath w.environment = .ok path)
    (loads : (Config.load w.files w.environment path).run world = (.ok loaded, settled))
    (valid : loaded.apply invocation.overrides = .ok config) :
    (invocation.settle w).run.run world = (.ok config, settled) := by
  rw [settle, named, Job.ofConfig_ok, pure_bind, ExceptT.run_bind, StateT.run_bind, Job.run_step, loads]
  change (Job.ofConfig (loaded.apply invocation.overrides) : Job (StateM σ) Config).run.run settled = _
  rw [valid]
  rfl

namespace Workstation

/-- If a command line comes to settle on a configuration, that keeps to a path. -/
def KeepsTo (w : Workstation (StateM σ)) (arguments : List String) (world : σ) (path : String) : Prop :=
  ∀ invocation config settled, CommandLine.read arguments = .run invocation →
    (invocation.settle w).run.run world = (.ok config, settled) → config.KeepsTo w.environment path

theorem run_of_read {invocation : Invocation} (read : CommandLine.read arguments = .run invocation) :
    (w.run arguments).run world =
      (w.conclude (((invocation.perform w).run.run world).1.map fun _ => ())).run
        ((invocation.perform w).run.run world).2 := by
  rw [run, read, answer, invocation.run_eq_perform, ExceptT.run_map, bind_map_left]
  rfl

theorem deed_of_read {invocation : Invocation} (read : CommandLine.read arguments = .run invocation) :
    w.deed arguments world = .ofEnd ((invocation.perform w).run.run world).1 := by
  rw [deed, read]

/-- Nothing but an error gives an exit code other than 0. -/
theorem ensures_conclude {d : Discipline (StateM σ)} (tell : ∀ text, d.Allows (w.tell text))
    (ended : Except Ending Unit) : d.Ensures (w.conclude ended) (· = 0 ↔ ended = .ok ()) := by
  obtain (report | fault) | _ := ended
  · exact d.ensures_bind (tell _) fun _ _ => d.ensures_pure (by simp)
  · exact d.ensures_bind (tell _) fun _ _ => d.ensures_pure (by simp)
  · exact d.ensures_pure (by simp)

namespace At

theorem sound_perform (here : w.At site) {invocation : Invocation}
    (keeps : ∀ config settled, (invocation.settle w).run.run world = (.ok config, settled) →
      config.KeepsTo w.environment site.path) (sound : site.Sound labels world) :
    site.Sound ((Deed.ofEnd ((invocation.perform w).run.run world).1).relabel labels)
      ((invocation.perform w).run.run world).2 := by
  have settles : (site.kept labels).Permits (invocation.settle w) :=
    Site.ensures_kept (invocation.permits_settle here.machine.read)
  obtain ⟨-, kept⟩ := settles world sound
  rw [Invocation.perform, ExceptT.run_bind, StateT.run_bind]
  generalize (invocation.settle w).run.run world = ended at keeps kept ⊢
  obtain ⟨ending | config, settled⟩ := ended
  · exact kept
  · exact here.turns_perform (keeps config settled rfl) invocation.command settled kept

theorem sound_run (here : w.At site) (keeps : w.KeepsTo arguments world site.path)
    (sound : site.Sound labels world) :
    site.Sound ((w.deed arguments world).relabel labels) ((w.run arguments).run world).2 := by
  have kept {effect : StateM σ Nat} {labels : Labels} {world : σ}
      (allowed : site.untouched.Allows effect) (sound : site.Sound labels world) :
      site.Sound labels (effect.run world).2 := (Site.ensures_kept allowed world sound).2
  cases read : CommandLine.read arguments with
  | run invocation =>
    rw [run_of_read read, deed_of_read read]
    refine kept (ensures_conclude here.tell _).allows
      (here.sound_perform (fun config settled settles => ?_) sound)
    exact keeps invocation config settled read settles
  | help =>
    rw [run, read, deed, read]
    exact kept ((here.print _).bind fun _ => allows_pure 0) sound
  | version =>
    rw [run, read, deed, read]
    exact kept ((here.print _).bind fun _ => allows_pure 0) sound
  | misuse =>
    rw [run, read, deed, read]
    exact kept ((here.tell _).bind fun _ => allows_pure 2) sound

end At
end Workstation

/-! The logins among deeds. -/

namespace Command

theorem tries_enter (a : Authenticator (StateT FileKeyring (StateM σ))) (audience : String)
    (grant : Grant) :
    ((anything σ).holding fun _ => True).Tries (enter audience grant a)
      fun _ => ∃ user, Credential.userNameOf grant.record = .ok user := by
  have permits {α : Type} (act : Act (StateT FileKeyring (StateM σ)) α) :
      ((anything σ).holding fun _ => True).Permits act :=
    fun _ _ _ _ => ⟨⟨fun _ _ => trivial, trivial⟩, trivial⟩
  have saves : ((anything σ).holding fun _ => True).Tries (a.saveGrant grant)
      fun _ => ∃ user, Credential.userNameOf grant.record = .ok user := by
    have names : ((anything σ).holding fun _ : FileKeyring => True).Tries
        (Act.ofExcept (Credential.userNameOf grant.record))
        fun _ => ∃ user, Credential.userNameOf grant.record = .ok user :=
      tries_ofExcept fun user named => ⟨user, named⟩
    exact names.bind fun _ named => (permits _).mono fun _ _ => named
  exact saves.bind fun _ named => (permits _).mono fun _ _ => named

theorem tries_keep (w : Workstation (StateM σ)) (config : Config) (audience : String) (grant : Grant) :
    (anything σ).Tries (keep w config audience grant)
      fun _ => ∃ user, Credential.userNameOf grant.record = .ok user := by
  have kept : (anything σ).Tries (onKeyring w config (enter audience grant))
      fun _ => ∃ user, Credential.userNameOf grant.record = .ok user := by
    refine Tries.bind (permits_anything _) fun keyring _ => ?_
    exact ((tries_enter _ audience grant).adapt _).forgetting trivial
  exact kept.bind fun _ named => (permits_anything _).mono fun _ _ => named

theorem tries_performLogIn (w : Workstation (StateM σ)) (config : Config) (issuer : Issuer)
    {ready : Act (StateM σ) (Login.Ready (StateM σ))}
    (prepares : (anything σ).Tries ready (Login.Ready.Within · (anything σ))) :
    (anything σ).Tries (performLogIn w config issuer ready) Deed.Fair := by
  refine (tries_acquire prepares).bind fun outcome about => ?_
  exact (tries_keep w config _ _).bind fun _ named => tries_pure ⟨about, named⟩

theorem tries_perform (w : Workstation (StateM σ)) (config : Config) (command : Command) :
    (anything σ).Tries (command.perform w config) Deed.Fair := by
  have within : w.toMachine.Within (anything σ) :=
    ⟨fun _ => allows_anything _, fun _ => allows_anything _, allows_anything _, allows_anything _,
      fun _ => allows_anything _⟩
  cases command with
  | login scopes allowRefresh =>
    refine (permits_ofConfig _).bind fun issuer => tries_performLogIn w config issuer ?_
    exact Login.tries_prepareDeviceCode within issuer _ fun _ => permits_anything _
  | activate =>
    refine (permits_ofConfig _).bind fun chosen => tries_performLogIn w config chosen.1 ?_
    exact Login.tries_prepareClientCredentials within chosen.1 chosen.2
  | whoAmI | logout | token | get =>
    exact Tries.bind (permits_anything _) fun _ _ => tries_pure trivial

end Command

namespace Workstation

theorem deed_eq_nothing {invocation : Invocation} (read : CommandLine.read arguments = .run invocation)
    (idle : invocation.command = .whoAmI ∨ invocation.command = .token ∨
      ∃ path, invocation.command = .get path) :
    w.deed arguments world = .nothing := by
  have performs : (anything σ).Tries (invocation.perform w) (· = .nothing) := by
    refine Tries.bind (permits_anything _) fun config _ => ?_
    obtain idle | idle | ⟨path, idle⟩ := idle <;> rw [idle] <;>
      exact Tries.bind (permits_anything _) fun _ _ => tries_pure rfl
  obtain ⟨nothing, -⟩ := performs world trivial
  rw [deed_of_read read]
  generalize ((invocation.perform w).run.run world).1 = ended at nothing ⊢
  cases ended with
  | ok deed => exact nothing deed rfl
  | error ending => rfl

end Workstation

/-! Who is logged in. -/

/-- A command line that asks for the user of an audience, with a valid configuration that names the
keyring file at a path. -/
def Workstation.Asks (w : Workstation (StateM σ)) (arguments : List String) (world : σ)
    (path audience : String) : Prop :=
  ∃ invocation config settled, CommandLine.read arguments = .run invocation ∧
    invocation.command = .whoAmI ∧ (invocation.settle w).run.run world = (.ok config, settled) ∧
    config.backend = .file ∧ config.keyringFile w.environment = .ok path ∧
    config.audience = .ok audience

def Deed.answer : Option String → Except Ending Unit
  | some _ => .ok ()
  | none => .error (.report (.ofError .noAuthenticationData))

namespace Workstation.At

theorem printed_settle (here : w.At site) {invocation : Invocation} {config : Config} {settled : σ}
    (settles : (invocation.settle w).run.run world = (.ok config, settled)) :
    site.printed settled = site.printed world := by
  have silent : site.silent.Permits (invocation.settle w) := invocation.permits_settle here.reads
  obtain ⟨-, -, same⟩ := silent world trivial
  rwa [settles] at same

theorem run_whoAmI (here : w.At site) {config : Config} (filed : config.backend = .file)
    (named : config.keyringFile w.environment = .ok site.path) {audience : String}
    (asked : config.audience = .ok audience) (sound : site.Sound labels world) :
    ∃ after, (Command.run w config .whoAmI).run.run world =
        (Deed.answer (labels (Credential.keyOf audience)), after) ∧
      site.printed after = site.printed world ++
        ((labels (Credential.keyOf audience)).map (· ++ "\n")).toList := by
  obtain ⟨keyring, opens, entries, mirrors, sound⟩ := here.run_openKeyring filed named sound
  obtain ⟨-, -, silent⟩ := here.reads site.path world trivial
  generalize ((w.files.read site.path).run world).2 = middle at opens mirrors silent
  have asks := Command.run_withAuthenticator opens fun a => Job.ofAct (a.whoAmI audience)
  have answers : ((Job.ofAct ((Command.authenticator w config).whoAmI audience)).run.run keyring).run
      middle = _ := Job.run_of_ending (mirrors.ending_whoAmI sound audience)
  rw [answers] at asks
  rw [Command.run, asked]
  change ∃ after, (Command.onKeyring w config (fun a => a.whoAmI audience) >>= fun user =>
    Command.printLine w user).run.run world = _ ∧ _
  rw [ExceptT.run_bind, StateT.run_bind, Command.onKeyring, asks]
  cases labels (Credential.keyOf audience) with
  | none => exact ⟨middle, rfl, by rw [silent]; simp⟩
  | some user => exact ⟨_, rfl, by rw [← silent]; exact here.prints _ _⟩

theorem run_of_asks (here : w.At site) {audience : String}
    (asks : w.Asks arguments world site.path audience) (sound : site.Sound labels world) :
    ∃ after, (w.run arguments).run world =
        (w.conclude (Deed.answer (labels (Credential.keyOf audience)))).run after ∧
      site.printed after = site.printed world ++
        ((labels (Credential.keyOf audience)).map (· ++ "\n")).toList := by
  obtain ⟨invocation, config, settled, read, whoAmI, settles, filed, named, asked⟩ := asks
  have kept : (site.kept labels).Permits (invocation.settle w) :=
    Site.ensures_kept (invocation.permits_settle here.machine.read)
  obtain ⟨-, sound⟩ := kept world sound
  rw [settles] at sound
  obtain ⟨after, answers, printed⟩ := here.run_whoAmI filed named asked sound
  refine ⟨after, ?_, by rw [printed, here.printed_settle settles]⟩
  have runs : (invocation.run w).run.run world =
      (Deed.answer (labels (Credential.keyOf audience)), after) := by
    rw [invocation.run_eq_settle, ExceptT.run_bind, StateT.run_bind, settles, whoAmI]
    exact answers
  rw [run, read, answer, StateT.run_bind, runs]
  rfl

end Workstation.At

namespace Site

/-- Histories: the file is missing at first, and then command lines are run at workstations, one after
the other, each with the deed that it came to. Between them anything may happen that leaves the file as
it is. -/
inductive Runs (site : Site σ) : List Deed → σ → Prop
  | start {world : σ} : site.orderly world → site.content site.path world = none → Runs site [] world
  | command {deeds : List Deed} {world : σ} (w : Workstation (StateM σ)) (arguments : List String) :
    w.At site → w.KeepsTo arguments world site.path → Runs site deeds world →
    Runs site (w.deed arguments world :: deeds) ((w.run arguments).run world).2
  | moved {deeds : List Deed} {world after : σ} : Runs site deeds world → site.orderly after →
    site.content site.path after = site.content site.path world → Runs site deeds after

theorem Runs.sound {deeds : List Deed} (runs : site.Runs deeds world) :
    site.Sound (Deed.labelsAfter deeds) world := by
  induction runs with
  | start fit missing => exact ⟨∅, ⟨fit, .inr ⟨missing, rfl⟩⟩, Entries.sound_empty⟩
  | command w arguments here keeps _ sound => exact here.sound_run keeps sound
  | moved _ fit same sound =>
    obtain ⟨entries, ⟨-, holds⟩, sound⟩ := sound
    exact ⟨entries, ⟨fit, same ▸ holds⟩, sound⟩

theorem fair_deed (w : Workstation (StateM σ)) (arguments : List String) (world : σ) :
    (w.deed arguments world).Fair := by
  unfold Workstation.deed
  split
  · next invocation _ =>
    have performs : (anything σ).Tries (invocation.perform w) Deed.Fair :=
      Tries.bind (permits_anything _) fun config _ => Command.tries_perform w config invocation.command
    obtain ⟨fair, -⟩ := performs world trivial
    cases ended : ((invocation.perform w).run.run world).1 with
    | ok deed => exact fair deed ended
    | error ending => exact trivial
  all_goals exact trivial

theorem Runs.fair {deeds : List Deed} (runs : site.Runs deeds world) : ∀ deed ∈ deeds, deed.Fair := by
  induction runs with
  | start => exact List.forall_mem_nil _
  | command w arguments _ _ _ fair =>
    exact List.forall_mem_cons.mpr ⟨fair_deed w arguments _, fair⟩
  | moved _ _ _ fair => exact fair

/-- Whatever command lines are run one after the other, the keyring file is missing or can be read, all
that it holds are usable records, and whoever asks for the user of an audience is told the one who was
logged in for it last, if that was since the last logout; else, that there is none. -/
theorem Runs.last_login_answers {deeds : List Deed} (runs : site.Runs deeds world) :
    (∀ bytes, site.content site.path world = some bytes → ∃ text entries,
      Utf8.decode? bytes = some text ∧ FileKeyring.decode? text = some entries ∧
        ∀ key entry, entries.get? key = some entry →
          ∃ record, GrantRecord.decode? entry.data = some record ∧ record.validate = .ok ()) ∧
    (∀ deed ∈ deeds, deed.Fair) ∧
    ∀ (w : Workstation (StateM σ)) (arguments : List String) (audience : String), w.At site →
      w.Asks arguments world site.path audience →
      (∀ about grant, .loggedIn about grant ∈ deeds →
        Credential.keyOf about = Credential.keyOf audience → about = audience) →
      ∃ after, (w.run arguments).run world =
          (w.conclude (Deed.answer (Deed.userAfter audience deeds))).run after ∧
        site.printed after =
          site.printed world ++ ((Deed.userAfter audience deeds).map (· ++ "\n")).toList := by
  refine ⟨fun bytes there => ?_, runs.fair, fun w arguments audience here asks distinct => ?_⟩
  · obtain ⟨entries, ⟨-, holds⟩, sound⟩ := runs.sound
    rcases holds with holds | ⟨missing, -⟩
    · cases there.symm.trans holds
      exact ⟨_, entries, Utf8.decode?_encode _, FileKeyring.decode?_encode entries, sound.usable⟩
    · cases there.symm.trans missing
  · rw [← Deed.labelsAfter_keyOf distinct]
    exact here.run_of_asks asks runs.sound

end Site

/-! A console at which a service account is activated. -/

/-- The keyring file and the one beside it, what was printed, and what servers are going to respond. -/
structure Console where
  file : Option (List UInt8) := none
  beside : List UInt8 := []
  printed : List String := []
  responses : List Http.Response := []
deriving DecidableEq

namespace Console

def settings : String := "settings.toml"

def files : Files (StateM Console) where
  read path := do
    if path = settings then return .ok (Utf8.encode "[keyring]\npath = \"keyring\"\n")
    return (← get).file.elim (.error .missing) .ok
  createDirectories _ := return .ok ()
  write _ bytes := do
    modify fun console => { console with beside := bytes }
    return .ok ()
  restrict _ := return .ok ()
  rename _ _ := do
    modify fun console => { console with file := some console.beside }
    return .ok ()

def network : Http.Network (StateM Console) where
  send _ := do
    let console ← get
    match console.responses with
    | [] => return .error "connection refused"
    | response :: rest =>
      set { console with responses := rest }
      return .ok response

def environment : Environment
  | "PULSARCTL_CONFIG" => some settings
  | "PULSAR_ISSUER_ENDPOINT" => some "http://issuer"
  | "PULSAR_AUDIENCE" => some "audience"
  | "PULSAR_KEY_FILE" => some ("data:application/json,\x7b\"type\":\"sn_service_account\"," ++
      "\"client_id\":\"client\",\"client_secret\":\"secret\",\"client_email\":\"robot@example\"\x7d")
  | _ => none

def station : Workstation (StateM Console) where
  network := network
  files := files
  clock := return Instant.epoch
  timer := ⟨return 0, fun _ => return ()⟩
  patience := 10
  environment := environment
  process := 0
  print text := modify fun console => { console with printed := console.printed ++ [text] }
  tell _ := return .ok ()

def place : Site Console where
  path := "keyring"
  directory := ""
  orderly _ := True
  ready _ := True
  content path console := if path = "keyring" then console.file else some console.beside
  printed := Console.printed

/-- A token is issued; asked for something, a server does not accept it. -/
def start : Console where
  responses := [Line.document, Line.issuing "3600", Line.document, ⟨401, []⟩]

def obtained : Token := { accessToken := "a", expiry := some ⟨3600, 0, by decide⟩ }

def config : Config where
  issuer := ⟨"http://issuer", "", "audience"⟩
  keyFile := (environment "PULSAR_KEY_FILE").getD ""
  keyringPath := some "keyring"

theorem settle_station (command : Command) (world : Console) :
    (Invocation.settle station { command }).run.run world = (.ok config, world) := by
  have read : Config.ofContent environment
      (FileKeyring.textOf (.ok (Utf8.encode "[keyring]\npath = \"keyring\"\n"))) = .ok config := by
    decide +kernel
  have loads : (Config.load files environment settings).run world = (.ok config, world) := by
    rw [Config.load, StateT.run_map, FileKeyring.run_readText]
    exact congrArg (·, world) read
  have valid : config.apply {} = .ok config := by decide +kernel
  exact Invocation.settle_ok rfl loads valid

theorem read_files (path : String) (world : Console) : ((files.read path).run world).2 = world := by
  by_cases named : path = settings <;> simp only [files, named] <;> rfl

theorem within_machine {κ : Type} {look : Console → κ}
    (blind : ∀ world responses, look { world with responses } = look world) :
    station.toMachine.Within (preserving (fun _ => True) look) where
  network request world _ := by
    obtain ⟨file, beside, printed, _ | ⟨response, rest⟩⟩ := world
    · exact ⟨trivial, trivial, rfl⟩
    · exact ⟨trivial, trivial, blind _ rest⟩
  read path world _ := ⟨trivial, trivial, congrArg _ (read_files path world)⟩
  clock _ _ := ⟨trivial, trivial, rfl⟩
  now _ _ := ⟨trivial, trivial, rfl⟩
  sleep _ _ _ := ⟨trivial, trivial, rfl⟩

theorem at_station : station.At place where
  files := {
    parent := by decide +kernel
    read := fun world _ => ⟨world, rfl, trivial, rfl⟩
    createDirectories := fun world _ => ⟨world, rfl, trivial⟩
    write := fun process bytes world _ =>
      ⟨{ world with beside := bytes }, rfl, trivial, by simp [place, Disk.temporary_ne]⟩
    restrict := fun process bytes world _ holds => ⟨world, rfl, trivial, holds⟩
    rename := fun process bytes world _ holds => by
      obtain rfl : world.beside = bytes := by
        simpa [place, Disk.temporary_ne] using holds
      exact ⟨{ world with file := some world.beside }, rfl, trivial, rfl⟩ }
  process := ⟨0, rfl⟩
  machine := within_machine fun _ _ => rfl
  tell := fun _ _ _ => ⟨trivial, trivial, rfl⟩
  print := fun _ _ _ => ⟨trivial, trivial, rfl⟩
  prints := fun _ _ => rfl
  reads := fun path world _ => ⟨trivial, trivial, congrArg _ (read_files path world)⟩

def grant : Grant := .clientCredentials "audience" Line.account (some obtained)

def supplied : Console where
  responses := [Line.document, ⟨401, []⟩]

def acquired : Except Ending Login.Outcome × Console :=
  (Command.acquire config.issuer
    (Login.prepareClientCredentials station.toMachine config.issuer config.keyFile)).run.run start

theorem acquired_eq : acquired = (.ok ⟨grant, obtained⟩, supplied) := by decide +kernel

theorem deed_activate : station.deed ["oauth2", "activate"] start = .loggedIn "audience" grant := by
  have read : CommandLine.read ["oauth2", "activate"] = .run { command := .activate } := by
    decide +kernel
  have sound : place.Sound (fun _ => none) supplied :=
    ⟨∅, ⟨trivial, .inr ⟨rfl, rfl⟩⟩, Entries.sound_empty⟩
  have chosen : config.activation = .ok (config.issuer, config.keyFile) := by decide +kernel
  have filed : config.backend = .file := rfl
  have logsIn := at_station.run_performLogIn filed rfl acquired_eq rfl rfl sound
  rw [Workstation.deed_of_read read, Invocation.perform, ExceptT.run_bind, StateT.run_bind,
    settle_station]
  change Deed.ofEnd ((Command.perform station config .activate).run.run start).1 = _
  rw [Command.perform, chosen, Job.ofConfig_ok, pure_bind]
  exact congrArg _ logsIn

theorem keepsTo_station {arguments : List String} {command : Command}
    (read : CommandLine.read arguments = .run { command }) (world : Console) :
    station.KeepsTo arguments world place.path := by
  intro invocation config_ settled read_ settles _ other named
  cases read.symm.trans read_
  rw [settle_station] at settles
  cases settles
  cases named
  rfl

def deeds : List Deed := [.nothing, .loggedIn "audience" grant]

theorem exists_runs : ∃ refused,
    refused = ((station.run ["get", "tenants"]).run
      ((station.run ["oauth2", "activate"]).run start).2).2 ∧ place.Runs deeds refused := by
  have activates : CommandLine.read ["oauth2", "activate"] = .run { command := .activate } := by
    decide +kernel
  have gets : CommandLine.read ["get", "tenants"] = .run { command := .get "tenants" } := by
    decide +kernel
  have begun : place.Runs [] start := .start trivial rfl
  have runs := Site.Runs.command station ["get", "tenants"] at_station (keepsTo_station gets _)
    (.command station ["oauth2", "activate"] at_station (keepsTo_station activates _) begun)
  rw [deed_activate, Workstation.deed_eq_nothing gets (.inr (.inr ⟨_, rfl⟩))] at runs
  exact ⟨_, rfl, runs⟩

/-- The user of a service account that was activated is known after its token was refused. -/
theorem told_after_refusal : ∃ refused after,
    refused = ((station.run ["get", "tenants"]).run
      ((station.run ["oauth2", "activate"]).run start).2).2 ∧
    (station.run ["oauth2", "whoami"]).run refused = (0, after) ∧
    after.printed = refused.printed ++ ["robot@example\n"] := by
  obtain ⟨refused, same, runs⟩ := exists_runs
  have read : CommandLine.read ["oauth2", "whoami"] = .run { command := .whoAmI } := by decide +kernel
  have asks : station.Asks ["oauth2", "whoami"] refused place.path "audience" :=
    ⟨_, config, _, read, rfl, settle_station _ _, rfl, rfl, rfl⟩
  have user : Deed.userAfter "audience" deeds = some "robot@example" := rfl
  obtain ⟨-, -, answers⟩ := runs.last_login_answers
  obtain ⟨after, ended, printed⟩ := answers station _ "audience" at_station asks (by simp [deeds])
  rw [user] at ended printed
  exact ⟨refused, after, same, ended, printed⟩

end Console
end GrantKeeper
