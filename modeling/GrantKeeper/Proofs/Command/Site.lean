import GrantKeeper.Proofs.Command.Deed
import GrantKeeper.Proofs.Discipline.Programs

/-! The site of a keyring file, and what commands do there. Whatever they ask for, read or wait for
leaves the file as it is; a token that is renewed or refused is written back under the label that it was
read with; so it is only by its deed that a command changes the labels. -/
namespace GrantKeeper

open Discipline

/-- The site of a keyring file: where it is, in what worlds it can be worked with and where it can be
written already, what files hold, and what was printed. -/
structure Site (σ : Type) where
  path : String
  directory : String
  orderly : σ → Prop
  ready : σ → Prop
  content : String → σ → Option (List UInt8)
  printed : σ → List String

namespace Site

variable {σ α β : Type} {site : Site σ} {labels : Labels}

def untouched (site : Site σ) : Discipline (StateM σ) :=
  preserving site.orderly (site.content site.path)

def silent (site : Site σ) : Discipline (StateM σ) := preserving (fun _ => True) site.printed

/-- The file holds some entries, or is missing and there are none. -/
structure Holds (site : Site σ) (entries : Entries) (world : σ) : Prop where
  orderly : site.orderly world
  holds : site.content site.path world = some (Utf8.encode (FileKeyring.encode entries)) ∨
    site.content site.path world = none ∧ entries = ∅

/-- The file holds usable records, which are labelled in some way. -/
def Sound (site : Site σ) (labels : Labels) (world : σ) : Prop :=
  ∃ entries, site.Holds entries world ∧ entries.Sound labels

/-- The file is open, and what is in memory is what it holds. -/
def Open (site : Site σ) (labels : Labels) (keyring : FileKeyring) (world : σ) : Prop :=
  ∃ entries, FileKeyring.Mirrors site.path site.orderly site.content keyring world entries ∧
    entries.Sound labels

theorem Open.sound {keyring : FileKeyring} {world : σ} (opened : site.Open labels keyring world) :
    site.Sound labels world := by
  obtain ⟨entries, mirrors, sound⟩ := opened
  exact ⟨entries, ⟨mirrors.orderly, mirrors.holds⟩, sound⟩

/-- Effects that leave the labels as they are. -/
def kept (site : Site σ) (labels : Labels) : Discipline (StateM σ) := keeping (site.Sound labels)

/-- Effects on an open file that leave the labels as they are. -/
def tended (site : Site σ) (labels : Labels) : Discipline (StateT FileKeyring (StateM σ)) where
  Ensures effect good := ∀ keyring world, site.Open labels keyring world →
    good ((effect.run keyring).run world).1.1 ∧
      site.Open labels ((effect.run keyring).run world).1.2 ((effect.run keyring).run world).2
  ensures_pure fine _ _ opened := ⟨fine, opened⟩
  ensures_bind first rest keyring world opened := by
    obtain ⟨fine, opened⟩ := first keyring world opened
    exact rest _ fine _ _ opened

theorem ensures_kept {effect : StateM σ α} {good : α → Prop}
    (ensures : site.untouched.Ensures effect good) : (site.kept labels).Ensures effect good := by
  rintro world ⟨entries, holds, sound⟩
  obtain ⟨fine, fit, same⟩ := ensures world holds.orderly
  exact ⟨fine, entries, ⟨fit, same ▸ holds.holds⟩, sound⟩

theorem ensures_tended {effect : StateM σ α} {good : α → Prop}
    (ensures : site.untouched.Ensures effect good) :
    (site.tended labels).Ensures (StateT.lift effect) good := by
  rintro keyring world ⟨entries, mirrors, sound⟩
  obtain ⟨fine, fit, same⟩ := ensures world mirrors.orderly
  exact ⟨fine, entries, ⟨mirrors.opened, fit, same ▸ mirrors.holds⟩, sound⟩

/-! Jobs that change the labels. -/

/-- A job turns labels into others, which depend on how it ends. -/
def Turns (site : Site σ) (labels : Labels) (job : Job (StateM σ) α)
    (after : Except Ending α → Labels) : Prop :=
  ∀ world, site.Sound labels world →
    site.Sound (after (job.run.run world).1) (job.run.run world).2

/-- So does a job on an open file. -/
def TurnsOpen (site : Site σ) (labels : Labels) (job : Job (StateT FileKeyring (StateM σ)) α)
    (after : Except Ending α → Labels) : Prop :=
  ∀ keyring world, site.Open labels keyring world →
    site.Open (after ((job.run.run keyring).run world).1.1) ((job.run.run keyring).run world).1.2
      ((job.run.run keyring).run world).2

theorem turns_pure (value : α) {after : Except Ending α → Labels} (same : after (.ok value) = labels) :
    site.Turns labels (pure value) after := by
  intro world sound
  rwa [← same] at sound

/-- A job and then another, of which more is known if the first one ends with a value. -/
theorem turns_bind {job : Job (StateM σ) α} {next : α → Job (StateM σ) β} {good : α → Prop}
    {middle : Except Ending α → Labels} {after : Except Ending β → Labels}
    (first : ∀ world, site.Sound labels world →
      (∀ value, (job.run.run world).1 = .ok value → good value) ∧
        site.Sound (middle (job.run.run world).1) (job.run.run world).2)
    (rest : ∀ value, good value → site.Turns (middle (.ok value)) (next value) after)
    (fails : ∀ ending, after (.error ending) = middle (.error ending)) :
    site.Turns labels (job >>= next) after := by
  intro world sound
  obtain ⟨finds, turned⟩ := first world sound
  rw [ExceptT.run_bind, StateT.run_bind]
  generalize job.run.run world = ended at finds turned ⊢
  obtain ⟨ending | value, end_⟩ := ended
  · change site.Sound (after (.error ending)) end_
    rw [fails]
    exact turned
  · exact rest value (finds value rfl) end_ turned

theorem Turns.bind {job : Job (StateM σ) α} {next : α → Job (StateM σ) β}
    {middle : Except Ending α → Labels} {after : Except Ending β → Labels}
    (first : site.Turns labels job middle)
    (rest : ∀ value, site.Turns (middle (.ok value)) (next value) after)
    (fails : ∀ ending, after (.error ending) = middle (.error ending)) :
    site.Turns labels (job >>= next) after :=
  turns_bind (fun world sound => ⟨fun _ _ => trivial, first world sound⟩)
    (fun value _ => rest value) fails

theorem turns_of_tries {job : Job (StateM σ) α} {next : α → Job (StateM σ) β} {good : α → Prop}
    {after : Except Ending β → Labels} (first : (site.kept labels).Tries job good)
    (rest : ∀ value, good value → site.Turns labels (next value) after)
    (fails : ∀ ending, after (.error ending) = labels) : site.Turns labels (job >>= next) after :=
  @turns_bind σ α β site labels job next good (fun _ => labels) after first rest fails

end Site

/-! Commands at a site. -/

/-- A workstation at a site: none of its operations on the keyring file fails, and all its other effects
leave that as it is. What it prints is printed there. -/
structure Workstation.At {σ : Type} (w : Workstation (StateM σ)) (site : Site σ) : Prop where
  files : FileKeyring.Dependable w.files site.path site.directory site.orderly site.ready site.content
  process : ∃ number : UInt32, w.process = number.toNat
  machine : w.toMachine.Within site.untouched
  tell : ∀ text, site.untouched.Allows (w.tell text)
  print : ∀ text, site.untouched.Allows (w.print text)
  prints : ∀ text world, site.printed ((w.print text).run world).2 = site.printed world ++ [text]
  reads : ∀ path, site.silent.Allows (w.files.read path)

variable {σ α : Type} {w : Workstation (StateM σ)} {site : Site σ} {labels : Labels}

namespace Site

theorem kept_of_untouched {network : Http.Network (StateM σ)} (within : network.Within site.untouched) :
    network.Within (site.kept labels) := fun request => ensures_kept (within request)

theorem tended_hoist {machine : Login.Machine (StateM σ)} (within : machine.Within site.untouched) :
    (machine.hoist StateT.lift).Within (site.tended labels) where
  network request := ensures_tended (within.network request)
  read path := ensures_tended (within.read path)
  clock := ensures_tended within.clock
  now := ensures_tended within.now
  sleep length := ensures_tended (within.sleep length)

end Site

namespace Command

theorem permits_present {d : Discipline (StateM σ)} (tell : ∀ text, d.Allows (w.tell text))
    (code : DeviceCode) : d.Permits (present w code) := by
  refine Permits.bind (tries_lift (tell _)) fun told => ?_
  split
  · exact tries_pure trivial
  · exact tries_throw _ _

theorem tries_acquire {d : Discipline (StateM σ)} {ready : Act (StateM σ) (Login.Ready (StateM σ))}
    {issuer : Issuer} (prepares : d.Tries ready (Login.Ready.Within · d)) :
    d.Tries (acquire issuer ready) (·.grant.audience = issuer.audience) :=
  Tries.bind ((prepares.adapt _).adapt _) fun _ logsIn => (logsIn issuer.audience).adapt _

def authenticator (w : Workstation (StateM σ)) (config : Config) :
    Authenticator (StateT FileKeyring (StateM σ)) :=
  { issuer := config.issuer, keyring := FileKeyring.keyring w.files
    machine := w.toMachine.hoist StateT.lift, count := fun _ => pure () }

theorem run_openKeyring_of_named {config : Config} {path : String} (filed : config.backend = .file)
    (named : config.keyringFile w.environment = .ok path) (world : σ) :
    ∃ restate, (openKeyring w config).run.run world =
      (((FileKeyring.load w.files path w.process).outcome world).1.mapError restate,
        ((FileKeyring.load w.files path w.process).outcome world).2) := by
  obtain ⟨restate, adapts⟩ : ∃ restate, ∀ job : Job (StateM σ) FileKeyring,
      job.during ("failed to open keyring " ++ path) = ExceptT.adapt restate job :=
    ⟨_, fun _ => rfl⟩
  rw [openKeyring, filed, named, Job.ofConfig_ok, pure_bind, adapts]
  refine ⟨fun failure => restate (Job.ending failure), ?_⟩
  change ((((FileKeyring.load w.files path w.process).outcome world).1.mapError
    Job.ending).mapError restate, ((FileKeyring.load w.files path w.process).outcome world).2) = _
  rcases (FileKeyring.load w.files path w.process).outcome world with ⟨_ | _, _⟩ <;> rfl

theorem run_withAuthenticator {config : Config} {world middle : σ} {keyring : FileKeyring}
    (opens : (openKeyring w config).run.run world = (.ok keyring, middle))
    (use : Authenticator (StateT FileKeyring (StateM σ)) → Job (StateT FileKeyring (StateM σ)) α) :
    (withAuthenticator w config use).run.run world =
      ((((use (authenticator w config)).run.run keyring).run middle).1.1,
        (((use (authenticator w config)).run.run keyring).run middle).2) := by
  rw [withAuthenticator, ExceptT.run_bind, StateT.run_bind, opens]
  rfl

theorem enter_authenticator (w : Workstation (StateM σ)) (config : Config) (audience : String)
    (grant : Grant) :
    enter audience grant (authenticator w config) = (do
      Credential.save (FileKeyring.keyring w.files) grant.audience grant.record
      Credential.whoAmI (FileKeyring.keyring w.files) audience) := rfl

end Command

/-- A configuration with which no other keyring file than one is opened. -/
def Config.KeepsTo (config : Config) (environment : Environment) (path : String) : Prop :=
  config.backend = .file → ∀ other, config.keyringFile environment = .ok other → other = path

theorem Job.run_of_ending {τ : Type} {act : Act (StateT τ (StateM σ)) α} {held later : τ}
    {world after : σ} {result : Except Failure α}
    (ended : act.ending held world = (result, later, after)) :
    ((Job.ofAct act).run.run held).run world = ((result.mapError Job.ending, later), after) := by
  cases ended
  rfl

namespace Workstation.At

theorem permits_set (here : w.At site) {key label : String} (labelled : labels key = some label)
    {record : GrantRecord} (usable : record.isUsable) :
    (site.tended labels).Permits ((FileKeyring.keyring w.files).set ⟨key, label, record.encode⟩) := by
  rintro keyring world ⟨entries, mirrors, sound⟩
  obtain ⟨after, end_, wrote, mirrors⟩ := mirrors.ending_set here.files ⟨key, label, record.encode⟩
  rw [Act.run_of_ending wrote]
  exact ⟨fun _ _ => trivial, _, mirrors, sound.rewritten usable labelled⟩

theorem rewritable (here : w.At site) (labels : Labels) :
    (FileKeyring.keyring w.files).Rewritable (site.tended labels) := by
  rintro key keyring world opened
  refine ⟨?_, opened⟩
  obtain ⟨entries, mirrors, sound⟩ := opened
  rintro _ ⟨⟩ item found record usable
  -- Other writes may come between, but none of them changes the label at the key.
  refine here.permits_set ?_ usable
  rw [← sound.labelled, ← mirrors.entries_eq]
  obtain ⟨entry, present, rfl⟩ := Option.map_eq_some_iff.mp found
  rw [present]
  rfl

theorem within_authenticator (here : w.At site) (config : Config) (labels : Labels) :
    (Command.authenticator w config).Within (site.tended labels) where
  keyring := here.rewritable labels
  machine := Site.tended_hoist here.machine
  count _ := allows_pure ()
  exchanger := nofun

theorem run_openKeyring (here : w.At site) {config : Config} (filed : config.backend = .file)
    (named : config.keyringFile w.environment = .ok site.path) {world : σ}
    (sound : site.Sound labels world) :
    ∃ keyring, (Command.openKeyring w config).run.run world =
        (.ok keyring, ((w.files.read site.path).run world).2) ∧
      site.Open labels keyring ((w.files.read site.path).run world).2 := by
  obtain ⟨entries, ⟨fit, holds⟩, sound⟩ := sound
  obtain ⟨process, number⟩ := here.process
  obtain ⟨after, loads, fit, same⟩ := here.files.outcome_load process fit holds
  obtain rfl : ((w.files.read site.path).run world).2 = after := by
    rw [FileKeyring.outcome_load] at loads
    exact congrArg Prod.snd loads
  refine ⟨⟨site.path, process.toNat, entries⟩, ?_, entries, ⟨⟨process, rfl⟩, fit, same ▸ holds⟩, sound⟩
  obtain ⟨restate, opens⟩ := Command.run_openKeyring_of_named filed named world
  rw [number, loads] at opens
  exact opens

theorem openKeyring_ends (here : w.At site) {config : Config}
    (keeps : config.KeepsTo w.environment site.path) {world : σ} (sound : site.Sound labels world) :
    (∃ ending, (Command.openKeyring w config).run.run world = (.error ending, world)) ∨
    ∃ keyring after, (Command.openKeyring w config).run.run world = (.ok keyring, after) ∧
      site.Open labels keyring after := by
  cases filed : config.backend with
  | file =>
    cases named : config.keyringFile w.environment with
    | error error =>
      refine .inl ⟨.report (.ofConfig error), ?_⟩
      rw [Command.openKeyring, filed, named]
      rfl
    | ok path =>
      obtain rfl := keeps filed path named
      obtain ⟨keyring, opens, opened⟩ := here.run_openKeyring filed named sound
      exact .inr ⟨keyring, _, opens, opened⟩
  | system =>
    rw [Command.openKeyring, filed]
    exact .inl ⟨_, rfl⟩

variable {config : Config} {use : Authenticator (StateT FileKeyring (StateM σ)) →
  Job (StateT FileKeyring (StateM σ)) α}

theorem turns_withAuthenticator (here : w.At site) (keeps : config.KeepsTo w.environment site.path)
    {after : Except Ending α → Labels}
    (turns : site.TurnsOpen labels (use (Command.authenticator w config)) after)
    (fails : ∀ ending, after (.error ending) = labels) :
    site.Turns labels (Command.withAuthenticator w config use) after := by
  intro world sound
  rcases here.openKeyring_ends keeps sound with ⟨ending, opens⟩ | ⟨keyring, middle, opens, opened⟩
  · rw [Command.withAuthenticator, ExceptT.run_bind, StateT.run_bind, opens]
    change site.Sound (after (.error ending)) world
    rw [fails]
    exact sound
  · rw [Command.run_withAuthenticator opens]
    exact (turns keyring middle opened).sound

theorem tries_withAuthenticator (here : w.At site) (keeps : config.KeepsTo w.environment site.path)
    {good : α → Prop} (tries : (site.tended labels).Tries (use (Command.authenticator w config)) good) :
    (site.kept labels).Tries (Command.withAuthenticator w config use) good := by
  intro world sound
  rcases here.openKeyring_ends keeps sound with ⟨ending, opens⟩ | ⟨keyring, middle, opens, opened⟩
  · rw [Command.withAuthenticator, ExceptT.run_bind, StateT.run_bind, opens]
    exact ⟨nofun, sound⟩
  · rw [Command.run_withAuthenticator opens]
    obtain ⟨fine, opened⟩ := tries keyring middle opened
    exact ⟨fine, opened.sound⟩

theorem permits_printLine (here : w.At site) (line : String) :
    (site.kept labels).Permits (Command.printLine w line) :=
  tries_lift (Site.ensures_kept (here.print _))

theorem turns_printLine (here : w.At site) (line : String) {after : Except Ending Unit → Labels}
    (same : after (.ok ()) = labels) : site.Turns labels (Command.printLine w line) after := by
  intro world sound
  exact same ▸ (here.permits_printLine line world sound).2

/-! Commands that are no deeds. -/

theorem permits_whoAmI (here : w.At site) (keeps : config.KeepsTo w.environment site.path) :
    (site.kept labels).Permits (Command.run w config .whoAmI) := by
  refine (permits_ofConfig _).bind fun audience => ?_
  refine Permits.bind (here.tries_withAuthenticator keeps ?_) fun user => here.permits_printLine user
  have loads := Credential.tries_load (here.rewritable labels) audience
  exact (loads.bind fun credential _ => tries_pure trivial).adapt _

theorem permits_token (here : w.At site) (keeps : config.KeepsTo w.environment site.path) :
    (site.kept labels).Permits (Command.run w config .token) := by
  refine (permits_ofConfig _).bind fun audience => ?_
  refine Permits.bind (here.tries_withAuthenticator keeps ?_) fun token => here.permits_printLine _
  have provides := (here.within_authenticator config labels).tries_tokenProvider audience
  exact (provides.bind fun provision within => within.permits_token).adapt _

theorem permits_sendRequest (here : w.At site) (keeps : config.KeepsTo w.environment site.path)
    (request : Http.Request) :
    (site.kept labels).Permits (Command.sendRequest w config request) := by
  rw [Command.sendRequest]
  split
  · have anonymous : (Authentication.anonymous : Authentication (StateM σ)).Within (site.kept labels) :=
      trivial
    exact tries_lift (anonymous.allows_send (Site.kept_of_untouched here.machine.network) request)
  · refine here.tries_withAuthenticator keeps ?_
    have within := here.within_authenticator config labels
    refine Tries.bind ((within.tries_authentication _).adapt _) fun authentication fits => ?_
    exact tries_lift (fits.allows_send within.machine.network request)

theorem permits_get (here : w.At site) (keeps : config.KeepsTo w.environment site.path)
    (path : String) :
    (site.kept labels).Permits (Command.run w config (.get path)) := by
  rw [Command.run, Command.printResource]
  split
  · exact tries_throw _ _
  · refine (here.permits_sendRequest keeps _).bind fun sent => ?_
    refine Permits.bind ?_ fun response => ?_
    · refine Tries.adapt (Tries.adapt ?_ _) _
      exact ensures_pure _ fun _ _ => trivial
    · split
      · exact here.permits_printLine _
      · exact tries_throw _ _

/-! Logins and logouts. -/

theorem ending_enter (here : w.At site) (config : Config) {grant : Grant} {user : String}
    (named : Credential.userNameOf grant.record = .ok user) {keyring : FileKeyring} {world : σ}
    (opened : site.Open labels keyring world) :
    ∃ after end_, (Command.enter grant.audience grant (Command.authenticator w config)).ending keyring
        world = (.ok user, after, end_) ∧
      site.Open ((Deed.loggedIn grant.audience grant).relabel labels) after end_ := by
  obtain ⟨entries, mirrors, sound⟩ := opened
  obtain ⟨after, end_, saved, mirrors⟩ := mirrors.ending_save here.files named grant.audience
  have usable := Credential.isUsable_of_userNameOf named
  have sound := sound.withItem usable (Credential.keyOf grant.audience) user
  refine ⟨after, end_, ?_, _, mirrors, ?_⟩
  · rw [Command.enter_authenticator, Act.ending_bind, saved]
    simp only [mirrors.ending_whoAmI sound, Function.update_self]
  · rw [Deed.relabel, named]
    exact sound

theorem turnsOpen_enter (here : w.At site) (config : Config) (grant : Grant) :
    site.TurnsOpen labels
      (Job.ofAct (Command.enter grant.audience grant (Command.authenticator w config)))
      ((Deed.loggedIn grant.audience grant).relabelIfOk labels) := by
  intro keyring world opened
  cases named : Credential.userNameOf grant.record with
  | error error =>
    have ended : (Command.enter grant.audience grant (Command.authenticator w config)).ending
        keyring world = (.error (.error error), keyring, world) := by
      rw [Command.enter_authenticator, Act.ending_bind, FileKeyring.ending_save_error named]
    rw [Job.run_of_ending ended]
    exact opened
  | ok user =>
    obtain ⟨after, end_, ended, opened⟩ := here.ending_enter config named opened
    rw [Job.run_of_ending ended]
    exact opened

theorem turnsOpen_logout (here : w.At site) (config : Config) :
    site.TurnsOpen labels (Job.ofAct (Command.authenticator w config).logout)
      (Deed.loggedOut.relabelIfOk labels) := by
  rintro keyring world ⟨entries, mirrors, -⟩
  obtain ⟨after, end_, ended, mirrors⟩ := mirrors.ending_logout here.files
  have ended : (Command.authenticator w config).logout.ending keyring world = (.ok (), after, end_) :=
    ended
  rw [Job.run_of_ending ended]
  exact ⟨∅, mirrors, Entries.sound_empty⟩

/-- A login that comes to its end keeps its grant; it says so then, and nothing else changes. -/
theorem turns_keep (here : w.At site) (keeps : config.KeepsTo w.environment site.path)
    {audience : String} {grant : Grant} (about : grant.audience = audience) :
    site.Turns labels (Command.keep w config audience grant)
      ((Deed.loggedIn audience grant).relabelIfOk labels) := by
  subst about
  have kept : site.Turns labels
      (Command.onKeyring w config (Command.enter grant.audience grant))
      ((Deed.loggedIn grant.audience grant).relabelIfOk labels) :=
    here.turns_withAuthenticator keeps (here.turnsOpen_enter config grant) fun _ => rfl
  exact kept.bind (fun user => here.turns_printLine _ rfl) fun _ => rfl

theorem turns_performLogIn (here : w.At site) (keeps : config.KeepsTo w.environment site.path)
    {ready : Act (StateM σ) (Login.Ready (StateM σ))} (issuer : Issuer)
    (prepares : site.untouched.Tries ready (Login.Ready.Within · site.untouched)) :
    site.Turns labels (Command.performLogIn w config issuer ready)
      fun ended => (Deed.ofEnd ended).relabel labels := by
  have acquires : (site.kept labels).Tries (Command.acquire issuer ready)
      (·.grant.audience = issuer.audience) :=
    Site.ensures_kept (Command.tries_acquire prepares)
  refine Site.turns_of_tries acquires (fun outcome about => ?_) fun _ => rfl
  exact (here.turns_keep keeps about).bind (fun _ => Site.turns_pure _ rfl) fun _ => rfl

theorem run_performLogIn (here : w.At site) (filed : config.backend = .file)
    (placed : config.keyringFile w.environment = .ok site.path) {issuer : Issuer}
    {ready : Act (StateM σ) (Login.Ready (StateM σ))} {outcome : Login.Outcome} {user : String}
    {world middle : σ} (acquired : (Command.acquire issuer ready).run.run world = (.ok outcome, middle))
    (about : outcome.grant.audience = issuer.audience)
    (named : Credential.userNameOf outcome.grant.record = .ok user) (sound : site.Sound labels middle) :
    ((Command.performLogIn w config issuer ready).run.run world).1 =
      .ok (.loggedIn issuer.audience outcome.grant) := by
  obtain ⟨keyring, opens, opened⟩ := here.run_openKeyring filed placed sound
  obtain ⟨after, end_, ended, -⟩ := here.ending_enter config named opened
  have kept := Command.run_withAuthenticator opens fun a =>
    Job.ofAct (Command.enter outcome.grant.audience outcome.grant a)
  rw [Job.run_of_ending ended, about] at kept
  rw [Command.performLogIn, ExceptT.run_bind, StateT.run_bind, acquired]
  change ((Command.keep w config issuer.audience outcome.grant >>= _).run.run middle).1 = _
  rw [ExceptT.run_bind, StateT.run_bind, Command.keep, ExceptT.run_bind, StateT.run_bind,
    Command.onKeyring, kept]
  rfl

theorem turns_perform (here : w.At site) (keeps : config.KeepsTo w.environment site.path)
    (command : Command) :
    site.Turns labels (command.perform w config) fun ended => (Deed.ofEnd ended).relabel labels := by
  -- What comes to no deed writes nothing but tokens, under the labels that are there.
  have idle {job : Job (StateM σ) Unit} (permits : (site.kept labels).Permits job) :
      site.Turns labels (do job; return Deed.nothing)
        fun ended => (Deed.ofEnd ended).relabel labels :=
    Site.turns_of_tries permits (fun _ _ => Site.turns_pure _ rfl) fun _ => rfl
  cases command with
  | login scopes allowRefresh =>
    refine Site.turns_of_tries (permits_ofConfig _) (fun issuer _ => ?_) fun _ => rfl
    refine here.turns_performLogIn keeps issuer ?_
    exact Login.tries_prepareDeviceCode here.machine issuer _
      (Command.permits_present here.tell)
  | activate =>
    refine Site.turns_of_tries (permits_ofConfig _) (fun chosen _ => ?_) fun _ => rfl
    refine here.turns_performLogIn keeps chosen.1 ?_
    exact Login.tries_prepareClientCredentials here.machine chosen.1 chosen.2
  | logout =>
    have logsOut : site.Turns labels (Command.run w config .logout)
        (Deed.loggedOut.relabelIfOk labels) :=
      Site.Turns.bind (here.turns_withAuthenticator keeps (here.turnsOpen_logout config) fun _ => rfl)
        (fun _ => here.turns_printLine _ rfl) fun _ => rfl
    exact logsOut.bind (fun _ => Site.turns_pure _ rfl) fun _ => rfl
  | whoAmI => exact idle (here.permits_whoAmI keeps)
  | token => exact idle (here.permits_token keeps)
  | get path => exact idle (here.permits_get keeps path)

end Workstation.At

end GrantKeeper
