import GrantKeeper.Proofs.Command.History

/-! Logins at a keyring file of which any operation may fail. All that comes before the grant is saved
leaves the file as it is, and saving replaces it as a whole or not at all; so a login that fails has
changed nothing, and one that succeeds has changed one entry. -/
namespace GrantKeeper

open Discipline

structure Files.Within {m : Type → Type} [Monad m] (files : Files m) (d : Discipline m) : Prop where
  read : ∀ path, d.Allows (files.read path)
  createDirectories : ∀ directory, d.Allows (files.createDirectories directory)
  write : ∀ path bytes, d.Allows (files.write path bytes)
  restrict : ∀ path, d.Allows (files.restrict path)
  rename : ∀ old new, d.Allows (files.rename old new)

namespace FileKeyring

variable {m : Type → Type} [Monad m] [LawfulMonad m] {d : Discipline m} {files : Files m}

theorem permits_writing (activity : String) {step : m (Except FileError Unit)}
    (allowed : d.Allows step) : d.Permits (writing activity step) := by
  refine Permits.bind (tries_lift allowed) fun result => ?_
  cases result with
  | ok => exact tries_pure trivial
  | error error => exact tries_throw _ _

theorem permits_write (within : files.Within d) (keyring : FileKeyring) :
    d.Permits (FileKeyring.write files keyring) := by
  rw [FileKeyring.write]
  cases Path.parent? keyring.path with
  | none => exact tries_throw _ _
  | some directory =>
    refine (permits_writing _ (within.createDirectories _)).bind fun _ => ?_
    refine (permits_writing _ (within.write _ _)).bind fun _ => ?_
    refine (permits_writing _ (within.restrict _)).bind fun _ => ?_
    exact permits_writing _ (within.rename _ _)

end FileKeyring

/-- Where a keyring file is kept: what the file holds, or why it cannot be read, what was written last
to the files beside it, and what was printed. -/
structure Vault (σ : Type) where
  path : String
  content : σ → Except FileError (List UInt8)
  aside : String → σ → List UInt8
  printed : σ → List String

namespace Vault

variable {σ α β : Type} {vault : Vault σ}

def look (vault : Vault σ) (world : σ) : Except FileError (List UInt8) × List String :=
  (vault.content world, vault.printed world)

/-- Effects that leave the file as it is and print nothing. -/
def idle (vault : Vault σ) : Discipline (StateM σ) := preserving (fun _ => True) vault.look

/-- Effects that print nothing. -/
def silent (vault : Vault σ) : Discipline (StateM σ) := preserving (fun _ => True) vault.printed

/-- How a login may end: with nothing changed, or with a grant for an audience it may be about in the
file, under the name of its user, who is told so. -/
inductive LogsIn (vault : Vault σ) (about : String → Prop) (world : σ) : Except Ending Deed × σ → Prop
  | failed {ending : Ending} {after : σ} :
    vault.look after = vault.look world → LogsIn vault about world (.error ending, after)
  | kept {grant : Grant} {user : String} {entries : Entries} {after : σ} :
    about grant.audience → Credential.userNameOf grant.record = .ok user →
    FileKeyring.found vault.path (vault.content world) = .ok entries →
    vault.look after = (.ok (Utf8.encode (FileKeyring.encode (entries.withItem
        ⟨Credential.keyOf grant.audience, user, grant.record.encode⟩))),
      vault.printed world ++ ["Logged in as " ++ user ++ ".\n"]) →
    LogsIn vault about world (.ok (.loggedIn grant.audience grant), after)

variable {about : String → Prop} {world later : σ} {ended : Except Ending Deed × σ}

theorem LogsIn.mono {other : String → Prop} (logsIn : vault.LogsIn about world ended)
    (wider : ∀ audience, about audience → other audience) : vault.LogsIn other world ended := by
  cases logsIn with
  | failed unchanged => exact .failed unchanged
  | kept fits named opens changed => exact .kept (wider _ fits) named opens changed

theorem LogsIn.of_look (logsIn : vault.LogsIn about later ended)
    (same : vault.look later = vault.look world) : vault.LogsIn about world ended := by
  have content : vault.content later = vault.content world := congrArg Prod.fst same
  have printed : vault.printed later = vault.printed world := congrArg Prod.snd same
  cases logsIn with
  | failed unchanged => exact .failed (unchanged.trans same)
  | kept fits named opens changed =>
    rw [content] at opens
    rw [printed] at changed
    exact .kept fits named opens changed

/-- Before a login anything may come that leaves the file as it is. -/
theorem logsIn_of_idle {job : Job (StateM σ) α} {next : α → Job (StateM σ) Deed} {good : α → Prop}
    (idle : vault.idle.Tries job good)
    (rest : ∀ value, good value → ∀ world, vault.LogsIn about world ((next value).run.run world))
    (world : σ) : vault.LogsIn about world ((job >>= next).run.run world) := by
  obtain ⟨finds, -, same⟩ := idle world trivial
  rw [ExceptT.run_bind, StateT.run_bind]
  generalize job.run.run world = ended at finds same ⊢
  obtain ⟨ending | value, after⟩ := ended
  · exact .failed same
  · exact (rest value (finds value rfl) after).of_look same

end Vault

/-- A workstation at a place where a keyring file is kept. File operations may fail, but what one does to
the file is to put another in its place; the effects that are none on files leave it as it is, and only
printing prints. Printing does not fail: standard output can be written. -/
structure Workstation.Tends {σ : Type} (w : Workstation (StateM σ)) (vault : Vault σ) : Prop where
  staged : FileKeyring.Staged w.files vault.path vault.content vault.aside
  /-- The file is not the one that is written before it takes its place. -/
  apart : ∀ directory, FileKeyring.temporary directory w.process ≠ vault.path
  silent : w.files.Within vault.silent
  machine : w.toMachine.Within vault.idle
  tell : ∀ text, vault.idle.Allows (w.tell text)
  print : ∀ text world, vault.look ((w.print text).run world).2 =
    (vault.content world, vault.printed world ++ [text])

namespace Config

variable {config : Config} {α : Type}

theorem eq_of_required {setting value : String} {rest : Except ConfigError α} {result : α}
    (configured : (do required setting value; rest) = .ok result) : rest = .ok result := by
  cases held : required setting value with
  | error error =>
    rw [held] at configured
    cases configured
  | ok =>
    rw [held] at configured
    exact configured

theorem issuer_of_login {issuer : Issuer} (configured : config.loginIssuer = .ok issuer) :
    config.issuer = issuer :=
  Except.ok.inj (eq_of_required (eq_of_required (eq_of_required configured)))

theorem issuer_of_activation {chosen : Issuer × String} (configured : config.activation = .ok chosen) :
    config.issuer = chosen.1 :=
  congrArg Prod.fst
    (Except.ok.inj (eq_of_required (eq_of_required (eq_of_required configured))))

end Config

def Command.LogsIn (command : Command) : Prop :=
  (∃ scopes allowRefresh, command = .login scopes allowRefresh) ∨ command = .activate

namespace Workstation.Tends

variable {σ : Type} {w : Workstation (StateM σ)} {vault : Vault σ} {config : Config}

theorem ends_replaced (tends : w.Tends vault) (entries changed : Entries) (world : σ) :
    (∃ after, FileKeyring.replaced w.files ⟨vault.path, w.process, entries⟩ changed world =
        (.ok (), ⟨vault.path, w.process, changed⟩, after) ∧
      vault.look after = (.ok (Utf8.encode (FileKeyring.encode changed)), vault.printed world)) ∨
    ∃ failure held after,
      FileKeyring.replaced w.files ⟨vault.path, w.process, entries⟩ changed world =
        (.error failure, held, after) ∧ vault.look after = vault.look world := by
  obtain ⟨-, -, silent⟩ :=
    FileKeyring.permits_write tends.silent ⟨vault.path, w.process, changed⟩ world trivial
  have replaces :=
    tends.staged.replaces ⟨vault.path, w.process, changed⟩ rfl tends.apart world
  rw [FileKeyring.Replaces] at replaces
  change vault.printed ((FileKeyring.write w.files _).outcome world).2 = vault.printed world at silent
  rw [FileKeyring.replaced, FileKeyring.withEntries]
  generalize (FileKeyring.write w.files ⟨vault.path, w.process, changed⟩).outcome world = ended
    at replaces silent ⊢
  obtain ⟨result, after⟩ := ended
  rcases replaces with ⟨rfl, placed⟩ | ⟨⟨failure, rfl⟩, stays⟩
  · exact .inl ⟨after, rfl, Prod.ext placed silent⟩
  · exact .inr ⟨failure, _, after, rfl, Prod.ext stays silent⟩

theorem ends_openKeyring (tends : w.Tends vault) (keeps : config.KeepsTo w.environment vault.path)
    (world : σ) :
    (∃ entries after, (Command.openKeyring w config).run.run world =
        (.ok ⟨vault.path, w.process, entries⟩, after) ∧
      FileKeyring.found vault.path (vault.content world) = .ok entries ∧
      vault.look after = vault.look world) ∨
    ∃ ending after, (Command.openKeyring w config).run.run world = (.error ending, after) ∧
      vault.look after = vault.look world := by
  cases filed : config.backend with
  | system =>
    rw [Command.openKeyring, filed]
    exact .inr ⟨_, world, rfl, rfl⟩
  | file =>
    cases named : config.keyringFile w.environment with
    | error error =>
      rw [Command.openKeyring, filed, named]
      exact .inr ⟨_, world, rfl, rfl⟩
    | ok path =>
      obtain rfl := keeps filed path named
      obtain ⟨-, -, same⟩ := tends.machine.read vault.path world trivial
      obtain ⟨restate, opens⟩ := Command.run_openKeyring_of_named filed named world
      rw [FileKeyring.outcome_load, (tends.staged.read world).1] at opens
      rw [opens]
      cases FileKeyring.found vault.path (vault.content world) with
      | ok entries => exact .inl ⟨entries, _, rfl, rfl, same⟩
      | error error => exact .inr ⟨_, _, rfl, same⟩

/-- A grant is saved under the name of its user, which is told then, or saving fails and changes
nothing. -/
theorem ends_enter (tends : w.Tends vault) (config : Config) (grant : Grant) (entries : Entries)
    (world : σ) :
    (∃ user held after, (Command.enter grant.audience grant (Command.authenticator w config)).ending
        ⟨vault.path, w.process, entries⟩ world = (.ok user, held, after) ∧
      Credential.userNameOf grant.record = .ok user ∧
      vault.look after = (.ok (Utf8.encode (FileKeyring.encode (entries.withItem
        ⟨Credential.keyOf grant.audience, user, grant.record.encode⟩))), vault.printed world)) ∨
    ∃ failure held after, (Command.enter grant.audience grant (Command.authenticator w config)).ending
        ⟨vault.path, w.process, entries⟩ world = (.error failure, held, after) ∧
      vault.look after = vault.look world := by
  rw [Command.enter_authenticator, Act.ending_bind]
  cases named : Credential.userNameOf grant.record with
  | error error =>
    rw [FileKeyring.ending_save_error named]
    exact .inr ⟨_, _, world, rfl, rfl⟩
  | ok user =>
    have usable := Credential.isUsable_of_userNameOf named
    have read := @Credential.ofItem_item ⟨grant.audience, user, grant.record⟩ usable
    have present := Credential.item?_withItem entries
      ⟨Credential.keyOf grant.audience, user, grant.record.encode⟩
    rw [FileKeyring.ending_save_of_named named]
    rcases tends.ends_replaced entries (entries.withItem
        ⟨Credential.keyOf grant.audience, user, grant.record.encode⟩) world with
      ⟨after, wrote, changed⟩ | ⟨failure, held, after, failed, same⟩
    · refine .inl ⟨user, ⟨vault.path, w.process, entries.withItem
        ⟨Credential.keyOf grant.audience, user, grant.record.encode⟩⟩, after, ?_, rfl, changed⟩
      simp only [wrote, Act.except_mapError_ok]
      exact FileKeyring.ending_whoAmI_of_item present read
    · refine .inr ⟨Act.restated Credential.asWrite failure, held, after, ?_, same⟩
      simp only [failed, Act.except_mapError_error]

theorem logsIn_keep (tends : w.Tends vault) (keeps : config.KeepsTo w.environment vault.path)
    (grant : Grant) (world : σ) :
    vault.LogsIn (· = grant.audience) world ((do
      Command.keep w config grant.audience grant
      return .loggedIn grant.audience grant : Job (StateM σ) Deed).run.run world) := by
  rw [ExceptT.run_bind, StateT.run_bind, Command.keep, ExceptT.run_bind, StateT.run_bind,
    Command.onKeyring]
  rcases tends.ends_openKeyring keeps world with
    ⟨entries, middle, opens, found, still⟩ | ⟨ending, after, fails, same⟩
  · have printed : vault.printed middle = vault.printed world := congrArg Prod.snd still
    rw [Command.run_withAuthenticator opens]
    rcases tends.ends_enter config grant entries middle with
      ⟨user, held, after, ended, named, changed⟩ | ⟨failure, held, after, ended, same⟩
    · have content : vault.content after = _ := congrArg Prod.fst changed
      have written : vault.printed after = vault.printed world :=
        (congrArg Prod.snd changed).trans printed
      have line : "Logged in as " ++ user ++ "." ++ "\n" = "Logged in as " ++ user ++ ".\n" :=
        String.append_assoc
      rw [Job.run_of_ending ended]
      refine .kept rfl named found ((tends.print _ after).trans ?_)
      rw [content, written, line]
    · rw [Job.run_of_ending ended]
      exact .failed (same.trans still)
  · rw [Command.withAuthenticator, ExceptT.run_bind, StateT.run_bind, fails]
    exact .failed same

theorem logsIn_performLogIn (tends : w.Tends vault) (keeps : config.KeepsTo w.environment vault.path)
    (issuer : Issuer) {ready : Act (StateM σ) (Login.Ready (StateM σ))}
    (prepares : vault.idle.Tries ready (Login.Ready.Within · vault.idle)) (world : σ) :
    vault.LogsIn (· = issuer.audience) world
      ((Command.performLogIn w config issuer ready).run.run world) := by
  refine Vault.logsIn_of_idle (Command.tries_acquire prepares) (fun outcome about => ?_) world
  rw [← about]
  exact tends.logsIn_keep keeps outcome.grant

theorem logsIn_command (tends : w.Tends vault) (keeps : config.KeepsTo w.environment vault.path)
    {command : Command} (logsIn : command.LogsIn) (world : σ) :
    vault.LogsIn (· = config.issuer.audience) world ((command.perform w config).run.run world) := by
  rcases logsIn with ⟨scopes, allowRefresh, rfl⟩ | rfl
  · refine Vault.logsIn_of_idle
      (tries_ofConfig fun issuer => Config.issuer_of_login) (fun issuer configured => ?_) world
    rw [configured]
    refine tends.logsIn_performLogIn keeps issuer ?_
    exact Login.tries_prepareDeviceCode tends.machine issuer _
      (Command.permits_present tends.tell)
  · refine Vault.logsIn_of_idle
      (tries_ofConfig fun chosen => Config.issuer_of_activation) (fun chosen configured => ?_) world
    rw [configured]
    refine tends.logsIn_performLogIn keeps chosen.1 ?_
    exact Login.tries_prepareClientCredentials tends.machine chosen.1 chosen.2

theorem logsIn_perform (tends : w.Tends vault) {invocation : Invocation}
    (logsIn : invocation.command.LogsIn) {world : σ}
    (keeps : ∀ config settled, (invocation.settle w).run.run world = (.ok config, settled) →
      config.KeepsTo w.environment vault.path) :
    vault.LogsIn (fun audience => ∃ config settled,
        (invocation.settle w).run.run world = (.ok config, settled) ∧ audience = config.issuer.audience)
      world ((invocation.perform w).run.run world) := by
  have settles : vault.idle.Permits (invocation.settle w) := invocation.permits_settle tends.machine.read
  obtain ⟨-, -, same⟩ := settles world trivial
  rw [Invocation.perform, ExceptT.run_bind, StateT.run_bind]
  generalize (invocation.settle w).run.run world = ended at keeps same ⊢
  obtain ⟨ending | config, settled⟩ := ended
  · exact .failed same
  · exact ((tends.logsIn_command (keeps config settled rfl) logsIn settled).mono
      fun _ configured => ⟨config, settled, rfl, configured⟩).of_look same

/-- A login that ends in an error has changed nothing and printed nothing. One that succeeds has kept its
grant, for the configured audience and under the name of its user: that is what the keyring has at the
key of the audience when it is opened again, and at all other keys it has what it had. -/
theorem all_or_nothing (tends : w.Tends vault) {arguments : List String} {invocation : Invocation}
    {world : σ} (read : CommandLine.read arguments = .run invocation)
    (logsIn : invocation.command.LogsIn) (keeps : w.KeepsTo arguments world vault.path) :
    (∃ code after, (w.run arguments).run world = (code, after) ∧ code ≠ 0 ∧
      w.deed arguments world = .nothing ∧ vault.content after = vault.content world ∧
      vault.printed after = vault.printed world) ∨
    ∃ config settled grant user entries kept after,
      (w.run arguments).run world = (0, after) ∧
      (invocation.settle w).run.run world = (.ok config, settled) ∧
      w.deed arguments world = .loggedIn config.issuer.audience grant ∧
      grant.audience = config.issuer.audience ∧ Credential.userNameOf grant.record = .ok user ∧
      FileKeyring.Opens w.files vault.path world entries ∧
      FileKeyring.Opens w.files vault.path after kept ∧
      (∀ key, kept.get? key = if key = Credential.keyOf config.issuer.audience then
        some ⟨user, grant.record.encode⟩ else entries.get? key) ∧
      vault.printed after = vault.printed world ++ ["Logged in as " ++ user ++ ".\n"] := by
  have ended := tends.logsIn_perform logsIn fun config settled => keeps invocation config settled read
  rw [run_of_read read, deed_of_read read]
  generalize (invocation.perform w).run.run world = ends at ended ⊢
  cases ended with
  | @failed ending middle unchanged =>
    obtain ⟨succeeds, -, same⟩ := ensures_conclude tends.tell (.error ending) middle trivial
    refine .inl ⟨_, _, rfl, mt succeeds.mp (by simp), rfl, ?_, ?_⟩
    · exact congrArg Prod.fst (same.trans unchanged)
    · exact congrArg Prod.snd (same.trans unchanged)
  | @kept grant user entries after about named found changed =>
    obtain ⟨config, settled, settles, about⟩ := about
    have opens {world : σ} {entries : Entries} :
        FileKeyring.Opens w.files vault.path world entries ↔
          FileKeyring.found vault.path (vault.content world) = .ok entries :=
      FileKeyring.opens_iff_of_read fun world => (tends.staged.read world).1
    have content : vault.content after = _ := congrArg Prod.fst changed
    refine .inr ⟨config, settled, grant, user, entries,
      entries.withItem ⟨Credential.keyOf grant.audience, user, grant.record.encode⟩, after,
      rfl, settles, ?_, about, named, opens.mpr found, opens.mpr ?_, fun key => ?_,
      congrArg Prod.snd changed⟩
    · rw [← about]
      rfl
    · rw [content]
      exact FileKeyring.found_encode vault.path _
    · rw [← about]
      exact StringMap.get?_insert entries _ key _

end Workstation.Tends

/-! The console, of which the keyring file may be missing or corrupt. -/

namespace Console

def vault : Vault Console where
  path := "keyring"
  content console := console.file.elim (.error .missing) .ok
  aside _ console := console.beside
  printed := Console.printed

theorem tends_station : station.Tends vault where
  staged := {
    read := fun _ => ⟨rfl, rfl⟩
    createDirectories := fun _ _ => rfl
    write := fun _ _ _ _ => ⟨rfl, fun _ => rfl⟩
    restrict := fun _ _ => ⟨rfl, rfl⟩
    rename := fun _ _ => .inl ⟨rfl, rfl⟩ }
  apart directory := Disk.temporary_ne directory 0
  silent := {
    read := fun path world _ => ⟨trivial, trivial, congrArg _ (read_files path world)⟩
    createDirectories := fun _ _ _ => ⟨trivial, trivial, rfl⟩
    write := fun _ _ _ _ => ⟨trivial, trivial, rfl⟩
    restrict := fun _ _ _ => ⟨trivial, trivial, rfl⟩
    rename := fun _ _ _ _ => ⟨trivial, trivial, rfl⟩ }
  machine := within_machine fun _ _ => rfl
  tell _ _ _ := ⟨trivial, trivial, rfl⟩
  print _ _ := rfl

/-- The console with a keyring file that is no JSON text. -/
def corrupted : Console := { start with file := some [123] }

/-- To activate a service account does nothing to a corrupt keyring file, and makes a missing one. -/
theorem left_or_made :
    (∃ code after, (station.run ["oauth2", "activate"]).run corrupted = (code, after) ∧ code ≠ 0 ∧
      vault.content after = .ok [123] ∧ after.printed = []) ∧
    ∃ kept after, (station.run ["oauth2", "activate"]).run start = (0, after) ∧
      FileKeyring.Opens files "keyring" after kept ∧
      (∀ key, kept.get? key = if key = Credential.keyOf "audience" then
        some ⟨"robot@example", grant.record.encode⟩ else none) ∧
      after.printed = ["Logged in as robot@example.\n"] := by
  have read : CommandLine.read ["oauth2", "activate"] = .run { command := .activate } := by
    decide +kernel
  have opens {world : Console} {entries : Entries} :
      FileKeyring.Opens files "keyring" world entries ↔
        FileKeyring.found "keyring" (vault.content world) = .ok entries :=
    FileKeyring.opens_iff_of_read fun _ => rfl
  constructor
  · rcases tends_station.all_or_nothing read (.inr rfl) (keepsTo_station read corrupted) with
      ⟨code, after, runs, fails, -, content, printed⟩ |
      ⟨config, settled, grant, user, entries, kept, after, -, -, -, -, -, opened, -⟩
    · exact ⟨code, after, runs, fails, content, printed⟩
    · have unread : (FileKeyring.found "keyring" (vault.content corrupted)).isOk = false := by
        decide +kernel
      rw [opens.mp opened] at unread
      cases unread
  · rcases tends_station.all_or_nothing read (.inr rfl) (keepsTo_station read start) with
      ⟨code, after, -, -, deed, -⟩ |
      ⟨config, settled, grant, user, entries, kept, after, runs, settles, deed, -, named, opened,
        reopened, changed, printed⟩
    · rw [deed_activate] at deed
      cases deed
    · cases (settle_station .activate start).symm.trans settles
      cases deed_activate.symm.trans deed
      cases named
      cases opens.mp opened
      exact ⟨kept, after, runs, reopened, changed, printed⟩

end Console
end GrantKeeper
