import GrantKeeper.Proofs.Authenticator.Continuity

/-! The life of stored credentials: a save makes them, providers renew them, a logout removes them.
A provider writes what it holds, and does not look whether that was saved again or removed since it
was handed out. So credentials live as they should exactly while providers that have been superseded
write nothing new. -/
namespace GrantKeeper.Lifecycle

variable {σ : Type} {ledger : σ → Ledger}

/-- A provider that was handed out, and whether its credential was saved or logged out since then. -/
structure Handed (σ : Type) where
  provision : Provision (StateM σ)
  superseded : Bool := false

namespace Handed

def key (handed : Handed σ) : String :=
  Credential.keyOf handed.provision.holding.credential.audience

def supersede (handed : Handed σ) : Handed σ := { handed with superseded := true }

/-- A save supersedes the providers for its audience. -/
def afterSaving (audience : String) (handed : Handed σ) : Handed σ :=
  if handed.key = Credential.keyOf audience then handed.supersede else handed

def withHolding (handed : Handed σ) (holding : TokenProvider.Holding) : Handed σ :=
  { handed with provision := { handed.provision with holding } }

@[simp] theorem key_withHolding (handed : Handed σ) (holding : TokenProvider.Holding) :
    (handed.withHolding holding).key = Credential.keyOf holding.credential.audience := rfl

end Handed

structure State (σ : Type) where
  world : σ
  handed : List (Handed σ) := []

/-- What can be done with an authenticator, and with the providers that it has handed out, which are
known by their number. -/
inductive Operation (ledger : σ → Ledger)
  | save (audience : String) (record : GrantRecord)
  | logout
  | provide (audience : String)
  | token (number : Nat)
  | invalidate (number : Nat)
  /-- Something happens that cannot be seen, as when time passes. -/
  | pass (change : σ → σ) (unseen : ∀ world, ledger (change world) = ledger world)

namespace Operation

/-- A save for an audience, or for another one with the same key, of a record that names a user. -/
def Saves (audience : String) (operation : Operation ledger) : Prop :=
  ∃ saved record userName, operation = .save saved record ∧
    Credential.userNameOf record = .ok userName ∧
    Credential.keyOf saved = Credential.keyOf audience

def number? : Operation ledger → Option Nat
  | token number | invalidate number => some number
  | _ => none

/-- The credential that an operation on a provider writes, if it writes any. -/
def written? (operation : Operation ledger) (provision : Provision (StateM σ)) (world : σ) :
    Option Credential :=
  match operation with
  | token _ => provision.provider.renewed? provision.holding world
  | invalidate _ => TokenProvider.cleared? provision.holding
  | _ => none

end Operation

def State.using (state : State σ) (number : Nat)
    (use : Provision (StateM σ) → σ → TokenProvider.Holding × σ) : State σ :=
  match state.handed[number]? with
  | none => state
  | some handed =>
    let (holding, world) := use handed.provision state.world
    ⟨world, state.handed.set number (handed.withHolding holding)⟩

/-- Does an operation. A save that is refused supersedes no provider. -/
def step (a : Authenticator (StateM σ)) (state : State σ) : Operation ledger → State σ
  | .save audience record =>
    match (Credential.save a.keyring audience record).outcome state.world with
    | (.ok (), world) => ⟨world, state.handed.map (Handed.afterSaving audience)⟩
    | (.error _, world) => { state with world }
  | .logout => ⟨(a.logout.outcome state.world).2, state.handed.map Handed.supersede⟩
  | .provide audience =>
    match (a.tokenProvider audience).outcome state.world with
    | (.ok provision, world) => ⟨world, state.handed ++ [{ provision }]⟩
    | (.error _, world) => { state with world }
  | .token number =>
    state.using number fun p world => (p.provider.token.ending p.holding world).2
  | .invalidate number =>
    state.using number fun p world => (p.provider.invalidate.ending p.holding world).2
  | .pass change _ => { state with world := change state.world }

def run (a : Authenticator (StateM σ)) (start : σ) (operations : List (Operation ledger)) : State σ :=
  operations.foldl (step a) ⟨start, []⟩

theorem run_concat (a : Authenticator (StateM σ)) (start : σ) (operations : List (Operation ledger))
    (operation : Operation ledger) :
    run a start (operations ++ [operation]) = step a (run a start operations) operation := by
  simp [run]

def State.item? (ledger : σ → Ledger) (state : State σ) (key : String) : Option KeyringItem :=
  (ledger state.world).entries.item? key

/-- Only a save makes a credential where there was none. -/
def Made (a : Authenticator (StateM σ)) (start : σ) (operations : List (Operation ledger)) : Prop :=
  ∀ before operation after, operations = before ++ operation :: after → ∀ audience,
    (run a start before).item? ledger (Credential.keyOf audience) = none →
    (run a start (before ++ [operation])).item? ledger (Credential.keyOf audience) ≠ none →
    operation.Saves audience

/-- How credentials should live, at every point of a run. -/
structure Orderly (a : Authenticator (StateM σ)) (start : σ) (operations : List (Operation ledger)) :
    Prop where
  made : Made a start operations
  /-- After a logout, there is nothing to load until it is saved. -/
  gone : ∀ before between after, operations = before ++ .logout :: (between ++ after) →
    ∀ audience, (∀ operation ∈ between, ¬operation.Saves audience) →
    ((Credential.loadGrant a.keyring audience).outcome
      (run a start (before ++ .logout :: between)).world).1 = .error (.error .noAuthenticationData)
  /-- A superseded provider does not touch its credential. -/
  left : ∀ before operation after, operations = before ++ operation :: after →
    ∀ number handed, operation.number? = some number →
    (run a start before).handed[number]? = some handed → handed.superseded →
    (run a start (before ++ [operation])).item? ledger handed.key =
      (run a start before).item? ledger handed.key

/-- What superseded providers write, if they write, was there before. -/
def Quiet (a : Authenticator (StateM σ)) (start : σ) (operations : List (Operation ledger)) : Prop :=
  ∀ before operation after, operations = before ++ operation :: after →
    ∀ number handed, operation.number? = some number →
    (run a start before).handed[number]? = some handed → handed.superseded →
    ∀ written, operation.written? handed.provision (run a start before).world = some written →
      (run a start before).item? ledger handed.key = some written.item

/-- What is known of a provider in use, given the entries: it is what the authenticator made, and what
is not superseded is stored. -/
structure Handed.Known (a : Authenticator (StateM σ)) (ledger : σ → Ledger) (entries : Entries)
    (handed : Handed σ) : Prop where
  kept : handed.provision.provider.Kept ledger
  keyring : handed.provision.provider.keyring = a.keyring
  stored : handed.superseded = false → (entries.item? handed.key).isSome

def State.Known (a : Authenticator (StateM σ)) (ledger : σ → Ledger) (state : State σ) : Prop :=
  ∀ handed ∈ state.handed, handed.Known a ledger (ledger state.world).entries

variable {a : Authenticator (StateM σ)} {state : State σ} {start : σ}
  {operations : List (Operation ledger)}

/-- What an operation on a provider does: the provider holds what it wrote, if it wrote, and so do
the entries. -/
theorem step_using (known : state.Known a ledger) (reliable : a.keyring.Reliable ledger)
    {operation : Operation ledger} {number : Nat} {handed : Handed σ}
    (uses : operation.number? = some number) (there : state.handed[number]? = some handed) :
    ∃ holding, (step a state operation).handed = state.handed.set number (handed.withHolding holding) ∧
      holding.credential = (operation.written? handed.provision state.world).getD
        handed.provision.holding.credential ∧
      (ledger (step a state operation).world).entries =
        (ledger state.world).entries.withWritten
          (operation.written? handed.provision state.world) := by
  have member : handed ∈ state.handed := List.mem_of_getElem? there
  have kept := (known handed member).kept
  have writable : handed.provision.provider.keyring.Writable := by
    rw [(known handed member).keyring]
    exact reliable.writable
  cases operation with
  | save | logout | provide | pass => cases uses
  | token =>
    cases uses
    refine ⟨_, ?_, handed.provision.provider.credential_token _ state.world, ?_⟩
    · simp only [step, State.using, there]
    · simp only [step, State.using, there]
      exact TokenProvider.entries_token kept writable _ _
  | invalidate =>
    cases uses
    refine ⟨_, ?_, handed.provision.provider.credential_invalidate _ state.world, ?_⟩
    · simp only [step, State.using, there]
    · simp only [step, State.using, there]
      exact TokenProvider.entries_invalidate kept writable _ _

theorem step_using_nobody {operation : Operation ledger} {number : Nat}
    (uses : operation.number? = some number) (nobody : state.handed[number]? = none) :
    step a state operation = state := by
  cases operation with
  | save | logout | provide | pass => cases uses
  | token | invalidate =>
    cases uses
    simp only [step, State.using, nobody]

theorem audience_written? {operation : Operation ledger} {provision : Provision (StateM σ)}
    {world : σ} {written : Credential}
    (writes : operation.written? provision world = some written) :
    written.audience = provision.holding.credential.audience := by
  cases operation with
  | save | logout | provide | pass => cases writes
  | token => exact TokenProvider.audience_renewed? writes
  | invalidate => exact TokenProvider.audience_cleared? writes

theorem key_written? {operation : Operation ledger} {handed : Handed σ} {world : σ}
    {written : Credential} (writes : operation.written? handed.provision world = some written) :
    written.item.key = handed.key :=
  congrArg Credential.keyOf (audience_written? writes)

theorem step_save (kept : a.keyring.Kept ledger) (writable : a.keyring.Writable) (state : State σ)
    (audience : String) (record : GrantRecord) :
    (∃ userName, Credential.userNameOf record = .ok userName ∧
      (step a state (.save audience record : Operation ledger)).handed =
        state.handed.map (Handed.afterSaving audience) ∧
      (ledger (step a state (.save audience record : Operation ledger)).world).entries =
        (ledger state.world).entries.withItem (Credential.mk audience userName record).item) ∨
    step a state (.save audience record : Operation ledger) = state := by
  cases named : Credential.userNameOf record with
  | error error =>
    right
    simp only [step, Credential.outcome_save, named]
  | ok userName =>
    left
    have accepted : (Credential.save a.keyring audience record).outcome state.world = (.ok (),
        ((a.keyring.set (Credential.mk audience userName record).item).outcome state.world).2) := by
      simp only [Credential.outcome_save, named, Credential.outcome_store]
      rw [writable]
      rfl
    obtain ⟨_, same, seen⟩ := Credential.save_ok kept accepted
    rw [named] at same
    cases same
    refine ⟨userName, rfl, ?_, ?_⟩
    · simp only [step, accepted]
    · simp only [step, accepted, seen, Ledger.withItem_entries]

theorem item?_step_of_ne (known : state.Known a ledger) (reliable : a.keyring.Reliable ledger)
    {operation : Operation ledger} {number : Nat} {handed : Handed σ}
    (uses : operation.number? = some number) (there : state.handed[number]? = some handed)
    {key : String} (other : key ≠ handed.key) :
    (step a state operation).item? ledger key = state.item? ledger key := by
  obtain ⟨_, -, -, entries⟩ := step_using known reliable uses there
  rw [State.item?, entries]
  cases writes : operation.written? handed.provision state.world with
  | none => rfl
  | some written =>
    rw [← key_written? writes] at other
    exact Credential.item?_withItem_of_ne _ other

theorem item?_step_using (known : state.Known a ledger) (reliable : a.keyring.Reliable ledger)
    {operation : Operation ledger} {number : Nat} {handed : Handed σ}
    (uses : operation.number? = some number) (there : state.handed[number]? = some handed) :
    (step a state operation).item? ledger handed.key =
      ((operation.written? handed.provision state.world).map Credential.item).or
        (state.item? ledger handed.key) := by
  obtain ⟨_, -, -, entries⟩ := step_using known reliable uses there
  rw [State.item?, entries]
  cases writes : operation.written? handed.provision state.world with
  | none => rfl
  | some written =>
    rw [← key_written? writes]
    exact Credential.item?_withItem _ _

theorem item?_step_logout (reliable : a.keyring.Reliable ledger) (key : String) :
    (step a state (.logout : Operation ledger)).item? ledger key = none := by
  obtain ⟨after, done, left⟩ := Credential.outcome_logout reliable state.world
  simp only [State.item?, step, Authenticator.logout, done, left]

theorem step_provide_ok {audience : String} {provision : Provision (StateM σ)} {after : σ}
    (provided : (a.tokenProvider audience).outcome state.world = (.ok provision, after)) :
    step a state (.provide audience : Operation ledger) =
      ⟨after, state.handed ++ [⟨provision, false⟩]⟩ := by
  simp only [step, provided]

theorem step_provide (kept : a.Kept ledger) (state : State σ) (audience : String) :
    ledger (step a state (.provide audience : Operation ledger)).world = ledger state.world ∧
      ((step a state (.provide audience : Operation ledger)).handed = state.handed ∨
        ∃ handed : Handed σ, handed.Known a ledger (ledger state.world).entries ∧
          (step a state (.provide audience : Operation ledger)).handed =
            state.handed ++ [handed]) := by
  have unseen := Authenticator.ledger_tokenProvider kept audience state.world
  rcases provided : (a.tokenProvider audience).outcome state.world with ⟨_ | provision, after⟩ <;>
    rw [provided] at unseen
  · simp only [step, provided]
    exact ⟨unseen, .inl trivial⟩
  · obtain ⟨-, keeps, keyring, found, saved, -⟩ := Authenticator.tokenProvider_ok kept provided
    obtain ⟨item, present, -⟩ := Option.bind_eq_some_iff.mp found
    have stored : ((ledger state.world).entries.item?
        (Credential.keyOf provision.holding.credential.audience)).isSome := by
      rw [saved.memory_audience, present]
      rfl
    rw [step_provide_ok provided]
    exact ⟨unseen, .inr ⟨⟨provision, false⟩, ⟨keeps, keyring, fun _ => stored⟩, rfl⟩⟩

/-! What is known stays known. -/

/-- What is known does not depend on what is stored, but only on where something is. -/
theorem Handed.Known.mono {handed : Handed σ} {entries after : Entries}
    (known : handed.Known a ledger entries)
    (stays : ∀ key, (entries.item? key).isSome → (after.item? key).isSome) :
    handed.Known a ledger after :=
  ⟨known.kept, known.keyring, fun current => stays _ (known.stored current)⟩

theorem Handed.Known.supersede {handed : Handed σ} {entries : Entries}
    (known : handed.Known a ledger entries) (after : Entries) :
    handed.supersede.Known a ledger after :=
  ⟨known.kept, known.keyring, nofun⟩

theorem Handed.Known.afterSaving {handed : Handed σ} {entries : Entries}
    (known : handed.Known a ledger entries) (audience : String) :
    (handed.afterSaving audience).Known a ledger entries := by
  unfold Handed.afterSaving
  split
  · exact known.supersede entries
  · exact known

theorem State.Known.using (known : state.Known a ledger) (reliable : a.keyring.Reliable ledger)
    {operation : Operation ledger} {number : Nat} (uses : operation.number? = some number) :
    (step a state operation).Known a ledger := by
  cases there : state.handed[number]? with
  | none =>
    rw [step_using_nobody uses there]
    exact known
  | some user =>
    obtain ⟨holding, hands, held, entries⟩ := step_using known reliable uses there
    have before := known user (List.mem_of_getElem? there)
    have same : (user.withHolding holding).key = user.key := by
      rw [Handed.key_withHolding, held]
      cases writes : operation.written? user.provision state.world with
      | none => rfl
      | some written => exact congrArg Credential.keyOf (audience_written? writes)
    intro handed member
    rw [entries]
    refine Handed.Known.mono ?_ fun key => Credential.isSome_item?_withWritten _
    rw [hands] at member
    rcases List.mem_or_eq_of_mem_set member with member | rfl
    · exact known handed member
    · exact ⟨before.kept, before.keyring, fun current => same ▸ before.stored current⟩

theorem State.Known.step (known : state.Known a ledger) (kept : a.Kept ledger)
    (reliable : a.keyring.Reliable ledger) (operation : Operation ledger) :
    (step a state operation).Known a ledger := by
  cases operation with
  | save audience record =>
    rcases step_save kept.keyring reliable.writable state audience record with
      ⟨userName, -, hands, entries⟩ | same
    · intro handed member
      rw [hands] at member
      obtain ⟨before, among, rfl⟩ := List.mem_map.mp member
      rw [entries]
      exact ((known before among).afterSaving audience).mono fun key =>
        Credential.isSome_item?_withItem _
    · rw [same]
      exact known
  | logout =>
    exact List.forall_mem_map.mpr fun handed member => (known handed member).supersede _
  | provide audience =>
    obtain ⟨unseen, same | ⟨made, known_made, hands⟩⟩ := step_provide kept state audience
    · intro handed member
      rw [unseen]
      exact known handed (same ▸ member)
    · intro handed member
      rw [hands] at member
      rw [unseen]
      rcases List.mem_append.mp member with member | new
      · exact known handed member
      · exact List.mem_singleton.mp new ▸ known_made
  | token number | invalidate number => exact known.using reliable rfl
  | pass change unseen =>
    intro handed member
    exact (known handed member).mono fun key present => by
      rw [Lifecycle.step, unseen]
      exact present

theorem known_run (kept : a.Kept ledger) (reliable : a.keyring.Reliable ledger) (start : σ)
    (operations : List (Operation ledger)) : (run a start operations).Known a ledger := by
  -- A run is a fold, so what is known is carried from any state on.
  have any (state : State σ) (known : state.Known a ledger) :
      (operations.foldl (step a) state).Known a ledger := by
    induction operations generalizing state with
    | nil => exact known
    | cons operation rest ih => exact ih _ (known.step kept reliable operation)
  refine any ⟨start, []⟩ fun handed member => ?_
  cases member

theorem Quiet.concat (quiet : Quiet a start operations) {last : Operation ledger}
    (here : ∀ number handed, last.number? = some number →
      (run a start operations).handed[number]? = some handed → handed.superseded →
      ∀ written, last.written? handed.provision (run a start operations).world = some written →
        (run a start operations).item? ledger handed.key = some written.item) :
    Quiet a start (operations ++ [last]) := by
  intro before operation after split
  rcases after.eq_nil_or_concat with rfl | ⟨front, back, rfl⟩
  · obtain ⟨rfl, same⟩ := List.append_inj' split rfl
    obtain rfl := List.singleton_inj.mp same
    exact here
  · rw [List.concat_eq_append, ← List.cons_append, ← List.append_assoc] at split
    exact quiet before operation front (List.append_inj' split rfl).1

/-! How items appear. -/

theorem writes_of_appears (known : state.Known a ledger) (reliable : a.keyring.Reliable ledger)
    {operation : Operation ledger} {number : Nat} (uses : operation.number? = some number)
    {key : String} (nothing : state.item? ledger key = none)
    (something : (step a state operation).item? ledger key ≠ none) :
    ∃ handed written, state.handed[number]? = some handed ∧ handed.key = key ∧
      operation.written? handed.provision state.world = some written := by
  cases there : state.handed[number]? with
  | none =>
    rw [step_using_nobody uses there] at something
    exact absurd nothing something
  | some handed =>
    by_cases own : key = handed.key
    · subst own
      rw [item?_step_using known reliable uses there, nothing, Option.or_none] at something
      obtain ⟨written, writes⟩ :=
        Option.ne_none_iff_exists'.mp (mt Option.map_eq_none_iff.mpr something)
      exact ⟨handed, written, rfl, rfl, writes⟩
    · rw [item?_step_of_ne known reliable uses there own] at something
      exact absurd nothing something

theorem saves_or_uses (kept : a.Kept ledger) (reliable : a.keyring.Reliable ledger)
    {operation : Operation ledger} {audience : String}
    (nothing : state.item? ledger (Credential.keyOf audience) = none)
    (something : (step a state operation).item? ledger (Credential.keyOf audience) ≠ none) :
    operation.Saves audience ∨ ∃ number, operation.number? = some number := by
  cases operation with
  | save saved record =>
    rcases step_save kept.keyring reliable.writable state saved record with
      ⟨userName, named, -, entries⟩ | same
    · by_cases own : Credential.keyOf audience = Credential.keyOf saved
      · exact .inl ⟨saved, record, userName, rfl, named, own.symm⟩
      · rw [State.item?, entries, Credential.item?_withItem_of_ne _ own] at something
        exact absurd nothing something
    · rw [same] at something
      exact absurd nothing something
  | logout => exact absurd (item?_step_logout reliable _) something
  | provide provided =>
    rw [State.item?, (step_provide kept state provided).1] at something
    exact absurd nothing something
  | token number | invalidate number => exact .inr ⟨number, rfl⟩
  | pass change unseen =>
    rw [State.item?, step, unseen] at something
    exact absurd nothing something

/-- If superseded providers are quiet, no provider makes something out of nothing. -/
theorem made_of_quiet (kept : a.Kept ledger) (reliable : a.keyring.Reliable ledger)
    (quiet : Quiet a start operations) : Made a start operations := by
  intro before operation after split audience nothing something
  have known := known_run kept reliable start before
  rw [run_concat] at something
  refine (saves_or_uses kept reliable nothing something).resolve_right ?_
  rintro ⟨number, uses⟩
  obtain ⟨handed, written, there, own, writes⟩ :=
    writes_of_appears known reliable uses nothing something
  rw [← own] at nothing
  -- A current provider's credential is stored, and a quiet one's was, so neither can appear.
  cases superseded : handed.superseded with
  | false =>
    have stored := (known handed (List.mem_of_getElem? there)).stored superseded
    rw [State.item?] at nothing
    simp [nothing] at stored
  | true =>
    have present := quiet before operation after split number handed uses there superseded
      written writes
    simp [nothing] at present

theorem Made.away (made : Made a start operations) {audience : String}
    (after between before : List (Operation ledger)) (split : operations = before ++ (between ++ after))
    (unsaved : ∀ operation ∈ between, ¬operation.Saves audience)
    (nothing : (run a start before).item? ledger (Credential.keyOf audience) = none) :
    (run a start (before ++ between)).item? ledger (Credential.keyOf audience) = none := by
  induction between generalizing before with
  | nil => rwa [List.append_nil]
  | cons operation rest ih =>
    have still : (run a start (before ++ [operation])).item? ledger (Credential.keyOf audience) = none :=
      Decidable.not_not.mp fun something => unsaved operation (List.mem_cons_self ..)
        (made before operation (rest ++ after) split audience nothing something)
    have later := ih (before ++ [operation]) (by rw [split]; simp)
      (fun other member => unsaved other (List.mem_cons_of_mem _ member)) still
    rwa [List.append_assoc, List.singleton_append] at later

theorem loadGrant_nothing (reliable : a.keyring.Reliable ledger) {audience : String}
    (nothing : state.item? ledger (Credential.keyOf audience) = none) :
    ((Credential.loadGrant a.keyring audience).outcome state.world).1 =
      .error (.error .noAuthenticationData) := by
  obtain ⟨after, got, -⟩ := reliable.get (Credential.keyOf audience) state.world
  rw [State.item?] at nothing
  rw [Credential.loadGrant, Act.outcome_bind, Credential.outcome_load reliable.kept got, nothing]

/-- Credentials live as they should exactly if whatever a superseded provider writes is what the
keyring has already. A provider that writes anything else brings back a credential that was logged
out, or puts its own in the place of one that was saved since. -/
theorem orderly_iff_quiet (kept : a.Kept ledger) (reliable : a.keyring.Reliable ledger) (start : σ)
    (operations : List (Operation ledger)) :
    Orderly a start operations ↔ Quiet a start operations := by
  have known (before : List (Operation ledger)) := known_run kept reliable start before
  constructor
  · intro orderly before operation after split number handed uses there superseded written writes
    have same := orderly.left before operation after split number handed uses there superseded
    rw [run_concat, item?_step_using (known before) reliable uses there, writes] at same
    exact same.symm
  · intro quiet
    have made := made_of_quiet kept reliable quiet
    refine ⟨made, ?_, ?_⟩
    · intro before between after split audience unsaved
      have removed : (run a start (before ++ [.logout])).item? ledger (Credential.keyOf audience) = none := by
        rw [run_concat]
        exact item?_step_logout reliable _
      have away := made.away after between (before ++ [.logout]) (by rw [split]; simp) unsaved removed
      rw [List.append_assoc, List.singleton_append] at away
      exact loadGrant_nothing reliable away
    · intro before operation after split number handed uses there superseded
      rw [run_concat, item?_step_using (known before) reliable uses there]
      cases writes : operation.written? handed.provision (run a start before).world with
      | none => rfl
      | some written =>
        exact (quiet before operation after split number handed uses there superseded written
          writes).symm

/-! A logout after a provider has been handed out. -/

def desk : Authenticator (StateM Desk) := Desk.authenticator { clientId := "client" } none

def providedAndLoggedOut : List (Operation Desk.ledger) := [.provide "audience", .logout]

theorem kept_desk : desk.Kept Desk.ledger := Desk.kept_authenticator _ none

theorem handed_providedAndLoggedOut :
    (run desk (Desk.stocked []) providedAndLoggedOut).handed = [⟨Desk.provision, true⟩] := by
  have provided : step desk ⟨Desk.stocked [], []⟩ (.provide "audience" : Operation Desk.ledger) =
      ⟨Desk.stocked [], [⟨Desk.provision, false⟩]⟩ := step_provide_ok (Desk.tokenProvider_stocked [])
  rw [run, providedAndLoggedOut, List.foldl_cons, provided]
  rfl

/-- A provider whose token can still be used gives that out after a logout, and writes nothing. -/
theorem token_after_logout :
    Orderly desk (Desk.stocked []) (providedAndLoggedOut ++ [.token 0]) := by
  refine (orderly_iff_quiet kept_desk Desk.reliable_keyring _ _).mpr (Quiet.concat ?_ ?_)
  · intro before operation after split number handed uses
    have unused : ∀ operation ∈ providedAndLoggedOut, operation.number? = none := by
      simp [providedAndLoggedOut, Operation.number?]
    rw [unused operation (by simp [split])] at uses
    cases uses
  · intro number handed uses there superseded written writes
    cases uses
    rw [handed_providedAndLoggedOut] at there
    cases there
    cases writes

/-- An invalidation after a logout brings back the credential. -/
theorem invalidation_after_logout :
    ¬Orderly desk (Desk.stocked []) (providedAndLoggedOut ++ [.invalidate 0]) := by
  intro orderly
  have known := known_run kept_desk Desk.reliable_keyring (Desk.stocked []) providedAndLoggedOut
  have there : (run desk (Desk.stocked []) providedAndLoggedOut).handed[0]? =
      some ⟨Desk.provision, true⟩ := by
    rw [handed_providedAndLoggedOut]
    rfl
  have invalidates : (.invalidate 0 : Operation Desk.ledger).number? = some 0 := rfl
  have writes (world : Desk) : (.invalidate 0 : Operation Desk.ledger).written? Desk.provision world =
      some Cache.withoutAccess := rfl
  have back := item?_step_using known Desk.reliable_keyring invalidates there
  rw [writes, ← run_concat] at back
  obtain ⟨saved, record, -, saves, -⟩ := orderly.made providedAndLoggedOut (.invalidate 0) [] rfl
    "audience" (item?_step_logout Desk.reliable_keyring _) fun nothing => by
      rw [show Handed.key ⟨Desk.provision, true⟩ = Credential.keyOf "audience" from rfl, nothing] at back
      cases back
  cases saves

end GrantKeeper.Lifecycle
