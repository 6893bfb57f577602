import Mathlib.Logic.Function.Basic
import Mathlib.Logic.Relation
import GrantKeeper.Proofs.Credential.Provider

/-! Calls of one provider that run at the same time. A call for a token holds the lock of the grant
from its reading of the cache to its end; the lock of the credential is taken for each reading and
each change, and is the only one that an invalidation takes. Between any two steps of a call, others
may make steps of theirs. A call that runs alone does what the provider does. -/
namespace GrantKeeper.Calls

variable {ι : Type}

/-- What happened to access tokens. -/
inductive Note
  /-- An exchange brought a token. -/
  | exchanged (token : Token)
  /-- An invalidation found an access token and took it away. -/
  | cleared

/-- What calls share: the grant and the credential with their locks and who holds these, the entries
of the keyring, and what happened so far, last first. -/
structure Shared (ι : Type) where
  grant : Grant
  credential : Credential
  entries : Entries
  grantLock : Option ι := none
  itemLock : Option ι := none
  notes : List Note := []

inductive Phase
  /-- A token is asked for. -/
  | waiting
  /-- The grant is locked. -/
  | granted
  /-- The credential is locked, too. -/
  | reading
  | read (result : Except Fault (Option Token))
  /-- There is no usable token, and the credential is free again. -/
  | missed
  | exchanging (request : ExchangeRequest)
  /-- The grant has its token. -/
  | refreshed (token : Token)
  /-- The credential is locked again. -/
  | updating (token : Token)
  /-- The credential has its token. -/
  | writing (token : Token)
  | written (token : Token)
  /-- The credential is free again. -/
  | leaving (result : Except Failure Token)
  | done (result : Except Failure Token)
  /-- An invalidation is asked for. -/
  | told
  /-- The credential is locked. -/
  | checking
  /-- The credential has no access token. -/
  | clearing
  | closing
  | finished

def Phase.after : Except Fault (Option Token) → Phase
  | .ok (some token) => .leaving (.ok token)
  | .ok none => .missed
  | .error fault => .leaving (.error (.fault fault))

/-- A token that can be used whenever the clock is read. -/
def Lasting (during : Instant → Prop) (token : Token) : Prop :=
  ∀ now, during now → token.isUsable now = .ok true

/-- One step of a call, while the clock shows certain instants. Writes succeed, and an exchange that
does brings a token that lasts. -/
inductive Moves (during : Instant → Prop) (i : ι) : Phase → Shared ι → Phase → Shared ι → Prop
  | enter {s : Shared ι} : s.grantLock = none →
    Moves during i .waiting s .granted { s with grantLock := some i }
  | look {s : Shared ι} : s.itemLock = none →
    Moves during i .granted s .reading { s with itemLock := some i }
  | read {s : Shared ι} {now : Instant} : during now →
    Moves during i .reading s (.read (Cache.tokenAt s.credential now)) s
  | looked {s : Shared ι} {result : Except Fault (Option Token)} :
    Moves during i (.read result) s (.after result) { s with itemLock := none }
  | refuse {s : Shared ι} {error : Error} : s.grant.renewal = .error error →
    Moves during i .missed s
      (.leaving (.error (.error (.during "authentication failure" error)))) s
  | send {s : Shared ι} {request : ExchangeRequest} : s.grant.renewal = .ok request →
    Moves during i .missed s (.exchanging request) s
  | fail {s : Shared ι} {request : ExchangeRequest} {failure : Failure} :
    Moves during i (.exchanging request) s
      (.leaving (.error (Act.restated (.during "authentication failure")
        (Act.restated s.grant.restate failure)))) s
  | answer {s : Shared ι} {request : ExchangeRequest} {response : TokenResponse} {now : Instant}
    {token : Token} : during now → s.grant.tokenFrom response now = .ok token →
    Lasting during token →
    Moves during i (.exchanging request) s (.refreshed token)
      { s with grant := s.grant.withToken token, notes := .exchanged token :: s.notes }
  | relock {s : Shared ι} {token : Token} : s.itemLock = none →
    Moves during i (.refreshed token) s (.updating token) { s with itemLock := some i }
  | update {s : Shared ι} {token : Token} :
    Moves during i (.updating token) s (.writing token)
      { s with credential := Cache.withToken s.credential token }
  | write {s : Shared ι} {token : Token} :
    Moves during i (.writing token) s (.written token)
      { s with entries := s.entries.withItem s.credential.item }
  | unlock {s : Shared ι} {token : Token} :
    Moves during i (.written token) s (.leaving (.ok token)) { s with itemLock := none }
  | leave {s : Shared ι} {result : Except Failure Token} :
    Moves during i (.leaving result) s (.done result) { s with grantLock := none }
  | check {s : Shared ι} : s.itemLock = none →
    Moves during i .told s .checking { s with itemLock := some i }
  | spare {s : Shared ι} : Cache.cleared? s.credential = none →
    Moves during i .checking s .closing s
  | clear {s : Shared ι} {token : Token} : Cache.cleared? s.credential = some token →
    Moves during i .checking s .clearing
      { s with
        credential := Cache.withToken s.credential token.invalidated
        notes := .cleared :: s.notes }
  | save {s : Shared ι} :
    Moves during i .clearing s .closing
      { s with entries := s.entries.withItem s.credential.item }
  | finish {s : Shared ι} :
    Moves during i .closing s .finished { s with itemLock := none }

structure State (ι : Type) where
  phase : ι → Phase
  shared : Shared ι

inductive Step [DecidableEq ι] (during : Instant → Prop) (s : State ι) : State ι → Prop
  | moves {i : ι} {phase : Phase} {shared : Shared ι} :
    Moves during i (s.phase i) s.shared phase shared →
    Step during s ⟨Function.update s.phase i phase, shared⟩

abbrev Steps [DecidableEq ι] (during : Instant → Prop) : State ι → State ι → Prop :=
  Relation.ReflTransGen (Step during)

/-! Calls that run alone. -/

/-- Steps of one call that nobody interrupts. -/
abbrev Path (during : Instant → Prop) (i : ι) : Phase × Shared ι → Phase × Shared ι → Prop :=
  Relation.ReflTransGen fun before after => Moves during i before.1 before.2 after.1 after.2

theorem Path.move {during : Instant → Prop} {i : ι} {start : Phase × Shared ι} {phase next : Phase}
    {shared after : Shared ι} (path : Path during i start (phase, shared))
    (move : Moves during i phase shared next after) : Path during i start (next, after) :=
  path.tail move

theorem Path.steps [DecidableEq ι] {during : Instant → Prop} {i : ι} {s : State ι}
    {after : Phase × Shared ι} (path : Path during i (s.phase i, s.shared) after) :
    Steps during s ⟨Function.update s.phase i after.1, after.2⟩ := by
  induction path with
  | refl => rw [Function.update_eq_self]
  | @tail middle last _ move steps =>
    refine steps.tail ?_
    have moved : Moves during i (Function.update s.phase i middle.1 i) middle.2 last.1 last.2 := by
      rwa [Function.update_self]
    simpa using Step.moves (s := ⟨Function.update s.phase i middle.1, middle.2⟩) moved

variable {σ : Type} {provider : TokenProvider (StateM σ)} {ledger : σ → Ledger}
  {during : Instant → Prop}

/-- What a provider holds and its keyring has, shared by calls none of which is running. -/
def idle (holding : TokenProvider.Holding) (ledger : Ledger) (notes : List Note) : Shared ι where
  grant := holding.grant
  credential := holding.credential
  entries := ledger.entries
  notes := notes

theorem path_reading {world : σ} (reads : during (provider.clock.run world).1)
    (holding : TokenProvider.Holding) (i : ι) (books : Ledger) (notes : List Note) :
    Path during i (.waiting, idle holding books notes)
      (.after (Cache.tokenAt holding.credential (provider.clock.run world).1),
        { idle holding books notes with grantLock := some i }) := by
  have path : Path during i (.waiting, idle holding books notes)
      (.waiting, idle holding books notes) := .refl
  exact (((path.move (.enter rfl)).move (.look rfl)).move (.read reads)).move .looked

theorem path_unrenewed (during : Instant → Prop) {grant after : Grant} {error : Error} {before last : σ}
    (refresh : (Grant.refresh provider.exchanger provider.clock).ending grant before =
      (.error (.error error), after, last)) (i : ι) {s : Shared ι} (live : s.grant = grant) :
    after = grant ∧ Path during i (.missed, s)
      (.leaving (.error (.error (.during "authentication failure" error))), s) := by
  subst live
  have path : Path during i (.missed, s) (.missed, s) := .refl
  have renews := Grant.renews_refresh provider.exchanger provider.clock s.grant before
  rw [refresh] at renews
  generalize failed : (Except.error (Failure.error error) : Except Failure Token) = result at renews
  cases renews with
  | refused renewal =>
    cases failed
    exact ⟨rfl, path.move (.refuse renewal)⟩
  | @unanswered _ failure _ renewal exchange =>
    have restated := Except.error.inj failed
    have failing : Path during i (.missed, s)
        (.leaving (.error (Act.restated (.during "authentication failure")
          (Act.restated s.grant.restate failure))), s) := (path.move (.send renewal)).move .fail
    rw [← restated] at failing
    exact ⟨rfl, failing⟩
  | unissued | renewed => cases failed

theorem path_renewed {grant after : Grant} {token : Token} {before last : σ}
    (reads : ∀ request response after,
      (provider.exchanger.exchange request).outcome before = (.ok response, after) →
        during (provider.clock.run after).1)
    (refresh : (Grant.refresh provider.exchanger provider.clock).ending grant before =
      (.ok token, after, last)) (lasting : Lasting during token) (i : ι) {s : Shared ι}
    (live : s.grant = grant) :
    Path during i (.missed, s)
      (.refreshed token, { s with grant := after, notes := .exchanged token :: s.notes }) := by
  subst live
  have path : Path during i (.missed, s) (.missed, s) := .refl
  have renews := Grant.renews_refresh provider.exchanger provider.clock s.grant before
  rw [refresh] at renews
  cases renews with
  | renewed renewal exchange issued =>
    exact (path.move (.send renewal)).move (.answer (reads _ _ _ exchange) issued lasting)

/-- A call for a token that runs alone ends as the provider gives out a token, if the clock is read
when it may be and what an exchange brings lasts. -/
theorem path_token (during : Instant → Prop) (kept : provider.Kept ledger)
    (writable : provider.keyring.Writable) (holding : TokenProvider.Holding) (world : σ) {read : σ}
    (reading : ((Cache.token? provider.clock).ending holding.credential world).2.2 = read)
    (reads : during (provider.clock.run world).1)
    (again : ∀ request response after,
      (provider.exchanger.exchange request).outcome read = (.ok response, after) →
        during (provider.clock.run after).1)
    (lasting : ∀ token grant after,
      (Grant.refresh provider.exchanger provider.clock).ending holding.grant read =
        (.ok token, grant, after) → Lasting during token)
    (sound : ∀ fault, (provider.token.ending holding world).1 ≠ .error (.fault fault)) (i : ι)
    (notes : List Note) :
    ∃ later, Path during i (.waiting, idle holding (ledger world) notes)
      (.done (provider.token.ending holding world).1,
        idle (provider.token.ending holding world).2.1
          (ledger (provider.token.ending holding world).2.2) later) := by
  have quiet := Cache.ledger_token? kept.clock holding.credential world
  have result := Cache.result_token? provider.clock holding.credential world
  have start := path_reading reads holding i (ledger world) notes
  have gives := TokenProvider.gives_token provider holding world
  generalize provider.token.ending holding world = ended at gives sound ⊢
  cases found : Cache.tokenAt holding.credential (provider.clock.run world).1 with
  | error fault =>
    rw [found] at result
    cases gives with
    | cached read | unrenewed read | renewed read =>
      rw [read] at result
      cases result
    | unread read =>
      rw [read] at result
      cases result
      exact absurd rfl (sound fault)
    | faulted => exact absurd rfl (sound _)
  | ok hit =>
    rw [found] at result start
    cases gives with
    | cached found =>
      rw [found] at result quiet
      cases result
      simp only [quiet]
      exact ⟨notes, start.move .leave⟩
    | unread found =>
      rw [found] at result
      cases result
    | @unrenewed _ _ after last found refresh =>
      rw [found] at result reading quiet
      cases result
      obtain rfl : after = read := reading
      have entries := Grant.entries_refresh kept.exchanger kept.clock holding.grant after
      rw [refresh] at entries
      obtain ⟨rfl, failing⟩ := path_unrenewed during refresh i (s := {
        idle holding (ledger world) notes with grantLock := some i }) rfl
      refine ⟨notes, ?_⟩
      have ended := Path.move (start.trans failing) .leave
      simpa [idle, kept.count .refreshFailed last, entries, quiet] using ended
    | faulted => exact absurd rfl (sound _)
    | @renewed token _ after last _ _ _ found refresh update =>
      rw [found] at result reading quiet
      cases result
      obtain rfl : after = read := reading
      have entries := Grant.entries_refresh kept.exchanger kept.clock holding.grant after
      rw [refresh] at entries
      obtain ⟨_, wrote, written⟩ := Cache.persist_ok kept.keyring writable
        (Cache.withToken holding.credential token) ((provider.count .refreshed).run last).2
      rw [Cache.ending_update, wrote] at update
      cases update
      have renewed : Path during i _ _ :=
        start.trans (path_renewed again refresh (lasting _ _ _ refresh) i rfl)
      have ended := (((((renewed.move (.relock rfl)).move .update).move .write).move
        .unlock).move .leave)
      refine ⟨.exchanged token :: notes, ?_⟩
      simpa [idle, Except.map, written, kept.count .refreshed last, entries, quiet]
        using ended

theorem path_invalidate (during : Instant → Prop) (kept : provider.Kept ledger)
    (writable : provider.keyring.Writable) (holding : TokenProvider.Holding) (world : σ) (i : ι)
    (notes : List Note) :
    (provider.invalidate.ending holding world).1 = .ok () ∧
      ∃ later, Path during i (.told, idle holding (ledger world) notes)
        (.finished, idle (provider.invalidate.ending holding world).2.1
          (ledger (provider.invalidate.ending holding world).2.2) later) := by
  have counted := kept.count .invalidated world
  have path : Path during i (.told, idle holding (ledger world) notes)
      (.told, idle holding (ledger world) notes) := .refl
  have checked := path.move (.check rfl)
  rw [TokenProvider.ending_invalidate, Cache.ending_invalidate]
  cases cleared : Cache.cleared? holding.credential with
  | none =>
    refine ⟨rfl, notes, ?_⟩
    simpa [idle, counted] using (checked.move (.spare cleared)).move .finish
  | some token =>
    obtain ⟨after, wrote, written⟩ := Cache.persist_ok kept.keyring writable
      (Cache.withToken holding.credential token.invalidated)
      ((provider.count .invalidated).run world).2
    simp only [wrote]
    refine ⟨trivial, .cleared :: notes, ?_⟩
    simpa [idle, written, counted] using
      ((checked.move (.clear cleared)).move .save).move .finish

end GrantKeeper.Calls
