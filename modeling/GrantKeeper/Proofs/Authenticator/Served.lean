import GrantKeeper.Proofs.Authenticator.Continuity
import GrantKeeper.Proofs.Credential.Reloading
import GrantKeeper.Proofs.Login
import GrantKeeper.Proofs.Token.Times

/-! From a login to the tokens that are given out later. The token of a login goes through a record, its
text and a keyring, and is given out by another process, up to the very nanosecond that is a minute
before it expires. -/
namespace GrantKeeper

namespace Instant

/-- The nanoseconds since 1970 began. -/
def elapsed (instant : Instant) : Int := instant.seconds * Span.perSecond + instant.nanos

/-- An instant that is not in a leap second. -/
def Plain (instant : Instant) : Prop := instant.nanos < Span.perSecond

instance (instant : Instant) : Decidable instant.Plain :=
  inferInstanceAs (Decidable (instant.nanos < Span.perSecond))

theorem le_iff_elapsed {a b : Instant} (plain : a.Plain) (other : b.Plain) :
    a.le b ↔ a.elapsed ≤ b.elapsed := by
  have unit : Span.perSecond = 1000000000 := rfl
  have unit' : (Span.perSecond : Int) = 1000000000 := rfl
  simp only [Plain] at plain other
  simp only [le, elapsed, unit', Bool.or_eq_true, Bool.and_eq_true, decide_eq_true_eq, beq_iff_eq]
  omega

/-- Whole seconds can be added to an instant up to the last one, and change nothing but its second. -/
theorem add?_of_plain {start : Instant} (plain : start.Plain) {seconds : Int}
    (low : earliest ≤ start.seconds + seconds) (high : start.seconds + seconds ≤ latest) :
    ∃ instant, start.add? (Span.ofSeconds seconds) = some instant ∧ instant.Plain ∧
      instant.seconds = start.seconds + seconds ∧
      instant.elapsed = start.elapsed + seconds * Span.perSecond := by
  have unit : Span.perSecond = 1000000000 := rfl
  have same : start.nanos % Span.perSecond = start.nanos := Nat.mod_eq_of_lt plain
  have below : ¬Span.perSecond ≤ start.nanos := Nat.not_le.mpr plain
  have due : start.due seconds = start.seconds + seconds := by
    rw [Instant.due, if_neg fun leap => below leap.1, Int.add_zero]
  have valid : Valid (start.seconds + seconds) start.nanos :=
    ⟨low, high, by omega, fun leap => absurd leap below⟩
  refine ⟨⟨start.seconds + seconds, start.nanos, valid⟩, ?_, plain, rfl, ?_⟩
  · rw [add?_ofSeconds, if_neg fun leap => below leap.1, due, same, ofParts?, dif_pos valid]
  · simp only [elapsed, Int.add_mul]
    omega

end Instant

namespace Token

theorem issued_of_plain {response : TokenResponse} {now : Instant} (plain : now.Plain)
    (late : noExpiry < now.seconds + response.expiresIn)
    (representable : now.seconds + response.expiresIn ≤ Instant.latest) :
    ∃ expiry, issued response now =
        .ok ⟨response.accessToken, "bearer", response.refreshToken, some expiry⟩ ∧
      expiry.Plain ∧ noExpiry < expiry.seconds ∧
      expiry.elapsed = now.elapsed + response.expiresIn * Span.perSecond := by
  have low : Instant.earliest ≤ now.seconds + response.expiresIn := by
    simp only [noExpiry, Instant.earliest] at late ⊢
    omega
  obtain ⟨expiry, due, whole, second, after⟩ := Instant.add?_of_plain plain low representable
  have span : -longestSpan ≤ response.expiresIn ∧ response.expiresIn ≤ longestSpan := by
    obtain ⟨first, last, -, -⟩ := now.valid
    simp only [noExpiry, Instant.earliest, Instant.latest, longestSpan] at *
    omega
  refine ⟨expiry, ?_, whole, by rwa [second], after⟩
  rw [issued, if_pos span, due]

/-- A token is given out until a minute before its expiry, and not at that nanosecond. -/
theorem isUsable_of_plain {token : Token} {expiry : Instant}
    (limited : token.expiry = some expiry) (plain : expiry.Plain) (late : noExpiry < expiry.seconds)
    {now : Instant} (also : now.Plain) :
    token.isUsable now =
      .ok (token.hasAccessToken && decide (now.elapsed < expiry.elapsed - 60 * Span.perSecond)) := by
  have low : Instant.earliest ≤ expiry.seconds + -60 := by
    simp only [noExpiry, Instant.earliest] at late ⊢
    omega
  have high : expiry.seconds + -60 ≤ Instant.latest := by
    have last := expiry.valid.2.1
    omega
  obtain ⟨deadline, due, whole, -, before⟩ := Instant.add?_of_plain plain low high
  have minute : expiry.sub? margin = expiry.add? (Span.ofSeconds (-60)) := rfl
  have fresh : (!deadline.le now) = decide (now.elapsed < expiry.elapsed - 60 * Span.perSecond) := by
    rw [Bool.eq_iff_iff, Bool.not_eq_true', ← Bool.not_eq_true, Instant.le_iff_elapsed whole also,
      decide_eq_true_iff]
    omega
  rw [isUsable, expiresWithin, limited]
  cases token.hasAccessToken with
  | false => rfl
  | true => simp only [minute, due, ← fresh, if_true, Bool.true_and]; rfl

end Token

variable {σ τ : Type}

theorem Grant.renewal_eq_error {grant : Grant} {error : Error}
    (nothing : grant.renewal = .error error) :
    error = .grantExpired ∧ ∃ clientId audience token,
      grant = .deviceCode clientId audience token ∧ token.refreshToken = "" := by
  cases grant with
  | clientCredentials => cases nothing
  | deviceCode clientId audience token =>
    rw [renewal_deviceCode] at nothing
    split at nothing
    · next without =>
      cases nothing
      exact ⟨rfl, _, _, _, rfl, without⟩
    · cases nothing

theorem Grant.ofRecord_eq_deviceCode {issuer : Issuer} {audience clientId about : String}
    {record : GrantRecord} {token : Token}
    (made : ofRecord issuer audience record = .ok (.deviceCode clientId about token)) :
    record.kind = .deviceCode ∧ record.token = some token := by
  unfold ofRecord at made
  split at made <;> cases made
  next kind held => exact ⟨kind, held⟩

/-- A token that is usable is given out as it is, and nobody is asked. For one that is not, the
authorization server is asked for another, unless there is nothing to ask. -/
theorem TokenProvider.ending_token_iff {provider : TokenProvider (StateM σ)} {ledger : σ → Ledger}
    (kept : provider.Kept ledger) {holding held : Holding} {token : Token} {world end_ : σ}
    {usable : Bool} {result : Except Failure Token}
    (present : holding.credential.grant.token = some token)
    (tested : token.isUsable (provider.clock.run world).1 = .ok usable)
    (gave : provider.token.ending holding world = (result, held, end_)) :
    (usable = true → result = .ok token ∧ (ledger end_).exchanges = (ledger world).exchanges) ∧
      (usable = false → (∃ exchange, (ledger end_).exchanges = (ledger world).exchanges ++ [exchange]) ∨
        ∃ error, holding.grant.renewal = .error error ∧
          result = .error (.error (.during "authentication failure" error))) := by
  have read : (Cache.token? provider.clock).ending holding.credential world =
      (.ok (if usable then some token else none), holding.credential,
        (provider.clock.run world).2) := by
    rw [Cache.ending_token?, present, Cache.tokenAt, present]
    simp only [tested]
    rfl
  have reading := Cache.ledger_token? kept.clock holding.credential world
  have asks := Grant.exchanges_refresh kept.exchanger kept.clock holding.grant
    (provider.clock.run world).2
  have gives := gives_token provider holding world
  rw [read] at reading
  rw [reading] at asks
  rw [gave] at gives
  cases usable with
  | true =>
    refine ⟨fun _ => ?_, fun unusable => absurd unusable Bool.noConfusion⟩
    cases gives with
    | cached found =>
      cases read.symm.trans found
      exact ⟨rfl, by rw [reading]⟩
    | unread found | unrenewed found | faulted found | renewed found => cases read.symm.trans found
  | false =>
    refine ⟨fun usable => absurd usable Bool.noConfusion, fun _ => ?_⟩
    cases gives with
    | cached found | unread found => cases read.symm.trans found
    | unrenewed found refresh =>
      cases read.symm.trans found
      rw [refresh] at asks
      rcases asks with ⟨exchange, grown⟩ | ⟨_, nothing, same⟩
      · exact .inl ⟨exchange, by rw [kept.count, grown]⟩
      · cases same
        exact .inr ⟨_, nothing, rfl⟩
    | faulted found refresh =>
      cases read.symm.trans found
      rw [refresh] at asks
      rcases asks with grown | ⟨_, nothing, same⟩
      · exact .inl grown
      · cases same
    | @renewed token _ _ last _ _ _ found refresh update =>
      cases read.symm.trans found
      rw [refresh] at asks
      rcases asks with ⟨exchange, grown⟩ | ⟨_, nothing, same⟩
      · have written := kept.keyring.exchanges_set (Cache.withToken holding.credential token).item
          ((provider.count .refreshed).run last).2
        rw [Cache.ending_update, Cache.ending_persist] at update
        cases update
        exact .inl ⟨exchange, by rw [written, kept.count, grown]⟩
      · cases same

/-- From a grant that was saved, and that storing leaves as it is, a provider is made that holds its
record. -/
theorem Authenticator.tokenProvider_of_saveGrant {a : Authenticator (StateM σ)}
    {b : Authenticator (StateM τ)} {stored : σ → Ledger} {ledger : τ → Ledger} {grant : Grant}
    {before saved : σ} {later read start : τ} {item : Option KeyringItem}
    {exchanger : Exchanger (StateM τ)} (kept : a.keyring.Kept stored)
    (accepted : (a.saveGrant grant).outcome before = (.ok (), saved))
    (unchanged : grant.record.normalized = grant.record) (keeps : b.Kept ledger)
    (same : (ledger later).entries = (stored saved).entries)
    (readable : (b.keyring.get (Credential.keyOf grant.audience)).outcome later = (.ok item, read))
    (search : b.findExchanger.outcome read = (.ok exchanger, start)) :
    ∃ userName live, Grant.ofRecord b.issuer grant.audience grant.record = .ok live ∧
      (b.tokenProvider grant.audience).outcome later =
        (.ok ⟨⟨b.keyring, exchanger, b.machine.clock, b.count⟩,
          ⟨live, ⟨grant.audience, userName, grant.record⟩⟩⟩, start) := by
  obtain ⟨userName, named, seen⟩ := Credential.save_ok kept accepted
  have usable := Credential.isUsable_of_userNameOf named
  obtain ⟨live, ofRecord⟩ := Grant.exists_ofRecord b.issuer grant.audience usable
  have found : (ledger later).entries.credential? grant.audience =
      some ⟨grant.audience, userName, grant.record⟩ := by
    have found := @Credential.credential?_withItem ⟨grant.audience, userName, grant.record⟩ usable
      (stored before).entries
    rw [Credential.normalized, unchanged] at found
    rw [same, seen]
    exact found
  have loaded := Credential.load_of_credential? keeps.keyring readable found
  exact ⟨userName, live, ofRecord, outcome_tokenProvider loaded search ofRecord⟩

namespace Login

/-- When the token of a response is still given out: it is one, and a minute before it expires has not
come. -/
def Lasts (response : TokenResponse) (issuedAt now : Instant) : Prop :=
  response.accessToken ≠ "" ∧
    now.elapsed < issuedAt.elapsed + response.expiresIn * Span.perSecond - 60 * Span.perSecond

instance (response : TokenResponse) (issuedAt now : Instant) :
    Decidable (Lasts response issuedAt now) :=
  inferInstanceAs (Decidable (_ ∧ _))

/-- A login for an audience whose authorization server gives a response, after which the clock is read:
that of a service account whose key file can be read, or one through a device that was given a code and
showed it. -/
inductive Answered (audience : String) (response : TokenResponse) (now : Instant) (after : σ) :
    Act (StateM σ) Outcome → σ → Prop
  | clientCredentials {keyFile : Act (StateM σ) KeyFile} {exchanger : Exchanger (StateM σ)}
    {clock : StateM σ Instant} {key : KeyFile} {world read answered : σ} :
    keyFile.outcome world = (.ok key, read) →
    (exchanger.exchange (.clientCredentials key.clientId key.clientSecret audience)).outcome read =
      (.ok response, answered) →
    clock.run answered = (now, after) →
    Answered audience response now after (withClientCredentials keyFile exchanger clock audience) world
  | deviceCode {issuer : Issuer} {options : DeviceOptions} {codes : DeviceCodeSource (StateM σ)}
    {exchanger : Exchanger (StateM σ)} {present : DeviceCode → Act (StateM σ) Unit}
    {clock : StateM σ Instant} {code : DeviceCode} {world asked shown answered : σ} :
    (codes.request options.scopes).outcome world = (.ok code, asked) →
    (present code).outcome asked = (.ok (), shown) →
    (exchanger.exchange (exchangeOf issuer code)).outcome shown = (.ok response, answered) →
    clock.run answered = (now, after) →
    Answered audience response now after
      (withDeviceCode issuer options codes exchanger present clock audience) world

variable {audience : String} {response : TokenResponse} {now : Instant} {after world : σ}
  {login : Act (StateM σ) Outcome}

/-- A login ends with the token that is issued for the response, and with a grant that has it: one that
can be renewed without end, or a device's. -/
theorem Answered.outcome (answered : Answered audience response now after login world) {token : Token}
    (issued : Token.issued response now = .ok token) :
    ∃ grant, login.outcome world = (.ok ⟨grant, token⟩, after) ∧
      ((∃ key, grant = .clientCredentials audience key (some token)) ∨
        ∃ clientId, grant = .deviceCode clientId audience token) := by
  cases answered with
  | @clientCredentials keyFile exchanger clock key world read answered got exchanged clocked =>
    refine ⟨.clientCredentials audience key (some token), ?_, .inl ⟨key, rfl⟩⟩
    have renewal : (Grant.clientCredentials audience key none).renewal =
        .ok (.clientCredentials key.clientId key.clientSecret audience) := rfl
    have refreshed := Grant.refresh_ok renewal exchanged clocked issued
    rw [withClientCredentials, Act.outcome_bind, Act.during, Act.outcome_mapError, got]
    simp only [Act.except_mapError_ok, Act.outcome_bind, Act.outcome_holding, Act.during,
      Act.ending_mapError, refreshed]
    rfl
  | @deviceCode issuer _ _ _ _ _ code world asked shown answered requested presented exchanged
      clocked =>
    refine ⟨.deviceCode issuer.clientId audience token, ?_, .inr ⟨_, rfl⟩⟩
    rw [withDeviceCode, Act.outcome_bind, Act.during, Act.outcome_mapError, requested]
    simp only [Act.except_mapError_ok, Act.outcome_bind, presented, Act.during, Act.outcome_mapError]
    rw [← exchangeOf, exchanged]
    simp only [Act.except_mapError_ok, Act.outcome_step, clocked, Act.outcome_ofTimes, issued,
      Act.outcome_pure]

theorem isUsable_eq_lasts {expiry issuedAt now : Instant}
    (due : expiry.elapsed = issuedAt.elapsed + response.expiresIn * Span.perSecond)
    (plain : expiry.Plain) (late : Token.noExpiry < expiry.seconds) (also : now.Plain) :
    Token.isUsable ⟨response.accessToken, "bearer", response.refreshToken, some expiry⟩ now =
      .ok (decide (Lasts response issuedAt now)) := by
  rw [Token.isUsable_of_plain rfl plain late also, due]
  refine congrArg Except.ok (Bool.eq_iff_iff.mpr ?_)
  rw [decide_eq_true_iff]
  simp [Lasts, Token.hasAccessToken]

/-- The token of a login, of either kind, is in its grant. When that has been saved, another process
makes a provider of it, and the provider gives out the very token of the login, without asking anybody,
exactly until the nanosecond that is a minute before the lifetime of the response is over, if there is an
access token. Otherwise it asks the authorization server, or the login was a device's that got no refresh
token, and the grant has expired. -/
theorem served_to_the_nanosecond {issuedAt : Instant} {authorized origin : σ}
    (answered : Answered audience response issuedAt authorized login origin) (plain : issuedAt.Plain)
    (late : Token.noExpiry < issuedAt.seconds + response.expiresIn)
    (representable : issuedAt.seconds + response.expiresIn ≤ Instant.latest) :
    ∃ outcome expiry, login.outcome origin = (.ok outcome, authorized) ∧
      outcome.token = ⟨response.accessToken, "bearer", response.refreshToken, some expiry⟩ ∧
      expiry.elapsed = issuedAt.elapsed + response.expiresIn * Span.perSecond ∧
      ∀ (a : Authenticator (StateM σ)) (stored : σ → Ledger) (before saved : σ),
        a.keyring.Kept stored → (a.saveGrant outcome.grant).outcome before = (.ok (), saved) →
      ∀ (b : Authenticator (StateM τ)) (ledger : τ → Ledger) (later read start : τ)
        (item : Option KeyringItem) (exchanger : Exchanger (StateM τ)),
        b.Kept ledger → (ledger later).entries = (stored saved).entries →
        (b.keyring.get (Credential.keyOf audience)).outcome later = (.ok item, read) →
        b.findExchanger.outcome read = (.ok exchanger, start) →
      ∃ provision, (b.tokenProvider audience).outcome later = (.ok provision, start) ∧
        ∀ world, (b.machine.clock.run world).1.Plain →
        ∀ result held end_, provision.provider.token.ending provision.holding world =
            (result, held, end_) →
          (result = .ok outcome.token ∧ (ledger end_).exchanges = (ledger world).exchanges ↔
            Lasts response issuedAt (b.machine.clock.run world).1) ∧
          (¬Lasts response issuedAt (b.machine.clock.run world).1 →
            (∃ exchange, (ledger end_).exchanges = (ledger world).exchanges ++ [exchange]) ∨
              outcome.grant.kind = .deviceCode ∧ response.refreshToken = "" ∧
                ∃ error, result = .error (.error error) ∧ error.kind = .grantExpired) := by
  obtain ⟨expiry, issued, limit, dated, due⟩ := Token.issued_of_plain plain late representable
  obtain ⟨grant, ended, made⟩ := answered.outcome issued
  refine ⟨_, expiry, ended, rfl, due, ?_⟩
  intro a stored before saved kept accepted b ledger later read start item exchanger keeps same
    readable search
  have carries : grant.record.token =
      some ⟨response.accessToken, "bearer", response.refreshToken, some expiry⟩ := by
    rcases made with ⟨key, rfl⟩ | ⟨clientId, rfl⟩ <;> rfl
  have about : grant.audience = audience := by
    rcases made with ⟨key, rfl⟩ | ⟨clientId, rfl⟩ <;> rfl
  have unchanged : grant.record.normalized = grant.record := by
    rw [GrantRecord.normalized_eq_self_iff, carries]
    rintro _ ⟨⟩
    refine ⟨by simp, ?_⟩
    rintro _ ⟨⟩
    exact dated
  rw [← about] at readable ⊢
  obtain ⟨userName, live, ofRecord, provided⟩ :=
    Authenticator.tokenProvider_of_saveGrant kept accepted unchanged keeps same readable search
  obtain ⟨-, provides, -⟩ := Authenticator.tokenProvider_ok keeps provided
  refine ⟨_, provided, ?_⟩
  intro world also result held end_ gave
  obtain ⟨given, asked⟩ :=
    TokenProvider.ending_token_iff provides carries (isUsable_eq_lasts due limit dated also) gave
  by_cases lasts : Lasts response issuedAt (b.machine.clock.run world).1
  · exact ⟨iff_of_true (given (decide_eq_true lasts)) lasts, fun past => absurd lasts past⟩
  · have refused : (∃ exchange, (ledger end_).exchanges = (ledger world).exchanges ++ [exchange]) ∨
        grant.kind = .deviceCode ∧ response.refreshToken = "" ∧
          ∃ error, result = .error (.error error) ∧ error.kind = .grantExpired := by
      refine (asked (decide_eq_false lasts)).imp_right ?_
      rintro ⟨error, nothing, failed⟩
      obtain ⟨rfl, clientId, about, token, rfl, without⟩ := Grant.renewal_eq_error nothing
      obtain ⟨kind, holds⟩ := Grant.ofRecord_eq_deviceCode ofRecord
      rw [carries] at holds
      cases holds
      refine ⟨?_, without, _, failed, rfl⟩
      cases grant with
      | clientCredentials => cases kind
      | deviceCode => rfl
    refine ⟨iff_of_false ?_ lasts, fun _ => refused⟩
    rintro ⟨rfl, quiet⟩
    rcases refused with ⟨exchange, grown⟩ | ⟨-, -, error, failed, -⟩
    · simp [quiet] at grown
    · cases failed

end Login

namespace Desk

def hourly : TokenResponse := { accessToken := "access", expiresIn := 3600 }

/-- A desk at some nanosecond of a second in the autumn of 2025, where that is the answer. -/
def autumn (seconds nanos : Nat) (valid : Instant.Valid (1760000000 + seconds) nanos) : Desk where
  now := ⟨1760000000 + seconds, nanos, valid⟩
  answers := [.ok hourly]

def begun : Desk := autumn 0 5 (by decide)

def account : KeyFile := ⟨KeyFile.serviceAccount, "client", ⟨"secret"⟩, "robot@example"⟩

def login : Act (StateM Desk) Login.Outcome :=
  Login.withClientCredentials (pure account) exchanger clock "audience"

def obtained : Token := { accessToken := "access", expiry := some ⟨1760003600, 5, by decide⟩ }

def opened : Login.Outcome := ⟨.clientCredentials "audience" account (some obtained), obtained⟩

theorem outcome_login : (login.outcome begun).1 = .ok opened := rfl

theorem answered_login :
    Login.Answered "audience" hourly begun.now (login.outcome begun).2 login begun :=
  .clientCredentials rfl rfl rfl

def keeper : Authenticator (StateM Desk) := authenticator {} none

def filed : Desk := ((keeper.saveGrant opened.grant).outcome begun).2

theorem saved_opened : (keeper.saveGrant opened.grant).outcome begun = (.ok (), filed) := rfl

end Desk

/-- What was issued for an hour can be had for fifty-nine minutes. -/
theorem Login.served_to_the_nanosecond_for_an_hour :
    Answered "audience" Desk.hourly Desk.begun.now (Desk.login.outcome Desk.begun).2 Desk.login
        Desk.begun ∧
      Desk.begun.now.Plain ∧ Token.noExpiry < Desk.begun.now.seconds + Desk.hourly.expiresIn ∧
      Desk.begun.now.seconds + Desk.hourly.expiresIn ≤ Instant.latest ∧
      (Desk.keeper.saveGrant Desk.opened.grant).outcome Desk.begun = (.ok (), Desk.filed) ∧
    ∃ provision, (Desk.keeper.tokenProvider "audience").outcome Desk.filed =
        (.ok provision, Desk.filed) ∧
      (provision.provider.token.ending provision.holding (Desk.autumn 3540 4 (by decide))).1 =
        .ok Desk.obtained ∧
      ∃ exchange, (provision.provider.token.ending provision.holding
        (Desk.autumn 3540 5 (by decide))).2.2.ledger.exchanges = [exchange] := by
  obtain ⟨outcome, expiry, ended, -, -, served⟩ :=
    served_to_the_nanosecond Desk.answered_login (by decide) (by decide) (by decide)
  have same : outcome = Desk.opened :=
    Except.ok.inj ((congrArg Prod.fst ended).symm.trans Desk.outcome_login)
  subst same
  obtain ⟨provision, provided, given⟩ := served Desk.keeper Desk.ledger _ _ (Desk.kept_keyring none)
    Desk.saved_opened Desk.keeper Desk.ledger _ _ _ _ _ (Desk.kept_authenticator {} none) rfl rfl rfl
  refine ⟨Desk.answered_login, by decide, by decide, by decide, Desk.saved_opened, provision, provided,
    ?_, ?_⟩
  · obtain ⟨lasts, -⟩ := given (Desk.autumn 3540 4 (by decide)) (by decide) _ _ _ rfl
    exact (lasts.mpr (by decide)).1
  · obtain ⟨-, past⟩ := given (Desk.autumn 3540 5 (by decide)) (by decide) _ _ _ rfl
    rcases past (by decide) with grown | ⟨device, -⟩
    · exact grown
    · cases device

end GrantKeeper
