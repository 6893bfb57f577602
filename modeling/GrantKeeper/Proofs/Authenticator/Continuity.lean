import GrantKeeper.Proofs.Credential.Provider

/-! The refresh token of a provider. It is held by the live grant, by the cached credential and by
the keyring, which are changed by different operations, and it is one and the same in all of them:
the last that the authorization server issued. -/
namespace GrantKeeper

variable {σ : Type} {ledger : σ → Ledger}

def Exchange.refreshToken? (exchange : Exchange) : Option String :=
  match exchange.2 with
  | .ok response => if response.refreshToken.isEmpty then none else some response.refreshToken
  | .error _ => none

/-- The last refresh token brought, or else the first one. -/
def lastRefreshToken (first : String) (exchanges : List Exchange) : String :=
  (exchanges.filterMap Exchange.refreshToken?).getLast?.getD first

@[simp] theorem lastRefreshToken_nil (first : String) : lastRefreshToken first [] = first := rfl

theorem lastRefreshToken_concat (first : String) (exchanges : List Exchange) (exchange : Exchange) :
    lastRefreshToken first (exchanges ++ [exchange]) =
      exchange.refreshToken?.getD (lastRefreshToken first exchanges) := by
  cases brought : exchange.refreshToken? <;> simp [lastRefreshToken, brought]

namespace Authenticator

theorem tokenProvider_ok {a : Authenticator (StateM σ)} (kept : a.Kept ledger) {audience : String}
    {provision : Provision (StateM σ)} {origin start : σ}
    (provided : (a.tokenProvider audience).outcome origin = (.ok provision, start)) :
    ledger start = ledger origin ∧ provision.provider.Kept ledger ∧
      provision.provider.keyring = a.keyring ∧
      (ledger origin).entries.credential? audience = some provision.holding.credential ∧
      Cache.Saved audience provision.holding.credential provision.holding.credential
        (ledger origin).entries ∧
      Grant.ofRecord a.issuer audience provision.holding.credential.grant =
        .ok provision.holding.grant := by
  rw [tokenProvider, Act.outcome_bind] at provided
  rcases load : (Credential.load a.keyring audience).outcome origin with ⟨_ | credential, loaded⟩
  · simp [load] at provided
  obtain ⟨same, -, -, found⟩ := Credential.load_ok kept.keyring load
  have saved := Cache.saved_load kept.keyring load
  simp only [load, Act.outcome_bind] at provided
  have search := kept.search loaded
  rcases exchange : a.findExchanger.outcome loaded with ⟨_ | exchanger, searched⟩
  · simp [exchange] at provided
  rw [exchange] at search
  simp only [exchange, Act.outcome_ofExcept] at provided
  cases live : Grant.ofRecord a.issuer audience credential.grant with
  | error error => simp [live] at provided
  | ok grant =>
    simp only [live, Act.except_mapError_ok, Act.outcome_pure, Prod.mk.injEq, Except.ok.injEq] at provided
    obtain ⟨rfl, rfl⟩ := provided
    rw [same] at found saved
    refine ⟨search.trans same, ⟨kept.keyring, ?_, kept.clock, kept.count⟩, rfl, found, saved, live⟩
    exact kept.exchanger loaded exchanger (by rw [exchange])

theorem ledger_tokenProvider {a : Authenticator (StateM σ)} (kept : a.Kept ledger)
    (audience : String) (world : σ) :
    ledger ((a.tokenProvider audience).outcome world).2 = ledger world := by
  have loading := Credential.ledger_load kept.keyring audience world
  rw [tokenProvider, Act.outcome_bind]
  rcases load : (Credential.load a.keyring audience).outcome world with ⟨_ | credential, loaded⟩ <;>
    rw [load] at loading
  · exact loading
  have search := kept.search loaded
  simp only [Act.outcome_bind]
  rcases exchange : a.findExchanger.outcome loaded with ⟨_ | exchanger, searched⟩ <;>
    rw [exchange] at search
  · exact search.trans loading
  simp only [Act.outcome_ofExcept]
  cases Grant.ofRecord a.issuer audience credential.grant <;> exact search.trans loading

theorem outcome_tokenProvider {a : Authenticator (StateM σ)} {audience : String}
    {credential : Credential} {exchanger : Exchanger (StateM σ)} {grant : Grant}
    {origin loaded start : σ}
    (load : (Credential.load a.keyring audience).outcome origin = (.ok credential, loaded))
    (search : a.findExchanger.outcome loaded = (.ok exchanger, start))
    (live : Grant.ofRecord a.issuer audience credential.grant = .ok grant) :
    (a.tokenProvider audience).outcome origin =
      (.ok ⟨⟨a.keyring, exchanger, a.machine.clock, a.count⟩, ⟨grant, credential⟩⟩, start) := by
  rw [tokenProvider, Act.outcome_bind, load]
  simp only [Act.outcome_bind, search, Act.outcome_ofExcept, live, Act.except_mapError_ok,
    Act.outcome_pure]

end Authenticator

namespace TokenProvider

/-- Runs of a provider none of whose operations ends in a fault: what it holds, and the world, which
may also move unseen. -/
inductive Runs (provider : TokenProvider (StateM σ)) (ledger : σ → Ledger) (first : Holding)
    (start : σ) : Holding → σ → Prop
  | start : Runs provider ledger first start first start
  | token {holding : Holding} {world : σ} :
    Runs provider ledger first start holding world →
    (∀ fault, (provider.token.ending holding world).1 ≠ .error (.fault fault)) →
    Runs provider ledger first start (provider.token.ending holding world).2.1
      (provider.token.ending holding world).2.2
  | invalidate {holding : Holding} {world : σ} :
    Runs provider ledger first start holding world →
    (∀ fault, (provider.invalidate.ending holding world).1 ≠ .error (.fault fault)) →
    Runs provider ledger first start (provider.invalidate.ending holding world).2.1
      (provider.invalidate.ending holding world).2.2
  | moved {holding : Holding} {world after : σ} :
    Runs provider ledger first start holding world → ledger after = ledger world →
    Runs provider ledger first start holding after

/-- A provider for a device's grant holds a refresh token in the grant, the cache and the keyring. -/
structure Holds (clientId audience current : String) (holding : Holding) (entries : Entries) :
    Prop where
  grant : ∃ token, holding.grant = .deviceCode clientId audience token ∧
    token.refreshToken = current
  cached : holding.credential.grant.token.map Token.refreshToken = some current
  saved : Cache.Saved audience holding.credential holding.credential entries

/-- What was sent carried the refresh token of its time, and nothing was sent without one. -/
structure Carried (clientId first : String) (sent : List Exchange) : Prop where
  request : ∀ before exchange after, sent = before ++ exchange :: after →
    exchange.1 = .refreshToken clientId (lastRefreshToken first before)
  none_sent : first = "" → sent = []

variable {provider : TokenProvider (StateM σ)} {clientId audience current first : String}
  {holding : Holding} {sent : List Exchange}

theorem Carried.nil : Carried clientId first [] where
  request before exchange after split := by simp at split
  none_sent _ := rfl

theorem Carried.concat (carried : Carried clientId first sent)
    (some_ : lastRefreshToken first sent ≠ "") (answer : Except Failure TokenResponse) :
    Carried clientId first
      (sent ++ [(.refreshToken clientId (lastRefreshToken first sent), answer)]) where
  request before exchange after split := by
    rcases after.eq_nil_or_concat with rfl | ⟨front, back, rfl⟩
    · obtain ⟨rfl, same⟩ := List.append_inj' split rfl
      cases same
      rfl
    · rw [List.concat_eq_append, ← List.cons_append, ← List.append_assoc] at split
      exact carried.request before exchange front (List.append_inj' split rfl).1
  none_sent none := by
    rw [carried.none_sent none, lastRefreshToken_nil] at some_
    exact absurd none some_

theorem Holds.renewed {entries : Entries} (holds : Holds clientId audience current holding entries)
    (token : Token) : Holds clientId audience token.refreshToken
      ⟨.deviceCode clientId audience token, Cache.withToken holding.credential token⟩
      (entries.withItem (Cache.withToken holding.credential token).item) where
  grant := ⟨token, rfl, rfl⟩
  cached := rfl
  saved :=
    have usable := Cache.isUsable_withToken holds.saved.usable token
    ⟨Credential.storedIn_withItem usable _, usable, holds.saved.memory_audience,
      holds.saved.memory_audience⟩

theorem Holds.invalidate (kept : provider.Kept ledger) (writable : provider.keyring.Writable)
    {world : σ} (holds : Holds clientId audience current holding (ledger world).entries) :
    Holds clientId audience current (provider.invalidate.ending holding world).2.1
        (ledger (provider.invalidate.ending holding world).2.2).entries ∧
      (ledger (provider.invalidate.ending holding world).2.2).exchanges =
        (ledger world).exchanges := by
  have counted := kept.count .invalidated world
  rw [ending_invalidate, Cache.ending_invalidate]
  cases cleared : Cache.cleared? holding.credential with
  | none =>
    simpa only [counted] using ⟨holds, trivial⟩
  | some token =>
    obtain ⟨present, -⟩ := Option.filter_eq_some_iff.mp cleared
    obtain ⟨after, wrote, seen⟩ := Cache.persist_ok kept.keyring writable
      (Cache.withToken holding.credential token.invalidated)
      ((provider.count .invalidated).run world).2
    have same : token.refreshToken = current := by simpa [present] using holds.cached
    have usable := Cache.isUsable_withToken holds.saved.usable token.invalidated
    simp only [wrote, seen, counted]
    exact ⟨⟨holds.grant, congrArg some same, Credential.storedIn_withItem usable _, usable,
      holds.saved.memory_audience, holds.saved.memory_audience⟩, rfl⟩

/-- A provider that gives out a token asks at most once, with the refresh token, and then holds the
one that was brought, if one was. -/
theorem Holds.token (kept : provider.Kept ledger) (writable : provider.keyring.Writable) {world : σ}
    (holds : Holds clientId audience current holding (ledger world).entries)
    (sound : ∀ fault, (provider.token.ending holding world).1 ≠ .error (.fault fault)) :
    (Holds clientId audience current (provider.token.ending holding world).2.1
        (ledger (provider.token.ending holding world).2.2).entries ∧
      (ledger (provider.token.ending holding world).2.2).exchanges = (ledger world).exchanges) ∨
    (current ≠ "" ∧ ∃ answer,
      Holds clientId audience
        ((Exchange.refreshToken? (.refreshToken clientId current, answer)).getD current)
        (provider.token.ending holding world).2.1
        (ledger (provider.token.ending holding world).2.2).entries ∧
      (ledger (provider.token.ending holding world).2.2).exchanges =
        (ledger world).exchanges ++ [(.refreshToken clientId current, answer)]) := by
  have reading := Cache.ledger_token? kept.clock holding.credential world
  obtain ⟨held, live, rfl⟩ := holds.grant
  have gives := gives_token provider holding world
  generalize provider.token.ending holding world = ended at gives sound ⊢
  cases gives with
  | cached read | unread read =>
    rw [read] at reading
    simp only [reading]
    exact .inl ⟨holds, trivial⟩
  | @unrenewed _ _ _ last read refresh =>
    rw [read] at reading
    rw [live] at refresh
    have counted := kept.count .refreshFailed last
    by_cases none : held.refreshToken = ""
    · obtain ⟨-, rfl, rfl⟩ := Grant.refresh_without_refreshToken none refresh
      rw [← live, counted]
      simp only [reading]
      exact .inl ⟨holds, trivial⟩
    · obtain ⟨_, seen, ⟨failure, _, rfl, -, rfl⟩ | ⟨_, _, -, made, -⟩⟩ :=
        Grant.refresh_with_refreshToken kept.exchanger kept.clock none refresh (by simp)
      · rw [← live, counted, seen, reading]
        exact .inr ⟨none, .error failure, holds, rfl⟩
      · cases made
  | faulted => exact absurd rfl (sound _)
  | @renewed token _ _ last _ _ _ read refresh update =>
    rw [read] at reading
    rw [live] at refresh
    have counted := kept.count .refreshed last
    obtain ⟨_, wrote, written⟩ := Cache.persist_ok kept.keyring writable
      (Cache.withToken holding.credential token) ((provider.count .refreshed).run last).2
    rw [Cache.ending_update, wrote] at update
    cases update
    by_cases none : held.refreshToken = ""
    · obtain ⟨refused, -⟩ := Grant.refresh_without_refreshToken none refresh
      cases refused
    · obtain ⟨answer, seen, ⟨_, _, -, failed, -⟩ | ⟨response, _, rfl, made, rfl, brought⟩⟩ :=
        Grant.refresh_with_refreshToken kept.exchanger kept.clock none refresh (by simp)
      · cases failed
      · cases made
        refine .inr ⟨none, .ok response, ?_, by rw [written, counted, seen, reading]; rfl⟩
        have renewed := holds.renewed token
        rw [brought] at renewed
        rw [written, counted, seen, reading]
        simp only [Exchange.refreshToken?]
        split at renewed <;> simp_all

theorem Runs.holds (kept : provider.Kept ledger) (writable : provider.keyring.Writable)
    {made : Holding} {start world : σ}
    (first_holds : Holds clientId audience first made (ledger start).entries)
    (run : Runs provider ledger made start holding world) :
    ∃ sent, (ledger world).exchanges = (ledger start).exchanges ++ sent ∧
      Holds clientId audience (lastRefreshToken first sent) holding (ledger world).entries ∧
      Carried clientId first sent := by
  induction run with
  | start => exact ⟨[], by simp, first_holds, .nil⟩
  | token _ sound ih =>
    obtain ⟨sent, exchanges, holds, carried⟩ := ih
    rcases holds.token kept writable sound with ⟨holds, quiet⟩ | ⟨some_, answer, holds, asked⟩
    · exact ⟨sent, quiet.trans exchanges, holds, carried⟩
    · refine ⟨sent ++ [_], by rw [asked, exchanges, List.append_assoc], ?_,
        carried.concat some_ answer⟩
      rw [lastRefreshToken_concat]
      exact holds
  | invalidate _ _ ih =>
    obtain ⟨sent, exchanges, holds, carried⟩ := ih
    obtain ⟨holds, quiet⟩ := holds.invalidate kept writable
    exact ⟨sent, quiet.trans exchanges, holds, carried⟩
  | moved _ unseen ih =>
    rw [unseen]
    exact ih

theorem Holds.expired {world after : σ} {entries : Entries}
    (holds : Holds clientId audience "" holding entries)
    (miss : (Cache.token? provider.clock).ending holding.credential world =
      (.ok none, holding.credential, after)) :
    ∃ error, (provider.token.ending holding world).1 = .error (.error error) ∧
      error.kind = .grantExpired := by
  obtain ⟨held, live, none⟩ := holds.grant
  have gives := gives_token provider holding world
  generalize provider.token.ending holding world = ended at gives ⊢
  cases gives with
  | cached read | unread read =>
    rw [miss] at read
    cases read
  | unrenewed _ refresh =>
    rw [live] at refresh
    obtain ⟨expired, -⟩ := Grant.refresh_without_refreshToken none refresh
    cases expired
    exact ⟨_, rfl, rfl⟩
  | faulted _ refresh | renewed _ refresh =>
    rw [live] at refresh
    obtain ⟨expired, -⟩ := Grant.refresh_without_refreshToken none refresh
    cases expired

end TokenProvider

/-- The refresh token of a provider for a device's grant is the last that was issued, at every point
of a run: in the grant, in the cache and in the keyring. Every request carries the one of its time,
and without any nothing is asked, and what is not cached cannot be had without a login. -/
theorem Authenticator.refreshToken_continuity {a : Authenticator (StateM σ)} (kept : a.Kept ledger)
    (writable : a.keyring.Writable) {audience : String} {provision : Provision (StateM σ)}
    {stored : Credential} {first : Token} {origin start world : σ} {holding : TokenProvider.Holding}
    (found : (ledger origin).entries.credential? audience = some stored)
    (device : stored.grant.kind = .deviceCode) (token : stored.grant.token = some first)
    (provided : (a.tokenProvider audience).outcome origin = (.ok provision, start))
    (run : TokenProvider.Runs provision.provider ledger provision.holding start holding world) :
    ∃ sent, (ledger world).exchanges = (ledger origin).exchanges ++ sent ∧
      (∃ live, holding.grant = .deviceCode a.issuer.clientId audience live ∧
        live.refreshToken = lastRefreshToken first.refreshToken sent) ∧
      holding.credential.grant.token.map Token.refreshToken =
        some (lastRefreshToken first.refreshToken sent) ∧
      (∃ read, (ledger world).entries.credential? audience = some read ∧
        read.grant.token.map Token.refreshToken =
          some (lastRefreshToken first.refreshToken sent)) ∧
      (∀ before exchange after, sent = before ++ exchange :: after →
        exchange.1 = .refreshToken a.issuer.clientId (lastRefreshToken first.refreshToken before)) ∧
      (first.refreshToken = "" → sent = [] ∧
        ∀ after, (Cache.token? provision.provider.clock).ending holding.credential world =
            (.ok none, holding.credential, after) →
          ∃ error, (provision.provider.token.ending holding world).1 = .error (.error error) ∧
            error.kind = .grantExpired) := by
  obtain ⟨same, keeps, keyring, cached, saved, live⟩ := tokenProvider_ok kept provided
  rw [found, Option.some_inj] at cached
  rw [← cached, Grant.ofRecord, device, token] at live
  have made : TokenProvider.Holds a.issuer.clientId audience first.refreshToken provision.holding
      (ledger start).entries :=
    ⟨⟨first, (Except.ok.inj live).symm, rfl⟩, by rw [← cached, token]; rfl, by rw [same]; exact saved⟩
  obtain ⟨sent, exchanges, holds, carried⟩ := run.holds keeps (keyring ▸ writable) made
  refine ⟨sent, by rw [exchanges, same], holds.grant, holds.cached, ?_, carried.request, ?_⟩
  · obtain ⟨read, present, tokens⟩ := holds.saved.stored.token
    rw [holds.saved.saved_audience] at present
    have refresh (token : Option Token) :
        (token.map Token.normalized).map Token.refreshToken = token.map Token.refreshToken := by
      cases token <;> rfl
    refine ⟨read, present, ?_⟩
    rw [← refresh, tokens, refresh, holds.cached]
  · intro none
    have nothing := carried.none_sent none
    rw [nothing, lastRefreshToken_nil, none] at holds
    exact ⟨nothing, fun after miss => holds.expired miss⟩

namespace Desk

theorem tokenProvider_stocked (answers : List (Except Failure TokenResponse)) :
    ((authenticator { clientId := "client" } none).tokenProvider "audience").outcome
      (stocked answers) = (.ok provision, stocked answers) :=
  Authenticator.outcome_tokenProvider (load_stocked none answers) rfl rfl

/-- After an invalidation and a renewal whose answer rotates it, the grant, the cache and the keyring
hold the new refresh token. -/
theorem rotated_everywhere : ∃ holding world live kept,
    TokenProvider.Runs provision.provider Desk.ledger provision.holding (stocked [.ok rotation])
      holding world ∧
    holding.grant = .deviceCode "client" "audience" live ∧ live.refreshToken = "second" ∧
    holding.credential.grant.token.map Token.refreshToken = some "second" ∧
    world.ledger.entries.credential? "audience" = some kept ∧
    kept.grant.token.map Token.refreshToken = some "second" := by
  have run : TokenProvider.Runs provision.provider Desk.ledger provision.holding
      (stocked [.ok rotation]) _ _ := .token (.invalidate .start nofun) nofun
  obtain ⟨sent, exchanges, ⟨live, grant, renewed⟩, cached, ⟨kept, present, stored⟩, -⟩ :=
    Authenticator.refreshToken_continuity (a := authenticator { clientId := "client" } none)
      (kept_authenticator _ none) writable_keyring (credential?_stocked [.ok rotation]) rfl rfl
      (tokenProvider_stocked [.ok rotation]) run
  have once : sent = [(.refreshToken "client" "refresh", .ok rotation)] := exchanges.symm
  have last : lastRefreshToken "refresh" sent = "second" := by rw [once]; rfl
  exact ⟨_, _, live, kept, run, grant, renewed.trans last, cached.trans (congrArg some last),
    present, stored.trans (congrArg some last)⟩

end Desk
end GrantKeeper
