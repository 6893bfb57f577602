import GrantKeeper.Proofs.Credential.Cache
import GrantKeeper.Proofs.Grant.Renewal

/-! The ways in which a provider can give out a token or be told that one was not accepted. -/
namespace GrantKeeper

variable {σ : Type}

namespace TokenProvider

/-- How giving out a token may end, with what is held and the world then. -/
inductive Gives (provider : TokenProvider (StateM σ)) (holding : Holding) (world : σ) :
    Except Failure Token × Holding × σ → Prop
  | cached {token : Token} {after : σ} :
    (Cache.token? provider.clock).ending holding.credential world =
      (.ok (some token), holding.credential, after) →
    Gives provider holding world (.ok token, holding, after)
  | unread {failure : Failure} {after : σ} :
    (Cache.token? provider.clock).ending holding.credential world =
      (.error failure, holding.credential, after) →
    Gives provider holding world (.error failure, holding, after)
  | unrenewed {error : Error} {grant : Grant} {after last : σ} :
    (Cache.token? provider.clock).ending holding.credential world =
      (.ok none, holding.credential, after) →
    (Grant.refresh provider.exchanger provider.clock).ending holding.grant after =
      (.error (.error error), grant, last) →
    Gives provider holding world
      (.error (.error (.during "authentication failure" error)), { holding with grant },
        ((provider.count .refreshFailed).run last).2)
  | faulted {fault : Fault} {grant : Grant} {after last : σ} :
    (Cache.token? provider.clock).ending holding.credential world =
      (.ok none, holding.credential, after) →
    (Grant.refresh provider.exchanger provider.clock).ending holding.grant after =
      (.error (.fault fault), grant, last) →
    Gives provider holding world (.error (.fault fault), { holding with grant }, last)
  | renewed {token : Token} {grant : Grant} {after last end_ : σ} {credential : Credential}
    {result : Except Failure Unit} :
    (Cache.token? provider.clock).ending holding.credential world =
      (.ok none, holding.credential, after) →
    (Grant.refresh provider.exchanger provider.clock).ending holding.grant after =
      (.ok token, grant, last) →
    (Cache.update provider.keyring token).ending holding.credential
      ((provider.count .refreshed).run last).2 = (result, credential, end_) →
    Gives provider holding world
      ((result.mapError (Act.restated (.during "unable to update the token cache"))).map
        (fun _ => token), ⟨grant, credential⟩, end_)

theorem gives_token (provider : TokenProvider (StateM σ)) (holding : Holding) (world : σ) :
    Gives provider holding world (provider.token.ending holding world) := by
  have credential := Cache.credential_token? provider.clock holding.credential world
  rw [token, Act.ending_bind, onCredential, Act.ending_onPart]
  rcases read : (Cache.token? provider.clock).ending holding.credential world with
    ⟨failure | _ | token, same, after⟩ <;>
    rw [read] at credential <;> obtain rfl := credential
  · exact .unread read
  · simp only [Act.ending_bind, Act.ending_attempt, onGrant, Act.ending_onPart]
    rcases refresh : (Grant.refresh provider.exchanger provider.clock).ending holding.grant after
      with ⟨(error | fault) | token, grant, last⟩
    · exact .unrenewed read refresh
    · exact .faulted read refresh
    · simp only [counting, Act.ending_bind, Act.ending_lift, Act.during, Act.ending_mapError,
        onCredential, Act.ending_onPart]
      rcases update : (Cache.update provider.keyring token).ending holding.credential
        ((provider.count .refreshed).run last).2 with ⟨failure | _, credential, end_⟩
      · exact .renewed read refresh update
      · exact .renewed read refresh update
  · exact .cached read

/-- The credential that giving out a token writes, if it writes any: there is no usable token in the
cache, and a fresh one is obtained. -/
def renewed? (provider : TokenProvider (StateM σ)) (holding : Holding) (world : σ) :
    Option Credential :=
  match (Cache.token? provider.clock).ending holding.credential world with
  | (.ok none, _, read) =>
    match (Grant.refresh provider.exchanger provider.clock).ending holding.grant read with
    | (.ok token, _, _) => some (Cache.withToken holding.credential token)
    | (.error _, _, _) => none
  | _ => none

/-- The credential that an invalidation writes, if it writes any: there is an access token. -/
def cleared? (holding : Holding) : Option Credential :=
  (Cache.cleared? holding.credential).map fun token =>
    Cache.withToken holding.credential token.invalidated

theorem held_token (provider : TokenProvider (StateM σ)) (holding : Holding) (world : σ) :
    (provider.renewed? holding world = none ∧
        (provider.token.ending holding world).2.1 = holding) ∨
      ∃ token, token.tokenType = "bearer" ∧
        provider.renewed? holding world = some (Cache.withToken holding.credential token) ∧
        (provider.token.ending holding world).2.1 =
          ⟨holding.grant.withToken token, Cache.withToken holding.credential token⟩ := by
  have gives := gives_token provider holding world
  generalize provider.token.ending holding world = ended at gives ⊢
  cases gives with
  | cached read | unread read => exact .inl ⟨by simp only [renewed?, read], rfl⟩
  | @unrenewed _ _ after _ read refresh | @faulted _ _ after _ read refresh =>
    have kept := Grant.grant_refresh provider.exchanger provider.clock holding.grant after
    rw [refresh] at kept
    exact .inl ⟨by simp only [renewed?, read, refresh], by rw [kept]⟩
  | @renewed token _ after _ _ _ _ read refresh update =>
    have changed := Grant.grant_refresh provider.exchanger provider.clock holding.grant after
    rw [refresh] at changed
    obtain ⟨rfl, bearer⟩ := changed
    rw [Cache.ending_update, Cache.ending_persist] at update
    cases update
    exact .inr ⟨token, bearer, by simp only [renewed?, read, refresh], rfl⟩

variable {provider : TokenProvider (StateM σ)} {ledger : σ → Ledger}

theorem credential_token (provider : TokenProvider (StateM σ)) (holding : Holding) (world : σ) :
    (provider.token.ending holding world).2.1.credential =
      (provider.renewed? holding world).getD holding.credential := by
  rcases held_token provider holding world with ⟨nothing, held⟩ | ⟨token, -, writes, held⟩
  · rw [nothing, held, Option.getD_none]
  · rw [writes, held, Option.getD_some]

/-- Giving out a token changes the keyring by what it writes, and by nothing else. -/
theorem entries_token (kept : provider.Kept ledger) (writable : provider.keyring.Writable)
    (holding : Holding) (world : σ) :
    (ledger (provider.token.ending holding world).2.2).entries =
      (ledger world).entries.withWritten (provider.renewed? holding world) := by
  have reading := Cache.ledger_token? kept.clock holding.credential world
  have gives := gives_token provider holding world
  generalize provider.token.ending holding world = ended at gives ⊢
  cases gives with
  | cached read | unread read =>
    rw [read] at reading
    simp only [renewed?, read, reading, Entries.withWritten]
  | @unrenewed _ _ after last read refresh =>
    rw [read] at reading
    have entries := Grant.entries_refresh kept.exchanger kept.clock holding.grant after
    rw [refresh, reading] at entries
    simp only [renewed?, read, refresh, kept.count .refreshFailed last]
    exact entries
  | @faulted _ _ after last read refresh =>
    rw [read] at reading
    have entries := Grant.entries_refresh kept.exchanger kept.clock holding.grant after
    rw [refresh, reading] at entries
    simp only [renewed?, read, refresh]
    exact entries
  | @renewed token _ after last _ _ _ read refresh update =>
    rw [read] at reading
    have entries := Grant.entries_refresh kept.exchanger kept.clock holding.grant after
    rw [refresh, reading] at entries
    obtain ⟨_, wrote, written⟩ := Cache.persist_ok kept.keyring writable
      (Cache.withToken holding.credential token) ((provider.count .refreshed).run last).2
    rw [Cache.ending_update, wrote] at update
    cases update
    simp only [renewed?, read, refresh, written, kept.count .refreshed last,
      Ledger.withItem_entries, entries, Entries.withWritten]

theorem ending_invalidate (provider : TokenProvider (StateM σ)) (holding : Holding) (world : σ) :
    provider.invalidate.ending holding world =
      let ended := (Cache.invalidate provider.keyring).ending holding.credential
        ((provider.count .invalidated).run world).2
      (ended.1, { holding with credential := ended.2.1 }, ended.2.2) := by
  rw [invalidate, counting, Act.ending_bind, Act.ending_lift]
  rfl

theorem held_invalidate (provider : TokenProvider (StateM σ)) (holding : Holding) (world : σ) :
    (cleared? holding = none ∧ (provider.invalidate.ending holding world).2.1 = holding) ∨
      ∃ token, holding.credential.grant.token = some token ∧
        cleared? holding = some (Cache.withToken holding.credential token.invalidated) ∧
        (provider.invalidate.ending holding world).2.1 =
          { holding with credential := Cache.withToken holding.credential token.invalidated } := by
  rw [ending_invalidate, Cache.ending_invalidate, cleared?]
  cases cleared : Cache.cleared? holding.credential with
  | none => exact .inl ⟨rfl, rfl⟩
  | some token =>
    obtain ⟨present, -⟩ := Option.filter_eq_some_iff.mp cleared
    exact .inr ⟨token, present, rfl, by simp only [Cache.ending_persist]⟩

theorem credential_invalidate (provider : TokenProvider (StateM σ)) (holding : Holding) (world : σ) :
    (provider.invalidate.ending holding world).2.1.credential =
      (cleared? holding).getD holding.credential := by
  rcases held_invalidate provider holding world with ⟨nothing, held⟩ | ⟨token, -, writes, held⟩
  · rw [nothing, held, Option.getD_none]
  · rw [writes, held, Option.getD_some]

theorem entries_invalidate (kept : provider.Kept ledger) (writable : provider.keyring.Writable)
    (holding : Holding) (world : σ) :
    (ledger (provider.invalidate.ending holding world).2.2).entries =
      (ledger world).entries.withWritten (cleared? holding) := by
  have counted := kept.count .invalidated world
  rw [ending_invalidate, Cache.ending_invalidate, cleared?]
  cases cleared : Cache.cleared? holding.credential with
  | none => simp only [counted, Option.map_none, Entries.withWritten]
  | some token =>
    obtain ⟨_, wrote, written⟩ := Cache.persist_ok kept.keyring writable
      (Cache.withToken holding.credential token.invalidated)
      ((provider.count .invalidated).run world).2
    simp only [wrote, written, counted, Option.map_some, Entries.withWritten,
      Ledger.withItem_entries]

theorem audience_renewed? {holding : Holding} {world : σ} {written : Credential}
    (writes : provider.renewed? holding world = some written) :
    written.audience = holding.credential.audience := by
  unfold renewed? at writes
  split at writes
  · split at writes
    · cases writes; rfl
    · cases writes
  · cases writes

theorem audience_cleared? {holding : Holding} {written : Credential}
    (writes : cleared? holding = some written) :
    written.audience = holding.credential.audience := by
  obtain ⟨token, -, rfl⟩ := Option.map_eq_some_iff.mp writes
  rfl

end TokenProvider

namespace Desk

def rotation : TokenResponse :=
  { accessToken := "fresh", refreshToken := "second", expiresIn := 3600 }

def provision : Provision (StateM Desk) :=
  ⟨⟨keyring none, exchanger, clock, fun _ => pure ()⟩,
    ⟨.deviceCode "client" "audience" ⟨"access", "bearer", "refresh", none⟩, sample⟩⟩

theorem kept_provider : provision.provider.Kept Desk.ledger where
  keyring := kept_keyring none
  exchanger := kept_exchanger
  clock := unseen_clock
  count _ _ := rfl

end Desk
end GrantKeeper
