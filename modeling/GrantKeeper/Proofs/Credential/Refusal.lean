import GrantKeeper.Proofs.Credential.Provider
import GrantKeeper.Proofs.Discipline.Programs

/-! A provider that is refused a fresh token. It is left as it was, and can be asked again, as if it had
not been asked before. -/
namespace GrantKeeper

open Discipline

variable {σ κ : Type}

namespace Grant

/-- A grant is refused a token: it is a device's that has no refresh token, or what it asks is answered
with an error. -/
inductive Refused (exchanger : Exchanger (StateM σ)) (grant : Grant) (world : σ) : Error → σ → Prop
  | expired {clientId audience : String} {token : Token}
    (device : grant = .deviceCode clientId audience token) (without : token.refreshToken = "") :
    Refused exchanger grant world .grantExpired world
  | denied {request : ExchangeRequest} {error : Error} {after : σ}
    (asked : grant.renewal = .ok request)
    (answered : (exchanger.exchange request).outcome world = (.error (.error error), after)) :
    Refused exchanger grant world error after

theorem kind_restate (grant : Grant) (error : Error) : (grant.restate error).kind = error.kind := by
  cases grant <;> rfl

theorem Refused.ending {exchanger : Exchanger (StateM σ)} {grant : Grant} {world after : σ}
    {error : Error} (refused : Refused exchanger grant world error after) (clock : StateM σ Instant) :
    (refresh exchanger clock).ending grant world =
      (.error (.error (grant.restate error)), grant, after) := by
  rw [refresh, Act.ending_bind, Act.ending_get]
  cases refused with
  | @expired clientId audience token device without =>
    subst device
    simp only [Act.ending_bind, Act.ending_ofExcept, renewal_deviceCode, if_pos without]
    rfl
  | denied asked answered =>
    simp only [Act.ending_bind, Act.ending_ofExcept, asked, Act.except_mapError_ok, Act.ending_hoist,
      Act.outcome_mapError, answered]
    rfl

end Grant

namespace TokenProvider

variable {provider : TokenProvider (StateM σ)} {holding : Holding} {world read last : σ}
  {underlying : Error}

theorem ending_token_of_refused
    (missed : (Cache.token? provider.clock).ending holding.credential world =
      (.ok none, holding.credential, read))
    (refused : holding.grant.Refused provider.exchanger read underlying last) :
    provider.token.ending holding world =
      (.error (.error (.during "authentication failure" (holding.grant.restate underlying))), holding,
        ((provider.count .refreshFailed).run last).2) := by
  have gives := gives_token provider holding world
  have ended := refused.ending provider.clock
  generalize provider.token.ending holding world = result at gives ⊢
  cases gives with
  | cached found | unread found => cases missed.symm.trans found
  | unrenewed found failed =>
    cases missed.symm.trans found
    cases ended.symm.trans failed
    rfl
  | faulted found failed | renewed found failed =>
    cases missed.symm.trans found
    cases ended.symm.trans failed

/-- What a provider's parts leave as it is, but for its keyring, a refusal leaves as it is. -/
theorem look_of_refused {look : σ → κ} (quiet : provider.Within (preserving (fun _ => True) look))
    (missed : (Cache.token? provider.clock).ending holding.credential world =
      (.ok none, holding.credential, read))
    (refused : holding.grant.Refused provider.exchanger read underlying last) :
    look ((provider.count .refreshFailed).run last).2 = look world := by
  have reading : look read = look world := by
    have reads : ((preserving (fun _ => True) look).holding fun _ => True).Permits
        (Cache.token? provider.clock) := Cache.permits_token? quiet.clock
    obtain ⟨-, -, same⟩ := reads holding.credential trivial world trivial
    rw [Act.run_of_ending missed] at same
    exact same
  have answering : look last = look read := by
    cases refused with
    | expired => rfl
    | @denied request _ _ _ answered =>
      obtain ⟨-, -, same⟩ := quiet.exchanger request read trivial
      have ran : (provider.exchanger.exchange request).run.run read =
          (.error (.error underlying), last) := answered
      rwa [ran] at same
  obtain ⟨-, -, counting⟩ := quiet.count .refreshFailed last trivial
  exact counting.trans (answering.trans reading)

theorem Kept.within_entries {ledger : σ → Ledger} (kept : provider.Kept ledger) :
    provider.Within (preserving (fun _ => True) fun world => (ledger world).entries) where
  exchanger request world _ := by
    have grown := congrArg Ledger.entries (kept.exchanger request world)
    exact ⟨fun _ _ => trivial, trivial, grown⟩
  clock world _ := ⟨trivial, trivial, congrArg Ledger.entries (kept.clock world)⟩
  count event world _ := ⟨trivial, trivial, congrArg Ledger.entries (kept.count event world)⟩

/-! Two worlds that look alike. -/

/-- What a provider's parts may see of a world: the entries of its keyring, and something more. -/
def shown (ledger : σ → Ledger) (more : σ → κ) (world : σ) : Entries × κ :=
  ((ledger world).entries, more world)

/-- Two worlds look alike, and since some earlier exchanges there have been the same in both. -/
def Alike (ledger : σ → Ledger) (more : σ → κ) (first second : List Exchange) (a b : σ) : Prop :=
  shown ledger more a = shown ledger more b ∧
    ∃ sent, (ledger a).exchanges = first ++ sent ∧ (ledger b).exchanges = second ++ sent

section
variable {ledger : σ → Ledger} {more : σ → κ} {first second : List Exchange} {α : Type}

theorem allows_alike {effect : StateM σ α} (sees : (seeing (shown ledger more)).Allows effect)
    (exchanged : α → List Exchange)
    (adds : ∀ world, (ledger (effect.run world).2).exchanges =
      (ledger world).exchanges ++ exchanged (effect.run world).1) :
    (relating (Alike ledger more first second)).Allows effect := by
  rintro a b ⟨same, sent, here, there⟩
  obtain ⟨value, -, looks⟩ := sees a b same
  refine ⟨value, trivial, looks, sent ++ exchanged (effect.run a).1, ?_, ?_⟩
  · rw [adds, here, List.append_assoc]
  · rw [adds, there, value, List.append_assoc]

theorem Kept.within_alike (kept : provider.Kept ledger)
    (sees : provider.Within (seeing (shown ledger more))) :
    provider.Within (relating (Alike ledger more first second)) where
  exchanger request :=
    (allows_alike (sees.exchanger request).allows (fun answer => [(request, answer)]) fun world =>
      congrArg Ledger.exchanges (kept.exchanger request world)).mono fun _ _ _ _ => trivial
  clock := allows_alike sees.clock (fun _ => []) fun world => by
    rw [kept.clock, List.append_nil]
  count event := allows_alike (sees.count event) (fun _ => []) fun world => by
    rw [kept.count, List.append_nil]

theorem Kept.writes_alike (kept : provider.Kept ledger)
    (sees : ∀ item, (seeing (shown ledger more)).Permits (provider.keyring.set item)) :
    Credential.Writes (fun _ => True) provider.keyring
      (relating (Alike ledger more first second)) where
  set credential _ :=
    (allows_alike (sees credential.item).allows (fun _ => []) fun world => by
      rw [List.append_nil]
      exact kept.keyring.exchanges_set credential.item world).mono fun _ _ _ _ => trivial
  withToken _ _ _ := trivial

/-- In worlds that look alike, giving out a token ends alike, after the same exchanges. -/
theorem token_of_shown (kept : provider.Kept ledger)
    (sees : provider.Within (seeing (shown ledger more)))
    (writes : ∀ item, (seeing (shown ledger more)).Permits (provider.keyring.set item))
    (holding : Holding) {a b : σ} (same : shown ledger more a = shown ledger more b) :
    (provider.token.ending holding a).1 = (provider.token.ending holding b).1 ∧
      (provider.token.ending holding a).2.1 = (provider.token.ending holding b).2.1 ∧
      Alike ledger more (ledger a).exchanges (ledger b).exchanges
        (provider.token.ending holding a).2.2 (provider.token.ending holding b).2.2 := by
  have permits : ((relating (Alike ledger more (ledger a).exchanges (ledger b).exchanges)).holding
      fun _ => True).Permits provider.token :=
    permits_token (kept.within_alike sees) (kept.writes_alike writes)
  obtain ⟨ended, -, alike⟩ := permits holding trivial a b
    ⟨same, [], (List.append_nil _).symm, (List.append_nil _).symm⟩
  have result := congrArg Prod.fst ended
  have held := congrArg Prod.snd ended
  exact ⟨result, held, alike⟩

end

/-- A provider that is refused a token is left as it was: what it holds and what its keyring holds stay,
its keyring is not even asked, and the error is of the kind of the reason. Asked again with an exchanger
that works, it does what it would have done at once: it gives the same result after the same exchanges,
and holds and leaves the same. -/
theorem refused_token_changes_nothing {ledger : σ → Ledger} (kept : provider.Kept ledger)
    (missed : (Cache.token? provider.clock).ending holding.credential world =
      (.ok none, holding.credential, read))
    (refused : holding.grant.Refused provider.exchanger read underlying last) :
    ∃ error after,
      provider.token.ending holding world = (.error (.error error), holding, after) ∧
      error.kind = underlying.kind ∧
      (ledger after).entries = (ledger world).entries ∧
      (∀ keyring, ({ provider with keyring } : TokenProvider (StateM σ)).token.ending holding world =
        (.error (.error error), holding, after)) ∧
      ∀ (κ : Type) (more : σ → κ) (working : TokenProvider (StateM σ)),
        (∃ exchanger, working = { provider with exchanger }) → working.Kept ledger →
        provider.Within (preserving (fun _ => True) more) →
        working.Within (seeing (shown ledger more)) →
        (∀ item, (seeing (shown ledger more)).Permits (provider.keyring.set item)) →
        (working.token.ending holding after).1 = (working.token.ending holding world).1 ∧
        (working.token.ending holding after).2.1 = (working.token.ending holding world).2.1 ∧
        Alike ledger more (ledger after).exchanges (ledger world).exchanges
          (working.token.ending holding after).2.2 (working.token.ending holding world).2.2 := by
  have entries := look_of_refused kept.within_entries missed refused
  refine ⟨.during "authentication failure" (holding.grant.restate underlying), _,
    ending_token_of_refused missed refused, holding.grant.kind_restate underlying, entries,
    fun keyring => ending_token_of_refused missed refused, ?_⟩
  rintro κ more _ ⟨exchanger, rfl⟩ keeps quiet sees writes
  refine token_of_shown keeps sees writes holding ?_
  exact Prod.ext entries (look_of_refused quiet missed refused)

end TokenProvider

namespace Desk

/-- The exchanger of a desk while its authorization server cannot be reached. -/
def outage : Exchanger (StateM Desk) where
  exchange request := ExceptT.mk do
    let answer := .error (.error (.http "unreachable"))
    modify fun desk => { desk with ledger := desk.ledger.withExchange (request, answer) }
    return answer

def disconnected : TokenProvider (StateM Desk) := { provision.provider with exchanger := outage }

/-- A device's token that was invalidated, and can be renewed. -/
def lapsed : TokenProvider.Holding where
  grant := .deviceCode "client" "audience" { refreshToken := "refresh" }
  credential := Cache.withToken sample { refreshToken := "refresh" }

theorem eq_of_shown {a b : Desk}
    (same : TokenProvider.shown Desk.ledger (fun desk => (desk.now, desk.answers)) a =
      TokenProvider.shown Desk.ledger (fun desk => (desk.now, desk.answers)) b) :
    b = { a with ledger := { a.ledger with exchanges := b.ledger.exchanges } } := by
  obtain ⟨⟨_, _⟩, _, _⟩ := b
  cases same
  rfl

theorem sees_provider : provision.provider.Within
    (seeing (TokenProvider.shown Desk.ledger fun desk => (desk.now, desk.answers))) where
  exchanger request a b same := by
    rw [eq_of_shown same]
    exact ⟨rfl, fun _ _ => trivial, rfl⟩
  clock a b same := by
    rw [eq_of_shown same]
    exact ⟨rfl, trivial, rfl⟩
  count _ _ _ same := ⟨rfl, trivial, same⟩

theorem sees_set (item : KeyringItem) :
    (seeing (TokenProvider.shown Desk.ledger fun desk => (desk.now, desk.answers))).Permits
      (provision.provider.keyring.set item) := by
  intro a b same
  rw [eq_of_shown same]
  exact ⟨rfl, fun _ _ => trivial, rfl⟩

/-- During an outage there is no token; after it there is one, as if nothing had been. -/
theorem token_after_outage :
    (Cache.token? disconnected.clock).ending lapsed.credential (stocked [.ok rotation]) =
        (.ok none, lapsed.credential, stocked [.ok rotation]) ∧
      ∃ last, lapsed.grant.Refused disconnected.exchanger (stocked [.ok rotation])
          (.http "unreachable") last ∧
        ∃ error after,
          disconnected.token.ending lapsed (stocked [.ok rotation]) =
            (.error (.error error), lapsed, after) ∧
          error.kind = .exchangeFailure ∧
          (provision.provider.token.ending lapsed after).1.map Token.accessToken = .ok "fresh" := by
  have missed : (Cache.token? disconnected.clock).ending lapsed.credential (stocked [.ok rotation]) =
      (.ok none, lapsed.credential, stocked [.ok rotation]) := by rfl
  have refused : lapsed.grant.Refused disconnected.exchanger (stocked [.ok rotation])
      (.http "unreachable") _ := .denied rfl rfl
  have kept : disconnected.Kept Desk.ledger := { kept_provider with exchanger := fun _ _ => rfl }
  obtain ⟨error, after, ended, kind, -, -, again⟩ :=
    TokenProvider.refused_token_changes_nothing kept missed refused
  have quiet : disconnected.Within
      (preserving (fun _ => True) fun desk => (desk.now, desk.answers)) :=
    ⟨fun _ _ _ => ⟨fun _ _ => trivial, trivial, rfl⟩, fun _ _ => ⟨trivial, trivial, rfl⟩,
      fun _ _ _ => ⟨trivial, trivial, rfl⟩⟩
  obtain ⟨result, -, -⟩ := again _ (fun desk => (desk.now, desk.answers)) provision.provider
    ⟨exchanger, rfl⟩ kept_provider quiet sees_provider sees_set
  refine ⟨missed, _, refused, error, after, ended, kind, ?_⟩
  rw [result]
  rfl

end Desk
end GrantKeeper
