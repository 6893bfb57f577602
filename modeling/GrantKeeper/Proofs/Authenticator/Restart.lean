import GrantKeeper.Proofs.Authenticator.Continuity

/-! Restarts. Of what a provider holds, some is never looked at, and the rest can be read from the
keyring at any time. So a provider that is made from the keyring cannot be told from one that has
been in use. -/
namespace GrantKeeper

variable {σ : Type} {ledger : σ → Ledger}

namespace TokenProvider

/-! What a provider looks at. -/

/-- What of a holding is ever looked at. -/
def Holding.bare (holding : Holding) : Holding := { holding with grant := holding.grant.bare }

theorem Holding.bare_inj {a b : Holding} :
    a.bare = b.bare ↔ a.grant.bare = b.grant.bare ∧ a.credential = b.credential := by
  simp only [Holding.bare, Holding.mk.injEq]

theorem seesOnly_onGrant {act : Act (StateT Grant (StateM σ)) α} (sees : act.SeesOnly Grant.bare) :
    (onGrant act).SeesOnly Holding.bare := by
  apply sees.onPart
  · intro a b same
    exact (Holding.bare_inj.mp same).1
  · intro a b _ _ same looks
    exact Holding.bare_inj.mpr ⟨looks, (Holding.bare_inj.mp same).2⟩

theorem seesOnly_onCredential (act : Act (StateT Credential (StateM σ)) α) :
    (onCredential act).SeesOnly Holding.bare := by
  apply act.seesOnly_all.onPart
  · intro a b same
    exact (Holding.bare_inj.mp same).2
  · intro a b _ _ same looks
    exact Holding.bare_inj.mpr ⟨(Holding.bare_inj.mp same).1, looks⟩

theorem seesOnly_token (provider : TokenProvider (StateM σ)) :
    provider.token.SeesOnly Holding.bare := by
  apply (seesOnly_onCredential _).bind
  intro cached
  cases cached with
  | some token => exact Act.seesOnly_pure token
  | none =>
    apply (seesOnly_onGrant (Grant.seesOnly_refresh _ _)).attempt.bind
    intro renewed
    cases renewed with
    | error error =>
      apply (Act.seesOnly_lift _).bind
      intro _
      exact Act.seesOnly_fail _
    | ok token =>
      apply (Act.seesOnly_lift _).bind
      intro _
      apply ((seesOnly_onCredential _).mapError _).bind
      intro _
      exact Act.seesOnly_pure token

theorem seesOnly_invalidate (provider : TokenProvider (StateM σ)) :
    provider.invalidate.SeesOnly Holding.bare := by
  apply (Act.seesOnly_lift _).bind
  intro _
  exact seesOnly_onCredential _

inductive Operation (σ : Type)
  | token
  | invalidate
  /-- Time passes, or the authorization server changes its mind. -/
  | pass (change : σ → σ)

namespace Operation

/-- An operation, which answers with a token only if one was asked for. -/
def act (provider : TokenProvider (StateM σ)) :
    Operation σ → Act (StateT Holding (StateM σ)) (Option Token)
  | token => do return some (← provider.token)
  | invalidate => do
    provider.invalidate
    return none
  | pass change => do
    Act.step (StateT.lift (modify change))
    return none

theorem seesOnly_act (provider : TokenProvider (StateM σ)) (operation : Operation σ) :
    (operation.act provider).SeesOnly Holding.bare := by
  cases operation with
  | token =>
    apply provider.seesOnly_token.bind
    intro token
    exact Act.seesOnly_pure (some token)
  | invalidate =>
    apply provider.seesOnly_invalidate.bind
    intro _
    exact Act.seesOnly_pure none
  | pass change =>
    apply (Act.seesOnly_lift _).bind
    intro _
    exact Act.seesOnly_pure none

end Operation

/-- The results of operations, one after the other, and what is held and the world in the end. -/
def follow (provider : TokenProvider (StateM σ)) :
    List (Operation σ) → Holding → σ → List (Except Failure (Option Token)) × Holding × σ
  | [], holding, world => ([], holding, world)
  | operation :: rest, holding, world =>
    let ended := (operation.act provider).ending holding world
    let later := follow provider rest ended.2.1 ended.2.2
    (ended.1 :: later.1, later.2)

theorem follow_eq_of_bare (provider : TokenProvider (StateM σ)) (operations : List (Operation σ))
    {holding other : Holding} (same : holding.bare = other.bare) (world : σ) :
    (provider.follow operations holding world).1 = (provider.follow operations other world).1 ∧
      (provider.follow operations holding world).2.2 =
        (provider.follow operations other world).2.2 := by
  induction operations generalizing holding other world with
  | nil => exact ⟨rfl, rfl⟩
  | cons operation rest ih =>
    obtain ⟨result, looks, worlds⟩ := operation.seesOnly_act provider holding other world same
    obtain ⟨results, ends⟩ := ih looks ((operation.act provider).ending holding world).2.2
    simp only [follow, ← worlds, result, results, ends, and_self]

/-! What a provider stores. -/

namespace Operation

theorem ending_token (provider : TokenProvider (StateM σ)) (holding : Holding) (world : σ) :
    ((token.act provider).ending holding world).2 = (provider.token.ending holding world).2 := by
  rw [act, Act.ending_bind]
  rcases provider.token.ending holding world with ⟨_ | _, _⟩ <;> rfl

theorem ending_invalidate (provider : TokenProvider (StateM σ)) (holding : Holding) (world : σ) :
    ((invalidate.act provider).ending holding world).2 =
      (provider.invalidate.ending holding world).2 := by
  rw [act, Act.ending_bind]
  rcases provider.invalidate.ending holding world with ⟨_ | _, _⟩ <;> rfl

/-- What a run may do: it obtains no token that expires in the first second of year one or before,
which would be read back as something else, and nothing that happens around it is seen. -/
def Allowed (provider : TokenProvider (StateM σ)) (ledger : σ → Ledger) (holding : Holding)
    (world : σ) : Operation σ → Prop
  | token => ∀ written token, provider.renewed? holding world = some written →
    written.grant.token = some token → token.Dated
  | invalidate => True
  | pass change => ledger (change world) = ledger world

end Operation

inductive Reaches (provider : TokenProvider (StateM σ)) (ledger : σ → Ledger) (first : Holding)
    (start : σ) : Holding → σ → Prop
  | start : Reaches provider ledger first start first start
  | operation {holding : Holding} {world : σ} (operation : Operation σ) :
    Reaches provider ledger first start holding world →
    operation.Allowed provider ledger holding world →
    Reaches provider ledger first start ((operation.act provider).ending holding world).2.1
      ((operation.act provider).ending holding world).2.2

variable {provider : TokenProvider (StateM σ)} {holding : Holding} {world : σ}

/-- The credential that is held is stored as it is, and the grant looks like the one made of it. -/
structure Mirrors (issuer : Issuer) (audience : String) (holding : Holding) (entries : Entries) :
    Prop where
  stored : entries.credential? audience = some holding.credential
  about : holding.credential.audience = audience
  usable : holding.credential.grant.isUsable
  unchanged : ∀ token, holding.credential.grant.token = some token → token.normalized = token
  live : ∃ grant, Grant.ofRecord issuer audience holding.credential.grant = .ok grant ∧
    grant.bare = holding.grant.bare

variable {issuer : Issuer} {audience : String} {entries : Entries}

/-- What is written is mirrored if storing leaves its token as it is, and the grant looks like it. -/
theorem Mirrors.written (mirrors : Mirrors issuer audience holding entries) {made grant : Grant}
    {token : Token} (unchanged : token.normalized = token)
    (ofRecord : Grant.ofRecord issuer audience holding.credential.grant = .ok made)
    (looks : (made.withToken token).bare = grant.bare) :
    Mirrors issuer audience ⟨grant, Cache.withToken holding.credential token⟩
      (entries.withItem (Cache.withToken holding.credential token).item) := by
  have usable := Cache.isUsable_withToken mirrors.usable token
  refine ⟨?_, mirrors.about, usable, ?_, _, Grant.ofRecord_withToken ofRecord token, looks⟩
  · have found := Credential.credential?_withItem usable entries
    have same : (Cache.withToken holding.credential token).normalized =
        Cache.withToken holding.credential token := by
      simp only [Credential.normalized, GrantRecord.normalized, Cache.withToken, Option.map_some,
        unchanged]
    rwa [same, Cache.withToken_audience, mirrors.about] at found
  · intro held present
    cases present
    exact unchanged

theorem Mirrors.token (kept : provider.Kept ledger) (writable : provider.keyring.Writable)
    (mirrors : Mirrors issuer audience holding (ledger world).entries)
    (allowed : Operation.token.Allowed provider ledger holding world) :
    Mirrors issuer audience (provider.token.ending holding world).2.1
      (ledger (provider.token.ending holding world).2.2).entries := by
  rw [entries_token kept writable]
  rcases held_token provider holding world with ⟨nothing, held⟩ | ⟨token, bearer, writes, held⟩
  · rw [nothing, held]
    exact mirrors
  · rw [writes, held]
    obtain ⟨made, ofRecord, looks⟩ := mirrors.live
    have unchanged : token.normalized = token :=
      token.normalized_eq_self_iff.mpr ⟨by simp [bearer], allowed _ token writes rfl⟩
    exact mirrors.written unchanged ofRecord (Grant.bare_withToken looks token)

theorem Mirrors.invalidate (kept : provider.Kept ledger) (writable : provider.keyring.Writable)
    (mirrors : Mirrors issuer audience holding (ledger world).entries) :
    Mirrors issuer audience (provider.invalidate.ending holding world).2.1
      (ledger (provider.invalidate.ending holding world).2.2).entries := by
  rw [entries_invalidate kept writable]
  rcases held_invalidate provider holding world with ⟨nothing, held⟩ | ⟨token, present, writes, held⟩
  · rw [nothing, held]
    exact mirrors
  · rw [writes, held]
    obtain ⟨made, ofRecord, looks⟩ := mirrors.live
    have unchanged : token.invalidated.normalized = token.invalidated :=
      congrArg Token.invalidated (mirrors.unchanged token present)
    -- The grant keeps its access token, at which nobody looks.
    exact mirrors.written unchanged ofRecord
      ((Grant.bare_withToken_invalidated ofRecord present).trans looks)

/-- What is held is mirrored in the keyring at every point of a run. -/
theorem Reaches.mirrors (kept : provider.Kept ledger) (writable : provider.keyring.Writable)
    {first : Holding} {start : σ} (made : Mirrors issuer audience first (ledger start).entries)
    (run : Reaches provider ledger first start holding world) :
    Mirrors issuer audience holding (ledger world).entries := by
  induction run with
  | start => exact made
  | operation operation _ allowed mirrors =>
    cases operation with
    | token =>
      rw [Operation.ending_token]
      exact mirrors.token kept writable allowed
    | invalidate =>
      rw [Operation.ending_invalidate]
      exact mirrors.invalidate kept writable
    | pass change =>
      have unseen := congrArg Ledger.entries allowed
      rw [← unseen] at mirrors
      exact mirrors

theorem mirrors_stored {credential : Credential} {grant : Grant}
    (found : entries.credential? audience = some credential)
    (typed : ∀ token, credential.grant.token = some token → token.tokenType ≠ "")
    (ofRecord : Grant.ofRecord issuer audience credential.grant = .ok grant) :
    Mirrors issuer audience ⟨grant, credential⟩ entries := by
  obtain ⟨item, -, read⟩ := Credential.credential?_eq_some found
  obtain ⟨about, usable⟩ := Credential.ofItem_audience read
  refine ⟨found, about, usable, ?_, grant, ofRecord, rfl⟩
  intro token present
  exact token.normalized_eq_self_iff.mpr
    ⟨typed token present, Credential.dated_of_credential? found present⟩

end TokenProvider

namespace Authenticator

variable {a : Authenticator (StateM σ)} {exchanger : Exchanger (StateM σ)} {audience : String}
  {item : Option KeyringItem} {world read : σ}

theorem tokenProvider_of_credential? (kept : a.Kept ledger) (injected : a.exchanger = some exchanger)
    {credential : Credential} {grant : Grant}
    (found : (ledger world).entries.credential? audience = some credential)
    (ofRecord : Grant.ofRecord a.issuer audience credential.grant = .ok grant)
    (readable : (a.keyring.get (Credential.keyOf audience)).outcome world = (.ok item, read)) :
    (a.tokenProvider audience).outcome world =
      (.ok ⟨⟨a.keyring, exchanger, a.machine.clock, a.count⟩, ⟨grant, credential⟩⟩, read) := by
  have search : a.findExchanger.outcome read = (.ok exchanger, read) := by
    rw [findExchanger, injected]
    rfl
  exact outcome_tokenProvider (Credential.load_of_credential? kept.keyring readable found) search
    ofRecord

/-- A provider that has been in use cannot be told from one that is made of what is stored then. At
every point of a run, a new one can be made, without a trace, and after that the same operations
have the same results with either, in the same worlds, whatever the authorization server, the clock
and the keyring do. -/
theorem restart_transparent (kept : a.Kept ledger) (writable : a.keyring.Writable)
    (injected : a.exchanger = some exchanger) {stored : Credential} {origin start : σ}
    (found : (ledger origin).entries.credential? audience = some stored)
    (typed : ∀ token, stored.grant.token = some token → token.tokenType ≠ "")
    (readable : (a.keyring.get (Credential.keyOf audience)).outcome origin = (.ok item, start)) :
    ∃ provision, (a.tokenProvider audience).outcome origin = (.ok provision, start) ∧
      ∀ holding world,
        TokenProvider.Reaches provision.provider ledger provision.holding start holding world →
        ∀ item read,
          (a.keyring.get (Credential.keyOf audience)).outcome world = (.ok item, read) →
          ∃ fresh, (a.tokenProvider audience).outcome world = (.ok fresh, read) ∧
            ledger read = ledger world ∧
            ∀ operations,
              (fresh.provider.follow operations fresh.holding read).1 =
                (provision.provider.follow operations holding read).1 ∧
              (fresh.provider.follow operations fresh.holding read).2.2 =
                (provision.provider.follow operations holding read).2.2 := by
  obtain ⟨_, -, data⟩ := Credential.credential?_eq_some found
  obtain ⟨grant, ofRecord⟩ :=
    Grant.exists_ofRecord a.issuer audience (Credential.ofItem_audience data).2
  have provided := tokenProvider_of_credential? kept injected found ofRecord readable
  obtain ⟨same, keeps, -⟩ := tokenProvider_ok kept provided
  refine ⟨_, provided, ?_⟩
  intro holding world run item read again
  have made : TokenProvider.Mirrors a.issuer audience ⟨grant, stored⟩ (ledger start).entries := by
    rw [same]
    exact TokenProvider.mirrors_stored found typed ofRecord
  have mirrors := run.mirrors keeps writable made
  obtain ⟨live, ofRecord, looks⟩ := mirrors.live
  have fresh := tokenProvider_of_credential? kept injected mirrors.stored ofRecord again
  have unseen := kept.keyring.get (Credential.keyOf audience) world
  rw [again] at unseen
  have alike : TokenProvider.Holding.bare ⟨live, holding.credential⟩ = holding.bare :=
    TokenProvider.Holding.bare_inj.mpr ⟨looks, rfl⟩
  refine ⟨_, fresh, unseen, ?_⟩
  intro operations
  exact TokenProvider.follow_eq_of_bare _ operations alike read

end Authenticator

namespace Desk

/-- After an invalidation and a renewal, a provider made anew goes on as the one that did it. -/
theorem restarted_after_rotation : ∃ token holding world fresh,
    provision.provider.follow [.invalidate, .token] provision.holding (stocked [.ok rotation]) =
      ([.ok none, .ok (some token)], holding, world) ∧
    token.accessToken = "fresh" ∧ token.refreshToken = "second" ∧
    TokenProvider.Reaches provision.provider Desk.ledger provision.holding (stocked [.ok rotation])
      holding world ∧
    ((authenticator { clientId := "client" } none).tokenProvider "audience").outcome world =
      (.ok fresh, world) ∧
    ∀ operations, (fresh.provider.follow operations fresh.holding world).1 =
      (provision.provider.follow operations holding world).1 := by
  have invalidated : TokenProvider.Reaches provision.provider Desk.ledger provision.holding
      (stocked [.ok rotation]) _ _ := .operation .invalidate .start trivial
  have renewed := invalidated.operation .token (by
    intro written token writes present expiry due
    cases writes
    cases present
    cases due
    decide)
  have typed : ∀ token, sample.grant.token = some token → token.tokenType ≠ "" := by
    intro token present
    cases present
    decide
  obtain ⟨made, provided, restarts⟩ :=
    Authenticator.restart_transparent (a := authenticator { clientId := "client" } none)
      (kept_authenticator _ none) writable_keyring rfl (credential?_stocked [.ok rotation]) typed rfl
  rw [tokenProvider_stocked] at provided
  cases provided
  obtain ⟨fresh, again, -, alike⟩ := restarts _ _ renewed _ _ rfl
  exact ⟨_, _, _, fresh, rfl, rfl, rfl, renewed, again, fun operations => (alike operations).1⟩

end Desk
end GrantKeeper
