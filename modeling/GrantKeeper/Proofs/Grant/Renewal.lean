import GrantKeeper.Proofs.Ledger

/-! The ways in which renewing a grant can go, and what becomes of its refresh token. -/
namespace GrantKeeper.Grant

variable {σ : Type}

/-- How a renewal may end, with the grant and the world then. -/
inductive Renews (exchanger : Exchanger (StateM σ)) (clock : StateM σ Instant) (grant : Grant)
    (world : σ) : Except Failure Token × Grant × σ → Prop
  /-- Nothing can be asked. -/
  | refused {error : Error} : grant.renewal = .error error →
    Renews exchanger clock grant world (.error (.error error), grant, world)
  | unanswered {request : ExchangeRequest} {failure : Failure} {after : σ} :
    grant.renewal = .ok request →
    (exchanger.exchange request).outcome world = (.error failure, after) →
    Renews exchanger clock grant world
      (.error (Act.restated grant.restate failure), grant, after)
  /-- The answer is good for no token at this time. -/
  | unissued {request : ExchangeRequest} {response : TokenResponse} {after : σ} {fault : Fault} :
    grant.renewal = .ok request →
    (exchanger.exchange request).outcome world = (.ok response, after) →
    grant.tokenFrom response (clock.run after).1 = .error fault →
    Renews exchanger clock grant world (.error (.fault fault), grant, (clock.run after).2)
  | renewed {request : ExchangeRequest} {response : TokenResponse} {after : σ} {token : Token} :
    grant.renewal = .ok request →
    (exchanger.exchange request).outcome world = (.ok response, after) →
    grant.tokenFrom response (clock.run after).1 = .ok token →
    Renews exchanger clock grant world (.ok token, grant.withToken token, (clock.run after).2)

theorem renews_refresh (exchanger : Exchanger (StateM σ)) (clock : StateM σ Instant)
    (grant : Grant) (world : σ) :
    Renews exchanger clock grant world ((refresh exchanger clock).ending grant world) := by
  simp only [refresh, Act.ending_bind, Act.ending_get, Act.ending_ofExcept]
  cases renewal : grant.renewal with
  | error error => exact .refused renewal
  | ok request =>
    simp only [Act.except_mapError_ok, Act.ending_hoist, Act.outcome_mapError]
    rcases exchange : (exchanger.exchange request).outcome world with ⟨failure | response, after⟩
    · exact .unanswered renewal exchange
    · simp only [Act.except_mapError_ok, Act.ending_lift, Act.ending_ofTimes]
      cases issued : grant.tokenFrom response (clock.run after).1 with
      | error fault => exact .unissued renewal exchange issued
      | ok token => exact .renewed renewal exchange issued

theorem refresh_ok {exchanger : Exchanger (StateM σ)} {clock : StateM σ Instant} {grant : Grant}
    {request : ExchangeRequest} {response : TokenResponse} {now : Instant} {token : Token}
    {world answered after : σ} (renewal : grant.renewal = .ok request)
    (exchanged : (exchanger.exchange request).outcome world = (.ok response, answered))
    (clocked : clock.run answered = (now, after)) (issued : grant.tokenFrom response now = .ok token) :
    (refresh exchanger clock).ending grant world = (.ok token, grant.withToken token, after) := by
  have renews := renews_refresh exchanger clock grant world
  generalize (refresh exchanger clock).ending grant world = ended at renews ⊢
  cases renews with
  | refused nothing => cases renewal.symm.trans nothing
  | unanswered asked failed =>
    cases renewal.symm.trans asked
    cases exchanged.symm.trans failed
  | unissued asked exchange never =>
    cases renewal.symm.trans asked
    cases exchanged.symm.trans exchange
    rw [clocked] at never
    cases issued.symm.trans never
  | renewed asked exchange also =>
    cases renewal.symm.trans asked
    cases exchanged.symm.trans exchange
    rw [clocked] at also ⊢
    cases issued.symm.trans also
    rfl

theorem entries_refresh {exchanger : Exchanger (StateM σ)} {clock : StateM σ Instant}
    {ledger : σ → Ledger} (kept : exchanger.Kept ledger) (unseen : Unseen ledger clock)
    (grant : Grant) (world : σ) :
    (ledger ((refresh exchanger clock).ending grant world).2.2).entries =
      (ledger world).entries := by
  have asked (request : ExchangeRequest) :=
    congrArg Ledger.entries (kept request world)
  have renews := renews_refresh exchanger clock grant world
  generalize (refresh exchanger clock).ending grant world = ended at renews ⊢
  cases renews with
  | refused => rfl
  | @unanswered request _ _ _ exchange =>
    have quiet := asked request
    rw [exchange] at quiet
    exact quiet
  | @unissued request _ after _ _ exchange | @renewed request _ after _ _ exchange =>
    have quiet := asked request
    rw [exchange] at quiet
    exact (congrArg Ledger.entries (unseen after)).trans quiet

theorem exchanges_refresh {exchanger : Exchanger (StateM σ)} {clock : StateM σ Instant}
    {ledger : σ → Ledger} (kept : exchanger.Kept ledger) (unseen : Unseen ledger clock)
    (grant : Grant) (world : σ) :
    (∃ exchange, (ledger ((refresh exchanger clock).ending grant world).2.2).exchanges =
        (ledger world).exchanges ++ [exchange]) ∨
      ∃ error, grant.renewal = .error error ∧
        (refresh exchanger clock).ending grant world = (.error (.error error), grant, world) := by
  have asked (request : ExchangeRequest) := congrArg Ledger.exchanges (kept request world)
  have renews := renews_refresh exchanger clock grant world
  generalize (refresh exchanger clock).ending grant world = ended at renews ⊢
  cases renews with
  | refused nothing => exact .inr ⟨_, nothing, rfl⟩
  | @unanswered request _ _ _ exchange =>
    have grown := asked request
    rw [exchange] at grown
    exact .inl ⟨_, grown⟩
  | @unissued request _ after _ _ exchange | @renewed request _ after _ _ exchange =>
    have grown := asked request
    rw [exchange] at grown
    exact .inl ⟨_, (congrArg Ledger.exchanges (unseen after)).trans grown⟩

theorem token_issued {response : TokenResponse} {now : Instant} {token : Token}
    (issued : Token.issued response now = .ok token) :
    ∃ expiry, now.add? (Span.ofSeconds response.expiresIn) = some expiry ∧
      token = ⟨response.accessToken, "bearer", response.refreshToken, some expiry⟩ := by
  unfold Token.issued at issued
  split at issued
  · split at issued
    · next expiry due => cases issued; exact ⟨expiry, due, rfl⟩
    · cases issued
  · cases issued

theorem refreshToken_issued {response : TokenResponse} {now : Instant} {token : Token}
    (issued : Token.issued response now = .ok token) :
    token.refreshToken = response.refreshToken := by
  obtain ⟨expiry, -, rfl⟩ := token_issued issued
  rfl

theorem refreshToken_tokenFrom {clientId audience : String} {held token : Token}
    {response : TokenResponse} {now : Instant}
    (issued : (deviceCode clientId audience held).tokenFrom response now = .ok token) :
    token.refreshToken =
      if response.refreshToken.isEmpty then held.refreshToken else response.refreshToken :=
  refreshToken_issued issued

theorem renewal_deviceCode (clientId audience : String) (held : Token) :
    (deviceCode clientId audience held).renewal =
      if held.refreshToken = "" then .error .grantExpired
      else .ok (.refreshToken clientId held.refreshToken) := by
  by_cases none : held.refreshToken = "" <;> simp [renewal, Token.hasRefreshToken, none]

variable {exchanger : Exchanger (StateM σ)} {clock : StateM σ Instant} {ledger : σ → Ledger}
  {clientId audience : String} {held : Token} {world last : σ} {result : Except Failure Token}
  {grant : Grant}

theorem refresh_without_refreshToken (none : held.refreshToken = "")
    (refresh : (refresh exchanger clock).ending (.deviceCode clientId audience held) world =
      (result, grant, last)) :
    result = .error (.error .grantExpired) ∧ grant = .deviceCode clientId audience held ∧
      last = world := by
  have refused := renewal_deviceCode clientId audience held
  rw [if_pos none] at refused
  have renews := renews_refresh exchanger clock (.deviceCode clientId audience held) world
  rw [refresh] at renews
  cases renews with
  | refused renewal =>
    rw [refused] at renewal
    cases renewal
    exact ⟨rfl, rfl, rfl⟩
  | unanswered renewal | unissued renewal | renewed renewal =>
    rw [refused] at renewal
    cases renewal

/-- With a refresh token, a device's grant asks once for a token, with that one. It changes only for
the token that it ends with, which has the refresh token that was brought, if one was. -/
theorem refresh_with_refreshToken (kept : exchanger.Kept ledger) (unseen : Unseen ledger clock)
    (some_ : held.refreshToken ≠ "")
    (refresh : (refresh exchanger clock).ending (.deviceCode clientId audience held) world =
      (result, grant, last))
    (sound : ∀ fault, result ≠ .error (.fault fault)) :
    ∃ answer, ledger last =
        (ledger world).withExchange (.refreshToken clientId held.refreshToken, answer) ∧
      ((∃ failure error, answer = .error failure ∧ result = .error (.error error) ∧
          grant = .deviceCode clientId audience held) ∨
        ∃ response token, answer = .ok response ∧ result = .ok token ∧
          grant = .deviceCode clientId audience token ∧ token.refreshToken =
            if response.refreshToken.isEmpty then held.refreshToken else response.refreshToken) := by
  have asked := renewal_deviceCode clientId audience held
  rw [if_neg some_] at asked
  have renews := renews_refresh exchanger clock (.deviceCode clientId audience held) world
  rw [refresh] at renews
  cases renews with
  | refused renewal =>
    rw [asked] at renewal
    cases renewal
  | @unanswered _ failure _ renewal exchange =>
    rw [asked] at renewal
    cases renewal
    have seen := kept (.refreshToken clientId held.refreshToken) world
    rw [exchange] at seen
    refine ⟨_, seen, .inl ⟨failure, ?_⟩⟩
    cases failure with
    | error error => exact ⟨_, rfl, rfl, rfl⟩
    | fault fault => exact absurd rfl (sound fault)
  | unissued => exact absurd rfl (sound _)
  | @renewed _ response after token renewal exchange issued =>
    rw [asked] at renewal
    cases renewal
    have seen := kept (.refreshToken clientId held.refreshToken) world
    rw [exchange] at seen
    refine ⟨_, (unseen after).trans seen, .inr ⟨response, token, rfl, rfl, rfl, ?_⟩⟩
    exact refreshToken_tokenFrom issued

/-! What a renewal leaves behind, and what it looks at. -/

theorem tokenType_tokenFrom {grant : Grant} {response : TokenResponse} {now : Instant} {token : Token}
    (issued : grant.tokenFrom response now = .ok token) : token.tokenType = "bearer" := by
  cases grant <;> obtain ⟨_, -, rfl⟩ := token_issued issued <;> rfl

theorem accessToken_tokenFrom {grant : Grant} {response : TokenResponse} {now : Instant} {token : Token}
    (issued : grant.tokenFrom response now = .ok token) :
    token.accessToken = response.accessToken := by
  cases grant <;> obtain ⟨_, -, rfl⟩ := token_issued issued <;> rfl

theorem grant_refresh (exchanger : Exchanger (StateM σ)) (clock : StateM σ Instant) (grant : Grant)
    (world : σ) :
    match (refresh exchanger clock).ending grant world with
    | (.ok token, after, _) => after = grant.withToken token ∧ token.tokenType = "bearer"
    | (.error _, after, _) => after = grant := by
  have renews := renews_refresh exchanger clock grant world
  generalize (refresh exchanger clock).ending grant world = ended at renews ⊢
  cases renews with
  | refused | unanswered | unissued => rfl
  | renewed _ _ issued => exact ⟨rfl, tokenType_tokenFrom issued⟩

/-- What is used of a grant: of a device's token the refresh token, and of a service account's
nothing. -/
def bare : Grant → Grant
  | clientCredentials audience keyFile _ => clientCredentials audience keyFile none
  | deviceCode clientId audience token =>
    deviceCode clientId audience { refreshToken := token.refreshToken }

@[simp] theorem renewal_bare (grant : Grant) : grant.bare.renewal = grant.renewal := by
  cases grant <;> rfl

@[simp] theorem restate_bare (grant : Grant) : grant.bare.restate = grant.restate := by
  cases grant <;> rfl

@[simp] theorem tokenFrom_bare (response : TokenResponse) (now : Instant) (grant : Grant) :
    grant.bare.tokenFrom response now = grant.tokenFrom response now := by
  cases grant <;> rfl

@[simp] theorem bare_withToken_bare (token : Token) (grant : Grant) :
    (grant.bare.withToken token).bare = (grant.withToken token).bare := by
  cases grant <;> rfl

theorem bare_withToken {grant other : Grant} (same : grant.bare = other.bare) (token : Token) :
    (grant.withToken token).bare = (other.withToken token).bare := by
  rw [← bare_withToken_bare, same, bare_withToken_bare]

/-- An invalidation leaves nothing that looks different. -/
theorem bare_withToken_invalidated {issuer : Issuer} {audience : String} {record : GrantRecord}
    {grant : Grant} {token : Token} (made : ofRecord issuer audience record = .ok grant)
    (present : record.token = some token) :
    (grant.withToken token.invalidated).bare = grant.bare := by
  unfold ofRecord at made
  split at made <;> cases made
  · rfl
  · next held =>
    rw [present] at held
    cases held
    rfl

theorem exists_ofRecord (issuer : Issuer) (audience : String) {record : GrantRecord}
    (usable : record.isUsable) : ∃ grant, ofRecord issuer audience record = .ok grant := by
  obtain ⟨_ | _, _ | keyFile, _ | token⟩ := record <;> first | exact ⟨_, rfl⟩ | cases usable

theorem ofRecord_withToken {issuer : Issuer} {audience : String} {record : GrantRecord}
    {grant : Grant} (made : ofRecord issuer audience record = .ok grant) (token : Token) :
    ofRecord issuer audience { record with token := some token } = .ok (grant.withToken token) := by
  unfold ofRecord at made ⊢
  split at made <;> cases made
  · next keyFile kind given => simp only [kind, given, withToken]
  · next kind _ => simp only [kind, withToken]

theorem seesOnly_refresh (exchanger : Exchanger (StateM σ)) (clock : StateM σ Instant) :
    (refresh exchanger clock).SeesOnly bare := by
  intro grant other world same
  have asks : grant.renewal = other.renewal := by rw [← renewal_bare, same, renewal_bare]
  have restates : grant.restate = other.restate := by rw [← restate_bare, same, restate_bare]
  have issues (response : TokenResponse) (now : Instant) :
      grant.tokenFrom response now = other.tokenFrom response now := by
    rw [← tokenFrom_bare, same, tokenFrom_bare]
  simp only [refresh, Act.ending_bind, Act.ending_get, Act.ending_ofExcept, Act.ending_hoist,
    Act.ending_lift, Act.ending_ofTimes, asks, restates, issues]
  cases other.renewal with
  | error error => exact ⟨rfl, same, rfl⟩
  | ok request =>
    simp only [Act.except_mapError_ok]
    rcases ((exchanger.exchange request).mapError other.restate).outcome world with
      ⟨failure | response, after⟩
    · exact ⟨rfl, same, rfl⟩
    · cases issued : other.tokenFrom response (clock.run after).1 with
      | error fault => simp [issued, same]
      | ok token =>
        simp [issued, bare_withToken same]

end GrantKeeper.Grant
