import GrantKeeper.Login
import GrantKeeper.Proofs.Exchange.Polling
import GrantKeeper.Proofs.Token.Times

/-! What a token endpoint can answer so that times are out of range: requests to wait, if it is polled,
and lifetimes of tokens. -/
namespace GrantKeeper

variable {σ α : Type} {time : σ → Nat}

namespace Act

variable {effect : StateM σ (Except String Http.Response)} {read : Http.Response → Except Error α}
  {refuse : String → Error}

theorem faultless_response : (do
    match ← step effect with
    | .ok response => ofExcept (read response)
    | .error detail => fail (refuse detail) : Act (StateM σ) α).Faultless := by
  refine (faultless_step effect).bind fun result => ?_
  cases result with
  | ok response => exact faultless_ofExcept _
  | error detail => exact faultless_fail _

end Act

namespace TokenEndpoint

variable (endpoint : TokenEndpoint (StateM σ)) (fields : List (String × String))

theorem faultless_ask : (endpoint.ask fields).Faultless := Act.faultless_response

theorem faultless_askOnce : (endpoint.askOnce fields).Faultless := by
  refine (endpoint.faultless_ask fields).bind fun reply => ?_
  cases reply with
  | granted response => exact Act.faultless_pure response
  | refused status error => exact Act.faultless_fail _

end TokenEndpoint

namespace Login.Machine

/-- A machine whose timer goes on, for as long as it is told to wait at least. -/
structure Steady (machine : Machine (StateM σ)) (time : σ → Nat) : Prop where
  reads : ∀ world, (machine.timer.now.run world).1 = time world
  now : ∀ world, time world ≤ time (machine.timer.now.run world).2
  rests : ∀ length world, time world + length ≤ time ((machine.timer.sleep length).run world).2
  sends : ∀ request world, time world ≤ time ((machine.network.send request).run world).2

variable {machine : Machine (StateM σ)}

theorem Steady.posts (steady : machine.Steady time) (address : String)
    (fields : List (String × String)) (world : σ) :
    time world ≤ time ((machine.network.post address fields).run world).2 := by
  rw [Http.Network.post]
  split
  · rw [Http.Network.ask]
    split
    · exact steady.sends _ world
    · exact Nat.le_refl _
  · exact Nat.le_refl _

theorem Steady.polling (steady : machine.Steady time) (endpoints : Endpoints)
    (fields : List (String × String)) :
    Polling.Steady machine.timer ((machine.tokenEndpoint endpoints).ask fields) time where
  reads := steady.reads
  now := steady.now
  rests := steady.rests
  asks world := by
    have posts := steady.posts endpoints.token fields world
    rw [TokenEndpoint.ask, Act.outcome_bind, Act.outcome_step, tokenEndpoint]
    rcases heard : (machine.network.post endpoints.token fields).run world with
      ⟨detail | response, after⟩ <;> rw [heard] at posts
    · exact posts
    · simp only [Act.outcome_ofExcept]
      exact posts
  faultless := (machine.tokenEndpoint endpoints).faultless_ask fields

end Login.Machine

/-- An exchange brings a response whose lifetime leads out of the range of instants. -/
def Exchanger.Undatable (exchanger : Exchanger (StateM σ)) (clock : StateM σ Instant)
    (request : ExchangeRequest) (world : σ) : Prop :=
  ∃ response after, (exchanger.exchange request).outcome world = (.ok response, after) ∧
    ¬ response.Datable (clock.run after).1

namespace Grant

theorem faultless_renewal (endpoint : TokenEndpoint (StateM σ)) {grant : Grant}
    {request : ExchangeRequest} (renewal : grant.renewal = .ok request) :
    (endpoint.exchanger.exchange request).Faultless := by
  unfold Grant.renewal at renewal
  split at renewal
  · cases renewal
    exact endpoint.faultless_askOnce _
  · split at renewal
    · cases renewal
      exact endpoint.faultless_askOnce _
    · cases renewal

theorem tokenFrom_eq_error_iff (grant : Grant) (response : TokenResponse) (now : Instant) :
    (∃ fault, grant.tokenFrom response now = .error fault) ↔ ¬ response.Datable now := by
  cases grant with
  | clientCredentials => exact Token.issued_eq_error_iff response now
  | deviceCode => exact Token.issued_eq_error_iff { response with refreshToken := _ } now

theorem faulted_refresh (endpoint : TokenEndpoint (StateM σ)) (clock : StateM σ Instant)
    (grant : Grant) (world : σ) :
    Faulted ((refresh endpoint.exchanger clock).ending grant world).1 ↔
      ∃ request, grant.renewal = .ok request ∧
        endpoint.exchanger.Undatable clock request world := by
  have renews := renews_refresh endpoint.exchanger clock grant world
  generalize (refresh endpoint.exchanger clock).ending grant world = ended at renews ⊢
  cases renews with
  | refused renewal => simp [renewal]
  | @unanswered request failure after renewal exchange =>
    have sound := faultless_renewal endpoint renewal world
    rw [Act.Faults, exchange] at sound
    cases failure with
    | fault fault => exact absurd (faulted_fault fault) sound
    | error error =>
      refine iff_of_false (not_faulted_error _) ?_
      rintro ⟨_, same, response, _, answered, -⟩
      rw [renewal] at same
      cases same
      rw [exchange] at answered
      cases answered
  | @unissued request response after fault renewal exchange issued =>
    exact iff_of_true (faulted_fault fault) ⟨request, renewal, response, after, exchange,
      (tokenFrom_eq_error_iff grant response _).mp ⟨fault, issued⟩⟩
  | @renewed request response after token renewal exchange issued =>
    refine iff_of_false (not_faulted_ok token) ?_
    rintro ⟨_, same, _, _, answered, undatable⟩
    rw [renewal] at same
    cases same
    rw [exchange] at answered
    cases answered
    obtain ⟨fault, failed⟩ := (tokenFrom_eq_error_iff grant response _).mpr undatable
    rw [issued] at failed
    cases failed

end Grant
end GrantKeeper
