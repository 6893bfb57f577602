import GrantKeeper.Proofs.Act

/-! Programs that are moved to another monad, where they do the same. A provider that works with
something held beside the world is moved to one whose world is both, so what is known of providers in a
world is known of it. -/
namespace GrantKeeper

/-- A way to move effects to another monad, which keeps them as they are, one after the other. -/
structure Moving (m n : Type → Type) [Monad m] [Monad n] where
  move : {α : Type} → m α → n α
  move_pure : ∀ {α : Type} (value : α), move (pure value) = pure value
  move_bind : ∀ {α β : Type} (effect : m α) (next : α → m β),
    move (effect >>= next) = move effect >>= fun value => move (next value)

namespace Moving

variable {m n : Type → Type} [Monad m] [Monad n] {τ ρ α β : Type}

/-- Effects that hold something are moved, and hold it still. -/
def beneath (moving : Moving m n) (τ : Type) : Moving (StateT τ m) (StateT τ n) where
  move effect := fun held => moving.move (effect.run held)
  move_pure _ := funext fun _ => moving.move_pure _
  move_bind _ _ := funext fun _ => moving.move_bind _ _

def act (moving : Moving m n) (act : Act m α) : Act n α := Act.hoist moving.move act

variable (moving : Moving m n)

theorem move_lift (effect : m α) :
    (moving.beneath τ).move (StateT.lift effect) = StateT.lift (moving.move effect) := by
  funext held
  simp only [beneath, StateT.run, StateT.lift, moving.move_bind, moving.move_pure]

theorem move_get : (moving.beneath τ).move get = get := funext fun _ => moving.move_pure _

theorem move_set (value : τ) : (moving.beneath τ).move (set value) = set value :=
  funext fun _ => moving.move_pure _

theorem move_modify (change : τ → τ) : (moving.beneath τ).move (modify change) = modify change :=
  funext fun _ => moving.move_pure _

theorem act_pure (value : α) : moving.act (pure value) = pure value := moving.move_pure _

theorem act_bind (act : Act m α) (next : α → Act m β) :
    moving.act (act >>= next) = moving.act act >>= fun value => moving.act (next value) := by
  refine (moving.move_bind act.run _).trans (congrArg _ (funext fun result => ?_))
  cases result with
  | error failure => exact moving.move_pure _
  | ok value => rfl

theorem act_fail (error : Error) : moving.act (Act.fail error : Act m α) = Act.fail error :=
  moving.move_pure _

theorem act_ofExcept (result : Except Error α) :
    moving.act (Act.ofExcept result) = Act.ofExcept result := by
  cases result <;> exact moving.move_pure _

theorem act_ofTimes (result : Except Fault α) :
    moving.act (Act.ofTimes result) = Act.ofTimes result := by
  cases result <;> exact moving.move_pure _

theorem act_attempt (act : Act m α) : moving.act act.attempt = (moving.act act).attempt := by
  refine (moving.move_bind act.run _).trans (congrArg _ (funext fun result => ?_))
  obtain (error | fault) | value := result <;> exact moving.move_pure _

theorem act_lift (act : Act m α) :
    (moving.beneath τ).act (Act.hoist StateT.lift act) = Act.hoist StateT.lift (moving.act act) :=
  moving.move_lift act.run

theorem act_onPart (part : ρ → τ) (withPart : τ → ρ → ρ) (act : Act (StateT τ m) α) :
    (moving.beneath ρ).act (act.onPart part withPart) =
      ((moving.beneath τ).act act).onPart part withPart := by
  funext whole
  refine (moving.move_bind _ _).trans (congrArg _ (funext fun result => ?_))
  exact moving.move_pure _

variable [LawfulMonad m] [LawfulMonad n]

theorem move_map (use : α → β) (effect : m α) :
    moving.move (use <$> effect) = use <$> moving.move effect := by
  rw [← bind_pure_comp, moving.move_bind, ← bind_pure_comp]
  simp only [moving.move_pure]

theorem act_step (effect : m α) : moving.act (Act.step effect) = Act.step (moving.move effect) :=
  moving.move_map _ effect

theorem act_mapError (restate : Error → Error) (act : Act m α) :
    moving.act (act.mapError restate) = (moving.act act).mapError restate :=
  moving.move_map _ act.run

/-! Providers. -/

theorem act_token? (clock : m Instant) :
    (moving.beneath Credential).act (Cache.token? clock) = Cache.token? (moving.move clock) := by
  rw [Cache.token?, act_bind, act_step, move_get]
  refine congrArg _ (funext fun credential => ?_)
  cases credential.grant.token with
  | none => exact act_pure _ _
  | some token => simp only [act_bind, act_step, move_lift, act_ofTimes]

theorem act_update (keyring : Keyring m) (token : Token) :
    (moving.beneath Credential).act (Cache.update keyring token) =
      Cache.update (keyring.hoist moving.move) token := by
  simp only [Cache.update, Cache.persist, Credential.store, act_bind, act_step, move_get, move_modify,
    act_lift, act_mapError]
  rfl

theorem act_refresh (exchanger : Exchanger m) (clock : m Instant) :
    (moving.beneath Grant).act (Grant.refresh exchanger clock) =
      Grant.refresh (exchanger.hoist moving.move) (moving.move clock) := by
  simp only [Grant.refresh, act_bind, act_step, act_pure, move_get, move_set, move_lift, act_lift,
    act_mapError, act_ofExcept, act_ofTimes]
  rfl

def provider (provider : TokenProvider m) : TokenProvider n where
  keyring := provider.keyring.hoist moving.move
  exchanger := provider.exchanger.hoist moving.move
  clock := moving.move provider.clock
  count event := moving.move (provider.count event)

theorem act_token (provider : TokenProvider m) :
    (moving.beneath TokenProvider.Holding).act provider.token = (moving.provider provider).token := by
  simp only [TokenProvider.token, act_bind, TokenProvider.onCredential, TokenProvider.onGrant, act_onPart,
    act_token?]
  refine congrArg _ (funext fun cached => ?_)
  cases cached with
  | some token => exact act_pure _ _
  | none =>
    simp only [act_bind, act_attempt, act_onPart, act_refresh]
    refine congrArg _ (funext fun renewed => ?_)
    cases renewed with
    | error error =>
      simp only [act_bind, act_fail, TokenProvider.counting, act_step, move_lift]
      rfl
    | ok token =>
      simp only [act_bind, act_pure, TokenProvider.counting, act_step, move_lift, Act.during,
        act_mapError, act_onPart, act_update]
      rfl

/-- What is held beside a world becomes a part of it. -/
def joint (τ σ : Type) : Moving (StateT τ (StateM σ)) (StateM (τ × σ)) where
  move effect := fun (held, world) =>
    let ((value, held), world) := (effect.run held).run world
    (value, held, world)
  move_pure _ := rfl
  move_bind _ _ := rfl

end Moving
end GrantKeeper
