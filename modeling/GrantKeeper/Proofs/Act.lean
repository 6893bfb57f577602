import GrantKeeper.Credential.Provider

/-! How activities end when their base monad is a state: what each way of putting them together
does to the result and the state. -/
namespace GrantKeeper

/-! Effects on two states. -/

theorem StateT.run_bind_run {σ τ α β : Type} (effect : StateT τ (StateM σ) α)
    (next : α → StateT τ (StateM σ) β) (held : τ) (world : σ) :
    ((effect >>= next).run held).run world =
      ((next ((effect.run held).run world).1.1).run ((effect.run held).run world).1.2).run
        ((effect.run held).run world).2 := rfl

theorem StateT.run_lift_run {σ τ α : Type} (effect : StateM σ α) (held : τ) (world : σ) :
    ((StateT.lift effect : StateT τ (StateM σ) α).run held).run world =
      (((effect.run world).1, held), (effect.run world).2) := rfl

theorem eq_ok_of_toOption {ε α : Type} {result : Except ε α} {value : α}
    (ok : result.toOption = some value) : result = .ok value := by
  cases result with
  | error error => cases ok
  | ok other => rw [Option.some.inj ok]

namespace Act

variable {σ τ α β : Type}

/-- How an activity ends in a world, and the world after it. -/
def outcome (act : Act (StateM σ) α) (world : σ) : Except Failure α × σ := act.run.run world

/-- How an activity ends that also holds something, with what it holds then and the world then. -/
def ending (act : Act (StateT τ (StateM σ)) α) (held : τ) (world : σ) :
    Except Failure α × τ × σ :=
  let ((result, held), world) := (act.run.run held).run world
  (result, held, world)

/-! Activities in a world. -/

@[simp] theorem outcome_pure (value : α) (world : σ) :
    (pure value : Act (StateM σ) α).outcome world = (.ok value, world) := rfl

@[simp] theorem outcome_fail (error : Error) (world : σ) :
    (fail error : Act (StateM σ) α).outcome world = (.error (.error error), world) := rfl

theorem outcome_bind (act : Act (StateM σ) α) (next : α → Act (StateM σ) β) (world : σ) :
    (act >>= next).outcome world = match act.outcome world with
      | (.ok value, after) => (next value).outcome after
      | (.error failure, after) => (.error failure, after) := by
  simp only [outcome, ExceptT.run_bind, StateT.run_bind]
  rcases act.run.run world with ⟨_ | _, _⟩ <;> rfl

theorem outcome_step (effect : StateM σ α) (world : σ) :
    (step effect).outcome world = (.ok (effect.run world).1, (effect.run world).2) := rfl

theorem outcome_ofExcept (result : Except Error α) (world : σ) :
    (ofExcept result : Act (StateM σ) α).outcome world = (result.mapError .error, world) := by
  cases result <;> rfl

def restated (restate : Error → Error) : Failure → Failure
  | .error error => .error (restate error)
  | .fault fault => .fault fault

@[simp] theorem except_mapError_ok {ε ε' : Type} (restate : ε → ε') (value : α) :
    (Except.ok value).mapError restate = .ok value := rfl

@[simp] theorem except_mapError_error {ε ε' : Type} (restate : ε → ε') (error : ε) :
    (Except.error error : Except ε α).mapError restate = .error (restate error) := rfl

theorem outcome_mapError (restate : Error → Error) (act : Act (StateM σ) α) (world : σ) :
    (act.mapError restate).outcome world =
      ((act.outcome world).1.mapError (restated restate), (act.outcome world).2) := rfl

theorem outcome_attempt (act : Act (StateM σ) α) (world : σ) :
    act.attempt.outcome world =
      ((match (act.outcome world).1 with
        | .ok value => .ok (.ok value)
        | .error (.error error) => .ok (.error error)
        | .error (.fault fault) => .error (.fault fault)), (act.outcome world).2) := by
  simp only [outcome, attempt, ExceptT.run_mk, StateT.run_bind]
  rcases act.run.run world with ⟨(_ | _) | _, _⟩ <;> rfl

/-! Activities that hold something. -/

@[simp] theorem ending_pure (value : α) (held : τ) (world : σ) :
    (pure value : Act (StateT τ (StateM σ)) α).ending held world = (.ok value, held, world) := rfl

@[simp] theorem ending_fail (error : Error) (held : τ) (world : σ) :
    (fail error : Act (StateT τ (StateM σ)) α).ending held world =
      (.error (.error error), held, world) := rfl

theorem ending_bind (act : Act (StateT τ (StateM σ)) α) (next : α → Act (StateT τ (StateM σ)) β)
    (held : τ) (world : σ) :
    (act >>= next).ending held world = match act.ending held world with
      | (.ok value, held, after) => (next value).ending held after
      | (.error failure, held, after) => (.error failure, held, after) := by
  simp only [ending, ExceptT.run_bind, StateT.run_bind]
  rcases (act.run.run held).run world with ⟨⟨_ | _, _⟩, _⟩ <;> rfl

@[simp] theorem ending_get (held : τ) (world : σ) :
    (step get : Act (StateT τ (StateM σ)) τ).ending held world = (.ok held, held, world) := rfl

@[simp] theorem ending_set (value held : τ) (world : σ) :
    (step (set value) : Act (StateT τ (StateM σ)) PUnit).ending held world =
      (.ok ⟨⟩, value, world) := rfl

@[simp] theorem ending_modify (change : τ → τ) (held : τ) (world : σ) :
    (step (modify change) : Act (StateT τ (StateM σ)) PUnit).ending held world =
      (.ok ⟨⟩, change held, world) := rfl

@[simp] theorem ending_lift (effect : StateM σ α) (held : τ) (world : σ) :
    (step (StateT.lift effect) : Act (StateT τ (StateM σ)) α).ending held world =
      (.ok (effect.run world).1, held, (effect.run world).2) := rfl

@[simp] theorem ending_ofExcept (result : Except Error α) (held : τ) (world : σ) :
    (ofExcept result : Act (StateT τ (StateM σ)) α).ending held world =
      (result.mapError .error, held, world) := by
  cases result <;> rfl

@[simp] theorem ending_ofTimes (result : Except Fault α) (held : τ) (world : σ) :
    (ofTimes result : Act (StateT τ (StateM σ)) α).ending held world =
      (result.mapError .fault, held, world) := by
  cases result <;> rfl

@[simp] theorem ending_hoist (act : Act (StateM σ) α) (held : τ) (world : σ) :
    (hoist StateT.lift act : Act (StateT τ (StateM σ)) α).ending held world =
      ((act.outcome world).1, held, (act.outcome world).2) := rfl

theorem ending_mapError (restate : Error → Error) (act : Act (StateT τ (StateM σ)) α) (held : τ)
    (world : σ) :
    (act.mapError restate).ending held world =
      ((act.ending held world).1.mapError (restated restate), (act.ending held world).2) := rfl

theorem ending_discard (act : Act (StateT τ (StateM σ)) α) (held : τ) (world : σ) :
    (discard act).ending held world =
      ((act.ending held world).1.map fun _ => ⟨⟩, (act.ending held world).2) := by
  show (act >>= fun _ => pure PUnit.unit).ending held world = _
  rw [ending_bind]
  rcases act.ending held world with ⟨_ | _, _, _⟩ <;> rfl

theorem ending_attempt (act : Act (StateT τ (StateM σ)) α) (held : τ) (world : σ) :
    act.attempt.ending held world =
      ((match (act.ending held world).1 with
        | .ok value => .ok (.ok value)
        | .error (.error error) => .ok (.error error)
        | .error (.fault fault) => .error (.fault fault)), (act.ending held world).2) := by
  simp only [ending, attempt, ExceptT.run_mk, StateT.run_bind]
  rcases (act.run.run held).run world with ⟨⟨(_ | _) | _, _⟩, _⟩ <;> rfl

theorem ending_onPart {ρ : Type} (part : ρ → τ) (withPart : τ → ρ → ρ)
    (act : Act (StateT τ (StateM σ)) α) (whole : ρ) (world : σ) :
    (act.onPart part withPart).ending whole world =
      ((act.ending (part whole) world).1,
        withPart (act.ending (part whole) world).2.1 whole,
        (act.ending (part whole) world).2.2) := rfl

theorem outcome_holding (act : Act (StateT τ (StateM σ)) α) (held : τ) (world : σ) :
    outcome (ExceptT.mk do
      let (ended, held) ← act.run.run held
      return ended.map (·, held)) world =
      ((act.ending held world).1.map (·, (act.ending held world).2.1),
        (act.ending held world).2.2) := rfl

theorem run_of_ending {act : Act (StateT τ (StateM σ)) α} {held later : τ} {world after : σ}
    {result : Except Failure α} (ended : act.ending held world = (result, later, after)) :
    (act.run.run held).run world = ((result, later), after) := by
  cases ended
  rfl

/-! Activities that see only a part of what they hold. -/

/-- Where what is held looks the same, the activity ends the same way, in the same world, and what is
held then looks the same again. -/
def SeesOnly {κ : Type} (look : τ → κ) (act : Act (StateT τ (StateM σ)) α) : Prop :=
  ∀ held other world, look held = look other →
    (act.ending held world).1 = (act.ending other world).1 ∧
      look (act.ending held world).2.1 = look (act.ending other world).2.1 ∧
      (act.ending held world).2.2 = (act.ending other world).2.2

variable {κ : Type} {look : τ → κ} {act : Act (StateT τ (StateM σ)) α}

theorem seesOnly_all (act : Act (StateT τ (StateM σ)) α) : act.SeesOnly id := by
  rintro held _ world rfl
  exact ⟨rfl, rfl, rfl⟩

theorem seesOnly_pure (value : α) :
    (pure value : Act (StateT τ (StateM σ)) α).SeesOnly look := fun _ _ _ same => ⟨rfl, same, rfl⟩

theorem seesOnly_fail (error : Error) :
    (fail error : Act (StateT τ (StateM σ)) α).SeesOnly look := fun _ _ _ same => ⟨rfl, same, rfl⟩

theorem seesOnly_lift (effect : StateM σ α) :
    (step (StateT.lift effect) : Act (StateT τ (StateM σ)) α).SeesOnly look :=
  fun _ _ _ same => ⟨rfl, same, rfl⟩

theorem SeesOnly.bind {next : α → Act (StateT τ (StateM σ)) β} (first : act.SeesOnly look)
    (rest : ∀ value, (next value).SeesOnly look) : (act >>= next).SeesOnly look := by
  intro held other world same
  obtain ⟨result, looks, worlds⟩ := first held other world same
  rw [ending_bind, ending_bind]
  generalize act.ending held world = ended at result looks worlds ⊢
  generalize act.ending other world = also at result looks worlds ⊢
  obtain ⟨failure | value, held, after⟩ := ended <;> obtain ⟨_ | _, other, _⟩ := also <;>
    cases result <;> cases worlds
  · exact ⟨rfl, looks, rfl⟩
  · exact rest value held other after looks

theorem SeesOnly.mapError (sees : act.SeesOnly look) (restate : Error → Error) :
    (act.mapError restate).SeesOnly look := by
  intro held other world same
  obtain ⟨result, looks, worlds⟩ := sees held other world same
  rw [ending_mapError, ending_mapError, result]
  exact ⟨rfl, looks, worlds⟩

theorem SeesOnly.attempt (sees : act.SeesOnly look) : act.attempt.SeesOnly look := by
  intro held other world same
  obtain ⟨result, looks, worlds⟩ := sees held other world same
  rw [ending_attempt, ending_attempt, result]
  exact ⟨rfl, looks, worlds⟩

/-- On a part, if the whole shows what is seen of that, and nothing else comes into the whole. -/
theorem SeesOnly.onPart {ρ κ' : Type} {whole : ρ → κ'} (sees : act.SeesOnly look)
    {part : ρ → τ} {withPart : τ → ρ → ρ}
    (shown : ∀ a b, whole a = whole b → look (part a) = look (part b))
    (put : ∀ a b p q, whole a = whole b → look p = look q →
      whole (withPart p a) = whole (withPart q b)) :
    (act.onPart part withPart).SeesOnly whole := by
  intro held other world same
  obtain ⟨result, looks, worlds⟩ := sees (part held) (part other) world (shown held other same)
  rw [ending_onPart, ending_onPart]
  exact ⟨result, put held other _ _ same looks, worlds⟩

end Act
end GrantKeeper
