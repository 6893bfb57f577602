import GrantKeeper.Proofs.Act

/-! Which activities in a world end in a fault. -/
namespace GrantKeeper

variable {σ α β : Type}

/-- A result that nobody handles. -/
def Faulted (result : Except Failure α) : Prop := ∃ fault, result = .error (.fault fault)

@[simp] theorem not_faulted_ok (value : α) : ¬ Faulted (.ok value) := nofun

@[simp] theorem not_faulted_error (error : Error) :
    ¬ Faulted (.error (.error error) : Except Failure α) := nofun

@[simp] theorem faulted_fault (fault : Fault) :
    Faulted (.error (.fault fault) : Except Failure α) := ⟨fault, rfl⟩

@[simp] theorem faulted_mapError_restated (restate : Error → Error) (result : Except Failure α) :
    Faulted (result.mapError (Act.restated restate)) ↔ Faulted result := by
  rcases result with (error | fault) | value <;> simp [Act.restated]

@[simp] theorem faulted_map (use : α → β) (result : Except Failure α) :
    Faulted (result.map use) ↔ Faulted result := by
  rcases result with (error | fault) | value <;> simp [Except.map]

@[simp] theorem not_faulted_mapError_error (result : Except Error α) :
    ¬ Faulted (result.mapError .error) := by
  cases result <;> simp

@[simp] theorem faulted_mapError_fault (result : Except Fault α) :
    Faulted (result.mapError .fault) ↔ ∃ fault, result = .error fault := by
  cases result <;> simp

namespace Act

def Faults (act : Act (StateM σ) α) (world : σ) : Prop := Faulted (act.outcome world).1

/-- An activity ends with a value or an error, in whatever world. -/
def Faultless (act : Act (StateM σ) α) : Prop := ∀ world, ¬ act.Faults world

theorem faults_bind (act : Act (StateM σ) α) (next : α → Act (StateM σ) β) (world : σ) :
    (act >>= next).Faults world ↔ act.Faults world ∨
      ∃ value after, act.outcome world = (.ok value, after) ∧ (next value).Faults after := by
  rw [Faults, Faults, outcome_bind]
  rcases act.outcome world with ⟨failure | value, after⟩
  · simp [Faulted]
  · constructor
    · exact fun faults => .inr ⟨value, after, rfl, faults⟩
    · rintro (faults | ⟨_, _, same, faults⟩)
      · exact absurd faults (not_faulted_ok value)
      · cases same
        exact faults

theorem faults_mapError (restate : Error → Error) (act : Act (StateM σ) α) (world : σ) :
    (act.mapError restate).Faults world ↔ act.Faults world :=
  faulted_mapError_restated restate (act.outcome world).1

theorem outcome_bind_eq_ok {act : Act (StateM σ) α} {next : α → Act (StateM σ) β} {world last : σ}
    {value : β} (ended : (act >>= next).outcome world = (.ok value, last)) :
    ∃ found after, act.outcome world = (.ok found, after) ∧
      (next found).outcome after = (.ok value, last) := by
  rw [outcome_bind] at ended
  rcases first : act.outcome world with ⟨failure | found, after⟩ <;> rw [first] at ended
  · cases ended
  · exact ⟨found, after, rfl, ended⟩

theorem outcome_mapError_eq_ok {restate : Error → Error} {act : Act (StateM σ) α} {world after : σ}
    {value : α} :
    (act.mapError restate).outcome world = (.ok value, after) ↔
      act.outcome world = (.ok value, after) := by
  rw [outcome_mapError]
  rcases act.outcome world with ⟨failure | found, last⟩ <;> simp

theorem outcome_ofTimes (result : Except Fault α) (world : σ) :
    (ofTimes result : Act (StateM σ) α).outcome world = (result.mapError .fault, world) := by
  cases result <;> rfl

theorem faults_ofTimes (result : Except Fault α) (world : σ) :
    (ofTimes result : Act (StateM σ) α).Faults world ↔ ∃ fault, result = .error fault := by
  rw [Faults, outcome_ofTimes, faulted_mapError_fault]

theorem faults_holding {τ : Type} (act : Act (StateT τ (StateM σ)) α) (held : τ) (world : σ) :
    Faults (ExceptT.mk do
      let (ended, held) ← act.run.run held
      return ended.map (·, held)) world ↔ Faulted (act.ending held world).1 :=
  faulted_map (·, (act.ending held world).2.1) (act.ending held world).1

theorem faultless_pure (value : α) : (pure value : Act (StateM σ) α).Faultless :=
  fun _ => not_faulted_ok value

theorem faultless_fail (error : Error) : (fail error : Act (StateM σ) α).Faultless :=
  fun _ => not_faulted_error error

theorem faultless_step (effect : StateM σ α) : (step effect).Faultless := fun _ => not_faulted_ok _

theorem faultless_ofExcept (result : Except Error α) :
    (ofExcept result : Act (StateM σ) α).Faultless := fun world => by
  rw [Faults, outcome_ofExcept]
  exact not_faulted_mapError_error result

theorem Faultless.bind {act : Act (StateM σ) α} {next : α → Act (StateM σ) β}
    (first : act.Faultless) (rest : ∀ value, (next value).Faultless) :
    (act >>= next).Faultless := by
  intro world faults
  rcases (faults_bind act next world).mp faults with faults | ⟨value, after, -, faults⟩
  · exact first world faults
  · exact rest value after faults

theorem Faultless.mapError {act : Act (StateM σ) α} (faultless : act.Faultless)
    (restate : Error → Error) : (act.mapError restate).Faultless :=
  fun world faults => faultless world ((faults_mapError restate act world).mp faults)

theorem Faultless.faults_bind {act : Act (StateM σ) α} (faultless : act.Faultless)
    (next : α → Act (StateM σ) β) (world : σ) :
    (act >>= next).Faults world ↔
      ∃ value after, act.outcome world = (.ok value, after) ∧ (next value).Faults after := by
  rw [Act.faults_bind, or_iff_right (faultless world)]

end Act
end GrantKeeper
