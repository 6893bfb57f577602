import GrantKeeper.Credential.Provider
import GrantKeeper.Report

/-! Disciplines: what is known of effects that keep to some rule, and of their values. A program over
any base monad keeps to a rule that all the effects it is made of keep to, so what it does need not be
followed effect by effect in every monad that it runs in. -/
namespace GrantKeeper

/-- A rule that effects may keep to, ending with values of some kind. -/
structure Discipline (m : Type → Type) [Monad m] where
  Ensures : ∀ {α : Type}, m α → (α → Prop) → Prop
  ensures_pure : ∀ {α : Type} {value : α} {good : α → Prop}, good value → Ensures (pure value) good
  ensures_bind : ∀ {α β : Type} {effect : m α} {next : α → m β} {good : α → Prop}
    {better : β → Prop}, Ensures effect good →
    (∀ value, good value → Ensures (next value) better) → Ensures (effect >>= next) better

namespace Discipline

variable {m : Type → Type} [Monad m] {α β ε ε' τ ρ : Type}

/-- An effect keeps to the rule, whatever its value. -/
def Allows (d : Discipline m) (effect : m α) : Prop := d.Ensures effect fun _ => True

/-- An activity keeps to the rule and ends with a value of some kind, if it ends with one. -/
def Tries (d : Discipline m) (act : ExceptT ε m α) (good : α → Prop) : Prop :=
  d.Ensures act.run fun result => ∀ value, result = .ok value → good value

def Permits (d : Discipline m) (act : ExceptT ε m α) : Prop := d.Tries act fun _ => True

/-- The rule for effects that hold something besides, of which a rule of its own is kept. -/
def holding (d : Discipline m) (rule : τ → Prop) : Discipline (StateT τ m) where
  Ensures effect good := ∀ held, rule held →
    d.Ensures (effect.run held) fun result => good result.1 ∧ rule result.2
  ensures_pure fine _ keeps := d.ensures_pure ⟨fine, keeps⟩
  ensures_bind first rest held keeps :=
    d.ensures_bind (first held keeps) fun result ends => rest result.1 ends.1 result.2 ends.2

/-- The rule for effects on a state that keep it fit. -/
def keeping {σ : Type} (fit : σ → Prop) : Discipline (StateM σ) where
  Ensures effect good := ∀ state, fit state → good (effect.run state).1 ∧ fit (effect.run state).2
  ensures_pure fine _ stays := ⟨fine, stays⟩
  ensures_bind first rest state stays := by
    obtain ⟨fine, stays⟩ := first state stays
    exact rest _ fine _ stays

/-- The rule for effects that also leave what is looked at as it is. -/
def preserving {σ κ : Type} (fit : σ → Prop) (look : σ → κ) : Discipline (StateM σ) where
  Ensures effect good := ∀ state, fit state →
    good (effect.run state).1 ∧ fit (effect.run state).2 ∧ look (effect.run state).2 = look state
  ensures_pure fine _ stays := ⟨fine, stays, rfl⟩
  ensures_bind first rest state stays := by
    obtain ⟨fine, stays, same⟩ := first state stays
    obtain ⟨fine, stays, again⟩ := rest _ fine _ stays
    exact ⟨fine, stays, again.trans same⟩

/-- The rule for effects that end alike in two states that are alike, and leave those so. -/
def relating {σ : Type} (alike : σ → σ → Prop) : Discipline (StateM σ) where
  Ensures effect good := ∀ a b, alike a b → (effect.run a).1 = (effect.run b).1 ∧
    good (effect.run a).1 ∧ alike (effect.run a).2 (effect.run b).2
  ensures_pure fine _ _ same := ⟨rfl, fine, same⟩
  ensures_bind {_ _} {effect next _ _} first rest a b same := by
    obtain ⟨value, fine, same⟩ := first a b same
    obtain ⟨ended, better, same⟩ := rest _ fine _ _ same
    have runs (state) : ((effect >>= next).run state) =
        (next (effect.run state).1).run (effect.run state).2 := rfl
    rw [runs, runs, ← value]
    exact ⟨ended, better, same⟩

/-- The rule for effects that see of a state only how it looks. -/
def seeing {σ κ : Type} (look : σ → κ) : Discipline (StateM σ) :=
  relating fun a b => look a = look b

def anything (σ : Type) : Discipline (StateM σ) := keeping fun _ => True

theorem allows_anything {σ : Type} (effect : StateM σ α) : (anything σ).Allows effect :=
  fun _ _ => ⟨trivial, trivial⟩

theorem permits_anything {σ : Type} (act : ExceptT ε (StateM σ) α) : (anything σ).Permits act :=
  fun _ _ => ⟨fun _ _ => trivial, trivial⟩

variable {d : Discipline m}

theorem allows_pure (value : α) : d.Allows (pure value) := d.ensures_pure trivial

theorem Allows.bind {effect : m α} {next : α → m β} (first : d.Allows effect)
    (rest : ∀ value, d.Allows (next value)) : d.Allows (effect >>= next) :=
  d.ensures_bind first fun value _ => rest value

theorem tries_pure {value : α} {good : α → Prop} (fine : good value) :
    d.Tries (pure value : ExceptT ε m α) good := by
  refine d.ensures_pure ?_
  rintro _ ⟨⟩
  exact fine

theorem tries_throw (error : ε) (good : α → Prop) :
    d.Tries (throw error : ExceptT ε m α) good := d.ensures_pure nofun

theorem Tries.bind {act : ExceptT ε m α} {next : α → ExceptT ε m β} {good : α → Prop}
    {better : β → Prop} (first : d.Tries act good)
    (rest : ∀ value, good value → d.Tries (next value) better) : d.Tries (act >>= next) better := by
  refine d.ensures_bind first fun result ends => ?_
  cases result with
  | ok value => exact rest value (ends value rfl)
  | error error => exact d.ensures_pure nofun

theorem Permits.bind {act : ExceptT ε m α} {next : α → ExceptT ε m β} {better : β → Prop}
    (first : d.Permits act) (rest : ∀ value, d.Tries (next value) better) :
    d.Tries (act >>= next) better :=
  Tries.bind first fun value _ => rest value

theorem tries_ofExcept {result : Except Error α} {good : α → Prop}
    (fine : ∀ value, result = .ok value → good value) :
    d.Tries (Act.ofExcept result : Act m α) good := by
  cases result with
  | ok value => exact tries_pure (fine value rfl)
  | error error => exact tries_throw _ _

theorem permits_ofExcept (result : Except Error α) : d.Permits (Act.ofExcept result : Act m α) :=
  tries_ofExcept fun _ _ => trivial

theorem permits_ofTimes (result : Except Fault α) : d.Permits (Act.ofTimes result : Act m α) := by
  cases result with
  | ok value => exact tries_pure trivial
  | error fault => exact tries_throw _ _

theorem Tries.attempt {act : Act m α} {good : α → Prop} (tries : d.Tries act good) :
    d.Tries act.attempt fun result => ∀ value, result = .ok value → good value := by
  refine d.ensures_bind tries fun result ends => ?_
  obtain (error | fault) | value := result
  · refine d.ensures_pure ?_
    rintro _ ⟨⟩
    nofun
  · exact d.ensures_pure nofun
  · refine d.ensures_pure ?_
    rintro _ ⟨⟩ _ ⟨⟩
    exact ends value rfl

/-! What is held. -/

variable {rule : τ → Prop}

theorem ensures_get : (d.holding rule).Ensures get rule :=
  fun _ keeps => d.ensures_pure ⟨keeps, keeps⟩

theorem allows_set {value : τ} (keeps : rule value) : (d.holding rule).Allows (set value) :=
  fun _ _ => d.ensures_pure ⟨trivial, keeps⟩

theorem allows_modify {change : τ → τ} (keeps : ∀ held, rule held → rule (change held)) :
    (d.holding rule).Allows (modify change) :=
  fun held before => d.ensures_pure ⟨trivial, keeps held before⟩

theorem ensures_lift {effect : m α} {good : α → Prop} (ensures : d.Ensures effect good) :
    (d.holding rule).Ensures (StateT.lift effect) good :=
  fun _ keeps => d.ensures_bind ensures fun _ fine => d.ensures_pure ⟨fine, keeps⟩

theorem tries_hoist {act : Act m α} {good : α → Prop} (tries : d.Tries act good) :
    (d.holding rule).Tries (Act.hoist StateT.lift act) good := ensures_lift tries

theorem Tries.onPart {whole : ρ → Prop} {part : ρ → τ} {withPart : τ → ρ → ρ}
    {act : Act (StateT τ m) α} {good : α → Prop} (tries : (d.holding rule).Tries act good)
    (shown : ∀ all, whole all → rule (part all))
    (put : ∀ all now, whole all → rule now → whole (withPart now all)) :
    (d.holding whole).Tries (act.onPart part withPart) good :=
  fun all keeps => d.ensures_bind (tries (part all) (shown all keeps)) fun _ ends =>
    d.ensures_pure ⟨ends.1, put all _ keeps ends.2⟩

theorem Tries.starting {act : Act (StateT τ m) α} {good : α → Prop} {held : τ}
    (tries : (d.holding rule).Tries act good) (keeps : rule held) :
    d.Tries (ExceptT.mk do
      let (ended, held) ← act.run.run held
      return ended.map (·, held) : Act m (α × τ)) fun result => good result.1 ∧ rule result.2 := by
  refine d.ensures_bind (tries held keeps) fun result ends => d.ensures_pure ?_
  obtain ⟨_ | value, after⟩ := result
  · nofun
  · rintro _ ⟨⟩
    exact ⟨ends.1 value rfl, ends.2⟩

/-! Values that are put in another way. -/

variable [LawfulMonad m]

theorem Ensures.map {effect : m α} {use : α → β} {good : α → Prop} {better : β → Prop}
    (ensures : d.Ensures effect good) (improves : ∀ value, good value → better (use value)) :
    d.Ensures (use <$> effect) better := by
  rw [← bind_pure_comp]
  exact d.ensures_bind ensures fun value fine => d.ensures_pure (improves value fine)

theorem Ensures.mono {effect : m α} {good better : α → Prop} (ensures : d.Ensures effect good)
    (improves : ∀ value, good value → better value) : d.Ensures effect better := by
  have same : d.Ensures (id <$> effect) better := ensures.map improves
  rwa [id_map] at same

theorem Ensures.allows {effect : m α} {good : α → Prop} (ensures : d.Ensures effect good) :
    d.Allows effect := ensures.mono fun _ _ => trivial

theorem Allows.map {effect : m α} (allowed : d.Allows effect) (use : α → β) :
    d.Allows (use <$> effect) := Ensures.map allowed fun _ _ => trivial

theorem Tries.mono {act : ExceptT ε m α} {good better : α → Prop} (tries : d.Tries act good)
    (improves : ∀ value, good value → better value) : d.Tries act better :=
  Ensures.mono tries fun _ ends value same => improves value (ends value same)

theorem Tries.permits {act : ExceptT ε m α} {good : α → Prop} (tries : d.Tries act good) :
    d.Permits act := tries.mono fun _ _ => trivial

theorem tries_lift {effect : m α} {good : α → Prop} (ensures : d.Ensures effect good) :
    d.Tries (ExceptT.lift effect : ExceptT ε m α) good := by
  refine Ensures.map ensures fun value fine => ?_
  rintro _ ⟨⟩
  exact fine

theorem Tries.adapt {act : ExceptT ε m α} {good : α → Prop} (tries : d.Tries act good)
    (restate : ε → ε') : d.Tries (ExceptT.adapt restate act) good := by
  refine Ensures.map tries fun result ends => ?_
  cases result with
  | ok value =>
    rintro _ ⟨⟩
    exact ends value rfl
  | error error => nofun

theorem Tries.mapError {act : Act m α} {good : α → Prop} (tries : d.Tries act good)
    (restate : Error → Error) : d.Tries (act.mapError restate) good := tries.adapt _

theorem Ensures.forgetting {effect : StateT τ m α} {good : α → Prop} {held : τ}
    (ensures : (d.holding rule).Ensures effect good) (keeps : rule held) :
    d.Ensures ((·.1) <$> effect.run held) good :=
  Ensures.map (ensures held keeps) fun _ ends => ends.1

theorem Permits.allows {act : ExceptT ε m α} (permits : d.Permits act) : d.Allows act.run :=
  Ensures.allows permits

end Discipline
end GrantKeeper
