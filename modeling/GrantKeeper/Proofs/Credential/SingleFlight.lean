import Mathlib.Data.List.Chain
import GrantKeeper.Proofs.Credential.Calls

/-! At most one exchange at a time, and no more exchanges than needed. What carries this is that a
token that was brought last, and was not cleared since, is in the cache or on its way there in the
hands of the call that holds the lock of the grant. -/
namespace GrantKeeper.Calls

variable {ι : Type} {during : Instant → Prop}

namespace Phase

def InGrant : Phase → Prop
  | granted | reading | read _ | missed | exchanging _ | refreshed _ | updating _ | writing _
  | written _ | leaving _ => True
  | _ => False

def InItem : Phase → Prop
  | reading | read _ | updating _ | writing _ | written _ | checking | clearing | closing => True
  | _ => False

/-- The call found no usable token and has not got one yet. -/
def Seeking : Phase → Prop
  | read (.ok none) | missed | exchanging _ => True
  | _ => False

def Carries (token : Token) : Phase → Prop
  | refreshed held | updating held => held = token
  | _ => False

def Unsaved : Phase → Prop
  | writing _ | clearing => True
  | _ => False

/-- The call has a token to give out. -/
def Has (token : Token) : Phase → Prop
  | read (.ok (some held)) | refreshed held | updating held | writing held | written held
  | leaving (.ok held) | done (.ok held) => held = token
  | _ => False

def Over : Phase → Prop
  | done _ | finished => True
  | _ => False

def Fresh : Phase → Prop
  | waiting | told => True
  | _ => False

theorem Seeking.inGrant {phase : Phase} (seeking : phase.Seeking) : phase.InGrant := by
  cases phase <;> trivial

theorem Carries.inGrant {phase : Phase} {token : Token} (carries : phase.Carries token) :
    phase.InGrant := by
  cases phase <;> trivial

end Phase

def Shared.Brought (s : Shared ι) (token : Token) : Prop :=
  s.notes.head? = some (.exchanged token)

structure Local (i : ι) (phase : Phase) (s : Shared ι) : Prop where
  grantLock : phase.InGrant ↔ s.grantLock = some i
  itemLock : phase.InItem ↔ s.itemLock = some i
  seeking : phase.Seeking → ∀ token, ¬s.Brought token
  carries : ∀ held, phase.Carries held → ∀ token, s.Brought token → token = held

/-- No two notes in a row tell of exchanges. -/
def Apart (notes : List Note) : Prop :=
  notes.IsChain fun newer older => ¬∃ a b, newer = .exchanged a ∧ older = .exchanged b

structure Holds (during : Instant → Prop) (s : State ι) : Prop where
  each : ∀ i, Local i (s.phase i) s.shared
  /-- A token that was brought last is in the cache or being carried there. -/
  brought : ∀ token, s.shared.Brought token → Lasting during token ∧
    (s.shared.credential.grant.token = some token ∨ ∃ i, (s.phase i).Carries token)
  apart : Apart s.shared.notes
  usable : s.shared.credential.grant.isUsable
  /-- The credential is stored unless a call is about to do it. -/
  stored : s.shared.credential.StoredIn s.shared.entries ∨ ∃ i, (s.phase i).Unsaved

/-! What one step does to what is shared. -/

variable {i j : ι} {before after : Phase} {s t : Shared ι}

/-- A call takes no lock that another holds, and releases none. -/
theorem Moves.locks (move : Moves during i before s after t) (here : Local i before s)
    (other : j ≠ i) :
    (t.grantLock = some j ↔ s.grantLock = some j) ∧ (t.itemLock = some j ↔ s.itemLock = some j) := by
  obtain ⟨grantLock, itemLock, -, -⟩ := here
  cases move <;> simp_all [Phase.InGrant, Phase.InItem, Ne.symm other]

theorem Moves.own_locks (move : Moves during i before s after t) (here : Local i before s) :
    (after.InGrant ↔ t.grantLock = some i) ∧ (after.InItem ↔ t.itemLock = some i) := by
  obtain ⟨grantLock, itemLock, -, -⟩ := here
  cases move with
  | @looked _ result =>
    rcases result with _ | _ | _ <;> simp_all [Phase.after, Phase.InGrant, Phase.InItem]
  | _ => simp_all [Phase.InGrant, Phase.InItem]

theorem Moves.notes (move : Moves during i before s after t) :
    t.notes = s.notes ∨ t.notes = .cleared :: s.notes ∨
      ∃ token, t.notes = .exchanged token :: s.notes ∧ before.Seeking ∧ after.Carries token ∧
        Lasting during token := by
  cases move with
  | answer _ _ lasting => exact .inr (.inr ⟨_, rfl, trivial, rfl, lasting⟩)
  | clear => exact .inr (.inl rfl)
  | _ => exact .inl rfl

/-- A token that was brought last gets into the cache and stays there, unless one is noted. -/
theorem Moves.brought (move : Moves during i before s after t) (here : Local i before s)
    {token : Token} (brought : s.Brought token) (same : t.notes = s.notes) :
    (s.credential.grant.token = some token → t.credential.grant.token = some token) ∧
      (before.Carries token → t.credential.grant.token = some token ∨ after.Carries token) := by
  cases move with
  | @update _ held =>
    obtain rfl := here.carries held rfl token brought
    exact ⟨fun _ => rfl, fun _ => .inl rfl⟩
  | relock => exact ⟨id, .inr⟩
  | clear | answer => exact absurd same (List.cons_ne_self _ _)
  | _ => exact ⟨id, False.elim⟩

theorem Moves.stored (move : Moves during i before s after t)
    (usable : s.credential.grant.isUsable) :
    t.credential.grant.isUsable ∧
      (t.credential.StoredIn t.entries ∨ after.Unsaved ∨
        t.credential = s.credential ∧ t.entries = s.entries ∧ ¬before.Unsaved) := by
  cases move with
  | write | save => exact ⟨usable, .inl (Credential.storedIn_withItem usable _)⟩
  | update | clear => exact ⟨Cache.isUsable_withToken usable _, .inr (.inl trivial)⟩
  | _ => exact ⟨usable, .inr (.inr ⟨rfl, rfl, id⟩)⟩

theorem Moves.traced (move : Moves during i before s after t)
    (cache : ∀ now token, during now → Cache.tokenAt s.credential now = .ok (some token) →
      .exchanged token ∈ s.notes)
    (had : ∀ token, before.Has token → .exchanged token ∈ s.notes) :
    (∀ now token, during now → Cache.tokenAt t.credential now = .ok (some token) →
      .exchanged token ∈ t.notes) ∧
    ∀ token, after.Has token → .exchanged token ∈ t.notes := by
  cases move with
  | @read _ now reads =>
    refine ⟨cache, fun token has => ?_⟩
    rcases found : Cache.tokenAt s.credential now with _ | _ | held <;> rw [found] at has
    · exact has.elim
    · exact has.elim
    · exact has ▸ cache now held reads found
  | @looked _ result => rcases result with _ | _ | _ <;> exact ⟨cache, had⟩
  | answer =>
    refine ⟨fun now token reads found => List.mem_cons_of_mem _ (cache now token reads found), ?_⟩
    rintro token rfl
    exact List.mem_cons_self
  | @update _ held =>
    refine ⟨fun now token _ found => ?_, had⟩
    obtain ⟨present, -⟩ := Cache.tokenAt_eq_some found
    exact had token (Option.some.inj present)
  | clear =>
    refine ⟨fun now token _ found => ?_, fun _ => False.elim⟩
    obtain ⟨present, access⟩ := Cache.tokenAt_eq_some found
    cases present
    cases access
  | enter | look | refuse | send | fail | check | spare | save | finish =>
    exact ⟨cache, fun _ => False.elim⟩
  | relock | write | unlock => exact ⟨cache, had⟩
  | @leave _ result => rcases result with _ | _ <;> exact ⟨cache, had⟩

theorem Local.inGrant_unique {phase other : Phase} (here : Local i phase s) (there : Local j other s)
    (inGrant : phase.InGrant) (inGrant_ : other.InGrant) : i = j :=
  Option.some.inj ((here.grantLock.mp inGrant).symm.trans (there.grantLock.mp inGrant_))

theorem Local.other {phase : Phase} (there : Local j phase s) (here : Local i before s)
    (move : Moves during i before s after t) (other : j ≠ i) : Local j phase t := by
  obtain ⟨grantLock, itemLock⟩ := move.locks here other
  refine ⟨there.grantLock.trans grantLock.symm, there.itemLock.trans itemLock.symm, ?_, ?_⟩
  · intro seeking token brought
    rcases move.notes with notes | notes | ⟨_, -, alone, -⟩
    · exact there.seeking seeking token (by rwa [Shared.Brought, notes] at brought)
    · simp [Shared.Brought, notes] at brought
    · -- Only a seeking call brings a token, and two of them would hold the lock of the grant.
      exact other (there.inGrant_unique here seeking.inGrant alone.inGrant)
  · intro held carries token brought
    rcases move.notes with notes | notes | ⟨_, -, alone, -⟩
    · exact there.carries held carries token (by rwa [Shared.Brought, notes] at brought)
    · simp [Shared.Brought, notes] at brought
    · exact absurd (there.inGrant_unique here carries.inGrant alone.inGrant) other

/-- What holds of a call outlives its own steps, if a token that was brought last is in the cache
whenever the call reads it. -/
theorem Local.move (here : Local i before s) (move : Moves during i before s after t)
    (cached : before = .reading → ∀ token, s.Brought token →
      Lasting during token ∧ s.credential.grant.token = some token) : Local i after t := by
  obtain ⟨grantLock, itemLock⟩ := move.own_locks here
  refine ⟨grantLock, itemLock, ?_, ?_⟩
  · cases move with
    | @read _ now reads =>
      intro missed token brought
      -- The token is cached and lasts, so the reading finds it and the call does not seek one.
      obtain ⟨lasting, present⟩ := cached rfl token brought
      have hit : Cache.tokenAt s.credential now = .ok (some token) := by
        simp only [Cache.tokenAt, present, lasting now reads]
        rfl
      rw [hit] at missed
      exact missed
    | @looked _ result =>
      rcases result with _ | _ | _
      · exact False.elim
      · exact here.seeking
      · exact False.elim
    | send => exact here.seeking
    | _ => exact False.elim
  · cases move with
    | answer =>
      intro held carries token brought
      cases carries
      cases brought
      rfl
    | relock => exact here.carries
    | @looked _ result => rcases result with _ | _ | _ <;> exact fun _ => False.elim
    | _ => exact fun _ => False.elim

variable {first now : State ι}

theorem Step.moved [DecidableEq ι] (step : Step during first now) :
    ∃ i, Moves during i (first.phase i) first.shared (now.phase i) now.shared ∧
      ∀ k, k ≠ i → now.phase k = first.phase k := by
  obtain @⟨i, phase, shared, move⟩ := step
  refine ⟨i, ?_, fun k other => Function.update_of_ne other phase first.phase⟩
  simpa only [Function.update_self] using move

theorem Holds.step [DecidableEq ι] (holds : Holds during first) (step : Step during first now) :
    Holds during now := by
  obtain ⟨i, move, others⟩ := step.moved
  have here := holds.each i
  refine ⟨?_, ?_, ?_, (move.stored holds.usable).1, ?_⟩
  · intro k
    by_cases same : k = i
    · subst same
      refine here.move move fun reading token last => ?_
      obtain ⟨lasting, present | ⟨carrier, carries⟩⟩ := holds.brought token last
      · exact ⟨lasting, present⟩
      · -- The call that reads holds the lock of the grant, so no other carries a token.
        have inGrant : (first.phase k).InGrant := by rw [reading]; trivial
        obtain rfl := (holds.each carrier).inGrant_unique here carries.inGrant inGrant
        rw [reading] at carries
        exact carries.elim
    · rw [others k same]
      exact (holds.each k).other here move same
  · intro token last
    rcases move.notes with notes | notes | ⟨noted, notes, -, carries, lasting⟩
    · have before : first.shared.Brought token := by rwa [Shared.Brought, ← notes]
      obtain ⟨stays, arrives⟩ := move.brought here before notes
      obtain ⟨lasting, present | ⟨carrier, carries⟩⟩ := holds.brought token before
      · exact ⟨lasting, .inl (stays present)⟩
      · by_cases same : carrier = i
        · subst same
          exact ⟨lasting, (arrives carries).imp id fun carries => ⟨carrier, carries⟩⟩
        · exact ⟨lasting, .inr ⟨carrier, by rwa [others carrier same]⟩⟩
    · simp [Shared.Brought, notes] at last
    · have same : noted = token := by simpa [Shared.Brought, notes] using last
      subst same
      exact ⟨lasting, .inr ⟨i, carries⟩⟩
  · rcases move.notes with notes | notes | ⟨noted, notes, seeking, -, -⟩
    · rw [notes]
      exact holds.apart
    · rw [Apart, notes, List.isChain_cons]
      exact ⟨fun _ _ => by simp, holds.apart⟩
    · -- The call that brings a token was seeking one, so it was not brought last.
      rw [Apart, notes, List.isChain_cons]
      refine ⟨?_, holds.apart⟩
      rintro _ last ⟨_, token, -, rfl⟩
      exact here.seeking seeking token last
  · rcases (move.stored holds.usable).2 with saved | unsaved | ⟨credential, entries, clean⟩
    · exact .inl saved
    · exact .inr ⟨i, unsaved⟩
    · rw [credential, entries]
      refine holds.stored.imp id fun ⟨k, unsaved⟩ => ⟨k, ?_⟩
      rwa [others k fun same => clean (same ▸ unsaved)]

theorem Holds.steps [DecidableEq ι] (holds : Holds during first) (steps : Steps during first now) :
    Holds during now := by
  induction steps with
  | refl => exact holds
  | tail _ step holds => exact holds.step step

/-- Every usable token was brought by an exchange. -/
structure Traced (during : Instant → Prop) (s : State ι) : Prop where
  cache : ∀ now token, during now → Cache.tokenAt s.shared.credential now = .ok (some token) →
    .exchanged token ∈ s.shared.notes
  calls : ∀ i token, (s.phase i).Has token → .exchanged token ∈ s.shared.notes

theorem Traced.step [DecidableEq ι] (traced : Traced during first) (step : Step during first now) :
    Traced during now := by
  obtain ⟨i, move, others⟩ := step.moved
  obtain ⟨cache, had⟩ := move.traced traced.cache (traced.calls i)
  refine ⟨cache, fun k token has => ?_⟩
  by_cases same : k = i
  · subst same
    exact had token has
  · rw [others k same] at has
    have before := traced.calls k token has
    rcases move.notes with notes | notes | ⟨_, notes, -⟩ <;> rw [notes]
    · exact before
    · exact List.mem_cons_of_mem _ before
    · exact List.mem_cons_of_mem _ before

theorem Traced.steps [DecidableEq ι] (traced : Traced during first) (steps : Steps during first now) :
    Traced during now := by
  induction steps with
  | refl => exact traced
  | tail _ step traced => exact traced.step step

/-- Calls none of which has begun, of a provider whose cache was loaded. -/
structure Starts (s : State ι) : Prop where
  fresh : ∀ i, (s.phase i).Fresh
  grantLock : s.shared.grantLock = none
  itemLock : s.shared.itemLock = none
  notes : s.shared.notes = []
  usable : s.shared.credential.grant.isUsable
  stored : s.shared.credential.StoredIn s.shared.entries

theorem Starts.holds (starts : Starts first) : Holds during first where
  each i := by
    have fresh := starts.fresh i
    constructor
    · cases phase : first.phase i <;> simp_all [Phase.Fresh, Phase.InGrant, starts.grantLock]
    · cases phase : first.phase i <;> simp_all [Phase.Fresh, Phase.InItem, starts.itemLock]
    · intro _ token last
      simp [Shared.Brought, starts.notes] at last
    · intro _ _ token last
      simp [Shared.Brought, starts.notes] at last
  brought token last := by simp [Shared.Brought, starts.notes] at last
  apart := by rw [Apart, starts.notes]; exact .nil
  usable := starts.usable
  stored := .inl starts.stored

/-- What comes right before an exchange, if anything does, is that an access token was cleared. -/
theorem Apart.cleared_between {newer between older : List Note} {a b : Token}
    (apart : Apart (newer ++ .exchanged a :: (between ++ .exchanged b :: older))) :
    .cleared ∈ between := by
  have chain := apart.right_of_append
  cases between with
  | nil => exact absurd ⟨a, b, rfl, rfl⟩ (List.isChain_cons_cons.mp chain).1
  | cons note rest =>
    cases note with
    | exchanged token => exact absurd ⟨a, token, rfl, rfl⟩ (List.isChain_cons_cons.mp chain).1
    | cleared => exact List.mem_cons_self

theorem Apart.at_most_one {notes : List Note} (apart : Apart notes) (kept : .cleared ∉ notes) :
    notes = [] ∨ ∃ token, notes = [.exchanged token] := by
  cases notes with
  | nil => exact .inl rfl
  | cons newest older =>
    cases newest with
    | cleared => exact absurd List.mem_cons_self kept
    | exchanged token =>
      cases older with
      | nil => exact .inr ⟨token, rfl⟩
      | cons note rest =>
        cases note with
        | cleared => exact absurd (List.mem_cons_of_mem _ List.mem_cons_self) kept
        | exchanged other =>
          exact absurd ⟨token, other, rfl, rfl⟩ (List.isChain_cons_cons.mp apart).1

/-- However calls interleave, at most one exchange is going on, and between two that brought tokens
an access token was cleared. So if none was and there was no usable one at first, there was at most
one exchange, and all calls give out its token. When all calls are over, the keyring holds the
credential in memory. -/
theorem single_flight [DecidableEq ι] (starts : Starts first) (steps : Steps during first now) :
    (∀ i j asked other, now.phase i = .exchanging asked → now.phase j = .exchanging other → i = j) ∧
    (∀ newer between older a b,
      now.shared.notes = newer ++ .exchanged a :: (between ++ .exchanged b :: older) →
        .cleared ∈ between) ∧
    ((∀ instant token, during instant →
        Cache.tokenAt first.shared.credential instant ≠ .ok (some token)) →
      .cleared ∉ now.shared.notes →
        (now.shared.notes = [] ∨ ∃ token, now.shared.notes = [.exchanged token]) ∧
        ∀ i token, now.phase i = .done (.ok token) → now.shared.notes = [.exchanged token]) ∧
    ((∀ i, (now.phase i).Over) → now.shared.credential.StoredIn now.shared.entries) := by
  have holds := starts.holds.steps steps
  refine ⟨?_, ?_, ?_, ?_⟩
  · intro i j asked other here there
    exact (holds.each i).inGrant_unique (holds.each j) (by rw [here]; trivial)
      (by rw [there]; trivial)
  · intro newer between older a b split
    exact Apart.cleared_between (split ▸ holds.apart)
  · intro unusable kept
    have traced : Traced during first := by
      refine ⟨fun instant token reads found => absurd found (unusable instant token reads), ?_⟩
      intro i token has
      have fresh := starts.fresh i
      cases phase : first.phase i <;> rw [phase] at fresh has <;> first
        | exact fresh.elim
        | exact has.elim
    have once := holds.apart.at_most_one kept
    refine ⟨once, fun i token done => ?_⟩
    have brought := (traced.steps steps).calls i token (by rw [done]; rfl)
    rcases once with none | ⟨only, notes⟩
    · rw [none] at brought
      cases brought
    · rw [notes, List.mem_singleton] at brought
      rw [notes, brought]
  · intro finished
    refine holds.stored.resolve_right ?_
    rintro ⟨i, unsaved⟩
    have ended := finished i
    cases phase : now.phase i <;> rw [phase] at ended unsaved <;> first
      | exact ended.elim
      | exact unsaved.elim

/-! An invalidation and a call for a token. -/

def pair : State Bool where
  phase second := if second then .told else .waiting
  shared := idle Desk.provision.holding (Desk.stocked []).ledger []

def invalidated : TokenProvider.Holding × Desk :=
  (Desk.provision.provider.invalidate.ending Desk.provision.holding
    (Desk.stocked [.ok Desk.rotation])).2

/-- After the invalidation, and then the other call, whose exchange brings a fresh token, that token
is in memory and in the keyring. -/
theorem pair_stored : ∃ now : State Bool, Steps (· = Instant.epoch) pair now ∧
    now.shared.credential.StoredIn now.shared.entries ∧
    now.shared.credential.grant.token.map Token.accessToken = some "fresh" := by
  have starts : Starts pair :=
    ⟨fun second => by cases second <;> trivial, rfl, rfl, rfl, rfl,
      @Credential.storedIn_withItem Desk.sample rfl ∅⟩
  obtain ⟨-, notes, invalidation⟩ := path_invalidate (· = Instant.epoch) Desk.kept_provider
    Desk.writable_keyring Desk.provision.holding (Desk.stocked [.ok Desk.rotation]) true []
  have first : Steps (· = Instant.epoch) pair _ := Path.steps (s := pair) invalidation
  obtain ⟨later, renewal⟩ := path_token (· = Instant.epoch) Desk.kept_provider
    Desk.writable_keyring invalidated.1 invalidated.2 rfl rfl
    (fun request response after exchange => by cases exchange; rfl)
    (fun token grant after refresh => by
      cases refresh
      rintro now rfl
      rfl)
    nofun false notes
  have steps := first.trans (Path.steps (s := ⟨Function.update pair.phase true .finished, _⟩) renewal)
  obtain ⟨-, -, -, stored⟩ := single_flight starts steps
  exact ⟨_, steps, stored fun second => by cases second <;> trivial, rfl⟩

end GrantKeeper.Calls
