import GrantKeeper.Exchange.TokenEndpoint
import GrantKeeper.Proofs.Faults

/-! Polling a token endpoint. A lifetime has room for all the polls that come before its end, so what
polling can fail of without an answer is the range of its times: that of the interval, to which a server
may add, and that of the timer, on which the deadline and the next poll lie. -/
namespace GrantKeeper

variable {σ : Type}

namespace Polling

/-- A timer that goes on, for as long as it is told to wait at least. -/
structure Steady (timer : Timer (StateM σ)) (ask : Act (StateM σ) ExchangeReply)
    (time : σ → Nat) : Prop where
  reads : ∀ world, (timer.now.run world).1 = time world
  now : ∀ world, time world ≤ time (timer.now.run world).2
  rests : ∀ length world, time world + length ≤ time ((timer.sleep length).run world).2
  asks : ∀ world, time world ≤ time (ask.outcome world).2
  faultless : ask.Faultless

/-- A poll is answered with a request to wait for an interval. -/
def Pending (ask : Act (StateM σ) ExchangeReply) (interval : Nat) (world : σ) (next : Nat)
    (after : σ) : Prop :=
  ∃ status error, ask.outcome world = (.ok (.refused status error), after) ∧
    nextInterval interval error.code = some (.ok next)

/-- The world in which it has been seen whether a poll would come too late. -/
def seen (timer : Timer (StateM σ)) (deadline : Option Nat) (world : σ) : σ :=
  if deadline.isSome then (timer.now.run world).2 else world

/-- A server asks to wait for fewer than so many polls in a row. -/
def Relents (timer : Timer (StateM σ)) (ask : Act (StateM σ) ExchangeReply) : Nat → Nat → σ → Prop
  | 0, _, _ => False
  | polls + 1, interval, world => ∀ next after, Pending ask interval world next after →
    Relents timer ask polls next ((timer.sleep next).run after).2

/-- Polling from an interval and a world on comes to a time that is out of range, before an answer is
decisive or the next poll would come too late. -/
inductive Overruns (timer : Timer (StateM σ)) (ask : Act (StateM σ) ExchangeReply)
    (deadline : Option Nat) : Nat → σ → Prop
  /-- The server asks to slow down, and the interval gets too long. -/
  | interval {interval : Nat} {world after : σ} {status : Nat} {error : OAuthError}
    (asked : ask.outcome world = (.ok (.refused status error), after))
    (slow : error.code = "slow_down") (long : intervalLimit ≤ interval + slowDown) :
    Overruns timer ask deadline interval world
  /-- The timer does not reach the next poll. -/
  | poll {interval next : Nat} {world after : σ} (pending : Pending ask interval world next after)
    (ends : deadline.isSome) (far : timerLimit ≤ (timer.now.run after).1 + next) :
    Overruns timer ask deadline interval world
  | later {interval next : Nat} {world after : σ} (pending : Pending ask interval world next after)
    (early : ∀ last, deadline = some last → (timer.now.run after).1 + next < last)
    (rest : Overruns timer ask deadline next
      ((timer.sleep next).run (seen timer deadline after)).2) :
    Overruns timer ask deadline interval world

theorem nextInterval_eq_error_iff (interval : Nat) (code : String) :
    (∃ fault, nextInterval interval code = some (.error fault)) ↔
      code = "slow_down" ∧ intervalLimit ≤ interval + slowDown := by
  unfold nextInterval
  split
  · next pending => simp [pending]
  · split
    · next slow => split <;> simp_all
    · next other => simp [other]

theorem le_nextInterval {interval next : Nat} {code : String}
    (given : nextInterval interval code = some (.ok next)) :
    interval ≤ next ∧ next ≤ interval + slowDown := by
  unfold nextInterval at given
  split at given
  · cases given
    omega
  · split at given
    · split at given <;> cases given
      omega
    · cases given

variable {timer : Timer (StateM σ)} {ask : Act (StateM σ) ExchangeReply} {time : σ → Nat}
  {deadline : Option Nat} {lifetime interval : Nat} {world : σ}

/-- Waiting for the next poll ends in a fault if the timer does not reach that, or else, if it is in
time, in what comes then. -/
theorem faults_wait (rest : Act (StateM σ) TokenResponse) (next : Nat) (world : σ) :
    (do
      if let some last := deadline then
        let due ← Act.ofTimes (after (← Act.step timer.now) next)
        if last ≤ due then Act.fail (expired lifetime)
      Act.step (timer.sleep next)
      rest : Act (StateM σ) TokenResponse).Faults world ↔
      (deadline.isSome ∧ timerLimit ≤ (timer.now.run world).1 + next) ∨
        (∀ last, deadline = some last → (timer.now.run world).1 + next < last) ∧
          rest.Faults ((timer.sleep next).run (seen timer deadline world)).2 := by
  cases deadline with
  | none => simp [Act.Faults, Act.outcome_bind, Act.outcome_step, seen]
  | some last =>
    simp only [Act.Faults, Act.outcome_bind, Act.outcome_step, Act.outcome_ofTimes, after]
    by_cases far : timerLimit ≤ (timer.now.run world).1 + next
    · simp [far, Nat.not_lt.mpr far]
    · by_cases late : last ≤ (timer.now.run world).1 + next
      · simp [far, Nat.not_le.mp far, late, Nat.not_lt.mpr late, Act.outcome_bind]
      · simp [far, Nat.not_le.mp far, late, Nat.not_le.mp late, Act.outcome_bind, Act.outcome_step,
          seen]

theorem outcome_run_of_pending {polls next : Nat} {waiting : σ}
    (pending : Pending ask interval world next waiting)
    (early : ∀ last, deadline = some last →
      (timer.now.run waiting).1 + next < last ∧ last ≤ timerLimit) :
    (run timer ask lifetime deadline (polls + 1) interval).outcome world =
      (run timer ask lifetime deadline polls next).outcome
        ((timer.sleep next).run (seen timer deadline waiting)).2 := by
  obtain ⟨status, error, asked, given⟩ := pending
  rw [run, Act.outcome_bind, asked]
  simp only [given]
  cases deadline with
  | none => simp [Act.outcome_bind, Act.outcome_step, seen, Act.outcome_ofTimes]
  | some last =>
    obtain ⟨soon, near⟩ := early last rfl
    have reached : (timer.now.run waiting).1 + next < timerLimit := by omega
    have timely : ¬last ≤ (timer.now.run waiting).1 + next := by omega
    simp [Act.outcome_bind, Act.outcome_step, Act.outcome_ofTimes, after, reached, timely, seen]

theorem outcome_run_of_late {polls next last : Nat} {waiting : σ}
    (pending : Pending ask interval world next waiting)
    (near : (timer.now.run waiting).1 + next < timerLimit)
    (late : last ≤ (timer.now.run waiting).1 + next) :
    (run timer ask lifetime (some last) (polls + 1) interval).outcome world =
      (.error (.error (expired lifetime)), (timer.now.run waiting).2) := by
  obtain ⟨status, error, asked, given⟩ := pending
  rw [run, Act.outcome_bind, asked]
  simp only [given]
  simp [Act.outcome_bind, Act.outcome_step, Act.outcome_ofTimes, after, near, late]

/-- A poll ends in a fault if the interval gets too long or the timer does not reach the next poll, or
else, if that is in time, if the next polls do. -/
theorem faults_run_succ (faultless : ask.Faultless) (polls : Nat) :
    (run timer ask lifetime deadline (polls + 1) interval).Faults world ↔
      (∃ status error after, ask.outcome world = (.ok (.refused status error), after) ∧
        error.code = "slow_down" ∧ intervalLimit ≤ interval + slowDown) ∨
      ∃ next after, Pending ask interval world next after ∧
        ((deadline.isSome ∧ timerLimit ≤ (timer.now.run after).1 + next) ∨
          (∀ last, deadline = some last → (timer.now.run after).1 + next < last) ∧
            (run timer ask lifetime deadline polls next).Faults
              ((timer.sleep next).run (seen timer deadline after)).2) := by
  rw [run, faultless.faults_bind]
  constructor
  · rintro ⟨response | ⟨status, error⟩, after, asked, faults⟩
    · exact absurd faults (not_faulted_ok response)
    · dsimp only at faults
      cases given : nextInterval interval error.code with
      | none =>
        rw [given] at faults
        exact absurd faults (not_faulted_error _)
      | some result =>
        rw [given] at faults
        cases result with
        | error fault =>
          obtain ⟨slow, long⟩ := (nextInterval_eq_error_iff interval error.code).mp ⟨fault, given⟩
          exact .inl ⟨status, error, after, asked, slow, long⟩
        | ok next =>
          refine .inr ⟨next, after, ⟨status, error, asked, given⟩, ?_⟩
          exact (faults_wait _ next after).mp faults
  · rintro (⟨status, error, after, asked, slow, long⟩ |
      ⟨next, after, ⟨status, error, asked, given⟩, faults⟩)
    · obtain ⟨fault, given⟩ := (nextInterval_eq_error_iff interval error.code).mpr ⟨slow, long⟩
      refine ⟨_, after, asked, ?_⟩
      simp only [given]
      exact faulted_fault fault
    · refine ⟨_, after, asked, ?_⟩
      simp only [given]
      exact (faults_wait _ next after).mpr faults

/-- The polls left are enough: with a deadline for all that come before it, and without one until the
server relents. -/
def Enough (timer : Timer (StateM σ)) (ask : Act (StateM σ) ExchangeReply) (time : σ → Nat)
    (deadline : Option Nat) (polls interval : Nat) (world : σ) : Prop :=
  match deadline with
  | none => Relents timer ask polls interval world
  | some last => 0 < polls ∧ last ≤ time world + polls * interval

theorem Enough.next (steady : Steady timer ask time) {polls next : Nat} {after : σ}
    (enough : Enough timer ask time deadline (polls + 1) interval world)
    (pending : Pending ask interval world next after)
    (early : ∀ last, deadline = some last → (timer.now.run after).1 + next < last) :
    Enough timer ask time deadline polls next
      ((timer.sleep next).run (seen timer deadline after)).2 := by
  cases deadline with
  | none => exact enough next after pending
  | some last =>
    obtain ⟨status, error, asked, given⟩ := pending
    obtain ⟨-, room⟩ := enough
    have soon := early last rfl
    have later : time world ≤ time after := by
      have asks := steady.asks world
      rwa [asked] at asks
    rw [steady.reads] at soon
    have longer := (le_nextInterval given).1
    have read := steady.now after
    have slept := steady.rests next (timer.now.run after).2
    have rest : polls * interval ≤ polls * next := Nat.mul_le_mul_left polls longer
    rw [Nat.succ_mul] at room
    simp only [Enough, seen, Option.isSome_some, if_true]
    refine ⟨Nat.pos_of_ne_zero fun none => ?_, by omega⟩
    simp only [none, Nat.zero_mul] at room
    omega

theorem faults_run_iff (steady : Steady timer ask time) (polls : Nat) :
    ∀ {interval : Nat} {world : σ}, Enough timer ask time deadline polls interval world →
      ((run timer ask lifetime deadline polls interval).Faults world ↔
        Overruns timer ask deadline interval world) := by
  induction polls with
  | zero =>
    intro interval world enough
    cases deadline with
    | none => exact absurd enough id
    | some last => exact absurd enough.1 (Nat.lt_irrefl 0)
  | succ polls ih =>
    intro interval world enough
    rw [faults_run_succ steady.faultless]
    constructor
    · rintro (⟨status, error, after, asked, slow, long⟩ |
        ⟨next, after, pending, ⟨ends, far⟩ | ⟨early, faults⟩⟩)
      · exact .interval asked slow long
      · exact .poll pending ends far
      · exact .later pending early ((ih (enough.next steady pending early)).mp faults)
    · intro overruns
      cases overruns with
      | interval asked slow long => exact .inl ⟨_, _, _, asked, slow, long⟩
      | poll pending ends far => exact .inr ⟨_, _, pending, .inl ⟨ends, far⟩⟩
      | later pending early rest =>
        exact .inr ⟨_, _, pending, .inr ⟨early, (ih (enough.next steady pending early)).mpr rest⟩⟩

/-- Polling for a code comes to a time that is out of range: its deadline, or one after a poll. -/
def Overtaxes (timer : Timer (StateM σ)) (ask : Act (StateM σ) ExchangeReply)
    (pollInterval lifetime : Nat) (world : σ) : Prop :=
  let interval := max pollInterval leastInterval
  if lifetime = 0 then Overruns timer ask none interval world
  else
    let deadline := (timer.now.run world).1 + lifetime
    timerLimit ≤ deadline ∨ Overruns timer ask (some deadline) interval (timer.now.run world).2

theorem outcome_start_of_lifetime {patience pollInterval : Nat} (limited : lifetime ≠ 0)
    (near : (timer.now.run world).1 + lifetime < timerLimit) :
    (start timer ask patience pollInterval lifetime).outcome world =
      (run timer ask lifetime (some ((timer.now.run world).1 + lifetime))
        (room (max pollInterval leastInterval) lifetime) (max pollInterval leastInterval)).outcome
          (timer.now.run world).2 := by
  simp only [start, if_neg limited, Act.outcome_bind, Act.outcome_step, Act.outcome_ofTimes, after,
    if_pos near, Act.except_mapError_ok]

theorem enough_room {start : Nat} (positive : 0 < interval) (later : start ≤ time world) :
    Enough timer ask time (some (start + lifetime)) (room interval lifetime) interval world := by
  have whole := Nat.lt_mul_div_succ lifetime positive
  rw [Nat.mul_comm] at whole
  exact ⟨Nat.succ_pos _, by rw [room]; omega⟩

/-- Polling for a code ends in a fault exactly if it comes to a time that is out of range, if for a code
without a lifetime the server relents in time. -/
theorem faults_start_iff (steady : Steady timer ask time) {patience pollInterval : Nat}
    (relents : lifetime = 0 → Relents timer ask patience (max pollInterval leastInterval) world) :
    (start timer ask patience pollInterval lifetime).Faults world ↔
      Overtaxes timer ask pollInterval lifetime world := by
  have positive : 0 < max pollInterval leastInterval := by
    simp only [leastInterval]
    omega
  rw [start, Overtaxes]
  by_cases endless : lifetime = 0
  · simp only [if_pos endless]
    exact faults_run_iff steady patience (relents endless)
  · simp only [if_neg endless, Act.Faults, Act.outcome_bind, Act.outcome_step, Act.outcome_ofTimes,
      after]
    by_cases far : timerLimit ≤ (timer.now.run world).1 + lifetime
    · simp [far, Nat.not_lt.mpr far]
    · simp only [Nat.not_le.mp far, far, if_true, false_or, Act.except_mapError_ok]
      refine faults_run_iff steady _ (enough_room positive ?_)
      rw [steady.reads]
      exact steady.now world

/-- With an interval and a deadline that lie well within the range of the timer, like all that it reads,
nothing is out of range, whatever the server answers. -/
theorem not_overruns (steady : Steady timer ask time) {horizon last : Nat}
    (near : ∀ world, time world ≤ horizon)
    (short : horizon + max interval last + slowDown < timerLimit) :
    ¬ Overruns timer ask (some last) interval world := by
  have limits : timerLimit < intervalLimit := by decide
  intro overruns
  induction overruns with
  | interval asked slow long => omega
  | @poll _ next _ after pending ends far =>
    obtain ⟨status, error, -, given⟩ := pending
    have longer := (le_nextInterval given).2
    have soon := near after
    rw [steady.reads] at far
    omega
  | @later _ next _ after pending early rest ih =>
    -- The next interval lies before the deadline, so it cannot have got long.
    have before := early last rfl
    exact ih (by omega)

theorem not_overtaxes (steady : Steady timer ask time) {horizon pollInterval : Nat}
    (near : ∀ world, time world ≤ horizon) (limited : lifetime ≠ 0)
    (short : horizon + max (max pollInterval leastInterval) (horizon + lifetime) + slowDown <
      timerLimit) :
    ¬ Overtaxes timer ask pollInterval lifetime world := by
  have start := near world
  rw [Overtaxes, if_neg limited, steady.reads]
  rintro (far | overruns)
  · omega
  · exact not_overruns steady near (by omega) overruns

end Polling
end GrantKeeper
