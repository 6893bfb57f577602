import Mathlib.Algebra.Order.Floor.Div
import GrantKeeper.Proofs.Exchange.Conversation

/-! Polling for a code that expires: it ends before that, whatever the server answers and however often
it asks to wait. -/
namespace GrantKeeper.Polling

namespace Script

theorem sum_interval_le_span (script : Script) (first n : Nat) :
    ((List.range n).map fun k => script.interval first (k + 1)).sum ≤ script.span first n := by
  induction n with
  | zero => simp [span]
  | succ n ih =>
    rw [List.range_succ, List.map_append, List.sum_append, span]
    simp only [List.map_cons, List.map_nil, List.sum_singleton]
    omega

end Script

/-- How polling until a time ends with the poll after so many: with what the answer means, or with the
expiry of the code if the answer asks to wait and the next poll would come too late. -/
inductive Server.Ends (server : Server) (first lifetime last n : Nat) :
    Except Error TokenResponse → Prop
  | decided {result : Except Error TokenResponse} (decisive : ¬Pends (server.script n).2)
    (means : Means (server.script n).2 result) : Ends server first lifetime last n result
  | expired (pends : Pends (server.script n).2)
    (late : last ≤ server.time + server.script.span first (n + 1)) :
    Ends server first lifetime last n (.error (expired lifetime))

/-- Polling ends as it does after the first poll and the wait after that. -/
theorem Server.Ends.after_first {server : Server} {request : Http.Request}
    {first lifetime last n : Nat} {result : Except Error TokenResponse}
    (ends : ((server.answered request).rested (server.script.interval first 1)).Ends
      (server.script.interval first 1) lifetime last n result) :
    server.Ends first lifetime last (n + 1) result := by
  cases ends with
  | decided decisive means => exact .decided decisive means
  | expired pends late =>
    refine .expired pends ?_
    rw [Script.span_rest]
    simp only [Server.rested, Server.answered] at late
    omega

section
variable {address : String} {url : Url} {patience : Nat} {fields : List (String × String)}

/-- As long as no time gets out of range, an answer that asks to wait makes the interval what the script
has it, the timer reaches the next poll, and no time gets out of range from there on. -/
theorem pending_of_ranged (read : Url.read address = .ok url) (accepted : Http.Network.accepts url)
    {server : Server} {first last : Nat} (pends : Pends (server.script 0).2)
    (ranged : ¬Overruns (Server.endpoint address patience).timer
      ((Server.endpoint address patience).ask fields) (some last) first server) :
    Pending ((Server.endpoint address patience).ask fields) first server
        (server.script.interval first 1) (server.answered (Http.Request.ofForm url fields)) ∧
      server.time + (server.script 0).1 + server.script.interval first 1 < timerLimit ∧
      (server.time + (server.script 0).1 + server.script.interval first 1 < last →
        ¬Overruns (Server.endpoint address patience).timer
          ((Server.endpoint address patience).ask fields) (some last) (server.script.interval first 1)
            ((server.answered (Http.Request.ofForm url fields)).rested
              (server.script.interval first 1))) := by
  have short (slow : Slows (server.script 0).2) : first + slowDown < intervalLimit := by
    obtain ⟨status, error, told, asked⟩ := refused_of_code patience fields read accepted slow
    exact Nat.not_le.mp fun long => ranged (.interval asked told long)
  have pending := pending_of_pends patience fields read accepted pends short
  refine ⟨pending, Nat.not_le.mp fun far => ranged (.poll pending rfl far), ?_⟩
  intro early overruns
  exact ranged (.later pending (by rintro _ ⟨⟩; exact early) overruns)

theorem outcome_run_of_deadline (read : Url.read address = .ok url)
    (accepted : Http.Network.accepts url) {lifetime last : Nat} (near : last < timerLimit)
    (polls : Nat) :
    ∀ (server : Server) {first : Nat}, server.time < last → last ≤ server.time + polls * first →
      ¬Overruns (Server.endpoint address patience).timer
        ((Server.endpoint address patience).ask fields) (some last) first server →
      ∃ n result, (∀ k < n, Pends (server.script k).2) ∧
        (∀ k ≤ n, server.time + server.script.span first k < last) ∧
        server.Ends first lifetime last n result ∧
        (run (Server.endpoint address patience).timer
          ((Server.endpoint address patience).ask fields) lifetime (some last) polls first).outcome
            server = (result.mapError .error,
              (server.polled (Http.Request.ofForm url fields) first n).answered
                (Http.Request.ofForm url fields)) := by
  induction polls with
  | zero =>
    intro server first soon enough
    omega
  | succ polls ih =>
    intro server first soon enough ranged
    have now : ∀ k ≤ 0, server.time + server.script.span first k < last := by
      intro k none
      obtain rfl := Nat.le_zero.mp none
      exact soon
    by_cases pends : Pends (server.script 0).2
    · obtain ⟨pending, reached, later⟩ := pending_of_ranged read accepted pends ranged
      by_cases late : last ≤ server.time + (server.script 0).1 + server.script.interval first 1
      · refine ⟨0, _, by simp, now, .expired pends ?_, ?_⟩
        · simp only [Script.span, Nat.zero_add]
          omega
        · rw [Server.polled_zero]
          exact outcome_run_of_late pending reached late
      · -- The wait is at least as long as the one before, so the polls left are enough again.
        have early : server.time + (server.script 0).1 + server.script.interval first 1 < last :=
          Nat.not_le.mp late
        have room : polls * first ≤ polls * server.script.interval first 1 :=
          Nat.mul_le_mul_left polls (server.script.le_interval first 1)
        rw [Nat.succ_mul] at enough
        have longer := server.script.le_interval first 1
        obtain ⟨n, result, waiting, timely, ends, ended⟩ := ih
          ((server.answered (Http.Request.ofForm url fields)).rested
            (server.script.interval first 1)) early
          (by simp only [Server.rested, Server.answered]; omega) (later early)
        refine ⟨n + 1, result, ?_, ?_, ends.after_first, ?_⟩
        · rintro (_ | k) before
          · exact pends
          · exact waiting k (Nat.lt_of_succ_lt_succ before)
        · rintro (_ | k) before
          · exact soon
          · have next := timely k (Nat.le_of_succ_le_succ before)
            rw [Script.span_rest]
            simp only [Server.rested, Server.answered] at next
            omega
        · rw [Server.polled_succ, outcome_run_of_pends pending, ended]
          rintro _ ⟨⟩
          exact ⟨early, Nat.le_of_lt near⟩
    · obtain ⟨result, means, ended⟩ := outcome_run_of_decisive read accepted pends
        (Server.endpoint address patience).timer lifetime (some last) polls first
      refine ⟨0, result, by simp, now, .decided pends means, ?_⟩
      rw [Server.polled_zero]
      exact ended

theorem answered_of_pending (read : Url.read address = .ok url)
    (accepted : Http.Network.accepts url) {server waiting : Server} {interval next : Nat}
    (pending : Pending ((Server.endpoint address patience).ask fields) interval server next waiting) :
    waiting = server.answered (Http.Request.ofForm url fields) := by
  obtain ⟨status, error, asked, -⟩ := pending
  rw [outcome_ask patience fields read accepted] at asked
  exact (congrArg Prod.snd asked).symm

/-- If only the waits take time, then no time gets out of range after the deadline, before which every
interval is. -/
theorem not_overruns_of_prompt (read : Url.read address = .ok url)
    (accepted : Http.Network.accepts url) {server : Server} {first last : Nat}
    (prompt : ∀ k, (server.script k).1 = 0) (soon : server.time ≤ last)
    (short : last + max first last + slowDown < timerLimit) :
    ¬Overruns (Server.endpoint address patience).timer
      ((Server.endpoint address patience).ask fields) (some last) first server := by
  have limits : timerLimit < intervalLimit := by decide
  intro overruns
  induction overruns with
  | interval asked slow long => omega
  | @poll _ next world waiting pending ends far =>
    obtain rfl := answered_of_pending read accepted pending
    obtain ⟨status, error, asked, given⟩ := pending
    have longer := (le_nextInterval given).2
    have instant := prompt 0
    have far : timerLimit ≤ world.time + (world.script 0).1 + next := far
    omega
  | @later _ next world waiting pending early rest ih =>
    obtain rfl := answered_of_pending read accepted pending
    have before : world.time + (world.script 0).1 + next < last := early last rfl
    exact ih (fun k => prompt (k + 1)) (Nat.le_of_lt before) (by omega)

end

/-- Polling for a code with a lifetime ends before that: it sends at most as many polls as intervals have
room in the lifetime, each of them before its end, and waits for less than that in all. If each answer
asks to wait, up to when the next poll would come too late, it ends with the expiry of the code, and
else with what the first answer means that does not. -/
theorem exchange_ends_before_expiry {address : String} {url : Url}
    (read : Url.read address = .ok url) (accepted : Http.Network.accepts url)
    (clientId deviceCode : String) (pollInterval lifetime patience : Nat) (server : Server)
    (limited : lifetime ≠ 0)
    (ranged : ¬Overtaxes (Server.endpoint address patience).timer
      ((Server.endpoint address patience).ask
        (ExchangeRequest.deviceCode clientId deviceCode pollInterval lifetime).fields)
      pollInterval lifetime server) :
    let first := max pollInterval leastInterval
    ∃ n result,
      n + 1 ≤ lifetime ⌈/⌉ first ∧
      (∀ k ≤ n, server.script.span first k < lifetime) ∧
      ((List.range n).map fun k => server.script.interval first (k + 1)).sum < lifetime ∧
      (∀ k < n, Pends (server.script k).2) ∧
      (¬Pends (server.script n).2 → Means (server.script n).2 result) ∧
      (Pends (server.script n).2 → result = .error (expired lifetime) ∧
        lifetime ≤ server.script.span first (n + 1)) ∧
      ((Server.endpoint address patience).exchanger.exchange
        (.deviceCode clientId deviceCode pollInterval lifetime)).outcome server =
        (result.mapError .error,
          { script := fun k => server.script (n + 1 + k)
            time := server.time + server.script.span first n + (server.script n).1
            moves := server.moves ++ ((List.range n).flatMap fun k =>
                [.sent (deviceForm url clientId deviceCode),
                  .waited (server.script.interval first (k + 1))]) ++
              [.sent (deviceForm url clientId deviceCode)] }) := by
  intro first
  have positive : 0 < first := Nat.lt_of_lt_of_le (by decide) (Nat.le_max_right _ leastInterval)
  rw [Overtaxes, if_neg limited, not_or, Nat.not_le] at ranged
  obtain ⟨near, ranged⟩ := ranged
  have enough : Enough (Server.endpoint address patience).timer
      ((Server.endpoint address patience).ask (ExchangeRequest.deviceCode clientId deviceCode
        pollInterval lifetime).fields) Server.time (some (server.time + lifetime))
      (room first lifetime) first server := enough_room positive (Nat.le_refl server.time)
  obtain ⟨n, result, pends, timely, ends, ended⟩ := outcome_run_of_deadline read accepted near
    (room first lifetime) server (Nat.lt_add_of_pos_right (Nat.pos_of_ne_zero limited)) enough.2 ranged
  have before (k : Nat) (le : k ≤ n) : server.script.span first k < lifetime :=
    Nat.lt_of_add_lt_add_left (timely k le)
  have last := before n (Nat.le_refl n)
  refine ⟨n, result, ?_, before,
    Nat.lt_of_le_of_lt (server.script.sum_interval_le_span first n) last, pends, ?_, ?_, ?_⟩
  · have least := server.script.mul_le_span first n
    by_contra many
    rw [Nat.not_le, Nat.lt_succ_iff, ceilDiv_le_iff_le_mul positive] at many
    rw [Nat.mul_comm] at many
    omega
  · intro decisive
    cases ends with
    | decided _ means => exact means
    | expired waits => exact absurd waits decisive
  · intro waits
    cases ends with
    | decided decisive => exact absurd waits decisive
    | expired _ late => exact ⟨rfl, Nat.le_of_add_le_add_left late⟩
  · rw [← Server.answered_polled server (deviceForm url clientId deviceCode) first n]
    have started : (Server.endpoint address patience).exchanger.exchange
        (.deviceCode clientId deviceCode pollInterval lifetime) =
          start (Server.endpoint address patience).timer
            ((Server.endpoint address patience).ask (ExchangeRequest.deviceCode clientId deviceCode
              pollInterval lifetime).fields) patience pollInterval lifetime := rfl
    rw [started, outcome_start_of_lifetime limited near]
    exact ended

namespace Server

/-- A server whose user never makes up their mind. -/
def undecided : Server where
  script _ := (0, refusing "authorization_pending")

end Server

/-- A code of two and a half seconds is polled for three times, and then expires. -/
theorem undecided_expires :
    Url.read "http://t" = .ok tokenUrl ∧ Http.Network.accepts tokenUrl ∧
      ¬Overtaxes (Server.endpoint "http://t" 0).timer
        ((Server.endpoint "http://t" 0).ask
          (ExchangeRequest.deviceCode "client" "code" 0 2500000000).fields)
        0 2500000000 Server.undecided ∧
      ∃ after : Server,
        ((Server.endpoint "http://t" 0).exchanger.exchange
          (.deviceCode "client" "code" 0 2500000000)).outcome Server.undecided =
            (.error (.error (.tokenExchange
              "device code expired after 2s without authorization")), after) ∧
        after.moves =
          [.sent (deviceForm tokenUrl "client" "code"), .waited 1000000000,
            .sent (deviceForm tokenUrl "client" "code"), .waited 1000000000,
            .sent (deviceForm tokenUrl "client" "code")] := by
  have read : Url.read "http://t" = .ok tokenUrl := by decide +kernel
  have accepted : Http.Network.accepts tokenUrl := by decide
  have pends : Pends (Server.refusing "authorization_pending") := by decide +kernel
  have ranged : ¬Overtaxes (Server.endpoint "http://t" 0).timer
      ((Server.endpoint "http://t" 0).ask
        (ExchangeRequest.deviceCode "client" "code" 0 2500000000).fields)
      0 2500000000 Server.undecided := by
    rw [Overtaxes, if_neg (by decide)]
    rintro (far | overruns)
    · exact absurd far (by decide)
    · exact not_overruns_of_prompt read accepted (fun _ => rfl) (by decide) (by decide) overruns
  refine ⟨read, accepted, ranged, ?_⟩
  obtain ⟨n, result, few, timely, -, -, -, expires, ended⟩ := exchange_ends_before_expiry read accepted
    "client" "code" 0 2500000000 0 Server.undecided (by decide) ranged
  obtain ⟨rfl, late⟩ := expires pends
  have three : n ≤ 2 := Nat.le_of_lt_succ few
  obtain rfl | rfl | rfl : n = 0 ∨ n = 1 ∨ n = 2 := by omega
  · exact absurd late (by decide +kernel)
  · exact absurd late (by decide +kernel)
  · exact ⟨_, ended, by decide +kernel⟩

end GrantKeeper.Polling
