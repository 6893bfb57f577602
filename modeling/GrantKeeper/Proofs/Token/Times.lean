import GrantKeeper.Proofs.Grant.Record
import GrantKeeper.Proofs.Grant.Renewal

/-! The arithmetic of instants with whole seconds, and which tokens it is good for. -/
namespace GrantKeeper

namespace Instant

/-- The second that is some seconds away from an instant. The way back from a leap second starts at the
second after it. -/
def due (start : Instant) (seconds : Int) : Int :=
  start.seconds + (if Span.perSecond ≤ start.nanos ∧ seconds < 0 then 1 else 0) + seconds

theorem isSome_ofParts? (seconds : Int) (nanos : Nat) :
    (ofParts? seconds nanos).isSome ↔ Valid seconds nanos := by
  unfold ofParts?
  split <;> simp_all

/-- Nothing but the second changes, unless a leap second is left. -/
theorem add?_ofSeconds (start : Instant) (seconds : Int) :
    start.add? (Span.ofSeconds seconds) =
      if Span.perSecond ≤ start.nanos ∧ seconds = 0 then some start
      else ofParts? (start.due seconds) (start.nanos % Span.perSecond) := by
  obtain ⟨low, high, nanos, leap⟩ := start.valid
  have unit : Span.perSecond = 1000000000 := rfl
  have whole : Int.tdiv (Span.ofSeconds seconds) Span.perSecond = seconds :=
    Int.mul_tdiv_cancel seconds (by decide)
  have part : Int.tmod (Span.ofSeconds seconds) Span.perSecond = 0 := Int.mul_tmod_left _ _
  rw [add?, whole, part, shift?]
  by_cases stays : Span.perSecond ≤ start.nanos ∧ seconds = 0
  · rw [if_pos (by omega), if_pos stays, Int.add_zero, Int.toNat_natCast, ofParts?,
      dif_pos start.valid]
  · have fraction : (if (Span.perSecond : Int) ≤ start.nanos then
        (start.nanos : Int) - Span.perSecond else start.nanos) + 0 =
          (start.nanos % Span.perSecond : Nat) := by
      rw [unit]
      split <;> omega
    have short : start.nanos % Span.perSecond < Span.perSecond := Nat.mod_lt _ (by decide)
    rw [if_neg (by omega), if_neg stays]
    simp only [fraction]
    rw [if_neg (by omega), if_neg (by omega), Int.toNat_natCast, due]
    simp only [Int.ofNat_le]

theorem isSome_add?_ofSeconds (start : Instant) (seconds : Int) :
    (start.add? (Span.ofSeconds seconds)).isSome ↔
      earliest ≤ start.due seconds ∧ start.due seconds ≤ latest := by
  obtain ⟨low, high, -, -⟩ := start.valid
  have unit : Span.perSecond = 1000000000 := rfl
  have nanos := Nat.mod_lt start.nanos (show 0 < Span.perSecond by decide)
  rw [add?_ofSeconds]
  split
  · next stays =>
    rw [due, if_neg (by omega), stays.2]
    simp [low, high]
  · rw [isSome_ofParts?]
    exact ⟨fun valid => ⟨valid.1, valid.2.1⟩,
      fun range => ⟨range.1, range.2, by omega, by omega⟩⟩

end Instant

/-- The lifetime of a response can be counted from an instant. -/
def TokenResponse.Datable (response : TokenResponse) (now : Instant) : Prop :=
  Instant.earliest ≤ now.due response.expiresIn ∧ now.due response.expiresIn ≤ Instant.latest

instance (response : TokenResponse) (now : Instant) : Decidable (response.Datable now) :=
  inferInstanceAs (Decidable (_ ∧ _))

namespace Token

/-- It can be told from when on a token counts as stale, if it matters. -/
def Testable (token : Token) : Prop :=
  token.hasAccessToken → ∀ expiry, token.expiry = some expiry → Instant.earliest ≤ expiry.due (-60)

theorem issued_eq_error_iff (response : TokenResponse) (now : Instant) :
    (∃ fault, issued response now = .error fault) ↔ ¬ response.Datable now := by
  have due := Instant.isSome_add?_ofSeconds now response.expiresIn
  rw [TokenResponse.Datable, ← due, issued]
  split
  · cases expiry : now.add? (Span.ofSeconds response.expiresIn) <;> simp
  · next far =>
    -- The longest span reaches beyond the range of instants.
    obtain ⟨low, high, -, -⟩ := now.valid
    have away : ¬ (now.add? (Span.ofSeconds response.expiresIn)).isSome := by
      rw [due, Instant.due]
      simp only [Instant.earliest, Instant.latest, longestSpan] at low high far ⊢
      split <;> omega
    simp [away]

theorem isUsable_eq_error_iff (token : Token) (now : Instant) :
    (∃ fault, token.isUsable now = .error fault) ↔ ¬ token.Testable := by
  rw [isUsable, Testable]
  split
  · next access =>
    cases dated : token.expiry with
    | none => simp [expiresWithin, dated]
    | some expiry =>
      obtain ⟨low, high, -, -⟩ := expiry.valid
      have due := Instant.isSome_add?_ofSeconds expiry (-60)
      have upper : expiry.due (-60) ≤ Instant.latest := by
        rw [Instant.due]
        split <;> omega
      have margin : expiry.sub? margin = expiry.add? (Span.ofSeconds (-60)) := rfl
      rw [and_iff_left upper] at due
      cases deadline : expiry.add? (Span.ofSeconds (-60)) <;> rw [deadline] at due <;>
        simp_all [expiresWithin]
  · next none => simp [none]

theorem Dated.testable {token : Token} (dated : token.Dated) : token.Testable := by
  intro _ expiry present
  have late := dated expiry present
  rw [Instant.due]
  simp only [noExpiry, Instant.earliest] at late ⊢
  split <;> omega

end Token
end GrantKeeper
