import GrantKeeper.Proofs.Credential.Stored
import GrantKeeper.Proofs.Grant.Renewal

/-! Tokens that are saved and loaded again. What is loaded can be used when the token itself could,
but for an expiry that stands for none once it is stored: with it, a token that expired long ago can
be used for ever. -/
namespace GrantKeeper

theorem Instant.seconds_of_ofParts? {seconds : Int} {nanos : Nat} {instant : Instant}
    (made : ofParts? seconds nanos = some instant) : instant.seconds = seconds := by
  unfold ofParts? at made
  split at made
  · cases made; rfl
  · cases made

namespace Token

theorem isUsable_congr {a b : Token} (access : a.accessToken = b.accessToken)
    (expiry : a.expiry = b.expiry) (now : Instant) : a.isUsable now = b.isUsable now := by
  unfold isUsable expiresWithin hasAccessToken
  rw [access, expiry]

theorem isUsable_of_expiry_none {token : Token} (unlimited : token.expiry = none) (now : Instant) :
    token.isUsable now = .ok token.hasAccessToken := by
  unfold isUsable expiresWithin
  rw [unlimited]
  cases token.hasAccessToken <;> rfl

/-- With an expiry, a token is usable if it also has not come too close to that. -/
theorem isUsable_eq_ok_true_iff {token : Token} {expiry : Instant}
    (limited : token.expiry = some expiry) (now : Instant) :
    token.isUsable now = .ok true ↔ token.hasAccessToken ∧
      ∃ deadline, expiry.sub? margin = some deadline ∧ deadline.le now = false := by
  unfold isUsable expiresWithin
  rw [limited]
  cases access : token.hasAccessToken
  · simp
  · cases due : expiry.sub? margin <;> simp [due, Functor.map, Except.map]

/-- Once stored, a token can be used when it could before, or at any time if its expiry is dropped. -/
theorem isUsable_normalized_iff {token : Token} {expiry : Instant}
    (limited : token.expiry = some expiry) (now : Instant) :
    token.normalized.isUsable now = .ok true ↔
      token.isUsable now = .ok true ∨ (token.hasAccessToken ∧ expiry.seconds ≤ noExpiry) := by
  by_cases dated : noExpiry < expiry.seconds
  · have kept : token.normalized.expiry = token.expiry := by
      simp [normalized, limited, Option.filter, dated]
    have access : token.normalized.accessToken = token.accessToken := rfl
    rw [isUsable_congr access kept]
    exact (or_iff_left fun early => Int.not_lt.mpr early.2 dated).symm
  · have dropped : token.normalized.expiry = none := by
      simp [normalized, limited, Option.filter, dated]
    have access : token.normalized.hasAccessToken = token.hasAccessToken := rfl
    rw [isUsable_of_expiry_none dropped, access, Except.ok.injEq]
    constructor
    · exact fun some_ => .inr ⟨some_, Int.not_lt.mp dated⟩
    · rintro (usable | ⟨some_, -⟩)
      · exact ((isUsable_eq_ok_true_iff limited now).mp usable).1
      · exact some_

theorem seconds_lt_of_sub?_margin {expiry deadline : Instant}
    (due : expiry.sub? margin = some deadline) : deadline.seconds < expiry.seconds := by
  have minute : expiry.sub? margin = expiry.shift? (-60) 0 := rfl
  rw [minute, Instant.shift?, if_neg (by simp)] at due
  have fits := expiry.valid.2.2.1
  simp only [Span.perSecond, Int.add_zero] at due fits
  by_cases leap : ((1000000000 : Nat) : Int) ≤ expiry.nanos
  · simp only [leap, if_true, true_and] at due
    rw [if_neg (by omega), if_neg (by omega)] at due
    have at_ := Instant.seconds_of_ofParts? due
    simp at at_
    omega
  · simp only [leap, if_false, false_and] at due
    rw [if_neg (by omega)] at due
    have at_ := Instant.seconds_of_ofParts? due
    omega

/-- Nothing that expired before year one can be used today. -/
theorem not_isUsable_epoch {token : Token} {expiry : Instant} (limited : token.expiry = some expiry)
    (early : expiry.seconds ≤ noExpiry) : token.isUsable Instant.epoch ≠ .ok true := by
  intro usable
  obtain ⟨-, deadline, due, later⟩ := (isUsable_eq_ok_true_iff limited _).mp usable
  have before := seconds_lt_of_sub?_margin due
  have past : deadline.seconds < Instant.epoch.seconds := by
    simp only [noExpiry] at early
    simp only [Instant.epoch]
    omega
  simp [Instant.le, past] at later

end Token

namespace Credential

variable {σ : Type} {keyring : Keyring (StateM σ)} {ledger : σ → Ledger}

theorem loadGrant_of_save (kept : keyring.Kept ledger) {audience : String} {record : GrantRecord}
    {item : Option KeyringItem} {origin saved later after : σ}
    (accepted : (save keyring audience record).outcome origin = (.ok (), saved))
    (unseen : ledger later = ledger saved)
    (readable : (keyring.get (keyOf audience)).outcome later = (.ok item, after)) :
    (loadGrant keyring audience).outcome later = (.ok record.normalized, after) := by
  obtain ⟨userName, named, stored⟩ := save_ok kept accepted
  have usable : (Credential.mk audience userName record).grant.isUsable :=
    isUsable_of_userNameOf named
  have found := credential?_withItem usable (ledger origin).entries
  rw [← Ledger.withItem_entries, ← stored, ← unseen] at found
  rw [loadGrant, Act.outcome_bind, load_of_credential? kept readable found]
  rfl

/-- An issued token that is saved and loaded again can be used when it could before, and also at any
time if it has an access token and expired in the first second of year one or before. So saving
makes no token usable exactly if the token has no access token or expires later than that. -/
theorem usable_after_loading_iff (kept : keyring.Kept ledger) {response : TokenResponse}
    {issuedAt : Instant} {token : Token} {audience : String} {record : GrantRecord}
    {item : Option KeyringItem} {origin saved later after : σ}
    (issued : Token.issued response issuedAt = .ok token) (carries : record.token = some token)
    (accepted : (save keyring audience record).outcome origin = (.ok (), saved))
    (unseen : ledger later = ledger saved)
    (readable : (keyring.get (keyOf audience)).outcome later = (.ok item, after)) :
    ∃ loaded again expiry, (loadGrant keyring audience).outcome later = (.ok loaded, after) ∧
      loaded.token = some again ∧ token.expiry = some expiry ∧
      (∀ now, again.isUsable now = .ok true ↔ token.isUsable now = .ok true ∨
        (token.hasAccessToken ∧ expiry.seconds ≤ Token.noExpiry)) ∧
      ((∀ now, again.isUsable now = .ok true → token.isUsable now = .ok true) ↔
        token.accessToken = "" ∨ Token.noExpiry < expiry.seconds) := by
  obtain ⟨expiry, -, made⟩ := Grant.token_issued issued
  have limited : token.expiry = some expiry := by rw [made]
  have again := Token.isUsable_normalized_iff limited
  refine ⟨record.normalized, token.normalized, expiry,
    loadGrant_of_save kept accepted unseen readable, ?_, limited, again, ?_⟩
  · simp [GrantRecord.normalized, carries]
  · constructor
    · intro never
      by_cases empty : token.accessToken = ""
      · exact .inl empty
      · refine .inr (Int.not_le.mp fun early => ?_)
        have access : token.hasAccessToken := by simp [Token.hasAccessToken, empty]
        exact Token.not_isUsable_epoch limited early
          (never Instant.epoch ((again _).mpr (.inr ⟨access, early⟩)))
    · rintro (empty | later) now usable
      · rcases (again now).mp usable with before | ⟨access, -⟩
        · exact before
        · simp [Token.hasAccessToken, empty] at access
      · exact ((again now).mp usable).resolve_right fun early => Int.not_lt.mpr early.2 later

end Credential

namespace Desk

/-- What is on a desk after a service account with a token has been saved on an empty one. -/
def afterSaving (token : Token) : Desk where
  ledger := { entries := (∅ : Entries).withItem (service token).item }
  now := Instant.epoch

theorem save_service (token : Token) :
    (Credential.save (keyring none) "audience" (service token).grant).outcome
      { now := Instant.epoch } = (.ok (), afterSaving token) := rfl

/-- A token that was issued for an hour, in the autumn of 2025. -/
def lively : Token := { accessToken := "access", expiry := some ⟨1760003600, 0, by decide⟩ }

/-- A token that was issued then for so long that it expired on the day before year one. -/
def bygone : Token := { accessToken := "access", expiry := some ⟨-62135683200, 0, by decide⟩ }

/-- When the token cannot be used any more, neither can the one that is loaded. -/
theorem lively_after_loading : ∃ loaded again,
    ((Credential.loadGrant (keyring none) "audience").outcome (afterSaving lively)).1 = .ok loaded ∧
      loaded.token = some again ∧
      ∀ now, again.isUsable now = .ok true → lively.isUsable now = .ok true := by
  have issued : Token.issued { accessToken := "access", expiresIn := 3600 }
      ⟨1760000000, 0, by decide⟩ = .ok lively := by decide
  have carries : (service lively).grant.token = some lively := rfl
  obtain ⟨loaded, again, expiry, load, holds, limited, -, never⟩ :=
    Credential.usable_after_loading_iff (kept_keyring none) issued carries (save_service lively)
      rfl rfl
  cases limited
  exact ⟨loaded, again, congrArg Prod.fst load, holds, never.mpr (.inr (by decide))⟩

/-- A token that can never be used again is saved, and can be used when it is loaded. -/
theorem bygone_after_loading :
    Token.issued { accessToken := "access", expiresIn := -63895683200 }
      ⟨1760000000, 0, by decide⟩ = .ok bygone ∧
    bygone.isUsable ⟨1760000000, 0, by decide⟩ = .ok false ∧
    (Credential.save (keyring none) "audience" (service bygone).grant).outcome
      { now := Instant.epoch } = (.ok (), afterSaving bygone) ∧
    ∃ loaded again,
      ((Credential.loadGrant (keyring none) "audience").outcome (afterSaving bygone)).1 =
        .ok loaded ∧
      loaded.token = some again ∧ again.isUsable ⟨1760000000, 0, by decide⟩ = .ok true := by
  refine ⟨by decide, by decide, save_service bygone, _, bygone.normalized,
    congrArg Prod.fst (Credential.loadGrant_of_save (kept_keyring none) (save_service bygone) rfl rfl),
    rfl, by decide⟩

end Desk
end GrantKeeper
