import Mathlib.Tactic.MkIffOfInductiveProp
import Std.Data.String.ToInt
import GrantKeeper.Grant
import GrantKeeper.Proofs.Text.Quoted
import GrantKeeper.Proofs.Time.Timestamp

/-! What debug texts tell. Two values have one text exactly if they differ in secrets alone: a text tells of
a token whether it is empty, and nothing of a client's secret. A live grant tells its kind and audience. -/
namespace GrantKeeper

namespace Secret

theorem redacted_inj {a b : String} : redacted a = redacted b ↔ (a = "" ↔ b = "") := by
  by_cases a_ : a = "" <;> by_cases b_ : b = "" <;> simp [redacted, a_, b_, redaction]

end Secret

theorem Timestamp.write_inj (s t : Instant) : Timestamp.write s = Timestamp.write t ↔ s = t := by
  constructor
  · intro same
    have read := Timestamp.read?_write s
    rw [same, Timestamp.read?_write, Option.some.injEq] at read
    exact read.symm
  · rintro rfl
    rfl

namespace TokenResponse

/-- Responses that differ in their tokens alone, and not in which of them are empty. -/
@[mk_iff]
structure Alike (r s : TokenResponse) : Prop where
  accessToken : r.accessToken = "" ↔ s.accessToken = ""
  idToken : r.idToken = "" ↔ s.idToken = ""
  refreshToken : r.refreshToken = "" ↔ s.refreshToken = ""
  expiresIn : r.expiresIn = s.expiresIn

theorem shown_eq_iff (r s : TokenResponse) : r.shown = s.shown ↔ r.Alike s := by
  simp [shown, Text.shownRecord, String.append_assoc, Text.quoted_append_inj, Secret.redacted_inj, alike_iff]

end TokenResponse

namespace Token

/-- Tokens that differ in what they authorize alone, and not in whether they do. -/
@[mk_iff]
structure Alike (t u : Token) : Prop where
  accessToken : t.accessToken = "" ↔ u.accessToken = ""
  tokenType : t.tokenType = u.tokenType
  refreshToken : t.refreshToken = "" ↔ u.refreshToken = ""
  expiry : t.expiry = u.expiry

theorem shown_eq_iff (t u : Token) : t.shown = u.shown ↔ t.Alike u := by
  simp [shown, Text.shownRecord, String.append_assoc, Text.quoted_append_inj, Secret.redacted_inj,
    Text.shownOption_inj Timestamp.write_inj, alike_iff]

end Token

namespace KeyFile

@[mk_iff]
structure Alike (k l : KeyFile) : Prop where
  type : k.type = l.type
  clientId : k.clientId = l.clientId
  clientEmail : k.clientEmail = l.clientEmail

/-- What is shown of a key file says where it ends. -/
theorem shown_append_inj (k l : KeyFile) (rest rest_ : String) :
    k.shown ++ rest = l.shown ++ rest_ ↔ k.Alike l ∧ rest = rest_ := by
  simp [shown, Text.shownRecord, String.append_assoc, Text.quoted_append_inj, Secret.shown, alike_iff,
    and_assoc]

theorem shown_eq_iff (k l : KeyFile) : k.shown = l.shown ↔ k.Alike l := by
  simpa using shown_append_inj k l "" ""

end KeyFile

theorem GrantKind.shown_append_inj {k l : GrantKind} {rest rest_ : String} :
    k.shown ++ rest = l.shown ++ rest_ ↔ k = l ∧ rest = rest_ := by
  cases k <;> cases l <;> simp [shown, ← String.toList_inj]

namespace GrantRecord

@[mk_iff]
structure Alike (r s : GrantRecord) : Prop where
  kind : r.kind = s.kind
  keyFile : Option.Rel KeyFile.Alike r.keyFile s.keyFile
  token : Option.Rel Token.Alike r.token s.token

theorem shown_eq_iff (r s : GrantRecord) : r.shown = s.shown ↔ r.Alike s := by
  simp [shown, Text.shownRecord, String.append_assoc, GrantKind.shown_append_inj,
    Text.shownOption_append_inj KeyFile.shown_append_inj, Text.shownOption_eq_iff Token.shown_eq_iff,
    alike_iff]

end GrantRecord

namespace Grant

/-- Grants of one kind for one audience and client, whose key files and tokens are alike. -/
inductive Alike : Grant → Grant → Prop
  | clientCredentials {k l : KeyFile} {t u : Option Token} (audience : String) (keyFile : k.Alike l)
      (token : Option.Rel Token.Alike t u) :
      Alike (.clientCredentials audience k t) (.clientCredentials audience l u)
  | deviceCode {t u : Token} (clientId audience : String) (token : t.Alike u) :
      Alike (.deviceCode clientId audience t) (.deviceCode clientId audience u)

theorem shown_eq_iff (g h : Grant) : g.shown = h.shown ↔ g.kind = h.kind ∧ g.audience = h.audience := by
  dsimp only [shown]
  simp [String.append_assoc, GrantKind.shown_append_inj, Text.quoted_inj]

theorem Alike.shown_eq {g h : Grant} (alike : g.Alike h) : g.shown = h.shown := by
  rw [shown_eq_iff]
  cases alike with
  | clientCredentials => exact ⟨rfl, rfl⟩
  | deviceCode => exact ⟨rfl, rfl⟩

end Grant

/-- Debug texts tell all but secrets. Two responses, tokens, key files or records have one text exactly if
they are alike in all but their tokens and secrets, and in which tokens are empty; two live grants, exactly
if they are of one kind and for one audience, as those are that differ in secrets alone. -/
theorem shown_eq_iff_alike :
    (∀ r s : TokenResponse, r.shown = s.shown ↔ r.Alike s) ∧
    (∀ t u : Token, t.shown = u.shown ↔ t.Alike u) ∧
    (∀ k l : KeyFile, k.shown = l.shown ↔ k.Alike l) ∧
    (∀ r s : GrantRecord, r.shown = s.shown ↔ r.Alike s) ∧
    ∀ g h : Grant, (g.shown = h.shown ↔ g.kind = h.kind ∧ g.audience = h.audience) ∧
      (g.Alike h → g.shown = h.shown) :=
  ⟨TokenResponse.shown_eq_iff, Token.shown_eq_iff, KeyFile.shown_eq_iff, GrantRecord.shown_eq_iff,
    fun g h => ⟨Grant.shown_eq_iff g h, Grant.Alike.shown_eq⟩⟩

/-- Another secret and another token do not show, in a record or in a live grant. -/
theorem changed_secrets_not_shown :
    (GrantRecord.clientCredentials ⟨"sn_service_account", "id", ⟨"one"⟩, ""⟩
        (some ⟨"old\"", "bearer", "", none⟩)).shown =
      (GrantRecord.clientCredentials ⟨"sn_service_account", "id", ⟨"other"⟩, ""⟩
        (some ⟨"new", "bearer", "", none⟩)).shown ∧
    (Grant.deviceCode "id" "urn:a" ⟨"", "bearer", "old", none⟩).shown =
      (Grant.deviceCode "id" "urn:a" ⟨"", "bearer", "new", none⟩).shown := by
  obtain ⟨-, -, -, records, grants⟩ := shown_eq_iff_alike
  constructor
  · have token : (⟨"old\"", "bearer", "", none⟩ : Token).Alike ⟨"new", "bearer", "", none⟩ :=
      ⟨by decide, rfl, Iff.rfl, rfl⟩
    exact (records _ _).mpr ⟨rfl, .some ⟨rfl, rfl, rfl⟩, .some token⟩
  · exact (grants _ _).2 (.deviceCode "id" "urn:a" ⟨Iff.rfl, rfl, by decide, rfl⟩)

end GrantKeeper
