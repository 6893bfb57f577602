import GrantKeeper.Grant.Record
import GrantKeeper.Proofs.Json.Printed
import GrantKeeper.Proofs.Time.Timestamp

/-! Stored records read back. What is read may differ from what was written in two places only:
a token without a type has the usual one, and an expiry that is not after the first second of year
one is none. -/
namespace GrantKeeper

namespace Json

/-- The members of a printed object, with their keys as they were given. -/
def keyedTrees (members : List (String × Value)) : List (String × Tree) :=
  members.map fun member => (member.1, member.2.tree)

theorem mapM_text?_keys (members : List (String × Value)) :
    (memberTreesOf members).mapM (fun (key, tree) => return (← text? key, tree)) =
      some (keyedTrees members) := by
  induction members with
  | nil => rfl
  | cons member rest ih =>
    rw [memberTreesOf, List.mapM_cons, ih]
    simp [text?_escaped, keyedTrees]

theorem fields?_tree (members : List (String × Value)) (names : List String) :
    (Value.object members).tree.fields? names = names.mapM (fieldOf? (keyedTrees members)) := by
  have keys := mapM_text?_keys members
  simp only [Value.tree, Tree.fields?]
  rw [keys]
  rfl

@[simp] theorem asText?_tree (text : String) : (Value.text text).tree.asText? = some text :=
  text?_escaped text

@[simp] theorem required_some {read : Tree → Option α} (tree : Tree) :
    required read (some tree) = read tree := rfl

@[simp] theorem optional_none {read : Tree → Option α} (value : α) :
    Json.optional value read none = some value := rfl

@[simp] theorem optional_some {read : Tree → Option α} (value : α) (tree : Tree) :
    Json.optional value read (some tree) = read tree := rfl

@[simp] theorem nullable_none {read : Tree → Option α} : nullable read none = some none := rfl

theorem nullable_some {read : Tree → Option α} {tree : Tree} (given : tree ≠ .null) :
    nullable read (some tree) = some <$> read tree := by
  unfold nullable
  split <;> simp_all

theorem exists_of_nullable {read : Tree → Option α} {field : Option Tree} {value : α}
    (given : nullable read field = some (some value)) : ∃ tree, read tree = some value := by
  unfold nullable at given
  split at given
  · cases given
  · cases given
  · next tree _ =>
    obtain ⟨_, found, same⟩ := Option.map_eq_some_iff.mp given
    exact ⟨tree, found.trans same⟩

theorem legibleMembers_append (a b : List (String × Value)) :
    LegibleMembers (a ++ b) ↔ LegibleMembers a ∧ LegibleMembers b := by
  simp only [legibleMembers_iff, List.forall_mem_append]

end Json

open Json

@[simp] theorem legible_memberUnlessEmpty (name text : String) :
    LegibleMembers (memberUnlessEmpty name text) := by
  unfold memberUnlessEmpty
  split <;> simp [LegibleMembers, Value.Legible]

namespace Token

/-- A token as it is after having been stored. -/
def normalized (token : Token) : Token :=
  { token with
    tokenType := if token.tokenType.isEmpty then "bearer" else token.tokenType
    expiry := token.expiry.filter fun t => decide (noExpiry < t.seconds) }

@[simp] theorem normalized_accessToken (token : Token) :
    token.normalized.accessToken = token.accessToken := rfl

@[simp] theorem normalized_refreshToken (token : Token) :
    token.normalized.refreshToken = token.refreshToken := rfl

@[simp] theorem normalized_normalized (token : Token) :
    token.normalized.normalized = token.normalized := by
  unfold normalized
  by_cases empty : token.tokenType.isEmpty <;> simp [empty]

/-- The expiry, if there is one, is after the instant that stands for none. -/
def Dated (token : Token) : Prop :=
  ∀ expiry, token.expiry = some expiry → noExpiry < expiry.seconds

theorem normalized_eq_self_iff (token : Token) :
    token.normalized = token ↔ token.tokenType ≠ "" ∧ token.Dated := by
  obtain ⟨access, type, refresh, expiry⟩ := token
  have typed : (if type.isEmpty then "bearer" else type) = type ↔ type ≠ "" := by
    by_cases empty : type = "" <;> simp [empty]
  have dated : (expiry.filter fun t => decide (noExpiry < t.seconds)) = expiry ↔
      ∀ t, expiry = some t → noExpiry < t.seconds := by
    cases expiry <;> simp [Option.filter]
  simp only [normalized, Token.mk.injEq, true_and, typed, dated, Dated]

theorem legible_toJson (token : Token) : token.toJson.Legible := by
  cases h : token.expiry <;>
    simp [toJson, h, Value.Legible, LegibleMembers, legibleMembers_append]

/-- Whatever a token is read from, its expiry is none or one that can be stored. -/
theorem dated_of_ofJson? {tree : Json.Tree} {token : Token} (read : ofJson? tree = some token) :
    token.Dated := by
  obtain ⟨fields, -, read⟩ := Option.bind_eq_some_iff.mp read
  split at read
  · simp only [Option.bind_eq_bind, Option.bind_eq_some_iff, Option.pure_def,
      Option.some.injEq] at read
    obtain ⟨_, -, _, -, _, -, expiry, -, rfl⟩ := read
    intro at_ present
    simpa using (Option.filter_eq_some_iff.mp present).2
  · cases read

theorem ofJson?_toJson (token : Token) : ofJson? token.toJson.tree = some token.normalized := by
  have expiry (t : Instant) :
      nullable expiryOf? (some (Value.text (Timestamp.write t)).tree) = some (some t) := by
    rw [nullable_some (by simp [Value.tree])]
    simp [expiryOf?, Timestamp.read?_write]
  rw [ofJson?, toJson, fields?_tree]
  by_cases type : token.tokenType = "" <;> by_cases refresh : token.refreshToken = "" <;>
    cases at_ : token.expiry <;>
    simp [keyedTrees, fieldOf?, memberUnlessEmpty, normalized, type, refresh, at_, expiry]

end Token

namespace KeyFile

theorem legible_toJson (k : KeyFile) : k.toJson.Legible := by
  simp [toJson, Secret.toJson, Value.Legible, LegibleMembers]

theorem ofJson?_toJson (k : KeyFile) : ofJson? k.toJson.tree = some k := by
  rw [ofJson?, toJson, fields?_tree]
  simp [keyedTrees, fieldOf?, Secret.toJson, Secret.ofJson?]

end KeyFile

theorem GrantKind.ofJson?_name (kind : GrantKind) :
    GrantKind.ofJson? (Value.text kind.name).tree = some kind := by
  simp only [Value.tree, GrantKind.ofJson?, text?_escaped]
  cases kind <;> rfl

namespace GrantRecord

def normalized (record : GrantRecord) : GrantRecord :=
  { record with token := record.token.map Token.normalized }

@[simp] theorem normalized_normalized (record : GrantRecord) :
    record.normalized.normalized = record.normalized := by
  cases h : record.token <;> simp [normalized, h]

@[simp] theorem isUsable_normalized (record : GrantRecord) :
    record.normalized.isUsable = record.isUsable := by
  simp [isUsable, normalized]

theorem validate_eq_ok {record : GrantRecord} (usable : record.isUsable) :
    record.validate = .ok () := if_pos usable

theorem isUsable_of_validate {record : GrantRecord} (valid : record.validate = .ok ()) :
    record.isUsable := by
  unfold validate at valid
  split at valid
  · next usable => exact usable
  · cases valid

theorem normalized_eq_self_iff (record : GrantRecord) :
    record.normalized = record ↔
      ∀ token, record.token = some token → token.tokenType ≠ "" ∧ token.Dated := by
  obtain ⟨kind, keyFile, _ | token⟩ := record
  · simp [normalized]
  · simp [normalized, ← Token.normalized_eq_self_iff]

theorem dated_of_decode? {text : String} {record : GrantRecord} (read : decode? text = some record)
    {token : Token} (present : record.token = some token) : token.Dated := by
  obtain ⟨tree, -, read⟩ := Option.bind_eq_some_iff.mp read
  obtain ⟨fields, -, read⟩ := Option.bind_eq_some_iff.mp read
  split at read
  · simp only [Option.bind_eq_bind, Option.bind_eq_some_iff, Option.pure_def,
      Option.some.injEq] at read
    obtain ⟨_, -, _, -, found, readToken, rfl⟩ := read
    obtain rfl : found = some token := present
    obtain ⟨_, readToken⟩ := exists_of_nullable readToken
    exact Token.dated_of_ofJson? readToken
  · cases read

theorem legible_toJson (record : GrantRecord) : record.toJson.Legible := by
  cases keyFile : record.keyFile <;> cases token : record.token <;>
    simp [toJson, keyFile, token, Value.Legible, LegibleMembers, KeyFile.legible_toJson,
      Token.legible_toJson]

theorem ofJson?_toJson (record : GrantRecord) :
    ofJson? record.toJson.tree = some record.normalized := by
  have keyFile (k : KeyFile) : nullable KeyFile.ofJson? (some k.toJson.tree) = some (some k) := by
    rw [nullable_some (by simp [KeyFile.toJson, Value.tree]), KeyFile.ofJson?_toJson]
    rfl
  have token (t : Token) :
      nullable Token.ofJson? (some t.toJson.tree) = some (some t.normalized) := by
    rw [nullable_some (by simp [Token.toJson, Value.tree]), Token.ofJson?_toJson]
    rfl
  rw [ofJson?, toJson, fields?_tree]
  cases hasKeyFile : record.keyFile <;> cases hasToken : record.token <;>
    simp [keyedTrees, fieldOf?, normalized, GrantKind.ofJson?_name, hasKeyFile, hasToken, keyFile, token]

theorem decode?_encode (record : GrantRecord) : decode? record.encode = some record.normalized := by
  rw [decode?, encode, parse?_toCompact record.legible_toJson, Option.bind_eq_bind,
    Option.bind_some, ofJson?_toJson]

/-- Every record can be read back from its text. What is read differs in nothing but a token's type,
if that was empty, and its expiry, if that was in the first second of year one or before; so it is
the record itself exactly if its token has a type and no such expiry. -/
theorem read_back (record : GrantRecord) :
    decode? record.encode = some record.normalized ∧
      record.normalized = { record with
        token := record.token.map fun token => { token with
          tokenType := if token.tokenType = "" then "bearer" else token.tokenType
          expiry := token.expiry.filter fun expiry => decide (-62135596800 < expiry.seconds) } } ∧
      (decode? record.encode = some record ↔ ∀ token, record.token = some token →
        token.tokenType ≠ "" ∧
          ∀ expiry, token.expiry = some expiry → -62135596800 < expiry.seconds) ∧
      record.normalized.normalized = record.normalized := by
  have spelled (token : Token) : token.normalized = { token with
      tokenType := if token.tokenType = "" then "bearer" else token.tokenType
      expiry := token.expiry.filter fun expiry => decide (-62135596800 < expiry.seconds) } := by
    simp only [Token.normalized, String.isEmpty_iff]
    rfl
  refine ⟨record.decode?_encode, ?_, ?_, record.normalized_normalized⟩
  · rw [normalized, funext spelled]
  · rw [decode?_encode, Option.some_inj, normalized_eq_self_iff]
    rfl

/-- The first leap second that the year 10000 could have, and a half. -/
def inLeapSecond : Instant := ⟨253402300859, 1500000000, by decide⟩

/-- A token that expires in a leap second, in a year of five digits, is read back as it is. -/
theorem read_back_leapSecond :
    decode? (deviceCode { accessToken := "a\u0000\"é", expiry := some inLeapSecond }).encode =
      some (deviceCode { accessToken := "a\u0000\"é", expiry := some inLeapSecond }) := by
  refine (read_back _).2.2.1.mpr fun token present => ?_
  cases present
  refine ⟨by decide, fun expiry present => ?_⟩
  cases present
  decide

end GrantRecord
end GrantKeeper
