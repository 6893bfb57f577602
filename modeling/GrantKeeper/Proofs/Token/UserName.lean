import GrantKeeper.Proofs.Encoding.Base64
import GrantKeeper.Proofs.StringMap
import GrantKeeper.Proofs.Text.Pieces
import GrantKeeper.Token.UserName

/-! The user name that an access token shows is the one its issuer wrote into the claims. -/
namespace GrantKeeper.Json

/-- Whether bytes are an object in JSON that can be read, and its members as they come. -/
def Decodes (bytes : List UInt8) (members : List (String × Value)) : Prop :=
  ∃ lexemes trees, lexemes? bytes = some lexemes ∧ nesting lexemes ≤ deepest ∧
    Tree.ofLexemes? lexemes = some (.object trees) ∧ membersOf? trees = some members

variable {bytes : List UInt8} {members : List (String × Value)}

theorem Decodes.parse? (decodes : Decodes bytes members) :
    Value.parse? bytes = some (.object (StringMap.ofList members).entries) := by
  obtain ⟨lexemes, trees, read, shallow, built, decided⟩ := decodes
  simp [Value.parse?, read, shallow, built, Value.ofTree?, decided]

theorem decodes_of_member? {value member : Value} {key : String}
    (read : Value.parse? bytes = some value) (found : value.member? key = some member) :
    ∃ members, Decodes bytes members ∧ members.reverse.lookup key = some member := by
  simp only [Value.parse?, Option.bind_eq_bind, Option.bind_eq_some_iff] at read
  obtain ⟨lexemes, lexed, read⟩ := read
  split at read
  · next shallow =>
    obtain ⟨tree, built, decided⟩ := Option.bind_eq_some_iff.mp read
    cases value with
    | object entries =>
      cases tree with
      | object trees =>
        obtain ⟨members, of, same⟩ := Option.map_eq_some_iff.mp decided
        cases same
        refine ⟨members, ⟨lexemes, trees, lexed, shallow, built, of⟩, ?_⟩
        rw [← StringMap.get?_ofList]
        exact found
      | _ => simp [Value.ofTree?] at decided
    | _ => cases found
  · cases read

end GrantKeeper.Json
namespace GrantKeeper.Token

/-- Whether the second segment of an access token is what is written for the bytes of claims, with
any number of padding characters behind it. -/
def Carries (accessToken : String) (claims : List UInt8) : Prop :=
  ∃ header padding rest, '.' ∉ header.toList ∧ (rest = "" ∨ ∃ more, rest = "." ++ more) ∧
    accessToken = header ++ "." ++ Base64.urlSafe.encode claims ++
      String.ofList (List.replicate padding '=') ++ rest

variable {accessToken : String} {claims : List UInt8}

theorem not_urlSafe_dot : ∀ value < 64, Base64.urlSafe.char value ≠ '.' := by decide

theorem notMem_encodeChars {c : Char} (outside : ∀ value < 64, Base64.urlSafe.char value ≠ c)
    (claims : List UInt8) : c ∉ Base64.urlSafe.encodeChars claims := by
  intro member
  obtain ⟨value, small, same⟩ := Base64.exists_char_of_mem rfl member
  exact outside value small same

theorem dot_notMem_segment (claims : List UInt8) (padding : Nat) :
    '.' ∉ Base64.urlSafe.encodeChars claims ++ List.replicate padding '=' := by
  rw [List.mem_append, not_or]
  exact ⟨notMem_encodeChars not_urlSafe_dot claims, fun member =>
    absurd (List.eq_of_mem_replicate member) (by decide)⟩

theorem Carries.claimsSegment? (carries : Carries accessToken claims) :
    ∃ padding, claimsSegment? accessToken = some (String.ofList
      (Base64.urlSafe.encodeChars claims ++ List.replicate padding '=')) := by
  obtain ⟨header, padding, rest, whole, ends, rfl⟩ := carries
  refine ⟨padding, ?_⟩
  have spelled : (header ++ "." ++ Base64.urlSafe.encode claims ++
      String.ofList (List.replicate padding '=') ++ rest).toList =
      header.toList ++ '.' :: (Base64.urlSafe.encodeChars claims ++ List.replicate padding '=' ++
        rest.toList) := by
    simp [Base64.Alphabet.encode]
  have segment := dot_notMem_segment claims padding
  rw [claimsSegment?, spelled, Text.pieces_append whole]
  rcases ends with rfl | ⟨more, rfl⟩
  · rw [String.toList_empty, List.append_nil, Text.pieces_of_notMem segment]
  · rw [String.toList_append, show ".".toList = ['.'] from rfl, List.singleton_append,
      Text.pieces_append segment]

theorem carries_of_claimsSegment? {segment : String} (found : claimsSegment? accessToken = some segment)
    (read : Base64.urlSafe.decode? (Text.trimEndOf '=' segment).toList = some claims) :
    Carries accessToken claims := by
  obtain ⟨padding, padded⟩ := Text.exists_trimEndOf '=' segment
  rw [Base64.eq_encodeChars_of_decode? read] at padded
  rw [claimsSegment?] at found
  split at found
  · next header written more split =>
    cases found
    obtain ⟨whole, ⟨single, -⟩ | ⟨behind, spelled, pieces⟩⟩ := Text.of_pieces_eq_cons split
    · cases single
    obtain ⟨-, ends⟩ := Text.of_pieces_eq_cons pieces
    rw [String.toList_ofList] at padded
    rcases ends with ⟨-, rfl⟩ | ⟨more, rfl, -⟩
    · refine ⟨String.ofList header, padding, "", by rwa [String.toList_ofList], .inl rfl, ?_⟩
      apply String.toList_inj.mp
      simp [spelled, padded, Base64.Alphabet.encode]
    · refine ⟨String.ofList header, padding, "." ++ String.ofList more, by rwa [String.toList_ofList],
        .inr ⟨_, rfl⟩, ?_⟩
      apply String.toList_inj.mp
      simp [spelled, padded, Base64.Alphabet.encode]
  · cases found

variable {token : Token} {members : List (String × Json.Value)}

theorem Carries.userName (carries : Carries token.accessToken claims)
    (decodes : Json.Decodes claims members) :
    token.userName = match members.reverse.lookup userNameClaim >>= Json.Value.asText? with
      | some user => .ok user
      | none => .error (.invalidToken ("access token doesn't contain a " ++ userNameClaim ++ " claim")) := by
  obtain ⟨padding, segment⟩ := carries.claimsSegment?
  have unpadded : Text.trimEndOf '=' (String.ofList (Base64.urlSafe.encodeChars claims ++
      List.replicate padding '=')) = String.ofList (Base64.urlSafe.encodeChars claims) :=
    Text.trimEndOf_append (notMem_encodeChars (by decide) claims) padding
  have read := Base64.decode?_encodeChars Base64.sound_urlSafe claims
  have member : (Json.Value.object (StringMap.ofList members).entries).member? userNameClaim =
      members.reverse.lookup userNameClaim := StringMap.get?_ofList members userNameClaim
  simp only [Token.userName, segment, unpadded, String.toList_ofList, read, decodes.parse?, member]
  cases members.reverse.lookup userNameClaim >>= Json.Value.asText? <;> rfl

/-- An access token shows a user name that is read from its claims, or it is refused as invalid. -/
theorem userName_cases (token : Token) :
    (∃ detail, token.userName = .error (.invalidToken detail)) ∨
    ∃ segment claims value user, claimsSegment? token.accessToken = some segment ∧
      Base64.urlSafe.decode? (Text.trimEndOf '=' segment).toList = some claims ∧
      Json.Value.parse? claims = some value ∧ value.member? userNameClaim = some (.text user) ∧
      token.userName = .ok user := by
  unfold Token.userName
  cases found : claimsSegment? token.accessToken with
  | none => exact .inl ⟨_, rfl⟩
  | some segment =>
    cases read : Base64.urlSafe.decode? (Text.trimEndOf '=' segment).toList with
    | none => exact .inl ⟨_, by simp only [read]; rfl⟩
    | some claims =>
      cases parsed : Json.Value.parse? claims with
      | none => exact .inl ⟨_, by simp only [read, parsed]; rfl⟩
      | some value =>
        cases named : value.member? userNameClaim >>= Json.Value.asText? with
        | none => exact .inl ⟨_, by simp only [read, parsed, named]; rfl⟩
        | some user =>
          obtain ⟨member, given, text⟩ := Option.bind_eq_some_iff.mp named
          cases member with
          | text written =>
            cases text
            exact .inr ⟨segment, claims, value, user, rfl, read, parsed, given,
              by simp only [read, parsed, named]; rfl⟩
          | _ => cases text

/-- The user name is the last text that the issuer wrote for it, whatever stands around the claims
and however they are padded; a token without one is invalid, and only what carries claims has one. -/
theorem userName_reads_claims (token : Token) :
    (∀ claims members, Carries token.accessToken claims → Json.Decodes claims members →
      (∀ user, token.userName = .ok user ↔
        members.reverse.lookup userNameClaim = some (.text user)) ∧
      ((∀ user, members.reverse.lookup userNameClaim ≠ some (.text user)) →
        token.userName =
          .error (.invalidToken ("access token doesn't contain a " ++ userNameClaim ++ " claim")))) ∧
    (∀ user, token.userName = .ok user → ∃ claims members, Carries token.accessToken claims ∧
      Json.Decodes claims members ∧ members.reverse.lookup userNameClaim = some (.text user)) ∧
    ∀ error, token.userName = .error error → ∃ detail, error = .invalidToken detail := by
  refine ⟨fun claims members carries decodes => ?_, fun user shown => ?_, fun error refused => ?_⟩
  · rw [carries.userName decodes]
    cases members.reverse.lookup userNameClaim with
    | none => simp
    | some member => cases member <;> simp [Json.Value.asText?]
  · obtain ⟨detail, refused⟩ | ⟨segment, claims, value, name, found, read, parsed, member, named⟩ :=
      userName_cases token
    · cases refused.symm.trans shown
    · cases named.symm.trans shown
      obtain ⟨members, decodes, last⟩ := Json.decodes_of_member? parsed member
      exact ⟨claims, members, carries_of_claimsSegment? found read, decodes, last⟩
  · obtain ⟨detail, invalid⟩ | ⟨_, _, _, _, _, _, _, _, named⟩ := userName_cases token
    · cases invalid.symm.trans refused
      exact ⟨detail, rfl⟩
    · cases named.symm.trans refused

/-- Claims that name the user twice, once with the slashes escaped. -/
def renamed : String :=
  "\x7b\"https:\\/\\/streamnative.io\\/username\":null,\"" ++ userNameClaim ++ "\":\"Zo\\u00eb\"\x7d"

theorem decodes_renamed :
    Json.Decodes (Utf8.encode renamed) [(userNameClaim, .null), (userNameClaim, .text "Zoë")] := by
  have escaped : Json.text? (Utf8.encode "https:\\/\\/streamnative.io\\/username") = some userNameClaim := by
    decide +kernel
  have plain : Json.text? (Utf8.encode userNameClaim) = some userNameClaim := by decide +kernel
  have name : Json.text? (Utf8.encode "Zo\\u00eb") = some "Zoë" := by decide +kernel
  refine ⟨[.openObject, .text (Utf8.encode "https:\\/\\/streamnative.io\\/username"), .colon, .null, .comma,
    .text (Utf8.encode userNameClaim), .colon, .text (Utf8.encode "Zo\\u00eb"), .closeObject], _,
    by decide +kernel, by decide, rfl, ?_⟩
  simp [Json.membersOf?, Json.Value.ofTree?, escaped, plain, name]

theorem userName_renamed :
    Token.userName { accessToken := "." ++ Base64.urlSafe.encode (Utf8.encode renamed) ++ "==.." } =
      .ok "Zoë" := by
  refine (((userName_reads_claims _).1 _ _ ⟨"", 2, "..", ?_⟩ decodes_renamed).1 "Zoë").mpr rfl
  exact ⟨by decide, .inr ⟨".", by decide⟩, by decide +kernel⟩

end GrantKeeper.Token
