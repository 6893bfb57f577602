import GrantKeeper.Proofs.Command.History
import GrantKeeper.Proofs.Json.WellFormed

/-! Resources as they are printed. A JSON text of whole numbers is printed as another text of the same value,
which depends on nothing but the value. Any other body is read as a text, with a replacement character for
each piece that is none, and a text that is not JSON is printed as it is. -/
namespace GrantKeeper

open Json (Reads Value)
open Utf8 (WellFormed encode lossy)

namespace Command

/-- What is printed of the body of a response, before the end of the line. -/
def printed (body : List UInt8) : String := pretty (lossy body)

variable {body other : List UInt8} {value also : Value}

theorem printed_encode (text : String) : printed (encode text) = pretty text := by
  rw [printed, Utf8.lossy_encode]

theorem printed_lossy (body : List UInt8) : printed (encode (lossy body)) = printed body :=
  printed_encode (lossy body)

theorem printed_of_parsed (parsed : Value.parse? body = some value) : printed body = value.toPretty := by
  obtain ⟨text, rfl⟩ := Json.wellFormed_of_parse? parsed
  rw [printed_encode, pretty, parsed]

theorem reads_printed (reads : Reads body value) : Reads (encode (printed body)) value := by
  rw [printed_of_parsed reads.parsed]
  exact reads.settled.reads_toPretty

theorem printed_printed (reads : Reads body value) : printed (encode (printed body)) = printed body := by
  rw [printed_of_parsed (reads_printed reads).parsed, printed_of_parsed reads.parsed]

theorem printed_eq_iff (reads : Reads body value) (other_reads : Reads other also) :
    printed body = printed other ↔ value = also := by
  constructor
  · intro same
    have parsed := (reads_printed reads).parsed
    rw [same, (reads_printed other_reads).parsed] at parsed
    exact (Option.some.inj parsed).symm
  · rintro rfl
    rw [printed_of_parsed reads.parsed, printed_of_parsed other_reads.parsed]

/-- Bytes that are no JSON are printed unchanged exactly if they are a text at all. -/
theorem encode_printed_eq_iff (unread : Value.parse? body = none) :
    encode (printed body) = body ↔ WellFormed body := by
  constructor
  · intro same
    exact ⟨printed body, same.symm⟩
  · rintro ⟨text, rfl⟩
    rw [printed_encode, pretty, unread]

def asking (url : Url) : Http.Request :=
  { url, headers := [⟨"accept", Utf8.encode "application/json", false⟩] }

variable {σ : Type} {w : Workstation (StateM σ)} {config : Config} {path : String} {world last : σ}

/-- A resource that is asked for is printed as the text of the response to the request for it. -/
theorem run_get_iff : (run w config (.get path)).run.run world = (.ok (), last) ↔
    ∃ url response done, resource config path = .ok url ∧
      (sendRequest w config (asking url)).run.run world = (.ok (.ok response), done) ∧
      response.isSuccess = true ∧ last = ((w.print (printed response.body ++ "\n")).run done).2 := by
  rw [run, printResource]
  cases located : resource config path with
  | error error =>
    constructor
    · intro ended
      cases ended
    · rintro ⟨_, _, _, ⟨⟩, -⟩
  | ok url =>
    simp only
    rw [← asking, ExceptT.run_bind, StateT.run_bind]
    constructor
    · intro ended
      rcases sent : (sendRequest w config (asking url)).run.run world with
        ⟨failed | failure | response, done⟩ <;> rw [sent] at ended
      · cases ended
      · cases ended
      · change (if response.isSuccess then printLine w (pretty response.text) else _).run.run done =
          _ at ended
        split at ended
        · next success =>
          cases ended
          exact ⟨url, response, done, rfl, sent, success, rfl⟩
        · cases ended
    · rintro ⟨_, response, done, ⟨⟩, sent, success, rfl⟩
      rw [sent]
      change (if response.isSuccess then printLine w (pretty response.text) else _).run.run done = _
      rw [if_pos success]
      rfl

end Command

/-- A resource is reformatted without a change. A JSON text of whole numbers is printed as a text of the
same value, which is printed as it is; two such texts are printed alike exactly if they have one value. Any
other body that is not JSON is printed byte for byte exactly if it is well formed. A body is printed as its
text is, in which a replacement character stands for each ill-formed piece, and the rest stands as it was.
This is all that the command prints of a response. -/
theorem Command.get_keeps_values {σ : Type} (w : Workstation (StateM σ)) (config : Config) (path : String)
    (world : σ) :
    (∀ body value, Reads body value →
      Reads (encode (printed body)) value ∧ printed (encode (printed body)) = printed body) ∧
    (∀ body other value also, Reads body value → Reads other also →
      (printed body = printed other ↔ value = also)) ∧
    (∀ body, Value.parse? body = none → (encode (printed body) = body ↔ WellFormed body)) ∧
    (∀ body, printed (encode (lossy body)) = printed body) ∧
    (∀ text rest, lossy (encode text ++ rest) = text ++ lossy rest) ∧
    (∀ first rest taken, Utf8.extent first rest = (taken, false) →
      lossy (first :: rest) = "\uFFFD" ++ lossy (rest.drop taken)) ∧
    ∀ last, (run w config (.get path)).run.run world = (.ok (), last) ↔
      ∃ url response done, resource config path = .ok url ∧
        (sendRequest w config (asking url)).run.run world = (.ok (.ok response), done) ∧
        response.isSuccess = true ∧ last = ((w.print (printed response.body ++ "\n")).run done).2 :=
  ⟨fun _ _ reads => ⟨reads_printed reads, printed_printed reads⟩, fun _ _ _ _ => printed_eq_iff,
    fun _ => encode_printed_eq_iff, printed_lossy, Utf8.lossy_append, fun _ _ _ => Utf8.lossy_broken,
    fun _ => run_get_iff⟩

namespace Console

theorem get_printed (body : List UInt8) : ∃ last,
    (Command.run station {} (.get "limits")).run.run { responses := [⟨200, body⟩] } = (.ok (), last) ∧
      last.printed = [Command.printed body ++ "\n"] := by
  have web : (Command.resource {} "limits").toOption.map Http.Network.accepts = some true := by
    decide +kernel
  cases located : Command.resource {} "limits" with
  | error error =>
    rw [located] at web
    cases web
  | ok url =>
    have accepted : Http.Network.accepts url = true := by
      rw [located] at web
      exact Option.some.inj web
    have sent : (Command.sendRequest station {} (Command.asking url)).run.run
        { responses := [⟨200, body⟩] } = (.ok (.ok ⟨200, body⟩), {}) := by
      have asked : station.network.ask (Command.asking url) = station.network.send (Command.asking url) :=
        if_pos accepted
      simp only [Command.sendRequest, Authentication.send, asked]
      rfl
    exact ⟨_, Command.run_get_iff.mpr ⟨url, _, _, located, sent, rfl, rfl⟩, rfl⟩

/-- An array of one text, which is not well formed. -/
def garbled : List UInt8 := encode "[\"" ++ 0xFF :: encode "\"]"

/-- The body is not JSON, but its text is, so the text is reformatted, and the replacement character takes
more bytes than what it stands for. -/
theorem garbled_changed :
    Value.parse? garbled = none ∧
    (∃ last, (Command.run station {} (.get "limits")).run.run { responses := [⟨200, garbled⟩] } =
        (.ok (), last) ∧ last.printed = ["[\n  \"\uFFFD\"\n]\n"]) ∧
    encode "[\n  \"\uFFFD\"\n]\n" ≠ garbled ++ encode "\n" := by
  have broken : Utf8.extent 0xFF (encode "\"]") = (0, false) := by decide
  have read : lossy garbled = "[\"\uFFFD\"]" := by
    rw [garbled, Utf8.lossy_append, Utf8.lossy_broken broken, List.drop_zero, Utf8.lossy_encode]
    rfl
  have shown : Command.pretty "[\"\uFFFD\"]" = "[\n  \"\uFFFD\"\n]" := by decide +kernel
  refine ⟨Option.isNone_iff_eq_none.mp (by decide +kernel), ?_, by decide +kernel⟩
  obtain ⟨last, ran, printed⟩ := get_printed garbled
  refine ⟨last, ran, printed.trans ?_⟩
  rw [Command.printed, read, shown]
  rfl

/-- A resource with integers at both ends of what fits into 64 bits. -/
def limits : Value :=
  .object [("a", .text "é\n"),
    ("b", .array [.number (.integer 0xFFFFFFFFFFFFFFFF), .number (.integer (-0x8000000000000000))])]

/-- The resource with a key that is given twice, with escapes, and with its members in another order. -/
def served : String :=
  "\x7b\"b\":null,\"\\u0061\":\"\\u00e9\\n\",\"b\":[18446744073709551615,-9223372036854775808]\x7d"

def servedTree : Json.Tree :=
  .object [(encode "b", .null),
    (encode "\\u0061", .text (encode "\\u00e9\\n")),
    (encode "b", .array [.numeral (encode "18446744073709551615"),
      .numeral (encode "-9223372036854775808")])]

theorem reads_served : Reads (encode served) limits := by
  have key : Json.text? (encode "\\u0061") = some "a" := by decide +kernel
  have again : Json.text? (encode "b") = some "b" := by decide +kernel
  have text : Json.text? (encode "\\u00e9\\n") = some "é\n" := by decide +kernel
  have most : Json.integer? (encode "18446744073709551615") = some 0xFFFFFFFFFFFFFFFF := by
    decide +kernel
  have least : Json.integer? (encode "-9223372036854775808") = some (-0x8000000000000000) := by
    decide +kernel
  have top : Json.Fits 0xFFFFFFFFFFFFFFFF := ⟨by decide, by decide⟩
  have bottom : Json.Fits (-0x8000000000000000) := ⟨by decide, by decide⟩
  refine .of_tree (show Json.lexemes? (encode served) = some servedTree.lexemes by decide +kernel)
    (by decide) ?_ ?_
  · simp [servedTree, Value.ofTree?, Json.membersOf?, Json.itemsOf?, key, again, text,
      Json.ofWritten?_of_integer? most top, Json.ofWritten?_of_integer? least bottom]
    rfl
  · intro written numeral
    have either : written = encode "18446744073709551615" ∨
        written = encode "-9223372036854775808" := by
      simpa [servedTree, Json.Tree.lexemes, Json.memberLexemes, Json.itemLexemes] using numeral
    rcases either with rfl | rfl
    · exact ⟨_, most, top⟩
    · exact ⟨_, least, bottom⟩

/-- The resource is printed as a text of its value, which would be printed as it is; a text that is not JSON
is printed as it is at once. -/
theorem limits_kept :
    Reads (encode (Command.printed (encode served))) limits ∧
    Command.printed (encode (Command.printed (encode served))) = Command.printed (encode served) ∧
    Command.printed (encode "pong") = "pong" ∧
    ∃ last, (Command.run station {} (.get "limits")).run.run { responses := [⟨200, encode served⟩] } =
        (.ok (), last) ∧ last.printed = [Command.printed (encode served) ++ "\n"] := by
  obtain ⟨kept, alike, unread, -⟩ :=
    Command.get_keeps_values station {} "limits" { responses := [⟨200, encode served⟩] }
  obtain ⟨reads, -⟩ := kept (encode served) limits reads_served
  have unparsed : Value.parse? (encode "pong") = none := Option.isNone_iff_eq_none.mp (by decide +kernel)
  have same := (unread (encode "pong") unparsed).mpr ⟨"pong", rfl⟩
  exact ⟨reads, (alike _ _ _ _ reads reads_served).mpr rfl, Utf8.encode_injective same, get_printed _⟩

end Console
end GrantKeeper
