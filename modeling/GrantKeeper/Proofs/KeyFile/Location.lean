import GrantKeeper.Files.Tree
import GrantKeeper.KeyFile.Location
import GrantKeeper.Proofs.Encoding.Base64
import GrantKeeper.Proofs.Grant.Record
import GrantKeeper.Proofs.Login
import GrantKeeper.Proofs.Text.Pieces

/-! Key files are the same from wherever they are loaded: from a file, by its path or address, and from
data that stands inline. -/
namespace GrantKeeper.KeyFile

variable {bytes : List UInt8} {k : KeyFile}

/-- The key file that bytes are, if it is one of a service account. -/
def ofBytes? (bytes : List UInt8) : Option KeyFile :=
  (Json.Tree.parse? bytes >>= ofJson?).filter (·.type = serviceAccount)

theorem toOption_parse (bytes : List UInt8) (origin : String) :
    (parse bytes origin).toOption = ofBytes? bytes := by
  unfold parse ofBytes?
  cases Json.Tree.parse? bytes >>= ofJson? with
  | none => rfl
  | some k => by_cases usable : k.type = serviceAccount <;> simp [usable, Except.toOption, Option.filter]

theorem kind_of_parse {origin : String} {error : Error} (refused : parse bytes origin = .error error) :
    error.kind = .configuration := by
  unfold parse at refused
  split at refused
  · cases refused
    rfl
  · split at refused <;> cases refused
    rfl

theorem type_of_ofBytes? (read : ofBytes? bytes = some k) : k.type = serviceAccount := by
  simpa using (Option.filter_eq_some_iff.mp read).2

theorem ofBytes?_written {text : String}
    (written : text = k.toJson.toCompact ∨ text = k.toJson.toPretty) :
    ofBytes? (Utf8.encode text) = if k.type = serviceAccount then some k else none := by
  have parsed : Json.Tree.parse? (Utf8.encode text) = some k.toJson.tree := by
    rcases written with rfl | rfl
    · exact Json.parse?_toCompact k.legible_toJson
    · exact Json.parse?_toPretty k.legible_toJson
  rw [ofBytes?, parsed, Option.bind_eq_bind, Option.bind_some, ofJson?_toJson]
  by_cases usable : k.type = serviceAccount <;> simp [usable, Option.filter]

namespace Location

variable {σ : Type} {files : Files (StateM σ)} {world : σ} {path text : String}

/-! What a location names. -/

theorem ofText_path (bare : path.startsWith "data:" = false) (pathLike : path.startsWith "file://" = false) :
    ofText path = .path path := by
  rw [ofText, Text.after?_eq_none bare, Text.after?_eq_none pathLike]
  rfl

theorem ofText_address (path : String) : ofText ("file://" ++ path) = .path path := by
  have other : Text.after? "data:" ("file://" ++ path) = none := by
    rw [Text.after?, String.toList_append]
    rfl
  rw [ofText, other, Text.after?_append]
  rfl

theorem ofText_data (data : String) : ofText ("data:" ++ data) = .inline data := by
  rw [ofText, Text.after?_append]

theorem inlineBytes_base64 (bytes : List UInt8) :
    inlineBytes ("application/json;base64," ++ Base64.standard.encode bytes) = .ok bytes := by
  have divided : Text.splitFirst ',' ("application/json;base64," ++ Base64.standard.encode bytes) =
      some ("application/json;base64", Base64.standard.encode bytes) :=
    Text.splitFirst_append "application/json;base64" _ (by decide)
  have mediaType : Text.before? ";base64" "application/json;base64" = some "application/json" :=
    Text.before?_append "application/json" ";base64"
  have decoded : Base64.standard.decode? (Base64.standard.encode bytes).toList = some bytes := by
    rw [Base64.Alphabet.encode, String.toList_ofList]
    exact Base64.decode?_encodeChars Base64.sound_standard bytes
  simp only [inlineBytes, divided, mediaType, decoded]
  rfl

theorem inlineBytes_plain (text : String) :
    inlineBytes ("application/json," ++ text) = .ok (Utf8.encode text) := by
  have divided : Text.splitFirst ',' ("application/json," ++ text) = some ("application/json", text) :=
    Text.splitFirst_append "application/json" text (by decide)
  have mediaType : Text.before? ";base64" "application/json" = none := by decide
  simp only [inlineBytes, divided, mediaType]
  rfl

/-! What is loaded. -/

def supplied (files : Files (StateM σ)) (world : σ) : Location → Except Error (List UInt8)
  | .path name => ((files.read name).run world).1.mapError fun error =>
      .file ("reading key file " ++ name ++ ": " ++ error.text)
  | .inline data => inlineBytes data

def origin : Location → String
  | .path name => name
  | .inline _ => "inline key file"

theorem result_load (files : Files (StateM σ)) (location : Location) (world : σ) :
    ((location.load files).outcome world).1 =
      (location.supplied files world >>= (parse · location.origin)).mapError .error := by
  cases location with
  | path name =>
    rw [load, Act.outcome_bind, Act.outcome_step, supplied]
    cases ((files.read name).run world).1 with
    | ok bytes => exact congrArg Prod.fst (Act.outcome_ofExcept (parse bytes name) _)
    | error error => rfl
  | inline data => exact congrArg Prod.fst (Act.outcome_ofExcept _ world)

theorem kind_of_inlineBytes {data : String} {error : Error} (refused : inlineBytes data = .error error) :
    error.kind = .configuration := by
  cases divided : Text.splitFirst ',' data with
  | none =>
    simp only [inlineBytes, divided] at refused
    cases refused
    rfl
  | some sides =>
    cases stripped : Text.before? ";base64" sides.1 with
    | none =>
      simp only [inlineBytes, divided, stripped, Bool.false_eq_true, ↓reduceIte] at refused
      split at refused <;> cases refused
      rfl
    | some mime =>
      simp only [inlineBytes, divided, stripped, ↓reduceIte] at refused
      split at refused
      · cases refused
        rfl
      · split at refused <;> cases refused
        rfl

theorem kind_of_supplied {location : Location} {error : Error}
    (refused : location.supplied files world = .error error) : error.kind = .configuration := by
  cases location with
  | path name =>
    rw [supplied] at refused
    cases read : ((files.read name).run world).1 with
    | ok bytes =>
      rw [read] at refused
      cases refused
    | error error =>
      rw [read] at refused
      cases refused
      rfl
  | inline data => exact kind_of_inlineBytes refused

/-- What a location supplies is all that counts. -/
theorem toOption_load {location : Location} (holds : location.supplied files world = .ok bytes) :
    ((location.load files).outcome world).1.toOption = ofBytes? bytes := by
  rw [result_load, holds, ← toOption_parse bytes location.origin]
  show ((parse bytes location.origin).mapError Failure.error).toOption = _
  cases parse bytes location.origin <;> rfl

theorem failure_of_load {location : Location} {failure : Failure}
    (failed : ((location.load files).outcome world).1 = .error failure) :
    ∃ error, failure = .error error ∧ error.kind = .configuration := by
  rw [result_load] at failed
  cases given : location.supplied files world with
  | error error =>
    rw [given] at failed
    cases failed
    exact ⟨error, rfl, kind_of_supplied given⟩
  | ok bytes =>
    rw [given] at failed
    change (parse bytes location.origin).mapError Failure.error = _ at failed
    cases parsed : parse bytes location.origin with
    | error error =>
      rw [parsed] at failed
      cases failed
      exact ⟨error, rfl, kind_of_parse parsed⟩
    | ok k =>
      rw [parsed] at failed
      cases failed

theorem type_of_load {location : Location}
    (loaded : ((location.load files).outcome world).1 = .ok k) : k.type = serviceAccount := by
  cases given : location.supplied files world with
  | error error =>
    rw [result_load, given] at loaded
    cases loaded
  | ok bytes =>
    have read := toOption_load given
    rw [loaded] at read
    exact type_of_ofBytes? read.symm

/-- The locations that a text has in a file and outside: the path of the file, its address, and the text
itself, in base64 and as it is. -/
def locations (path text : String) : List String :=
  [path, "file://" ++ path,
    "data:application/json;base64," ++ Base64.standard.encode (Utf8.encode text),
    "data:application/json," ++ text]

theorem supplied_ofText (bare : path.startsWith "data:" = false)
    (plain : path.startsWith "file://" = false)
    (holds : ((files.read path).run world).1 = .ok (Utf8.encode text)) :
    ∀ location ∈ locations path text,
      (ofText location).supplied files world = .ok (Utf8.encode text) := by
  have filed : (Location.path path).supplied files world = .ok (Utf8.encode text) := by
    rw [supplied, holds]
    rfl
  have base64 : "data:application/json;base64," ++ Base64.standard.encode (Utf8.encode text) =
      "data:" ++ ("application/json;base64," ++ Base64.standard.encode (Utf8.encode text)) := by
    rw [← String.append_assoc]
    rfl
  have inline : "data:application/json," ++ text = "data:" ++ ("application/json," ++ text) := by
    rw [← String.append_assoc]
    rfl
  simp only [locations, List.forall_mem_cons, List.not_mem_nil, false_implies, implies_true, and_true]
  refine ⟨?_, ?_, ?_, ?_⟩
  · rw [ofText_path bare plain, filed]
  · rw [ofText_address, filed]
  · rw [base64, ofText_data, supplied, inlineBytes_base64]
  · rw [inline, ofText_data, supplied, inlineBytes_plain]

/-- A key file is loaded from all of its locations or from none, and it is the same one. It is loaded back
if its type can be used, and no other is; nothing but the configuration is ever to blame. -/
theorem locations_agree (files : Files (StateM σ)) (world : σ) {path text : String}
    (bare : path.startsWith "data:" = false) (plain : path.startsWith "file://" = false)
    (holds : ((files.read path).run world).1 = .ok (Utf8.encode text)) :
    (∃ found : Option KeyFile, ∀ location ∈ locations path text,
      (((ofText location).load files).outcome world).1.toOption = found) ∧
    (∀ k : KeyFile, text = k.toJson.toCompact ∨ text = k.toJson.toPretty →
      ∀ location ∈ locations path text, (((ofText location).load files).outcome world).1.toOption =
        if k.type = serviceAccount then some k else none) ∧
    ∀ location,
      (∀ k, (((ofText location).load files).outcome world).1 = .ok k → k.type = serviceAccount) ∧
      ∀ failure, (((ofText location).load files).outcome world).1 = .error failure →
        ∃ error, failure = .error error ∧ error.kind = .configuration := by
  have supplies := supplied_ofText bare plain holds
  refine ⟨⟨ofBytes? (Utf8.encode text), fun location named => toOption_load (supplies location named)⟩,
    fun k written location named => ?_,
    fun location => ⟨fun k => type_of_load, fun failure => failure_of_load⟩⟩
  rw [toOption_load (supplies location named), ofBytes?_written written]

/-- A service account whose texts look like pieces of locations. -/
def confusing : KeyFile where
  type := serviceAccount
  clientId := "application/json,"
  clientSecret := ⟨"p\u00e4\"ss;base64,"⟩
  clientEmail := "data:,file://"

def drawer : Files.Tree where
  nodes := .ofList [("/key", .file (Utf8.encode confusing.toJson.toCompact) 0o600)]

theorem locations_agree_confusing :
    (locations "/key" confusing.toJson.toCompact).map (fun location =>
      (((ofText location).load Files.Tree.files).outcome drawer).1.toOption) =
        List.replicate 4 (some confusing) := by
  have holds : ((Files.Tree.files.read "/key").run drawer).1 =
      .ok (Utf8.encode confusing.toJson.toCompact) := eq_ok_of_toOption (by decide +kernel)
  apply List.map_eq_replicate_iff.mpr
  intro location named
  exact (locations_agree Files.Tree.files drawer (by decide) (by decide) holds).2.1
    confusing (.inl rfl) location named

end Location
end GrantKeeper.KeyFile
