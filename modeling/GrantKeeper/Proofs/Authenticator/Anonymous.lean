import GrantKeeper.Proofs.Authenticator.Faults
import GrantKeeper.Proofs.Credential.Stored
import GrantKeeper.Proofs.Grant.Renewal

/-! When requests go out without credentials. Every error on the way to a token provider has another
kind than the one for a keyring that has nothing, so only that makes an authenticator anonymous. -/
namespace GrantKeeper

variable {σ : Type}

/-! Networks of which all requests are seen. -/

/-- What is sent is put to what was sent before. -/
def Http.Network.Logged (network : Http.Network (StateM σ)) (sent : σ → List Http.Request) : Prop :=
  ∀ request world, sent ((network.send request).run world).2 = sent world ++ [request]

theorem Http.Network.Logged.ask {network : Http.Network (StateM σ)} {sent : σ → List Http.Request}
    (logged : network.Logged sent) (request : Http.Request) (world : σ) :
    sent ((network.ask request).run world).2 =
      sent world ++ if accepts request.url then [request] else [] := by
  by_cases accepted : accepts request.url
  · rw [Network.ask, if_pos accepted, if_pos accepted]
    exact logged request world
  · rw [Network.ask, if_neg accepted, if_neg accepted]
    exact (List.append_nil _).symm

/-! Discovery. -/
namespace Endpoints

/-- The request by which the endpoints of an issuer are found, if its address can be asked. -/
def inquiry (endpoint : String) : List Http.Request :=
  match documentUrl endpoint with
  | .ok url => if Http.Network.accepts url then [{ url }] else []
  | .error _ => []

/-- How a discovery may end, and the world after it. -/
inductive Discovery (network : Http.Network (StateM σ)) (endpoint : String) (world : σ) :
    Except Failure Endpoints × σ → Prop
  | unreadable {error : Error} :
    documentUrl endpoint = .error error → error.kind = .configuration →
    Discovery network endpoint world (.error (.error error), world)
  | unanswered {url : Url} {detail : String} {after : σ} {error : Error} :
    documentUrl endpoint = .ok url → (network.ask { url }).run world = (.error detail, after) →
    error.kind = .exchangeFailure →
    Discovery network endpoint world (.error (.error error), after)
  | useless {url : Url} {response : Http.Response} {after : σ} {error : Error} :
    documentUrl endpoint = .ok url → (network.ask { url }).run world = (.ok response, after) →
    error.kind = .exchangeFailure →
    Discovery network endpoint world (.error (.error error), after)
  | found {url : Url} {response : Http.Response} {after : σ} {endpoints : Endpoints} :
    documentUrl endpoint = .ok url → (network.ask { url }).run world = (.ok response, after) →
    ofResponse url response = .ok endpoints →
    Discovery network endpoint world (.ok endpoints, after)

theorem kind_of_documentUrl {endpoint : String} {error : Error}
    (unreadable : documentUrl endpoint = .error error) : error.kind = .configuration := by
  unfold documentUrl at unreadable
  split at unreadable <;> cases unreadable
  rfl

theorem kind_of_ofResponse {url : Url} {response : Http.Response} {error : Error}
    (useless : ofResponse url response = .error error) : error.kind = .exchangeFailure := by
  unfold ofResponse at useless
  split at useless
  · split at useless <;> cases useless
    rfl
  · cases useless
    rfl

theorem discovery_discover (network : Http.Network (StateM σ)) (endpoint : String) (world : σ) :
    Discovery network endpoint world ((discover network endpoint).outcome world) := by
  rw [discover, Act.outcome_bind, Act.outcome_ofExcept]
  cases read : documentUrl endpoint with
  | error error => exact .unreadable read (kind_of_documentUrl read)
  | ok url =>
    simp only [Act.except_mapError_ok, Act.outcome_bind, Act.outcome_step]
    rcases asked : (network.ask { url }).run world with ⟨detail | response, after⟩
    · exact .unanswered read asked rfl
    · simp only [Act.outcome_ofExcept]
      cases offered : ofResponse url response with
      | error error => exact .useless read asked (kind_of_ofResponse offered)
      | ok endpoints => exact .found read asked offered

theorem kind_of_discover {network : Http.Network (StateM σ)} {endpoint : String} {world after : σ}
    {failure : Failure} (failed : (discover network endpoint).outcome world = (.error failure, after)) :
    ∃ error, failure = .error error ∧ error.kind ≠ .credentialUnavailable := by
  have discovery := discovery_discover network endpoint world
  rw [failed] at discovery
  cases discovery with
  | unreadable _ kind | unanswered _ _ kind | useless _ _ kind =>
    exact ⟨_, rfl, by rw [kind]; decide⟩

theorem sent_discover {network : Http.Network (StateM σ)} {sent : σ → List Http.Request}
    (logged : network.Logged sent) (endpoint : String) (world : σ) :
    sent ((discover network endpoint).outcome world).2 = sent world ++ inquiry endpoint := by
  have discovery := discovery_discover network endpoint world
  generalize (discover network endpoint).outcome world = ended at discovery ⊢
  cases discovery with
  | unreadable read => simp [inquiry, read]
  | @unanswered url _ _ _ read asked | @useless url _ _ _ read asked | @found url _ _ _ read asked =>
    have seen := logged.ask { url } world
    rw [asked] at seen
    simpa only [inquiry, read] using seen

end Endpoints

/-! Credentials, as a keyring answers for them. -/
namespace Credential

/-- Data of an item decode to a record that holds what its kind needs. -/
def Holds (item : KeyringItem) (record : GrantRecord) : Prop :=
  GrantRecord.decode? item.data = some record ∧ record.validate = .ok ()

theorem ofItem_of_holds {item : KeyringItem} {record : GrantRecord} (holds : Holds item record)
    (audience : String) : ofItem audience item = .ok ⟨audience, item.label, record⟩ := by
  obtain ⟨decoded, valid⟩ := holds
  simp [ofItem, decoded, GrantRecord.isUsable_of_validate valid]

theorem ofItem_of_not_holds {item : KeyringItem} (useless : ∀ record, ¬Holds item record)
    (audience : String) : ofItem audience item = .error .unusableAuthenticationData := by
  unfold ofItem
  split
  · next record decoded =>
    have unusable : ¬record.isUsable := fun usable =>
      useless record ⟨decoded, GrantRecord.validate_eq_ok usable⟩
    rw [if_neg unusable]
  · rfl

def ofAnswer (audience : String) : Except Error (Option KeyringItem) → Except Error Credential
  | .error error => .error (asRead error)
  | .ok none => .error .noAuthenticationData
  | .ok (some item) => ofItem audience item

theorem outcome_load_of_get {keyring : Keyring (StateM σ)} {audience : String} {world found : σ}
    {answer : Except Error (Option KeyringItem)}
    (answered : (keyring.get (keyOf audience)).outcome world = (answer.mapError .error, found)) :
    (load keyring audience).outcome world = ((ofAnswer audience answer).mapError .error, found) := by
  rw [load, Act.outcome_bind, Act.outcome_mapError, answered]
  rcases answer with error | _ | item
  · rfl
  · rfl
  · simp only [Act.except_mapError_ok, Act.outcome_ofExcept, ofAnswer]

end Credential

namespace Authenticator

open Credential (keyOf Holds)

variable (a : Authenticator (StateM σ))

/-- An exchanger can be had: there is one, or the issuer's endpoints can be found. -/
def Equipped (world : σ) : Prop :=
  a.exchanger.isSome ∨ a.issuer.endpoint ≠ "" ∧ ∃ endpoints after,
    (Endpoints.discover a.machine.network a.issuer.endpoint).outcome world = (.ok endpoints, after)

def inquiry : List Http.Request :=
  if a.exchanger.isSome ∨ a.issuer.endpoint = "" then [] else Endpoints.inquiry a.issuer.endpoint

variable {a} {world : σ} {sent : σ → List Http.Request}

theorem findExchanger_of_own {exchanger : Exchanger (StateM σ)} (own : a.exchanger = some exchanger) :
    a.findExchanger = pure exchanger := by
  rw [findExchanger, own]

theorem findExchanger_of_nowhere (none_ : a.exchanger = none) (nowhere : a.issuer.endpoint = "") :
    a.findExchanger = Act.fail (.configuration "required: issuer-endpoint") := by
  simp [findExchanger, none_, nowhere]

theorem findExchanger_of_issuer (none_ : a.exchanger = none) (somewhere : a.issuer.endpoint ≠ "") :
    a.findExchanger = do
      let endpoints ← Endpoints.discover a.machine.network a.issuer.endpoint
      return (a.machine.tokenEndpoint endpoints).exchanger := by
  simp [findExchanger, none_, somewhere]

theorem sent_findExchanger (logged : a.machine.network.Logged sent) (world : σ) :
    sent (a.findExchanger.outcome world).2 = sent world ++ a.inquiry := by
  cases own : a.exchanger with
  | some exchanger => simp [findExchanger_of_own own, inquiry, own]
  | none =>
    by_cases nowhere : a.issuer.endpoint = ""
    · simp [findExchanger_of_nowhere own nowhere, inquiry, nowhere]
    · have seen := Endpoints.sent_discover logged a.issuer.endpoint world
      rw [findExchanger_of_issuer own nowhere, Act.outcome_bind]
      rcases asked : (Endpoints.discover a.machine.network a.issuer.endpoint).outcome world with
        ⟨_ | _, after⟩ <;> rw [asked] at seen <;> simpa [inquiry, own, nowhere] using seen

/-- How the search for an exchanger may end. Its errors do not say that credentials are missing. -/
inductive Finds (a : Authenticator (StateM σ)) (world : σ) :
    Except Failure (Exchanger (StateM σ)) × σ → Prop
  | found {exchanger : Exchanger (StateM σ)} {after : σ} :
    a.Equipped world → Finds a world (.ok exchanger, after)
  | failed {error : Error} {after : σ} :
    ¬a.Equipped world → error.kind ≠ .credentialUnavailable →
    Finds a world (.error (.error error), after)

theorem finds_findExchanger (a : Authenticator (StateM σ)) (world : σ) :
    a.Finds world (a.findExchanger.outcome world) := by
  cases own : a.exchanger with
  | some exchanger =>
    rw [findExchanger_of_own own]
    exact .found (.inl (by simp [own]))
  | none =>
    by_cases nowhere : a.issuer.endpoint = ""
    · rw [findExchanger_of_nowhere own nowhere]
      exact .failed (by simp [Equipped, own, nowhere]) (by decide)
    · rw [findExchanger_of_issuer own nowhere, Act.outcome_bind]
      rcases asked : (Endpoints.discover a.machine.network a.issuer.endpoint).outcome world with
        ⟨failure | endpoints, after⟩
      · obtain ⟨error, rfl, kind⟩ := Endpoints.kind_of_discover asked
        exact .failed (by simp [Equipped, own, asked]) kind
      · exact .found (.inr ⟨nowhere, endpoints, after, asked⟩)

def Stored (answer : Except Error (Option KeyringItem)) : Prop :=
  ∃ item record, answer = .ok (some item) ∧ Holds item record

theorem Stored.present {answer : Except Error (Option KeyringItem)} (stored : Stored answer) :
    answer ≠ .ok none := by
  obtain ⟨_, _, rfl, -⟩ := stored
  simp

theorem not_stored_of_useless {item : KeyringItem} (useless : ∀ record, ¬Holds item record) :
    ¬Stored (.ok (some item)) := by
  rintro ⟨_, record, same, holds⟩
  cases same
  exact useless record holds

@[simp] theorem not_stored_none : ¬Stored (.ok none) := by simp [Stored]

@[simp] theorem not_stored_error (error : Error) : ¬Stored (.error error) := by simp [Stored]

/-- How authenticating may end, with what the keyring answers, in the world that it leaves. -/
inductive Authenticates (a : Authenticator (StateM σ)) (audience : String)
    (answer : Except Error (Option KeyringItem)) (found : σ) :
    Except Failure (Authentication (StateM σ)) × σ → Prop
  | anonymous : answer = .ok none → Authenticates a audience answer found (.ok .anonymous, found)
  | unread {error : Error} : answer = .error error →
    Authenticates a audience answer found (.error (.error (.storeRead error.message)), found)
  | unusable {item : KeyringItem} : answer = .ok (some item) → (∀ record, ¬Holds item record) →
    Authenticates a audience answer found (.error (.error .unusableAuthenticationData), found)
  | unequipped {error : Error} {after : σ} : Stored answer → ¬a.Equipped found →
    error.kind ≠ .credentialUnavailable → (a.findExchanger.outcome found).2 = after →
    Authenticates a audience answer found (.error (.error error), after)
  | equipped {item : KeyringItem} {record : GrantRecord} {provision : Provision (StateM σ)}
    {after : σ} : answer = .ok (some item) → Holds item record → a.Equipped found →
    provision.holding.credential = ⟨audience, item.label, record⟩ →
    (a.findExchanger.outcome found).2 = after →
    Authenticates a audience answer found (.ok (.oauth2 provision), after)

theorem outcome_authentication (a : Authenticator (StateM σ)) (audience : String) (world : σ) :
    (a.authentication audience).outcome world =
      match (a.tokenProvider audience).outcome world with
      | (.ok provision, after) => (.ok (.oauth2 provision), after)
      | (.error (.error error), after) =>
        (if error.kind = .credentialUnavailable then .ok .anonymous else .error (.error error), after)
      | (.error (.fault fault), after) => (.error (.fault fault), after) := by
  rw [authentication, Act.outcome_bind, Act.outcome_attempt]
  rcases (a.tokenProvider audience).outcome world with ⟨(error | fault) | provision, after⟩
  · by_cases missing : error.kind = .credentialUnavailable <;> simp [missing]
  · rfl
  · rfl

theorem outcome_tokenProvider_of_holds {audience : String} {item : KeyringItem}
    {record : GrantRecord} (holds : Holds item record) {found : σ}
    (answered : (a.keyring.get (keyOf audience)).outcome world = (.ok (some item), found)) :
    ∃ grant, (a.tokenProvider audience).outcome world =
      ((a.findExchanger.outcome found).1.map fun exchanger =>
          ⟨⟨a.keyring, exchanger, a.machine.clock, a.count⟩, ⟨grant, ⟨audience, item.label, record⟩⟩⟩,
        (a.findExchanger.outcome found).2) := by
  have loaded : (Credential.load a.keyring audience).outcome world =
      ((Credential.ofAnswer audience (.ok (some item))).mapError .error, found) :=
    Credential.outcome_load_of_get answered
  simp only [Credential.ofAnswer, Credential.ofItem_of_holds holds, Act.except_mapError_ok] at loaded
  obtain ⟨grant, made⟩ :=
    Grant.exists_ofRecord a.issuer audience (GrantRecord.isUsable_of_validate holds.2)
  refine ⟨grant, ?_⟩
  rw [tokenProvider, Act.outcome_bind, loaded]
  simp only [Act.outcome_bind, Act.outcome_ofExcept, made]
  rcases a.findExchanger.outcome found with ⟨failure | exchanger, after⟩ <;> rfl

theorem authenticates (a : Authenticator (StateM σ)) (audience : String) {found : σ}
    {answer : Except Error (Option KeyringItem)}
    (answered : (a.keyring.get (keyOf audience)).outcome world = (answer.mapError .error, found)) :
    a.Authenticates audience answer found ((a.authentication audience).outcome world) := by
  have loaded := Credential.outcome_load_of_get answered
  have unprovided {error : Error}
      (failed : (Credential.load a.keyring audience).outcome world = (.error (.error error), found)) :
      (a.tokenProvider audience).outcome world = (.error (.error error), found) := by
    rw [tokenProvider, Act.outcome_bind, failed]
  rw [outcome_authentication]
  rcases answer with error | _ | item
  · rw [unprovided loaded]
    exact .unread rfl
  · rw [unprovided loaded]
    exact .anonymous rfl
  by_cases holds : ∃ record, Holds item record
  case neg =>
    have useless : ∀ record, ¬Holds item record := not_exists.mp holds
    simp only [Credential.ofAnswer, Credential.ofItem_of_not_holds useless] at loaded
    rw [unprovided loaded]
    exact .unusable rfl useless
  obtain ⟨record, holds⟩ := holds
  obtain ⟨grant, provided⟩ := outcome_tokenProvider_of_holds holds answered
  have finds := a.finds_findExchanger found
  rcases search : a.findExchanger.outcome found with ⟨result, after⟩
  rw [search] at finds
  rw [provided, search]
  cases finds with
  | failed unequipped kind =>
    simp only [Except.map, if_neg kind]
    exact .unequipped ⟨item, record, rfl, holds⟩ unequipped kind (congrArg Prod.snd search)
  | found equipped => exact .equipped rfl holds equipped rfl (congrArg Prod.snd search)

/-- An authenticator is anonymous exactly if the keyring has nothing for the audience. It shows tokens
exactly if there is a usable record and an exchanger, and ends in an error of another kind in all other
cases; and it sends nothing unless there is a usable record. -/
theorem anonymous_iff_absent (a : Authenticator (StateM σ)) (audience : String) {world found : σ}
    (answer : Except Error (Option KeyringItem))
    (answered : (a.keyring.get (keyOf audience)).outcome world = (answer.mapError .error, found))
    (logged : a.machine.network.Logged sent) (quiet : sent found = sent world) :
    ∃ result after, (a.authentication audience).outcome world = (result, after) ∧
      (result = .ok .anonymous ↔ answer = .ok none) ∧
      ((∃ provision, result = .ok (.oauth2 provision)) ↔ Stored answer ∧ a.Equipped found) ∧
      ((∃ error, result = .error (.error error) ∧ error.kind ≠ .credentialUnavailable) ↔
        answer ≠ .ok none ∧ ¬(Stored answer ∧ a.Equipped found)) ∧
      (¬Stored answer → sent after = sent world) ∧
      (Stored answer → sent after = sent world ++ a.inquiry) := by
  have ends := a.authenticates audience answered
  have asks := sent_findExchanger logged found
  rw [quiet] at asks
  generalize (a.authentication audience).outcome world = ended at ends ⊢
  refine ⟨ended.1, ended.2, rfl, ?_⟩
  cases ends with
  | anonymous absent =>
    subst absent
    simp [quiet]
  | unread failed =>
    subst failed
    simp [quiet, Error.kind]
  | unusable present useless =>
    subst present
    simp [quiet, not_stored_of_useless useless, Error.kind]
  | unequipped stored unequipped kind search =>
    rw [search] at asks
    simp [stored, stored.present, unequipped, kind, asks]
  | equipped present holds equipped _ search =>
    have stored : Stored answer := ⟨_, _, present, holds⟩
    rw [search] at asks
    simp [stored, stored.present, equipped, asks]

/-! A world that is the requests that were sent, with an issuer that answers each with its document. -/
namespace Mailbox

def machine : Login.Machine (StateM (List Http.Request)) where
  network := { send request := do
    modify (· ++ [request])
    return .ok Line.document }
  files := {
    read _ := return .error .missing
    createDirectories _ := return .error (.other "no files")
    write _ _ := return .error (.other "no files")
    restrict _ := return .error .missing
    rename _ _ := return .error .missing }
  clock := return Instant.epoch
  timer := { now := return 0, sleep _ := return }
  patience := 10

def authenticator (answer : Except Error (Option KeyringItem)) :
    Authenticator (StateM (List Http.Request)) where
  issuer := { endpoint := "http://issuer", clientId := "client" }
  keyring := {
    get _ := Act.ofExcept answer
    set _ := return ()
    remove _ := return false
    keys := return [] }
  machine := machine
  count _ := return ()

/-- A device's record, and data that are none. -/
def stored : KeyringItem := ⟨"key", "user", (GrantRecord.deviceCode { refreshToken := "r" }).encode⟩
def garbled : KeyringItem := ⟨"key", "user", "[]"⟩

theorem logged : machine.network.Logged id := fun _ _ => rfl

theorem stored_stored : Stored (.ok (some stored)) :=
  ⟨stored, _, rfl, GrantRecord.decode?_encode _, rfl⟩

theorem not_stored_garbled : ¬Stored (.ok (some garbled)) := by
  rintro ⟨_, record, same, decoded, -⟩
  cases same
  have nothing : GrantRecord.decode? garbled.data = none := by decide +kernel
  cases nothing.symm.trans decoded

theorem equipped (answer : Except Error (Option KeyringItem)) : (authenticator answer).Equipped [] := by
  refine .inr ⟨by simp [authenticator], Line.endpoints, Endpoints.inquiry "http://issuer", ?_⟩
  show (Endpoints.discover machine.network "http://issuer").outcome [] = _
  decide +kernel

end Mailbox

/-- With nothing stored nobody is asked for endpoints, and neither with garbled data, which are an
error; with a device's record the issuer is asked once. -/
theorem anonymous_only_without_mail :
    ((Mailbox.authenticator (.ok none)).authentication "audience").outcome [] =
      (.ok .anonymous, []) ∧
    (∃ error, ((Mailbox.authenticator (.ok (some Mailbox.garbled))).authentication "audience").outcome
      [] = (.error (.error error), []) ∧ error.kind ≠ .credentialUnavailable) ∧
    ∃ provision after,
      ((Mailbox.authenticator (.ok (some Mailbox.stored))).authentication "audience").outcome [] =
        (.ok (.oauth2 provision), after) ∧
      after.map (·.url.text) = ["http://issuer/.well-known/openid-configuration"] := by
  obtain ⟨_, _, absent, anonymous, -, -, unasked, -⟩ :=
    anonymous_iff_absent (Mailbox.authenticator (.ok none)) "audience" (.ok none) rfl
      Mailbox.logged rfl
  obtain ⟨_, _, garbled, -, -, refused, quiet, -⟩ :=
    anonymous_iff_absent (Mailbox.authenticator (.ok (some Mailbox.garbled))) "audience"
      (.ok (some Mailbox.garbled)) rfl Mailbox.logged rfl
  obtain ⟨_, _, stored, -, shown, -, -, asked⟩ :=
    anonymous_iff_absent (Mailbox.authenticator (.ok (some Mailbox.stored))) "audience"
      (.ok (some Mailbox.stored)) rfl Mailbox.logged rfl
  obtain ⟨error, rfl, kind⟩ :=
    refused.mpr ⟨by simp, fun shown => Mailbox.not_stored_garbled shown.1⟩
  obtain ⟨provision, rfl⟩ := shown.mpr ⟨Mailbox.stored_stored, Mailbox.equipped _⟩
  obtain rfl := anonymous.mpr rfl
  obtain rfl := unasked not_stored_none
  obtain rfl := quiet Mailbox.not_stored_garbled
  obtain rfl := asked Mailbox.stored_stored
  refine ⟨absent, ⟨error, garbled, kind⟩, provision, _, stored, ?_⟩
  decide +kernel

end Authenticator
end GrantKeeper
