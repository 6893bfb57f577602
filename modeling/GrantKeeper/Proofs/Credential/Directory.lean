import Mathlib.Data.Set.Function
import GrantKeeper.Proofs.Credential.Stored

/-! Credentials as a map from audiences. The keys of a keyring are digests and its data are texts, but
as long as no two audiences have the same digest, a keyring answers as the map would: with what was
saved for an audience last, unless that was removed since. -/
namespace GrantKeeper

/-- A record names a user: that of its service account, or the one in its device's token. -/
inductive GrantRecord.Names : GrantRecord → String → Prop
  | service (keyFile : KeyFile) (token : Option Token) :
    Names ⟨.clientCredentials, some keyFile, token⟩ keyFile.clientEmail
  | device (keyFile : Option KeyFile) {token : Token} {name : String} :
    token.userName = .ok name → Names ⟨.deviceCode, keyFile, some token⟩ name

theorem Credential.userNameOf_eq_ok_iff {record : GrantRecord} {name : String} :
    userNameOf record = .ok name ↔ record.Names name := by
  constructor
  · intro named
    obtain ⟨_ | _, keyFile, token⟩ := record
    · cases keyFile with
      | none => cases named
      | some keyFile =>
        cases named
        exact .service keyFile token
    · cases token with
      | none => cases named
      | some token => exact .device keyFile named
  · rintro (⟨keyFile, token⟩ | ⟨keyFile, named⟩)
    · rfl
    · exact named

/-- What is found for each audience: nothing, a credential, or something that cannot be used. -/
abbrev Directory := String → Option (Except Error Credential)

namespace Directory

inductive Operation
  | save (audience : String) (record : GrantRecord)
  | loadGrant (audience : String)
  | whoAmI (audience : String)
  | remove (audience : String)
  | logout

inductive Reply
  | done
  | grant (record : GrantRecord)
  | user (name : String)

namespace Operation

/-- The audience that an operation is for; a logout is for all. -/
def audience? : Operation → Option String
  | save audience _ | loadGrant audience | whoAmI audience | remove audience => some audience
  | logout => none

def Within (used : Set String) (operation : Operation) : Prop :=
  ∀ audience, operation.audience? = some audience → audience ∈ used

/-- An operation changes what is kept for an audience: a save that is accepted, a removal, or a
logout. -/
def Touches (audience : String) : Operation → Prop
  | save saved record => saved = audience ∧ ∃ name, record.Names name
  | remove removed => removed = audience
  | logout => True
  | loadGrant _ | whoAmI _ => False

def act {m : Type → Type} [Monad m] (keyring : Keyring m) : Operation → Act m Reply
  | save audience record => do
    Credential.save keyring audience record
    return .done
  | loadGrant audience => return .grant (← Credential.loadGrant keyring audience)
  | whoAmI audience => return .user (← Credential.whoAmI keyring audience)
  | remove audience => do
    Credential.remove keyring (Credential.keyOf audience)
    return .done
  | logout => do
    Credential.logout keyring
    return .done

end Operation

/-- Operations on a keyring, each with its reply or error. -/
def carryOut {m : Type → Type} [Monad m] (keyring : Keyring m) :
    List Operation → Act m (List (Except Error Reply))
  | [] => return []
  | operation :: rest => do
    let reply ← (operation.act keyring).attempt
    return reply :: (← carryOut keyring rest)

def find (directory : Directory) (audience : String) : Except Error Credential :=
  (directory audience).getD (.error .noAuthenticationData)

def reply (directory : Directory) : Operation → Except Error Reply
  | .save _ record => (Credential.userNameOf record).map fun _ => .done
  | .loadGrant audience => (directory.find audience).map fun credential => .grant credential.grant
  | .whoAmI audience => (directory.find audience).map fun credential => .user credential.userName
  | .remove _ | .logout => .ok .done

/-- The directory after an operation. A record that names no user is not taken in, and one that does is
kept as it is after having been stored. -/
def after (directory : Directory) : Operation → Directory
  | .save audience record =>
    match Credential.userNameOf record with
    | .ok name => Function.update directory audience (some (.ok ⟨audience, name, record.normalized⟩))
    | .error _ => directory
  | .remove audience => Function.update directory audience none
  | .logout => fun _ => none
  | .loadGrant _ | .whoAmI _ => directory

/-- The replies of a directory to operations, and the directory after them. -/
def follow : Directory → List Operation → List (Except Error Reply) × Directory
  | directory, [] => ([], directory)
  | directory, operation :: rest =>
    let later := follow (directory.after operation) rest
    (directory.reply operation :: later.1, later.2)

theorem after_of_not_touches {directory : Directory} {audience : String} {operation : Operation}
    (untouched : ¬operation.Touches audience) :
    directory.after operation audience = directory audience := by
  cases operation with
  | save saved record =>
    rw [after]
    cases named : Credential.userNameOf record with
    | error error => rfl
    | ok name =>
      have other : audience ≠ saved := fun same =>
        untouched ⟨same.symm, name, Credential.userNameOf_eq_ok_iff.mp named⟩
      exact Function.update_of_ne other _ _
  | remove removed =>
    have other : audience ≠ removed := fun same => untouched same.symm
    exact Function.update_of_ne other _ _
  | logout => exact absurd trivial untouched
  | loadGrant | whoAmI => rfl

theorem follow_of_not_touches {audience : String} {operations : List Operation}
    (untouched : ∀ operation ∈ operations, ¬operation.Touches audience) (directory : Directory) :
    (directory.follow operations).2 audience = directory audience := by
  induction operations generalizing directory with
  | nil => rfl
  | cons operation rest ih =>
    have first := untouched operation List.mem_cons_self
    have others := fun later member => untouched later (List.mem_cons_of_mem _ member)
    rw [follow, ih others, after_of_not_touches first]

theorem follow_append (directory : Directory) (before operations : List Operation) :
    (directory.follow (before ++ operations)).2 =
      ((directory.follow before).2.follow operations).2 := by
  induction before generalizing directory with
  | nil => rfl
  | cons operation rest ih => exact ih _

def ofEntries (entries : Entries) : Directory := fun audience =>
  (entries.item? (Credential.keyOf audience)).map (Credential.ofItem audience)

def Agree (used : Set String) (entries : Entries) (directory : Directory) : Prop :=
  ∀ audience ∈ used, ofEntries entries audience = directory audience

variable {σ : Type} {keyring : Keyring (StateM σ)} {ledger : σ → Ledger} {used : Set String}
  {directory : Directory} {entries : Entries} {world : σ}

theorem Agree.save (apart : used.InjOn Credential.keyOf) (agree : Agree used entries directory)
    {audience name : String} {record : GrantRecord} (member : audience ∈ used)
    (named : Credential.userNameOf record = .ok name) :
    Agree used (entries.withItem (Credential.mk audience name record).item)
      (directory.after (.save audience record)) := by
  intro other among
  simp only [after, named, ofEntries]
  by_cases same : other = audience
  · subst same
    have usable : (Credential.mk other name record).grant.isUsable :=
      Credential.isUsable_of_userNameOf named
    have stored : (entries.withItem (Credential.mk other name record).item).item?
        (Credential.keyOf other) = some (Credential.mk other name record).item :=
      Credential.item?_withItem entries (Credential.mk other name record).item
    rw [stored, Function.update_self, Option.map_some]
    exact congrArg some (Credential.ofItem_item usable)
  · have key : Credential.keyOf other ≠ (Credential.mk audience name record).item.key :=
      fun collides => same (apart among member collides)
    rw [Credential.item?_withItem_of_ne entries key, Function.update_of_ne same]
    exact agree other among

theorem Agree.remove (apart : used.InjOn Credential.keyOf) (agree : Agree used entries directory)
    {audience : String} (member : audience ∈ used) :
    Agree used (StringMap.erase entries (Credential.keyOf audience))
      (directory.after (.remove audience)) := by
  intro other among
  simp only [after, ofEntries, Credential.item?_erase]
  by_cases same : other = audience
  · rw [if_pos (congrArg Credential.keyOf same), same, Function.update_self]
    rfl
  · rw [if_neg fun collides => same (apart among member collides), Function.update_of_ne same]
    exact agree other among

theorem Agree.outcome_load (reliable : keyring.Reliable ledger)
    (agree : Agree used (ledger world).entries directory) {audience : String}
    (member : audience ∈ used) :
    ∃ end_, (Credential.load keyring audience).outcome world =
        ((directory.find audience).mapError .error, end_) ∧ ledger end_ = ledger world := by
  obtain ⟨end_, got, same⟩ := reliable.get (Credential.keyOf audience) world
  refine ⟨end_, ?_, same⟩
  rw [Credential.outcome_load reliable.kept got, find, ← agree audience member, ofEntries]
  cases (ledger world).entries.item? (Credential.keyOf audience) <;> rfl

theorem outcome_save (reliable : keyring.Reliable ledger) (audience : String) {name : String}
    {record : GrantRecord} (named : Credential.userNameOf record = .ok name) (world : σ) :
    ∃ end_, (Credential.save keyring audience record).outcome world = (.ok (), end_) ∧
      ledger end_ = (ledger world).withItem (Credential.mk audience name record).item := by
  obtain ⟨end_, set, seen⟩ := reliable.set (Credential.mk audience name record).item world
  refine ⟨end_, ?_, seen⟩
  rw [Credential.outcome_save, named]
  simp only [Credential.outcome_store, set, Act.except_mapError_ok]

/-- An operation replies as the directory does, and then what is stored agrees with that again. -/
theorem Agree.operation (reliable : keyring.Reliable ledger) (apart : used.InjOn Credential.keyOf)
    (agree : Agree used (ledger world).entries directory) {operation : Operation}
    (within : operation.Within used) :
    ∃ end_, (operation.act keyring).outcome world =
        ((directory.reply operation).mapError .error, end_) ∧
      Agree used (ledger end_).entries (directory.after operation) := by
  cases operation with
  | save audience record =>
    cases named : Credential.userNameOf record with
    | error error =>
      refine ⟨world, ?_, ?_⟩
      · rw [Operation.act, Act.outcome_bind, Credential.outcome_save, reply]
        simp only [named]
        rfl
      · simpa only [after, named] using agree
    | ok name =>
      obtain ⟨end_, saved, seen⟩ := outcome_save reliable audience named world
      refine ⟨end_, ?_, ?_⟩
      · rw [Operation.act, Act.outcome_bind, saved, reply, named]
        rfl
      · rw [seen]
        exact agree.save apart (within audience rfl) named
  | loadGrant audience =>
    obtain ⟨end_, loaded, same⟩ := agree.outcome_load reliable (within audience rfl)
    refine ⟨end_, ?_, by rw [same]; exact agree⟩
    rw [Operation.act, Credential.loadGrant, Act.outcome_bind, Act.outcome_bind, loaded, reply]
    cases directory.find audience <;> rfl
  | whoAmI audience =>
    obtain ⟨end_, loaded, same⟩ := agree.outcome_load reliable (within audience rfl)
    refine ⟨end_, ?_, by rw [same]; exact agree⟩
    rw [Operation.act, Credential.whoAmI, Act.outcome_bind, Act.outcome_bind, loaded, reply]
    cases directory.find audience <;> rfl
  | remove audience =>
    obtain ⟨end_, removed, seen⟩ :=
      Credential.outcome_remove reliable (Credential.keyOf audience) world
    refine ⟨end_, ?_, ?_⟩
    · rw [Operation.act, Act.outcome_bind, removed]
      rfl
    · rw [seen]
      exact agree.remove apart (within audience rfl)
  | logout =>
    obtain ⟨end_, done, left⟩ := Credential.outcome_logout reliable world
    refine ⟨end_, ?_, fun audience _ => ?_⟩
    · rw [Operation.act, Act.outcome_bind, done]
      rfl
    · rw [ofEntries, left]
      rfl

theorem Agree.replies (reliable : keyring.Reliable ledger) (apart : used.InjOn Credential.keyOf)
    {operations : List Operation} (within : ∀ operation ∈ operations, operation.Within used)
    (agree : Agree used (ledger world).entries directory) :
    ∃ end_, (carryOut keyring operations).outcome world =
        (.ok (directory.follow operations).1, end_) ∧
      Agree used (ledger end_).entries (directory.follow operations).2 := by
  induction operations generalizing directory world with
  | nil => exact ⟨world, rfl, agree⟩
  | cons operation rest ih =>
    obtain ⟨middle, replied, agree⟩ :=
      agree.operation reliable apart (within operation List.mem_cons_self)
    obtain ⟨end_, replies, agree⟩ :=
      ih (fun later member => within later (List.mem_cons_of_mem _ member)) agree
    refine ⟨end_, ?_, agree⟩
    rw [carryOut, Act.outcome_bind, Act.outcome_attempt, replied, follow]
    cases directory.reply operation <;>
      simp only [Act.except_mapError_ok, Act.except_mapError_error, Act.outcome_bind, replies,
        Act.outcome_pure]

/-- What is answered for an audience when its grant is loaded and when its user is asked for. -/
def answers (keyring : Keyring (StateM σ)) (audience : String) (world : σ) :
    Except Failure GrantRecord × Except Failure String :=
  (((Credential.loadGrant keyring audience).outcome world).1,
    ((Credential.whoAmI keyring audience).outcome world).1)

def unavailable : Except Failure GrantRecord × Except Failure String :=
  (.error (.error .noAuthenticationData), .error (.error .noAuthenticationData))

theorem Agree.answered (reliable : keyring.Reliable ledger)
    (agree : Agree used (ledger world).entries directory) {audience : String}
    (member : audience ∈ used) :
    answers keyring audience world =
      (((directory.find audience).map Credential.grant).mapError .error,
        ((directory.find audience).map Credential.userName).mapError .error) := by
  obtain ⟨end_, loaded, -⟩ := agree.outcome_load reliable member
  rw [answers, Credential.loadGrant, Credential.whoAmI, Act.outcome_bind,
    Act.outcome_bind, loaded]
  cases directory.find audience <;> rfl

theorem answers_of_none (reliable : keyring.Reliable ledger) {audience : String}
    (nothing : (ledger world).entries.item? (Credential.keyOf audience) = none) :
    answers keyring audience world = unavailable := by
  have agree : Agree {audience} (ledger world).entries (ofEntries (ledger world).entries) :=
    fun _ _ => rfl
  rw [agree.answered reliable (Set.mem_singleton audience), find, ofEntries, nothing]
  rfl

/-- What was kept for an audience by one operation is what is answered as long as no other one touches
it. -/
theorem Agree.answered_of_last (reliable : keyring.Reliable ledger) {first : Directory}
    {before between : List Operation} {last : Operation} {audience : String}
    (agree : Agree used (ledger world).entries (first.follow (before ++ last :: between)).2)
    (member : audience ∈ used)
    (untouched : ∀ operation ∈ between, ¬operation.Touches audience) :
    answers keyring audience world =
      (((((first.follow before).2.after last).find audience).map Credential.grant).mapError .error,
        ((((first.follow before).2.after last).find audience).map Credential.userName).mapError
          .error) := by
  have kept : (first.follow (before ++ last :: between)).2 audience =
      (first.follow before).2.after last audience := by
    rw [follow_append, follow, follow_of_not_touches untouched]
  rw [agree.answered reliable member, find, kept, find]

/-- While no two audiences have the same digest, credentials in a keyring are a map from audiences:
any operations are replied to as by a directory. Whatever was done, a save is accepted exactly if its
record names a user, and else changes nothing; what was accepted is loaded again, as it is after having
been stored, with that user, until the audience is saved again or removed, or all are logged out; then,
and wherever there is no entry, nothing is available; and what is done for one audience changes no
answer for another. -/
theorem replies_as_directory (reliable : keyring.Reliable ledger)
    (apart : used.InjOn Credential.keyOf) {operations : List Operation}
    (within : ∀ operation ∈ operations, operation.Within used) (start : σ) :
    ∃ world, (carryOut keyring operations).outcome start =
        (.ok ((ofEntries (ledger start).entries).follow operations).1, world) ∧
      (∀ audience record,
        (((Credential.save keyring audience record).outcome world).1 = .ok () ↔
          ∃ name, record.Names name) ∧
        ((¬∃ name, record.Names name) →
          ((Credential.save keyring audience record).outcome world).2 = world)) ∧
      (∀ before audience record between name,
        operations = before ++ .save audience record :: between →
        record.Names name → (∀ operation ∈ between, ¬operation.Touches audience) →
        answers keyring audience world = (.ok record.normalized, .ok name)) ∧
      (∀ before audience removal between, operations = before ++ removal :: between →
        removal = .remove audience ∨ removal = .logout → audience ∈ used →
        (∀ operation ∈ between, ¬operation.Touches audience) →
        answers keyring audience world = unavailable) ∧
      (∀ audience, (ledger world).entries.item? (Credential.keyOf audience) = none →
        answers keyring audience world = unavailable) ∧
      ∀ (operation : Operation) (other audience : String), operation.audience? = some other →
        other ∈ used → audience ∈ used → audience ≠ other →
        answers keyring audience ((operation.act keyring).outcome world).2 =
          answers keyring audience world := by
  have agree : Agree used (ledger start).entries (ofEntries (ledger start).entries) :=
    fun _ _ => rfl
  obtain ⟨world, replied, agree⟩ := agree.replies reliable apart within
  refine ⟨world, replied, ?_, ?_, ?_, ?_, ?_⟩
  · intro audience record
    simp only [← Credential.userNameOf_eq_ok_iff]
    cases named : Credential.userNameOf record with
    | error error => simp [Credential.outcome_save, named]
    | ok name =>
      obtain ⟨end_, saved, -⟩ := outcome_save reliable audience named world
      simp [saved]
  · intro before audience record between name split names untouched
    subst split
    have member : audience ∈ used := within (.save audience record) (by simp) audience rfl
    have named := Credential.userNameOf_eq_ok_iff.mpr names
    rw [agree.answered_of_last reliable member untouched, find]
    simp only [after, named, Function.update_self]
    rfl
  · intro before audience removal between split removes member untouched
    subst split
    rw [agree.answered_of_last reliable member untouched, find]
    rcases removes with rfl | rfl
    · rw [after, Function.update_self]
      rfl
    · rfl
  · exact fun audience nothing => answers_of_none reliable nothing
  · intro operation other audience for_ among member different
    have within : operation.Within used := by
      intro named same
      rw [for_] at same
      cases same
      exact among
    have untouched : ¬operation.Touches audience := by
      cases operation <;> cases for_ <;> simp [Operation.Touches, different.symm]
    obtain ⟨end_, acted, later⟩ := agree.operation reliable apart within
    rw [acted, agree.answered reliable member, later.answered reliable member, find, find,
      after_of_not_touches untouched]

/-- Something is saved for one audience, and refused for another that is then removed. -/
def errands : List Operation :=
  [.save "audience" (Desk.service { accessToken := "access" }).grant,
    .save "other" ⟨.deviceCode, none, none⟩, .remove "other"]

theorem replies_as_directory_of_errands :
    (Desk.keyring none).Reliable Desk.ledger ∧
      Set.InjOn Credential.keyOf {"audience", "other"} ∧
      (∀ operation ∈ errands, operation.Within {"audience", "other"}) ∧
      ∃ world, (carryOut (Desk.keyring none) errands).outcome { now := Instant.epoch } =
          (.ok [.ok .done, .error .unusableAuthenticationData, .ok .done], world) ∧
        answers (Desk.keyring none) "audience" world =
          (.ok (Desk.service { accessToken := "access" }).grant.normalized, .ok "robot@example") ∧
        answers (Desk.keyring none) "other" world = unavailable := by
  have apart : Set.InjOn Credential.keyOf {"audience", "other"} := by
    have different : Credential.keyOf "audience" ≠ Credential.keyOf "other" := by decide +kernel
    rw [Set.injOn_pair]
    exact fun collides => absurd collides different
  have within : ∀ operation ∈ errands, operation.Within {"audience", "other"} := by
    simp [errands, Operation.Within, Operation.audience?]
  obtain ⟨world, replied, -, saved, removed, -, -⟩ :=
    replies_as_directory Desk.reliable_keyring apart within { now := Instant.epoch }
  refine ⟨Desk.reliable_keyring, apart, within, world, replied, ?_, ?_⟩
  · exact saved [] _ _ (errands.drop 1) _ rfl (.service _ _) (by simp [errands, Operation.Touches])
  · exact removed (errands.take 2) _ _ [] rfl (.inl rfl) (by simp) (by simp)

end Directory
end GrantKeeper
