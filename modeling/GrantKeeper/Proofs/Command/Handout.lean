import GrantKeeper.Proofs.Authenticator.Continuity
import GrantKeeper.Proofs.Command.History
import GrantKeeper.Proofs.Http.Rejection
import GrantKeeper.Proofs.Moving

/-! Tokens as they are handed out: by a provider, in the header of a request, and on a line of output. A
token from the cache has an access token; a fresh one has whatever the authorization server answered. -/
namespace GrantKeeper

variable {σ : Type}

namespace TokenProvider

/-- Giving out a token comes to an exchange, as there is no usable one in the cache, and a response. -/
def Obtains (provider : TokenProvider (StateM σ)) (holding : Holding) (world : σ)
    (response : TokenResponse) : Prop :=
  ∃ read request after,
    (Cache.token? provider.clock).ending holding.credential world =
      (.ok none, holding.credential, read) ∧
    holding.grant.renewal = .ok request ∧
    (provider.exchanger.exchange request).outcome read = (.ok response, after)

variable {provider : TokenProvider (StateM σ)} {holding held : Holding} {world after : σ}
  {token : Token}

theorem Obtains.unique {one other : TokenResponse} (obtains : provider.Obtains holding world one)
    (also : provider.Obtains holding world other) : one = other := by
  obtain ⟨_, _, _, missed, asked, answered⟩ := obtains
  obtain ⟨_, _, _, missed', asked', answered'⟩ := also
  cases missed.symm.trans missed'
  cases asked.symm.trans asked'
  cases answered.symm.trans answered'
  rfl

/-- A token that is given out was in the cache, with an access token, or has that of a response. -/
theorem cached_or_obtained
    (gave : provider.token.ending holding world = (.ok token, held, after)) :
    (token.hasAccessToken ∧ ∀ response, ¬provider.Obtains holding world response) ∨
      ∃ response, provider.Obtains holding world response ∧
        token.accessToken = response.accessToken := by
  have gives := gives_token provider holding world
  rw [gave] at gives
  generalize ended : (Except.ok token, held, after) = ending at gives
  cases gives with
  | cached read =>
    cases ended
    refine .inl ⟨(Cache.token?_eq_some read).2, ?_⟩
    rintro response ⟨_, _, _, missed, -⟩
    cases read.symm.trans missed
  | unread | unrenewed | faulted => cases ended
  | @renewed fresh grant read last _ _ result missed refresh =>
    obtain rfl : token = fresh := by
      cases result <;> cases ended
      rfl
    have renews := Grant.renews_refresh provider.exchanger provider.clock holding.grant read
    rw [refresh] at renews
    cases renews with
    | renewed asked answered issued =>
      exact .inr ⟨_, ⟨_, _, _, missed, asked, answered⟩, Grant.accessToken_tokenFrom issued⟩

/-- The response that giving out a token comes to has an empty access token. -/
def AnsweredEmpty (provider : TokenProvider (StateM σ)) (holding : Holding) (world : σ) : Prop :=
  ∃ response, provider.Obtains holding world response ∧ response.accessToken = ""

theorem accessToken_eq_empty_iff
    (gave : provider.token.ending holding world = (.ok token, held, after)) :
    token.accessToken = "" ↔ provider.AnsweredEmpty holding world := by
  rcases cached_or_obtained gave with ⟨has, never⟩ | ⟨response, obtains, same⟩
  · constructor
    · intro empty
      simp [Token.hasAccessToken, empty] at has
    · rintro ⟨response, obtains, -⟩
      exact absurd obtains (never response)
  · constructor
    · exact fun empty => ⟨response, obtains, same ▸ empty⟩
    · rintro ⟨other, also, empty⟩
      rw [same, obtains.unique also, empty]

end TokenProvider

/-! Requests. -/

namespace Http

open TokenProvider (Holding)

theorem shows_withAuthorization_iff {token : Token} {header : Header} (made : bearer? token = some header)
    (request : Request) (access : String) :
    (request.withAuthorization header).Shows access ↔ token.accessToken = access := by
  constructor
  · exact accessToken_of_shows made
  · rintro rfl
    obtain rfl := bearer?_eq_some made
    exact authorization?_withAuthorization request rfl

theorem eq_of_sent_member {asked : List Traffic} {request sent : Request}
    {answer given : Except String Response} (quiet : ∀ request answer, .sent request answer ∉ asked)
    (member : .sent sent given ∈ asked ++ [.sent request answer]) : sent = request := by
  rcases List.mem_append.mp member with earlier | last
  · exact absurd earlier (quiet sent given)
  · cases List.mem_singleton.mp last
    rfl

theorem shows_given {provider : TokenProvider (StateM σ)}
    {service : Request → StateM σ (Except String Response)} {traffic : σ → List Traffic}
    (observed : Observed provider service traffic) {request : Request} (unset : ¬request.isAuthorized)
    {holding : Holding} {world : σ} {gained : List Traffic}
    (seen : traffic (handle provider service request holding world).2.2 = traffic world ++ gained)
    {sent : Request} {answer : Except String Response} (member : .sent sent answer ∈ gained) :
    ∃ token held after, provider.token.ending holding world = (.ok token, held, after) ∧
      ∀ access, sent.Shows access ↔ token.accessToken = access := by
  obtain ⟨asked, asking, quiet, -⟩ := observed.token holding world
  have handles := handles_handle provider service unset holding world
  generalize handle provider service request holding world = ended at handles seen
  cases handles with
  | tokenless gave | unshown gave =>
    rw [gave, seen] at asking
    obtain rfl := List.append_cancel_left asking
    exact absurd member (quiet sent answer)
  | @sent token held after last header answer' gave shown answered =>
    have sending := observed.service (request.withAuthorization header) after
    rw [gave] at asking
    rw [answered, asking, seen, List.append_assoc] at sending
    obtain rfl := List.append_cancel_left sending
    obtain rfl := eq_of_sent_member quiet member
    exact ⟨token, held, after, gave, shows_withAuthorization_iff shown request⟩
  | @refused token held cleared after last end_ header response result _ gave shown answered status
      invalidated =>
    have sending := observed.service (request.withAuthorization header) after
    have invalidating := observed.invalidate held last
    rw [gave] at asking
    rw [invalidated, seen] at invalidating
    rw [answered, asking, ← invalidating, List.append_assoc] at sending
    obtain rfl := List.append_cancel_left sending
    obtain rfl := eq_of_sent_member quiet member
    exact ⟨token, held, after, gave, shows_withAuthorization_iff shown request⟩

end Http

/-! Output. -/

/-- A provision gives out a token as a provider does whose world is also what is held beside it. -/
theorem Provision.ending_token {τ : Type} (provision : Provision (StateT τ (StateM σ))) (beside : τ)
    (world : σ) :
    let ended := ((Moving.joint τ σ).provider provision.provider).token.ending provision.holding
      (beside, world)
    provision.token.ending beside world = (ended.1, ended.2.2.1, ended.2.2.2) := by
  rw [← Moving.act_token]
  rfl

theorem Authenticator.ending_tokenProvider {τ : Type} {a : Authenticator (StateT τ (StateM σ))}
    {audience : String} {credential : Credential} {exchanger : Exchanger (StateT τ (StateM σ))}
    {grant : Grant} {held kept last : τ} {world loaded found : σ}
    (load : (Credential.load a.keyring audience).ending held world = (.ok credential, kept, loaded))
    (search : a.findExchanger.ending kept loaded = (.ok exchanger, last, found))
    (live : Grant.ofRecord a.issuer audience credential.grant = .ok grant) :
    (a.tokenProvider audience).ending held world =
      (.ok ⟨⟨a.keyring, exchanger, a.machine.clock, a.count⟩, ⟨grant, credential⟩⟩, last, found) := by
  rw [tokenProvider, Act.ending_bind, load]
  simp only [Act.ending_bind, search, Act.ending_ofExcept, live, Act.except_mapError_ok]
  rfl

namespace Command

variable {w : Workstation (StateM σ)} {config : Config} {world last : σ}

theorem run_token_iff : (run w config .token).run.run world = (.ok (), last) ↔
    ∃ keyring opened audience provision kept ready token after done,
      (openKeyring w config).run.run world = (.ok keyring, opened) ∧
      config.audience = .ok audience ∧
      ((authenticator w config).tokenProvider audience).ending keyring opened =
        (.ok provision, kept, ready) ∧
      provision.token.ending kept ready = (.ok token, after, done) ∧
      last = ((w.print (token.accessToken ++ "\n")).run done).2 := by
  rw [run]
  cases told : config.audience with
  | error error =>
    refine ⟨fun ended => ?_, ?_⟩
    · cases ended
    · rintro ⟨_, _, _, _, _, _, _, _, _, -, told, -⟩
      cases told
  | ok audience =>
    rw [Job.ofConfig_ok, pure_bind, ExceptT.run_bind, StateT.run_bind]
    have ending := Act.ending_bind ((authenticator w config).tokenProvider audience) Provision.token
    constructor
    · intro ended
      rcases opens : (openKeyring w config).run.run world with ⟨failed | keyring, opened⟩
      · rw [onKeyring, withAuthenticator, ExceptT.run_bind, StateT.run_bind, opens] at ended
        cases ended
      rw [onKeyring, run_withAuthenticator opens] at ended
      have ending := ending keyring opened
      rcases provided : ((authenticator w config).tokenProvider audience).ending keyring opened with
        ⟨failure | provision, kept, ready⟩ <;> rw [provided] at ending
      · rw [Job.run_of_ending ending] at ended
        cases ended
      rcases given : provision.token.ending kept ready with ⟨failure | token, after, done⟩ <;>
        simp only [given] at ending <;> rw [Job.run_of_ending ending] at ended <;> cases ended
      exact ⟨keyring, opened, audience, provision, kept, ready, token, after, done, rfl, rfl, provided,
        given, rfl⟩
    · rintro ⟨keyring, opened, _, provision, kept, ready, token, after, done, opens, told, provided,
        given, rfl⟩
      cases told
      have ending := ending keyring opened
      simp only [provided, given] at ending
      rw [onKeyring, run_withAuthenticator opens, Job.run_of_ending ending]
      rfl

end Command

/-! A console with a token in the keyring file. -/

namespace Console

def remembered : Credential := ⟨"audience", "robot@example", grant.record⟩

/-- The console with a keyring file that holds it. -/
def recorded : Console where
  file := some (Utf8.encode (FileKeyring.encode (Entries.withItem ∅ remembered.item)))
  responses := [Line.document]

def reopened : FileKeyring := ⟨"keyring", 0, Entries.withItem ∅ remembered.item⟩

theorem openKeyring_recorded :
    (Command.openKeyring station config).run.run recorded = (.ok reopened, recorded) := by
  have named : config.keyringFile station.environment = .ok "keyring" := rfl
  obtain ⟨restate, opens⟩ := Command.run_openKeyring_of_named rfl named recorded
  rw [FileKeyring.outcome_load] at opens
  have found : FileKeyring.found "keyring" ((station.files.read "keyring").run recorded).1 =
      .ok reopened.entries := FileKeyring.found_encode _ _
  rw [found] at opens
  exact opens

theorem load_recorded :
    (Credential.load (FileKeyring.keyring files) "audience").ending reopened recorded =
      (.ok remembered.normalized, reopened, recorded) := by
  have got : ((FileKeyring.keyring files).get (Credential.keyOf "audience")).ending reopened recorded =
      (.ok (some remembered.item), reopened, recorded) := by
    rw [← Credential.item?_withItem ∅ remembered.item]
    rfl
  have read : Credential.ofItem "audience" remembered.item = .ok remembered.normalized :=
    @Credential.ofItem_item remembered rfl
  rw [Credential.load, Act.ending_bind, Act.ending_mapError, got]
  simp only [Act.except_mapError_ok, Act.ending_ofExcept, read]

theorem findExchanger_recorded : ∃ exchanger kept ready,
    (Command.authenticator station config).findExchanger.ending reopened recorded =
      (.ok exchanger, kept, ready) ∧ ready.printed = [] := by
  have searches :
      let ended := (Command.authenticator station config).findExchanger.ending reopened recorded
      ended.1.isOk = true ∧ ended.2.2.printed = [] := by decide +kernel
  rcases search : (Command.authenticator station config).findExchanger.ending reopened recorded with
    ⟨failure | exchanger, kept, ready⟩ <;> rw [search] at searches
  · cases searches.1
  · exact ⟨exchanger, kept, ready, rfl, searches.2⟩

theorem run_recorded : ∃ last,
    (Command.run station config .token).run.run recorded = (.ok (), last) ∧ last.printed = ["a\n"] := by
  obtain ⟨exchanger, kept, ready, search, unprinted⟩ := findExchanger_recorded
  have live : Grant.ofRecord config.issuer "audience" remembered.normalized.grant = .ok grant := rfl
  have provided := Authenticator.ending_tokenProvider load_recorded search live
  have ended := Command.run_token_iff.mpr ⟨_, _, _, _, _, _, _, _, _, openKeyring_recorded, rfl, provided,
    rfl, rfl⟩
  refine ⟨_, ended, ?_⟩
  change ready.printed ++ ["a\n"] = _
  rw [unprinted]
  rfl

end Console

/-- A token is handed out without an access token exactly if the authorization server was asked for it
and answered so: by a provider, whatever it holds; in the header of a request that it authenticates; and
on the line that is printed for a user. -/
theorem handed_out_empty_iff {σ ρ : Type} (provider : TokenProvider (StateM σ))
    (holding : TokenProvider.Holding) (world : σ) (w : Workstation (StateM ρ)) (config : Config)
    (start : ρ) :
    (∀ token held after, provider.token.ending holding world = (.ok token, held, after) →
      (token.accessToken = "" ↔ provider.AnsweredEmpty holding world)) ∧
    (∀ (service : Http.Request → StateM σ (Except String Http.Response)) (traffic : σ → List Http.Traffic)
      (request : Http.Request) (gained : List Http.Traffic),
      Http.Observed provider service traffic → ¬request.isAuthorized →
      traffic (Http.handle provider service request holding world).2.2 = traffic world ++ gained →
      ∀ sent answer, .sent sent answer ∈ gained →
        (sent.Shows "" ↔ provider.AnsweredEmpty holding world)) ∧
    ∀ last, (Command.run w config .token).run.run start = (.ok (), last) →
      ∃ keyring opened audience provision kept ready access done,
        (Command.openKeyring w config).run.run start = (.ok keyring, opened) ∧
        config.audience = .ok audience ∧
        ((Command.authenticator w config).tokenProvider audience).ending keyring opened =
          (.ok provision, kept, ready) ∧
        last = ((w.print (access ++ "\n")).run done).2 ∧
        (access = "" ↔ ((Moving.joint FileKeyring ρ).provider provision.provider).AnsweredEmpty
          provision.holding (kept, ready)) := by
  refine ⟨fun token held after gave => TokenProvider.accessToken_eq_empty_iff gave, ?_, ?_⟩
  · intro service traffic request gained observed unset seen sent answer member
    obtain ⟨token, held, after, gave, shows_⟩ := Http.shows_given observed unset seen member
    rw [shows_, TokenProvider.accessToken_eq_empty_iff gave]
  · intro last ended
    obtain ⟨keyring, opened, audience, provision, kept, ready, token, after, done, opens, told, provided,
      gave, printed⟩ := Command.run_token_iff.mp ended
    refine ⟨keyring, opened, audience, provision, kept, ready, token.accessToken, done, opens, told,
      provided, printed, ?_⟩
    have joint := provision.ending_token kept ready
    rw [gave] at joint
    exact TokenProvider.accessToken_eq_empty_iff (Prod.ext (congrArg Prod.fst joint).symm rfl)

/-- As long as the servers answer with access tokens, one is given out and shown, and one is printed. -/
theorem full_handed_out :
    (∃ token held after,
      Http.Wire.source.token.ending (Http.Wire.device "first") [] = (.ok token, held, after) ∧
      token.accessToken = "fresh" ∧
      ¬Http.Wire.source.AnsweredEmpty (Http.Wire.device "first") [] ∧ ¬Http.Wire.shown.Shows "") ∧
    ∃ last provision kept ready,
      (Command.run Console.station Console.config .token).run.run Console.recorded = (.ok (), last) ∧
      last.printed = ["a\n"] ∧
      ((Command.authenticator Console.station Console.config).tokenProvider "audience").ending
        Console.reopened Console.recorded = (.ok provision, kept, ready) ∧
      ¬((Moving.joint FileKeyring Console).provider provision.provider).AnsweredEmpty provision.holding
        (kept, ready) := by
  obtain ⟨given, sent, prints⟩ := handed_out_empty_iff Http.Wire.source (Http.Wire.device "first") []
    Console.station Console.config Console.recorded
  constructor
  · have full := (given _ _ _ rfl).not.mp (by decide)
    have shows_ := sent Http.Wire.server id Http.Wire.address _ Http.Wire.observed (by decide) rfl
      Http.Wire.shown (.ok ⟨401, []⟩) (.tail _ (.head _))
    exact ⟨_, _, _, rfl, rfl, full, shows_.not.mpr full⟩
  · obtain ⟨last, ended, printed⟩ := Console.run_recorded
    obtain ⟨keyring, opened, audience, provision, kept, ready, access, done, opens, told, provided,
      rfl, empty⟩ := prints last ended
    cases opens.symm.trans Console.openKeyring_recorded
    cases told
    refine ⟨_, provision, kept, ready, ended, printed, provided, empty.not.mp ?_⟩
    rintro rfl
    exact absurd (List.append_eq_singleton_iff.mp printed) (by simp)

namespace Desk

/-- An answer without an access token, where one is expected. -/
def blank : TokenResponse := { accessToken := "" }

/-- A token that was invalidated is renewed with such an answer, and an empty one is given out, which
makes an empty header. -/
theorem empty_token_given_out :
    ((authenticator { clientId := "client" } none).tokenProvider "audience").outcome
        (stocked [.ok blank]) = (.ok provision, stocked [.ok blank]) ∧
      ∃ cleared world token held after,
        provision.provider.invalidate.ending provision.holding (stocked [.ok blank]) =
          (.ok (), cleared, world) ∧
        provision.provider.token.ending cleared world = (.ok token, held, after) ∧
        token.accessToken = "" ∧
        Http.bearer? token = some ⟨"authorization", Utf8.encode "Bearer ", true⟩ :=
  ⟨tokenProvider_stocked [.ok blank], _, _, _, _, _, rfl, rfl, rfl, by decide⟩

end Desk
end GrantKeeper
