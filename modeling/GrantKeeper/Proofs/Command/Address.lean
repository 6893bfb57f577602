import GrantKeeper.Command.Run
import GrantKeeper.Proofs.Act
import GrantKeeper.Proofs.Url.Server

/-! Which server a command asks for a resource. The address of the service names it, unless nothing but
slashes stands behind its scheme: these fall away before the path is joined, which then names it. -/
namespace GrantKeeper.Command

open Url

variable {config : Config} {scheme : String}

/-- What stands behind the scheme of an address. -/
def behindScheme (address : String) : List Char := (address.toList.dropWhile (· != ':')).tail

/-- An address names no server: behind its scheme are only slashes and what means nothing beside them. -/
def Nameless (address : String) : Prop := ∀ c ∈ behindScheme address, isLead c

instance (address : String) : Decidable (Nameless address) :=
  List.decidableBAll (fun c => isLead c) (behindScheme address)

theorem exists_scheme (valid : config.validate = .ok ()) : ∃ scheme, IsWeb scheme ∧
    config.webServiceUrl.toList = scheme.toList ++ ':' :: behindScheme config.webServiceUrl := by
  rw [Config.validate] at valid
  split at valid
  · next web =>
    rw [Config.isWebAddress, Bool.or_eq_true, String.startsWith_string_iff,
      String.startsWith_string_iff] at web
    rcases web with ⟨rest, text⟩ | ⟨rest, text⟩
    · refine ⟨"http", .inl rfl, ?_⟩
      rw [behindScheme, ← text]
      rfl
    · refine ⟨"https", .inr rfl, ?_⟩
      rw [behindScheme, ← text]
      rfl
  · cases valid

theorem dropWhile_append_stop {p : Char → Bool} {stop : Char} (stops : p stop = false)
    (front rest : List Char) : (front ++ stop :: rest).dropWhile p = front.dropWhile p ++ stop :: rest := by
  induction front with
  | nil => simp [stops]
  | cons c front ih =>
    simp only [List.cons_append, List.dropWhile_cons, ih]
    split <;> rfl

def dropLastSlashes (text : List Char) : List Char := (dropSlashes text.reverse).reverse

theorem dropLastSlashes_append {stop : Char} (stops : (stop == '/') = false) (front rest : List Char) :
    dropLastSlashes (front ++ stop :: rest) = front ++ stop :: dropLastSlashes rest := by
  have turned : (front ++ stop :: rest).reverse = rest.reverse ++ stop :: front.reverse := by simp
  rw [dropLastSlashes, turned, dropSlashes, dropWhile_append_stop (p := (· == '/')) stops]
  simp [dropLastSlashes, dropSlashes]

theorem forall_dropLastSlashes (text : List Char) :
    (∀ c ∈ dropLastSlashes text, isLead c) ↔ ∀ c ∈ text, isLead c := by
  simp only [dropLastSlashes, List.mem_reverse, dropSlashes]
  constructor
  · intro lead c member
    rw [← List.mem_reverse, ← List.takeWhile_append_dropWhile (p := (· == '/')) (l := text.reverse),
      List.mem_append] at member
    rcases member with slash | member
    · have same : c == '/' := List.mem_takeWhile_imp (p := (· == '/')) slash
      rw [eq_of_beq same]
      rfl
    · exact lead c member
  · intro lead c member
    exact lead c (List.mem_reverse.mp (List.dropWhile_subset _ member))

def dropLastControls (text : List Char) : List Char :=
  (text.reverse.dropWhile fun c => decide (c.toNat ≤ 0x20)).reverse

/-- Controls are dropped from the end at most up to a slash. -/
theorem trimControls_append {first : Char} (visible : 0x20 < first.toNat) (front rest : List Char) :
    trimControls (first :: front ++ '/' :: rest) = first :: front ++ '/' :: dropLastControls rest := by
  have begins : (first :: front ++ '/' :: rest).dropWhile (fun c => decide (c.toNat ≤ 0x20)) =
      first :: front ++ '/' :: rest :=
    List.dropWhile_cons_of_neg (by simpa using visible)
  have turned : (first :: front ++ '/' :: rest).reverse = rest.reverse ++ '/' :: (first :: front).reverse := by
    simp
  rw [trimControls, begins, turned,
    dropWhile_append_stop (p := fun c => decide (c.toNat ≤ 0x20)) (by decide), dropLastControls]
  simp

/-- What a path adds to an address. -/
def pathText (path : String) : List Char := dropLastControls (dropSlashes path.toList)

theorem trimControls_joinAddress (web : IsWeb scheme) {address : String} {behind : List Char}
    (text : address.toList = scheme.toList ++ ':' :: behind) (path : String) :
    trimControls (joinAddress address path).toList =
      scheme.toList ++ ':' :: (dropLastSlashes behind ++ '/' :: pathText path) := by
  have joined : (joinAddress address path).toList =
      scheme.toList ++ ':' :: dropLastSlashes behind ++ '/' :: dropSlashes path.toList := by
    rw [joinAddress, String.toList_ofList, ← dropLastSlashes, text,
      dropLastSlashes_append (by decide)]
  obtain ⟨first, others, split, visible⟩ : ∃ first others, scheme.toList = first :: others ∧
      0x20 < first.toNat := by
    rcases web with rfl | rfl
    · exact ⟨'h', ['t', 't', 'p'], rfl, by decide⟩
    · exact ⟨'h', ['t', 't', 'p', 's'], rfl, by decide⟩
  rw [joined, split, List.cons_append, trimControls_append visible, pathText]
  simp

theorem origin_resource (valid : config.validate = .ok ()) : ∃ scheme, IsWeb scheme ∧ ∀ path,
    (resource config path).map origin =
      (readAuthority scheme true (serverText
        (dropLastSlashes (behindScheme config.webServiceUrl) ++ '/' :: pathText path))).map
        fun result => (scheme, some result.1) := by
  obtain ⟨scheme, web, text⟩ := exists_scheme valid
  exact ⟨scheme, web, fun path => origin_read web (trimControls_joinAddress web text path)⟩

/-- Whom a path asks where the address names no server: one that the path itself names. -/
theorem origin_nameless (valid : config.validate = .ok ()) (nameless : Nameless config.webServiceUrl) :
    ∃ scheme, IsWeb scheme ∧ ∀ path, (resource config path).map origin =
      (readAuthority scheme true (serverText (pathText path))).map
        fun result => (scheme, some result.1) := by
  obtain ⟨scheme, web, asked⟩ := origin_resource valid
  refine ⟨scheme, web, fun path => ?_⟩
  have lead : ∀ c ∈ dropLastSlashes (behindScheme config.webServiceUrl) ++ ['/'], isLead c := by
    intro c member
    rcases List.mem_append.mp member with member | member
    · exact (forall_dropLastSlashes _).mpr nameless c member
    · rw [List.mem_singleton.mp member]
      rfl
  rw [asked, List.append_cons, serverText_of_lead lead]

theorem asked_of_nameless (valid : config.validate = .ok ()) (nameless : Nameless config.webServiceUrl)
    (path : String) (host : Host)
    (reads : ∀ scheme ∈ ["http", "https"],
      ((readAuthority scheme true (serverText (pathText path))).map (·.1)).toOption =
        some { host := some host }) :
    ∃ url, resource config path = .ok url ∧ url.authority = some { host := some host } := by
  obtain ⟨scheme, web, asked⟩ := origin_nameless valid nameless
  have reads := eq_ok_of_toOption (reads scheme (by simpa [IsWeb] using web))
  have asked := asked path
  cases read : readAuthority scheme true (serverText (pathText path)) with
  | error error =>
    rw [read] at reads
    cases reads
  | ok result =>
    rw [read] at asked reads
    cases named : resource config path with
    | error error =>
      rw [named] at asked
      cases asked
    | ok url =>
      rw [named] at asked
      refine ⟨url, rfl, ?_⟩
      rw [← Except.ok.inj reads]
      exact congrArg Prod.snd (Except.ok.inj asked)

/-- Where the address names a server, paths make no difference, not even for whether there is one. -/
theorem origin_named (valid : config.validate = .ok ()) (named : ¬Nameless config.webServiceUrl)
    (path other : String) :
    (resource config path).map origin = (resource config other).map origin := by
  obtain ⟨scheme, web, asked⟩ := origin_resource valid
  have solid : ∃ c ∈ dropLastSlashes (behindScheme config.webServiceUrl), isLead c = false := by
    rw [Nameless, ← forall_dropLastSlashes] at named
    simpa using named
  rw [asked, asked, serverText_append solid, serverText_append solid]

theorem exists_root (valid : config.validate = .ok ()) (named : ¬Nameless config.webServiceUrl)
    {path : String} {url : Url} (read : resource config path = .ok url) (other : String) :
    ∃ root, resource config other = .ok root ∧ root.origin = url.origin := by
  have same := origin_named valid named other path
  rw [read] at same
  cases read_ : resource config other with
  | error error =>
    rw [read_] at same
    cases same
  | ok root =>
    rw [read_] at same
    exact ⟨root, rfl, Except.ok.inj same⟩

end GrantKeeper.Command

namespace GrantKeeper

/-- In no network does a request that is sent reach another server: it ends the same in networks that are
the same towards one server. -/
def Authentication.AsksOnly {m : Type → Type} [Monad m] (authentication : Authentication m)
    (request : Http.Request) (server : String × Option Authority) : Prop :=
  ∀ network other : Http.Network m,
    (∀ asked : Http.Request, asked.url.origin = server → network.send asked = other.send asked) →
    authentication.send network request = authentication.send other request

theorem Authentication.asksOnly {m : Type → Type} [Monad m] (authentication : Authentication m)
    (request : Http.Request) : authentication.AsksOnly request request.url.origin := by
  intro network other alike
  have ask (asked : Http.Request) (there : asked.url = request.url) :
      network.ask asked = other.ask asked := by
    rw [Http.Network.ask, Http.Network.ask, alike asked (by rw [there])]
  cases authentication with
  | anonymous =>
    rw [send, send, ask request rfl]
  | oauth2 provision =>
    have bearing (header : Http.Header) :
        network.ask (request.withAuthorization header) = other.ask (request.withAuthorization header) :=
      ask _ rfl
    simp only [send, Http.sendAuthorized, Http.sendWithToken, ask request rfl, bearing]

namespace Command

open Url

variable {config : Config}

/-- Paths cannot choose the server of a valid address exactly if the address names one. Then the server of
every resource is that of the empty path, and a request for one, with or without a token, is sent to no
other. -/
theorem path_cannot_choose_iff (valid : config.validate = .ok ()) :
    ((∀ path other url url_, resource config path = .ok url → resource config other = .ok url_ →
      url.origin = url_.origin) ↔ ¬Nameless config.webServiceUrl) ∧
    (¬Nameless config.webServiceUrl → ∀ path url, resource config path = .ok url →
      ∃ root, resource config "" = .ok root ∧ url.origin = root.origin ∧
        ∀ (m : Type → Type) [Monad m] (authentication : Authentication m) (headers : List Http.Header),
          authentication.AsksOnly { url, headers } root.origin) := by
  refine ⟨⟨fun same nameless => ?_, fun named path other url url_ read read_ => ?_⟩,
    fun named path url read => ?_⟩
  · obtain ⟨url, read, one⟩ := asked_of_nameless valid nameless "a" (.domain "a") (by decide +kernel)
    obtain ⟨url_, read_, two⟩ := asked_of_nameless valid nameless "b" (.domain "b") (by decide +kernel)
    have equal := congrArg Prod.snd (same "a" "b" url url_ read read_)
    simp [origin, one, two] at equal
  · obtain ⟨_, again, same⟩ := exists_root valid named read other
    rw [Except.ok.inj (read_.symm.trans again)]
    exact same.symm
  · obtain ⟨root, read_, same⟩ := exists_root valid named read ""
    refine ⟨root, read_, same.symm, fun m _ authentication headers => ?_⟩
    rw [same]
    exact authentication.asksOnly _

/-- A service at a server. -/
def served : Config := { webServiceUrl := "https://user@localhost:8443/base/" }

/-- A path that looks like another server is a path at this one. -/
theorem served_by_localhost : ∃ url, resource served "//evil.example:80\\@/x" = .ok url ∧
    url.origin = ("https",
      some { username := "user", host := some (.domain "localhost"), port := some 8443 }) := by
  have named : ¬Nameless served.webServiceUrl := by decide +kernel
  have root_ : ((resource served "").map origin).toOption = some ("https",
      some { username := "user", host := some (.domain "localhost"), port := some 8443 }) := by
    decide +kernel
  have valid : served.validate = .ok () := eq_ok_of_toOption (by decide +kernel)
  obtain ⟨-, asked⟩ := path_cannot_choose_iff valid
  obtain ⟨url, read⟩ : ∃ url, (resource served "//evil.example:80\\@/x").toOption = some url :=
    Option.isSome_iff_exists.mp (by decide +kernel)
  obtain ⟨root, there, same, -⟩ := asked named _ url (eq_ok_of_toOption read)
  rw [there] at root_
  exact ⟨url, eq_ok_of_toOption read, same.trans (Option.some.inj root_)⟩

/-- A service without a server. -/
def unserved : Config := { webServiceUrl := "http://" }

/-- Two paths ask two servers, though the address is valid. -/
theorem server_from_path : unserved.validate = .ok () ∧
    resource unserved "a.example/x" = .ok
      { scheme := "http", authority := some { host := some (.domain "a.example") },
        path := .segments ["x"] } ∧
    resource unserved "b.example/x" = .ok
      { scheme := "http", authority := some { host := some (.domain "b.example") },
        path := .segments ["x"] } :=
  ⟨eq_ok_of_toOption (by decide +kernel), eq_ok_of_toOption (by decide +kernel),
    eq_ok_of_toOption (by decide +kernel)⟩

end Command
end GrantKeeper
