import GrantKeeper.Url.Host

/-! Reading addresses. What follows the first number sign is the fragment, what follows the first
question mark before it the query; in the special schemes a backslash in the rest is a slash, and
any number of slashes stand before the server. -/
namespace GrantKeeper.Url

def trimControls (text : List Char) : List Char :=
  let outer := fun (c : Char) => decide (c.toNat ≤ 0x20)
  ((text.dropWhile outer).reverse.dropWhile outer).reverse

def isBreak (c : Char) : Bool := c == '\t' || c == '\n' || c == '\r'

/-- Drops tabs and line ends, which mean nothing in an address but after a drive. -/
def dropBreaks (text : List Char) : List Char := text.filter (!isBreak ·)

def isLetter (c : Char) : Bool := ('a' ≤ c && c ≤ 'z') || ('A' ≤ c && c ≤ 'Z')

def isSchemeChar (c : Char) : Bool :=
  isLetter c || ('0' ≤ c && c ≤ '9') || c == '+' || c == '-' || c == '.'

def scheme? (text : List Char) : Option (String × List Char) :=
  match text.span (· != ':') with
  | (name, ':' :: rest) =>
    let name := dropBreaks name
    if (name.head?.any isLetter) && name.all isSchemeChar then
      some (String.ofList (name.map Char.toLower), rest)
    else none
  | _ => none

def cut (c : Char) (text : List Char) : List Char × Option (List Char) :=
  match text.span (· != c) with
  | (front, _ :: back) => (front, some back)
  | (front, []) => (front, none)

def isSingleDot (segment : String) : Bool := segment.toLower ∈ [".", "%2e"]

/-- Whether a segment leads up, possibly with its points percent-encoded. -/
def isDoubleDot (segment : String) : Bool :=
  segment.toLower ∈ ["..", ".%2e", "%2e.", "%2e%2e"]

def isDrive (segment : String) : Bool :=
  match segment.toList with
  | [letter, ':'] => isLetter letter
  | _ => false

/-- A segment that names a drive with a bar for its colon, with the colon. -/
def withColon (segment : String) : String :=
  match segment.toList with
  | [letter, '|'] => if isLetter letter then String.ofList [letter, ':'] else segment
  | _ => segment

def beginsWithDrive (segment : String) : Bool :=
  match segment.toList with
  | letter :: mark :: rest =>
    isLetter letter && (mark == ':' || mark == '|') && rest.head?.all (· == '\\')
  | _ => false

def dropSegment (path : List String) : List String :=
  if path.getLast?.any beginsWithDrive then path else path.dropLast

/-- A drive and what follows it after a tab or line end. -/
def splitDrive? (piece : List Char) : Option (List Char × List Char) :=
  match piece.dropWhile isBreak with
  | letter :: rest =>
    match rest.dropWhile isBreak with
    | ':' :: gap :: rest =>
      if isLetter letter && isBreak gap && !(dropBreaks rest).isEmpty then
        some ([letter, ':'], dropBreaks rest)
      else none
    | _ => none
  | [] => none

def segmentOf (text : List Char) : String := escapeSegment (String.ofList text)

/-- The path that some pieces of text lead to, and whether one of them, a drive, is its root. -/
structure Way where
  path : List String := []
  fromDrive : Bool := false

/-- Where a file's path begins. A drive is a segment of its own; its bar becomes a colon. -/
def Way.start (piece : List Char) : Way :=
  match splitDrive? piece with
  | some (drive, rest) => { path := [String.ofList drive, segmentOf rest] }
  | none =>
    let segment := withColon (segmentOf (dropBreaks piece))
    { path := [segment], fromDrive := isDrive segment }

/-- Goes on to one piece. Behind a piece that leads nowhere or up, the last one is empty. -/
def Way.step (file last : Bool) (way : Way) (piece : List Char) : Way :=
  let segment := segmentOf (dropBreaks piece)
  let rest := if last then [""] else []
  if isDoubleDot segment then { way with path := dropSegment way.path ++ rest }
  else if isSingleDot segment then { way with path := way.path ++ rest }
  else if file && way.path.isEmpty then Way.start piece
  else { way with path := way.path ++ [segment] }

def Way.follow (file : Bool) (way : Way) : List (List Char) → Way
  | [] => way
  | [piece] => way.step file true piece
  | piece :: rest => (way.step file false piece).follow file rest

/-- The path of a text after its first slash. A file's begins with no empty segments. -/
def wayOf (file : Bool) (text : List Char) : Way :=
  let way := Way.follow file {} (Text.pieces '/' text)
  if file then
    match way.path.dropWhile String.isEmpty with
    | [] => { way with path := [""] }
    | path => { way with path }
  else way

def wayAfterServer (special file : Bool) (text : List Char) : Way :=
  match text with
  | '/' :: rest => wayOf file rest
  | [] => if special then { path := [""] } else {}
  | text => wayOf file text

def splitPort (inside : Bool) : List Char → List Char × Option (List Char)
  | [] => ([], none)
  | c :: rest =>
    if c = ':' ∧ !inside then ([], some rest)
    else
      let (host, port) := splitPort (if c = '[' then true else if c = ']' then false else inside) rest
      (c :: host, port)

def port? (scheme : String) (digits : List Char) : Except UrlError (Option Nat) :=
  if digits.all fun c => '0' ≤ c && c ≤ '9' then
    let n := digits.foldl (fun n c => n * 10 + (c.toNat - 48)) 0
    if 65535 < n then .error .port
    else .ok (if digits.isEmpty || defaultPort? scheme == some n then none else some n)
  else .error .port

/-- The name and password of user information. An empty password is none. -/
def user (text : List Char) : String × Option String :=
  let (name, password) := cut ':' text
  (escapeUser (String.ofList name),
    (password.filter (!·.isEmpty)).map fun p => escapeUser (String.ofList p))

def splitUser (text : List Char) : Option (List Char) × List Char :=
  match text.reverse.span (· != '@') with
  | (back, _ :: front) => (some front.reverse, back.reverse)
  | (back, []) => (none, back.reverse)

/-- The authority of an address, and what a backslash after its port begins; `more` tells whether
anything follows it. -/
def readAuthority (scheme : String) (more : Bool) (text : List Char) :
    Except UrlError (Authority × List Char) := do
  let (userText, server) := splitUser text
  if userText == some [] && server.isEmpty && more then throw .emptyHost
  let (username, password) := user (userText.getD [])
  let (hostText, portText) := splitPort false server
  let host ← if (defaultPort? scheme).isSome then
      if hostText.isEmpty then throw .emptyHost else some <$> Host.read (String.ofList hostText)
    else Host.readPlain (String.ofList hostText)
  if host.isNone && portText.isSome then throw .emptyHost
  let (digits, rest) := (portText.getD []).span (· != '\\')
  let port ← port? scheme digits
  if host.isNone && !(username.isEmpty && password.isNone) then throw .emptyHost
  return (⟨username, password, host, port⟩, rest)

/-- The server of a file, unless it is this one. -/
def fileHost (text : List Char) : Except UrlError (Option Host) := do
  if text.isEmpty then return none
  match ← Host.read (String.ofList text) with
  | .domain "localhost" => return none
  | host => return some host

def isDriveText (text : List Char) : Bool := isDrive (withColon (String.ofList text))

def afterSlash? (text : List Char) : Option (List Char) :=
  match text.dropWhile isBreak with
  | '/' :: rest => some rest
  | _ => none

/-- The authority and path of a file. A drive in front of the path stands in place of the server. -/
def readFile (text : List Char) : Except UrlError (Authority × List String) := do
  match afterSlash? text with
  | none => return ({}, (wayOf true text).path)
  | some rest =>
    match afterSlash? rest with
    | none => return ({}, (wayOf true rest).path)
    | some rest =>
      let (server, path) := rest.span (· != '/')
      if isDriveText (dropBreaks server) then return ({}, (wayOf true rest).path)
      let host ← fileHost (dropBreaks server)
      let way := wayAfterServer true true path
      return ({ host := if way.fromDrive then none else host }, way.path)

def readPlace (scheme : String) (more : Bool) (text : List Char) :
    Except UrlError (Option Authority × Path) := do
  let special := isSpecial scheme
  let server? := match special, text with
    | true, text => some (text.dropWhile (· == '/'))
    | false, '/' :: '/' :: rest => some rest
    | false, _ => none
  match server?, text with
  | some server, _ =>
    let (authority, path) := server.span (· != '/')
    let (authority, rest) ← readAuthority scheme (more || !path.isEmpty) authority
    return (some authority, .segments (wayAfterServer special false (rest ++ path)).path)
  | none, '/' :: rest => return (none, .segments (wayOf false rest).path)
  | none, text => return (none, .plain (escapeOpaque (String.ofList text)))

def readBody (scheme : String) (more : Bool) (text : List Char) :
    Except UrlError (Option Authority × Path) := do
  let text := if isSpecial scheme then text.map fun c => if c = '\\' then '/' else c else text
  if scheme == "file" then
    let (authority, path) ← readFile text
    return (some authority, .segments path)
  readPlace scheme more (dropBreaks text)

def read (text : String) : Except UrlError Url := do
  let some (scheme, rest) := scheme? (trimControls text.toList) | throw .relative
  let (rest, fragment) := cut '#' rest
  let (body, query) := cut '?' rest
  let (authority, path) ← readBody scheme (query.isSome || fragment.isSome) body
  return {
    scheme, authority, path
    marked := authority.isNone && path.beginsEmpty
    query := query.map fun q => escapeQuery (isSpecial scheme) (String.ofList (dropBreaks q))
    fragment := fragment.map fun f => escapeFragment (String.ofList (dropBreaks f)) }

/-- The address with another path, which is read as one. -/
def withPath (url : Url) (text : String) : Url :=
  match url.path with
  | .plain _ =>
    let text := match text.toList with
      | '/' :: rest => "%2F" ++ String.ofList rest
      | _ => text
    { url with path := .plain (escapeOpaque text) }
  | .segments _ =>
    let file := url.scheme == "file"
    { url with path := .segments (wayAfterServer (isSpecial url.scheme) file text.toList).path }

end GrantKeeper.Url
