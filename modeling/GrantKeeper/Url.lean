import GrantKeeper.Encoding.Hex

/-! Addresses on the web in their normal form, and the text of one. -/
namespace GrantKeeper

inductive Host
  | domain (name : String)
  | ipv4 (address : Nat)
  /-- Eight groups of sixteen bits. -/
  | ipv6 (groups : List Nat)
deriving DecidableEq, Repr

/-- The part of an address that says where to connect and as whom. An empty host is none. -/
structure Authority where
  username : String := ""
  password : Option String := none
  host : Option Host := none
  port : Option Nat := none
deriving DecidableEq, Repr

/-- The path of an address: segments, each after a slash, or a text without any structure. -/
inductive Url.Path
  | segments (segments : List String)
  | plain (text : String)
deriving DecidableEq, Repr

structure Url where
  scheme : String
  authority : Option Authority := none
  path : Url.Path
  /-- Whether `/.` stands before the path. -/
  marked : Bool := false
  query : Option String := none
  fragment : Option String := none
deriving DecidableEq, Repr

namespace Host

/-- The start and length of the first longest run of zeros, where at least two stand together. -/
def longestRun (groups : List Nat) : Nat × Nat :=
  let run := fun start => ((groups.drop start).takeWhile (· == 0)).length
  (List.range groups.length).foldl (fun best start =>
    if best.2 < run start ∧ 2 ≤ run start then (start, run start) else best) (0, 0)

def writeGroups (groups : List Nat) : String :=
  ":".intercalate (groups.map fun g => String.ofList (Nat.toDigits 16 g))

def text : Host → String
  | domain name => name
  | ipv4 address =>
    ".".intercalate ([16777216, 65536, 256, 1].map fun unit => toString (address / unit % 256))
  | ipv6 groups =>
    let (start, length) := longestRun groups
    if length = 0 then "[" ++ writeGroups groups ++ "]"
    else
      "[" ++ writeGroups (groups.take start) ++ "::" ++ writeGroups (groups.drop (start + length)) ++
        "]"

end Host

namespace Authority

def userText (a : Authority) : String :=
  match a.password with
  | some password => a.username ++ ":" ++ password ++ "@"
  | none => if a.username.isEmpty then "" else a.username ++ "@"

def text (a : Authority) : String :=
  a.userText ++ (a.host.map Host.text).getD "" ++ (a.port.map fun p => ":" ++ toString p).getD ""

end Authority

namespace Url

def Path.text : Path → String
  | .segments parts => String.join (parts.map ("/" ++ ·))
  | .plain text => text

/-- Whether a path begins with an empty segment and goes on. Without an authority before it, such a
path is marked, since it must not look like one. -/
def Path.beginsEmpty : Path → Bool
  | .segments ("" :: _ :: _) => true
  | _ => false

def pathText (url : Url) : String := (if url.marked then "/." else "") ++ url.path.text

def textToQuery (url : Url) : String :=
  url.scheme ++ ":" ++ (url.authority.map fun a => "//" ++ a.text).getD "" ++ url.pathText ++
    (url.query.map ("?" ++ ·)).getD ""

def text (url : Url) : String := url.textToQuery ++ (url.fragment.map ("#" ++ ·)).getD ""

def servers : List (String × Nat) :=
  [("http", 80), ("https", 443), ("ws", 80), ("wss", 443), ("ftp", 21)]

def defaultPort? (scheme : String) : Option Nat := (servers.find? (·.1 == scheme)).map (·.2)

/-- The schemes in which a backslash is a slash and a path is never empty. -/
def isSpecial (scheme : String) : Bool := scheme == "file" || (defaultPort? scheme).isSome

def origin (url : Url) : String × Option Authority := (url.scheme, url.authority)

end Url
end GrantKeeper
