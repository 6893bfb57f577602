import GrantKeeper.Url
import GrantKeeper.Url.Domain

/-! What each part of an address must percent-encode, and reading hosts: addresses of the internet protocol in
their many spellings, and domains. -/
namespace GrantKeeper

namespace Url

def isVisible (b : UInt8) : Bool := 0x20 ≤ b && b < 0x7F

/-- The bytes that stand for themselves: visible ones that are not among some characters. -/
def plainExcept (escaped : String) (b : UInt8) : Bool :=
  isVisible b && !(escaped.toList.contains (Char.ofNat b.toNat))

def escapeOpaque : String → String := Percent.encode (plainExcept "")
def escapeFragment : String → String := Percent.encode (plainExcept " \"<>\x60")
def escapeQuery (special : Bool) : String → String :=
  Percent.encode (plainExcept (if special then " \"#<>\x27" else " \"#<>"))
def escapeSegment : String → String := Percent.encode (plainExcept " \"#<>?\x60\x7b\x7d")
def escapeUser : String → String :=
  Percent.encode (plainExcept " \"#<>?\x60\x7b\x7d/:;=@[\\]^|")

end Url

inductive UrlError
  | relative
  | emptyHost
  | port
  | ipv4
  | ipv6
  | domain
  | hostCharacter
deriving DecidableEq, Repr

def UrlError.message : UrlError → String
  | relative => "relative URL without a base"
  | emptyHost => "empty host"
  | port => "invalid port number"
  | ipv4 => "invalid IPv4 address"
  | ipv6 => "invalid IPv6 address"
  | domain => "invalid international domain name"
  | hostCharacter => "invalid domain character"

namespace Host

/-! ### Version 4 -/

/-- The digits of a number and their base: hexadecimal after `0x`, octal after `0`. -/
def radix : List Char → List Char × Nat
  | '0' :: 'x' :: digits => (digits, 16)
  | '0' :: 'X' :: digits => (digits, 16)
  | '0' :: d :: digits => (d :: digits, 8)
  | digits => (digits, 10)

/-- A number in one of three bases. A base without digits is zero. -/
def number? (text : List Char) : Option Nat :=
  if text.isEmpty then none
  else
    let (digits, base) := radix text
    digits.foldlM (fun n c => do
      let value ← Hex.value? c
      if value < base then some (n * base + value) else none) 0

/-- Whether the last part of a domain, but for an empty one, is a number. -/
def endsInNumber (parts : List (List Char)) : Bool :=
  let last := match parts.reverse with
    | [] :: before :: _ => before
    | last :: _ => last
    | [] => []
  (!last.isEmpty && last.all (fun c => '0' ≤ c && c ≤ '9')) || (number? last).isSome

/-- Parts that are bytes, followed by a number that fills the rest of four bytes. -/
def ofNumbers? (numbers : List Nat) : Option Nat :=
  match numbers.reverse with
  | [] => none
  | last :: front =>
    if front.length ≤ 3 ∧ front.all (· ≤ 255) ∧ last < Nat.pow 256 (4 - front.length) then
      let high := front.reverse.foldl (fun n part => n * 256 + part) 0
      some (high * Nat.pow 256 (4 - front.length) + last)
    else none

def ipv4? (parts : List (List Char)) : Option Nat := do
  let parts := match parts.reverse with
    | [] :: before => before.reverse
    | _ => parts
  (← parts.mapM number?) |> ofNumbers?

/-! ### Version 6 -/

def byte? (text : List Char) : Option Nat :=
  if text.isEmpty || 3 < text.length || (1 < text.length && text.head? == some '0') then none
  else if text.all (fun c => '0' ≤ c && c ≤ '9') then
    (text.foldlM (fun n c => (Hex.value? c).map (n * 10 + ·)) 0).filter (· ≤ 255)
  else none

/-- One group, or the two groups of a version 4 address. -/
def groups? (last : Bool) (text : List Char) : Option (List Nat) :=
  if last && text.contains '.' then
    match Text.pieces '.' text |>.mapM byte? with
    | some [a, b, c, d] => some [a * 256 + b, c * 256 + d]
    | _ => none
  else if text.length ≤ 4 then (fun g => [g]) <$> Hex.number? text
  else none

def side? (last : Bool) : List (List Char) → Option (List Nat)
  | [] => some []
  | [text] => groups? last text
  | text :: rest => do return (← groups? false text) ++ (← side? last rest)

def splitGap : List Char → Option (List Char × List Char)
  | ':' :: ':' :: rest => some ([], rest)
  | c :: rest => (splitGap rest).map fun (front, back) => (c :: front, back)
  | [] => none

def texts (text : List Char) : List (List Char) := if text.isEmpty then [] else Text.pieces ':' text

/-- Eight groups, of which a gap stands for one or more zeros. -/
def ipv6? (text : List Char) : Option (List Nat) :=
  match splitGap text with
  | some (front, back) => do
    let front ← side? false (texts front)
    let back ← side? true (texts back)
    if front.length + back.length ≤ 7 then
      some (front ++ List.replicate (8 - front.length - back.length) 0 ++ back)
    else none
  | none => do
    let groups ← side? true (texts text)
    if groups.length = 8 then some groups else none

/-! ### All hosts -/

/-- The host of a scheme that needs one. -/
def read (text : String) : Except UrlError Host := do
  match text.toList with
  | '[' :: rest =>
    let some groups := rest.getLast?.filter (· == ']') >>= fun _ => ipv6? rest.dropLast
      | throw .ipv6
    return .ipv6 groups
  | _ =>
    let some labels := Domain.labels? text | throw .domain
    if labels.all List.isEmpty && labels.length ≤ 1 then throw .emptyHost
    if endsInNumber labels then
      let some address := ipv4? labels | throw .ipv4
      return .ipv4 address
    return .domain (String.ofList (labels.intersperse ['.']).flatten)

def isForbiddenAnywhere (c : Char) : Bool :=
  ['\x00', '\t', '\n', '\r', ' ', '#', '/', ':', '<', '>', '?', '@', '[', '\\', ']', '^', '|'].contains c

/-- The host of any other scheme; an empty one is none. -/
def readPlain (text : String) : Except UrlError (Option Host) := do
  match text.toList with
  | [] => return none
  | '[' :: _ => some <$> read text
  | chars =>
    if chars.any isForbiddenAnywhere then throw .hostCharacter
    return some (.domain (Url.escapeOpaque text))

end Host
end GrantKeeper
