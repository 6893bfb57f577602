import GrantKeeper.Encoding.Percent
import GrantKeeper.Encoding.Punycode
import GrantKeeper.Text.Blank
import GrantKeeper.Text.Composed
import GrantKeeper.Text.Direction
import GrantKeeper.Text.Joining
import GrantKeeper.Text.Utf8
import GrantKeeper.Url.Domain.Image

/-! Domains: names whose labels may be in any script, and the labels in ASCII that servers are
asked for. All spellings of a domain give the same labels. -/
namespace GrantKeeper.Domain

/-- A label: the text that it shows and its form in ASCII. -/
structure Label where
  text : List Char
  written : List Char
deriving DecidableEq, Repr

def isAscii (c : Char) : Bool := c.toNat < 128

/-- The ASCII characters that no domain may have: controls, spaces and those with a meaning of their
own in addresses. -/
def isForbidden (c : Char) : Bool :=
  c.toNat ≤ 0x20 || c.toNat == 0x7f ||
    ['%', '#', '/', ':', '<', '>', '?', '@', '[', '\\', ']', '^', '|'].contains c

/-- Whether a text beyond ASCII may be a label: it is not too long, begins with no mark, and its
joiners mean something. -/
def isLabel (text : List Char) : Bool :=
  text.length ≤ 1000 && !text.head?.any Text.isMark && Text.joinersMatter [] text

def isFinal (text : List Char) : Bool :=
  text.all (fun c => isOwnImage c && !isForbidden c && c != '.') && Text.composed text = text

def Label.ofWritten? (hidden : List Char) : Option Label := do
  if 2000 < hidden.length then none
  let text ← Punycode.decode? hidden
  if !text.all isAscii && isFinal text && isLabel text then
    some ⟨text, 'x' :: 'n' :: '-' :: '-' :: hidden⟩
  else none

/-- The label that shows a text. One that looks like a hidden text must be one. -/
def Label.ofText? (text : List Char) : Option Label :=
  match text with
  | 'x' :: 'n' :: '-' :: '-' :: hidden => Label.ofWritten? hidden
  | _ =>
    if text.all isAscii then some ⟨text, text⟩
    else if isLabel text then some ⟨text, 'x' :: 'n' :: '-' :: '-' :: Punycode.encode text⟩
    else none

def letters? (text : List Char) : Option (List Char) :=
  if text.all isAscii then some (text.map Char.toLower)
  else (text.mapM image?).map fun images => Text.composed images.flatten

def keepsShape (labels : List Label) : Bool :=
  !labels.any (fun label => label.text.any fun c => !isAscii c && (Text.direction c).turns) ||
    labels.all fun label => Text.keepsShape label.text

/-- The labels of a domain, which may be percent-encoded, in ASCII. -/
def labels? (text : String) : Option (List (List Char)) := do
  let text ← Utf8.decode? (Percent.decode (Utf8.encode text))
  let letters ← letters? text.toList
  if letters.any isForbidden then none
  let labels ← (Text.pieces '.' letters).mapM Label.ofText?
  if keepsShape labels then some (labels.map Label.written) else none

end GrantKeeper.Domain
