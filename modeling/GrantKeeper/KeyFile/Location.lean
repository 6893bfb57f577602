import GrantKeeper.Act
import GrantKeeper.Encoding.Base64
import GrantKeeper.Files
import GrantKeeper.KeyFile
import GrantKeeper.Text.Blank

/-! Where a key file is: in a file, named by a path or a `file://` address, or inline in a
`data:` address. -/
namespace GrantKeeper.KeyFile

inductive Location
  | path (path : String)
  | inline (data : String)
deriving DecidableEq, Repr

namespace Location

def ofText (text : String) : Location :=
  match Text.after? "data:" text with
  | some data => .inline data
  | none => .path ((Text.after? "file://" text).getD text)

/-- The bytes of inline data: its media type ends at the first comma and may ask for base64. -/
def inlineBytes (data : String) : Except Error (List UInt8) := do
  let some (mediaType, payload) := Text.splitFirst ',' data
    | throw (.configuration "malformed data URL for key file")
  let (mime, base64) := match Text.before? ";base64" mediaType with
    | some mime => (mime, true)
    | none => (mediaType, false)
  if mime != "application/json" then
    throw (.unsupportedFormat ("data URL of type " ++ Text.quoted mime))
  if base64 then
    match Base64.standard.decode? payload.toList with
    | some bytes => return bytes
    | none => throw (.configuration "decoding inline key file: not in the standard alphabet")
  else return Utf8.encode payload

variable {m : Type → Type} [Monad m]

def load (files : Files m) : Location → Act m KeyFile
  | .inline data => Act.ofExcept do KeyFile.parse (← inlineBytes data) "inline key file"
  | .path name => do
    match ← Act.step (files.read name) with
    | .ok bytes => Act.ofExcept (KeyFile.parse bytes name)
    | .error error => Act.fail (.file ("reading key file " ++ name ++ ": " ++ error.text))

end Location
end GrantKeeper.KeyFile
