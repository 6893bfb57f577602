import GrantKeeper.Files
import GrantKeeper.Files.Path
import GrantKeeper.Keyring

/-! The keyring in a file. All entries are in memory; every change writes the whole file beside
its place and then moves it there, so that the place never holds a part of it. -/
namespace GrantKeeper

/-- An open keyring file. The number tells the file written beside it from those of others. -/
structure FileKeyring where
  path : String
  process : Nat := 0
  entries : Entries := ∅

namespace FileKeyring

def encode (entries : Entries) : String :=
  (Json.Value.object (entries.entries.map fun (key, entry) => (key, entry.toJson))).toPretty

/-- The entries in a keyring file, of which the last one with a key counts. -/
def decode? (text : String) : Option Entries :=
  (Json.Tree.parse? (Utf8.encode text) >>= Json.Tree.members? Entry.ofJson?).map StringMap.ofList

variable {m : Type → Type} [Monad m]

/-- Opens a keyring file; one that is missing has no entries. -/
def load (files : Files m) (path : String) (process : Nat) : Act m FileKeyring := do
  match ← Act.step (files.readText path) with
  | .ok text =>
    match decode? text with
    | some entries => return ⟨path, process, entries⟩
    | none => Act.fail (.storeRead ("parsing " ++ path ++ ": not a keyring"))
  | .error .missing => return ⟨path, process, ∅⟩
  | .error error => Act.fail (.storeRead ("reading " ++ path ++ ": " ++ error.text))

def writing (activity : String) (step : m (Except FileError Unit)) : Act m Unit := do
  match ← Act.step step with
  | .ok () => return
  | .error error => Act.fail (.file (activity ++ ": " ++ error.text))

def temporary (directory : String) (process : Nat) : String :=
  Path.join directory (".keyring.tmp." ++ toString process)

def write (files : Files m) (keyring : FileKeyring) : Act m Unit := do
  let some directory := Path.parent? keyring.path
    | Act.fail (.file "keyring path has no parent directory")
  let beside := temporary directory keyring.process
  writing "creating keyring directory" (files.createDirectories directory)
  writing "writing temp keyring file" (files.write beside (Utf8.encode (encode keyring.entries)))
  writing "setting keyring file permissions" (files.restrict beside)
  writing "renaming temp keyring file" (files.rename beside keyring.path)

def save (files : Files m) : Act (StateT FileKeyring m) Unit := do
  let keyring ← Act.step get
  Act.hoist StateT.lift (write files keyring)

def current : Act (StateT FileKeyring m) Entries := Act.step do return (← get).entries

def replace (entries : Entries) : Act (StateT FileKeyring m) Unit :=
  Act.step (modify fun keyring => { keyring with entries })

/-- The operations on an open keyring file. A change counts in memory even if it could not be
written. -/
def keyring (files : Files m) : Keyring (StateT FileKeyring m) where
  get key := do return (← current).item? key
  set item := do
    replace ((← current).withItem item)
    save files
  remove key := do
    let entries ← current
    if entries.contains key then
      replace (StringMap.erase entries key)
      save files
      return true
    else return false
  keys := do return StringMap.keys (← current)

end FileKeyring
end GrantKeeper
