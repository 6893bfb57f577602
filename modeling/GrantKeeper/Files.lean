import GrantKeeper.Text.Utf8

/-! The file operations that the library needs, over any base monad, and how they fail. -/
namespace GrantKeeper

inductive FileError
  | missing
  | exists
  | notDirectory
  | isDirectory
  | nameTooLong
  | nulInName
  | notText
  | busy
  | noSpace
  | other (text : String)
deriving DecidableEq, Repr

def FileError.text : FileError → String
  | missing => "No such file or directory (os error 2)"
  | .exists => "File exists (os error 17)"
  | notDirectory => "Not a directory (os error 20)"
  | isDirectory => "Is a directory (os error 21)"
  | busy => "Device or resource busy (os error 16)"
  | nameTooLong => "File name too long (os error 36)"
  | nulInName => "file name contained an unexpected NUL byte"
  | notText => "stream did not contain valid UTF-8"
  | noSpace => "No space left on device (os error 28)"
  | other text => text

/-- File operations. A failed one changes nothing that the next ones can see, but that directories
may have been made on the way to one that could not be. -/
structure Files (m : Type → Type) where
  read : String → m (Except FileError (List UInt8))
  /-- Makes a directory and those above it, unless they are there. -/
  createDirectories : String → m (Except FileError Unit)
  /-- Gives a file a content, making it if needed. -/
  write : String → List UInt8 → m (Except FileError Unit)
  /-- Makes a file accessible to its owner only. -/
  restrict : String → m (Except FileError Unit)
  /-- Puts a file in the place of another name. -/
  rename : String → String → m (Except FileError Unit)

namespace Files

variable {m : Type → Type} [Monad m]

def readText (files : Files m) (path : String) : m (Except FileError String) := do
  match ← files.read path with
  | .error error => return .error error
  | .ok bytes =>
    match Utf8.decode? bytes with
    | some text => return .ok text
    | none => return .error .notText

def hoist {n : Type → Type} (move : ∀ {α}, m α → n α) (files : Files m) : Files n where
  read path := move (files.read path)
  createDirectories path := move (files.createDirectories path)
  write path bytes := move (files.write path bytes)
  restrict path := move (files.restrict path)
  rename old new := move (files.rename old new)

end Files
end GrantKeeper
