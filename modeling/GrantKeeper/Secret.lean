import GrantKeeper.Json.Fields
import GrantKeeper.Json.Value

/-! Secrets: texts that show themselves to nobody. Only the credential store gets to write what
a secret holds. -/
namespace GrantKeeper

structure Secret where
  exposed : String := ""
deriving DecidableEq, Repr, Inhabited

namespace Secret

def redaction : String := "[REDACTED]"

def shown (_ : Secret) : String := redaction

/-- A text shown only as empty or not. -/
def redacted (text : String) : String := if text.isEmpty then "" else redaction

def toJson (secret : Secret) : Json.Value := .text secret.exposed

def ofJson? (tree : Json.Tree) : Option Secret := Secret.mk <$> tree.asText?

end Secret
end GrantKeeper
