import GrantKeeper.Digest.Sha256
import GrantKeeper.Encoding.Base64
import GrantKeeper.Text.Utf8

/-! Proof keys for code exchange: a verifier and the challenge derived from it. -/
namespace GrantKeeper

structure Challenge where
  verifier : String
  code : String
  method : String
deriving DecidableEq, Repr

namespace Challenge

def codeOf (verifier : String) : String :=
  Base64.urlSafe.encode (Sha256.digest (Utf8.encode verifier))

def ofVerifier (verifier : String) : Challenge := ⟨verifier, codeOf verifier, "S256"⟩

def randomBytes : Nat := 32

def opaqueText (bytes : List UInt8) : String := Base64.urlSafe.encode bytes

end Challenge
end GrantKeeper
