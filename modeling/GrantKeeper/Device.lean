import GrantKeeper.Act
import GrantKeeper.Json.Fields
import GrantKeeper.Json.Value
import GrantKeeper.Text.Blank

/-! Device codes: what an authorization server gives to a device whose user is to agree
elsewhere, the scopes asked for, and the prompt shown to the user. -/
namespace GrantKeeper

/-- A device code. Its lifetime and the interval between polls are in seconds. -/
structure DeviceCode where
  deviceCode : String
  userCode : String
  verificationUri : String
  verificationUriComplete : String := ""
  expiresIn : Nat
  interval : Nat := 5
deriving DecidableEq, Repr

namespace DeviceCode

def ofJson? (tree : Json.Tree) : Option DeviceCode := do
  match ← tree.fields? ["device_code", "user_code", "verification_uri",
      "verification_uri_complete", "expires_in", "interval"] with
  | [device, user, uri, complete, lifetime, interval] =>
    return {
      deviceCode := ← Json.required Json.Tree.asText? device
      userCode := ← Json.required Json.Tree.asText? user
      verificationUri := ← Json.required Json.Tree.asText? uri
      verificationUriComplete := ← Json.optional "" Json.Tree.asText? complete
      expiresIn := ← Json.required Json.Tree.asNat64? lifetime
      interval := ← Json.optional 5 Json.Tree.asNat64? interval }
  | _ => none

def toJson (c : DeviceCode) : Json.Value :=
  .object [("device_code", .text c.deviceCode), ("user_code", .text c.userCode),
    ("verification_uri", .text c.verificationUri),
    ("verification_uri_complete", .text c.verificationUriComplete),
    ("expires_in", .ofInt c.expiresIn), ("interval", .ofInt c.interval)]

/-- The address to show: the complete one if there is one. -/
def verificationUrl (c : DeviceCode) : String :=
  if c.verificationUriComplete.isEmpty then c.verificationUri else c.verificationUriComplete

def prompt (c : DeviceCode) : String :=
  "To log in, open the following URL in your browser:\n\n    " ++ c.verificationUrl ++
    "\n\nand confirm that it shows the code " ++ c.userCode ++
    "\n\nWaiting for the login to complete...\n"

end DeviceCode

namespace Scopes

def openId : String := "openid"

def offlineAccess : String := "offline_access"

def add (scopes : List String) (scope : String) : List String :=
  if scopes.contains scope then scopes else scopes ++ [scope]

/-- Appends a scope, without the blanks around it, unless nothing is left of it. -/
def addTrimmed (scopes : List String) (scope : String) : List String :=
  let scope := Text.trim scope
  if scope.isEmpty then scopes else add scopes scope

def parameter (additional : List String) : String :=
  " ".intercalate (additional.foldl addTrimmed [openId])

end Scopes

structure DeviceCodeSource (m : Type → Type) where
  /-- A code for a list of scopes besides the one always asked for. -/
  request : List String → Act m DeviceCode

end GrantKeeper
