import GrantKeeper.Keyring

/-! The keyring in a store of named secrets that cannot list its names: one more secret holds the
list of the keys, oldest first. -/
namespace GrantKeeper

/-- A store of secrets by name. Deleting tells whether there was one. -/
structure SecretStore (m : Type → Type) where
  get : String → Act m (Option String)
  set : String → String → Act m Unit
  delete : String → Act m Bool

namespace SecretStore

def indexName : String := "keyring-index"

def encodeIndex (keys : List String) : String := (Json.Value.array (keys.map .text)).toCompact

def decodeIndex? (text : String) : Option (List String) :=
  Json.Tree.parse? (Utf8.encode text) >>= Json.Tree.items? Json.Tree.asText?

def encodeEntry (entry : Entry) : String := entry.toJson.toCompact

def decodeEntry? (text : String) : Option Entry :=
  Json.Tree.parse? (Utf8.encode text) >>= Entry.ofJson?

variable {m : Type → Type} [Monad m]

def readIndex (store : SecretStore m) : Act m (List String) := do
  match ← store.get indexName with
  | none => return []
  | some text =>
    match decodeIndex? text with
    | some keys => return keys
    | none => Act.fail (.storeRead "parsing keyring index: not a list of keys")

def writeIndex (store : SecretStore m) (keys : List String) : Act m Unit :=
  store.set indexName (encodeIndex keys)

/-- The keyring in a store. An item is written before its key is listed, and deleted before its
key is taken off the list. -/
def keyring (store : SecretStore m) : Keyring m where
  get key := do
    match ← store.get key with
    | none => return none
    | some text =>
      match decodeEntry? text with
      | some entry => return some (entry.item key)
      | none => Act.fail (.storeRead ("parsing keyring item " ++ key ++ ": not an item"))
  set item := do
    store.set item.key (encodeEntry item.entry)
    let keys ← readIndex store
    if keys.contains item.key then return
    else writeIndex store (keys ++ [item.key])
  remove key := do
    let removed ← store.delete key
    let keys ← readIndex store
    let left := keys.filter (· != key)
    if left.length = keys.length then return removed
    else
      writeIndex store left
      return removed
  keys := readIndex store

end SecretStore
end GrantKeeper
