import GrantKeeper.Act
import GrantKeeper.Json.Fields
import GrantKeeper.Json.Value

/-! Keyrings: stores of labelled secrets by key. -/
namespace GrantKeeper

/-- What a keyring holds for a key. -/
structure Entry where
  label : String
  data : String
deriving DecidableEq, Repr

structure KeyringItem where
  key : String
  label : String
  data : String
deriving DecidableEq, Repr

namespace Entry

def ofJson? (tree : Json.Tree) : Option Entry := do
  match ← tree.fields? ["label", "data"] with
  | [label, data] =>
    return {
      label := ← Json.required Json.Tree.asText? label
      data := ← Json.required Json.Tree.asText? data }
  | _ => none

def toJson (entry : Entry) : Json.Value :=
  .object [("label", .text entry.label), ("data", .text entry.data)]

def item (entry : Entry) (key : String) : KeyringItem := ⟨key, entry.label, entry.data⟩

end Entry

def KeyringItem.entry (item : KeyringItem) : Entry := ⟨item.label, item.data⟩

/-- The operations of a keyring. Setting replaces what there was; removing tells whether there was
anything. -/
structure Keyring (m : Type → Type) where
  get : String → Act m (Option KeyringItem)
  set : KeyringItem → Act m Unit
  remove : String → Act m Bool
  keys : Act m (List String)

def Keyring.hoist {m n : Type → Type} [Monad m] [Monad n] (move : ∀ {α}, m α → n α)
    (keyring : Keyring m) : Keyring n where
  get key := Act.hoist move (keyring.get key)
  set item := Act.hoist move (keyring.set item)
  remove key := Act.hoist move (keyring.remove key)
  keys := Act.hoist move keyring.keys

abbrev Entries := StringMap Entry

namespace Entries

def item? (entries : Entries) (key : String) : Option KeyringItem :=
  (entries.get? key).map (·.item key)

def withItem (entries : Entries) (item : KeyringItem) : Entries :=
  entries.insert item.key item.entry

def contains (entries : Entries) (key : String) : Bool := (entries.get? key).isSome

def keyring : Keyring (StateM Entries) where
  get key := Act.step do return (← get).item? key
  set item := Act.step (modify fun entries => entries.withItem item)
  remove key := Act.step do
    let present := (← get).contains key
    modify fun entries => StringMap.erase entries key
    return present
  keys := Act.step do return StringMap.keys (← get)

end Entries
end GrantKeeper
