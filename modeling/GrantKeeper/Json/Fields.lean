import GrantKeeper.Json.Number
import GrantKeeper.Json.Text
import GrantKeeper.Json.Tree

/-! Records in JSON. A record is an object, whose unknown members are skipped and whose known
members appear at most once, or an array of its fields in their order, which may end early. -/
namespace GrantKeeper.Json

/-- The values given for the fields of a record, in the order of the fields. -/
abbrev Fields := List (Option Tree)

/-- The value of one field among the members of an object, whose keys are read already. -/
def fieldOf? (members : List (String × Tree)) (name : String) : Option (Option Tree) :=
  match members.filter (·.1 == name) with
  | [] => some none
  | [(_, tree)] => some (some tree)
  | _ => none

def Tree.fields? (names : List String) : Tree → Option Fields
  | .object members => do
    let members ← members.mapM fun (key, tree) => return (← text? key, tree)
    names.mapM (fieldOf? members)
  | .array items =>
    if items.length ≤ names.length then
      some (items.map some ++ List.replicate (names.length - items.length) none)
    else none
  | _ => none

def Tree.asText? : Tree → Option String
  | .text written => text? written
  | _ => none

def Tree.asInteger? (low high : Int) : Tree → Option Int
  | .numeral written =>
    (integer? written).filter fun value => decide (low ≤ value) && decide (value ≤ high)
  | _ => none

def Tree.asInt64? : Tree → Option Int := Tree.asInteger? (-0x8000000000000000) 0x7FFFFFFFFFFFFFFF

def Tree.asNat64? (tree : Tree) : Option Nat := Int.toNat <$> tree.asInteger? 0 0xFFFFFFFFFFFFFFFF

def required (read : Tree → Option α) (field : Option Tree) : Option α := field >>= read

def optional (default : α) (read : Tree → Option α) : Option Tree → Option α
  | none => some default
  | some tree => read tree

def nullable (read : Tree → Option α) : Option Tree → Option (Option α)
  | none => some none
  | some .null => some none
  | some tree => some <$> read tree

def Tree.items? (read : Tree → Option α) : Tree → Option (List α)
  | .array items => items.mapM read
  | _ => none

def Tree.members? (read : Tree → Option α) : Tree → Option (List (String × α))
  | .object members => members.mapM fun (key, tree) => return (← text? key, ← read tree)
  | _ => none

end GrantKeeper.Json
