import GrantKeeper.Proofs.Keyring.File

/-! What the operations of a keyring answer. The keyring in memory is the measure: it answers from its
entries alone, and never fails. -/
namespace GrantKeeper

inductive Answer
  | item (found : Option KeyringItem)
  | done
  | removed (present : Bool)
  | keys (listed : List String)
deriving DecidableEq

def Keyring.answer {m : Type → Type} [Monad m] (keyring : Keyring m) :
    FileKeyring.Operation → Act m Answer
  | .get key => return .item (← keyring.get key)
  | .set item => do
    keyring.set item
    return .done
  | .remove key => return .removed (← keyring.remove key)
  | .keys => return .keys (← keyring.keys)

namespace FileKeyring.Operation

/-- What an operation answers where there are certain entries. -/
def answerIn (entries : Entries) : Operation → Answer
  | get key => .item (entries.item? key)
  | set _ => .done
  | remove key => .removed (entries.contains key)
  | keys => .keys entries.keys

def after (operation : Operation) (entries : Entries) : Entries :=
  (operation.change entries).getD entries

theorem isSome_change_iff (operation : Operation) (entries : Entries) :
    (operation.change entries).isSome ↔
      (∃ item, operation = .set item) ∨ operation.answerIn entries = .removed true := by
  cases operation with
  | get key => simp [change, answerIn]
  | set item => simp [change]
  | remove key => by_cases present : entries.contains key <;> simp [change, answerIn, present]
  | keys => simp [change, answerIn]

theorem after_remove (key : String) (entries : Entries) :
    (remove key).after entries = StringMap.erase entries key := by
  by_cases present : entries.contains key
  · simp [after, change, present]
  · have absent : key ∉ entries.keys := by
      rw [← StringMap.isSome_get?_iff]
      exact present
    simp [after, change, present, StringMap.erase_of_notMem entries absent]

theorem outcome_memory (operation : Operation) (entries : Entries) :
    (Entries.keyring.answer operation).outcome entries =
      (.ok (operation.answerIn entries), operation.after entries) := by
  cases operation with
  | get key => rfl
  | set item => rfl
  | remove key =>
    rw [after_remove]
    rfl
  | keys => rfl

variable {σ : Type} {files : Files (StateM σ)}

/-- An open keyring file answers from what is in memory, if it could write what it had to. -/
theorem ending_answer (operation : Operation) (keyring : FileKeyring) (world : σ) :
    ((FileKeyring.keyring files).answer operation).ending keyring world =
      match operation.change keyring.entries with
      | none => (.ok (operation.answerIn keyring.entries), keyring, world)
      | some entries =>
        let ended := replaced files keyring entries world
        (ended.1.map fun _ => operation.answerIn keyring.entries, ended.2) := by
  cases operation with
  | get key => rfl
  | set item =>
    have set_ : ((FileKeyring.keyring files).set item).ending keyring world =
        replaced files keyring (keyring.entries.withItem item) world := rfl
    rw [Keyring.answer, Act.ending_bind, set_]
    simp only [change]
    rcases replaced files keyring (keyring.entries.withItem item) world with ⟨_ | _, _, _⟩ <;> rfl
  | remove key =>
    rw [Keyring.answer, Act.ending_bind, ending_remove]
    by_cases present : keyring.entries.contains key
    · simp only [change, answerIn, present, if_true]
      rcases replaced files keyring (StringMap.erase keyring.entries key) world with ⟨_ | _, _, _⟩ <;>
        rfl
    · simp [change, answerIn, present]
  | keys => rfl

end FileKeyring.Operation
end GrantKeeper
