import Mathlib.Data.List.Nodup
import GrantKeeper.Proofs.Credential.Stored
import GrantKeeper.Proofs.Faults

/-! A logout from a keyring of which any call may fail. -/
namespace GrantKeeper

variable {σ : Type}

namespace Keyring

/-- A keyring that lists the keys of its items, each once, and whose removals take an item away, or fail
and leave all items where they are. -/
structure Removable (keyring : Keyring (StateM σ)) (items : σ → String → Option KeyringItem) :
    Prop where
  lists : ∀ world, items (keyring.keys.outcome world).2 = items world
  listed : ∀ world keys after, keyring.keys.outcome world = (.ok keys, after) →
    keys.Nodup ∧ ∀ key, key ∈ keys ↔ (items world key).isSome
  removed : ∀ key present world after, (keyring.remove key).outcome world = (.ok present, after) →
    ∀ other, items after other = if other = key then none else items world other
  left : ∀ key error world after,
    (keyring.remove key).outcome world = (.error (.error error), after) → items after = items world
  keys_faultless : keyring.keys.Faultless
  remove_faultless : ∀ key, (keyring.remove key).Faultless

abbrev Removal := String × Except Error Bool

/-- Nothing but some removals happens, one after the other. -/
inductive Removes (keyring : Keyring (StateM σ)) : σ → List Removal → σ → Prop
  | done (world : σ) : Removes keyring world [] world
  | next {world middle last : σ} {key : String} {answer : Except Error Bool} {rest : List Removal}
    (called : (keyring.remove key).outcome world = (answer.mapError .error, middle))
    (others : Removes keyring middle rest last) :
    Removes keyring world ((key, answer) :: rest) last

def Failed (calls : List Removal) (key : String) : Prop := ∃ error, (key, .error error) ∈ calls

variable {keyring : Keyring (StateM σ)} {items : σ → String → Option KeyringItem}

theorem Removable.outcome_remove (removable : keyring.Removable items) (key : String) (world : σ) :
    ∃ answer after, (keyring.remove key).outcome world =
      ((answer : Except Error Bool).mapError .error, after) := by
  rcases called : (keyring.remove key).outcome world with ⟨(error | fault) | present, after⟩
  · exact ⟨.error error, after, rfl⟩
  · exact absurd ⟨fault, congrArg Prod.fst called⟩ (removable.remove_faultless key world)
  · exact ⟨.ok present, after, rfl⟩

theorem Removes.taken (removable : keyring.Removable items) {world last : σ} {calls : List Removal}
    (removes : keyring.Removes world calls last) (key : String) :
    ((∃ present, (key, .ok present) ∈ calls) → items last key = none) ∧
      ((∀ present, (key, .ok present) ∉ calls) → items last key = items world key) := by
  induction removes with
  | done world => simp
  | @next world middle last first answer rest called others ih =>
    cases answer with
    | error error =>
      rw [← removable.left first error world middle called]
      simpa using ih
    | ok present =>
      have removed := removable.removed first present world middle called key
      by_cases own : key = first
      · -- It stays away: the other removals do not bring it back.
        subst own
        rw [if_pos rfl] at removed
        refine ⟨fun _ => ?_, fun none => absurd List.mem_cons_self (none present)⟩
        by_cases again : ∃ present, (key, .ok present) ∈ rest
        · exact ih.1 again
        · rw [ih.2 (not_exists.mp again), removed]
      · rw [if_neg own] at removed
        rw [← removed]
        simpa [own] using ih

theorem Removes.left (removable : keyring.Removable items) {world last : σ} {calls : List Removal}
    (removes : keyring.Removes world calls last) (once : (calls.map Prod.fst).Nodup)
    (all : ∀ key, (items world key).isSome → key ∈ calls.map Prod.fst) (key : String) :
    (Failed calls key → items last key = items world key) ∧
      (¬Failed calls key → items last key = none) := by
  obtain ⟨gone, kept⟩ := removes.taken removable key
  constructor
  · rintro ⟨error, failed⟩
    refine kept fun present also => ?_
    cases List.inj_on_of_nodup_map once failed also rfl
  · intro unfailed
    by_cases called : key ∈ calls.map Prod.fst
    · obtain ⟨⟨_, error | present⟩, member, rfl⟩ := List.mem_map.mp called
      · exact absurd ⟨error, member⟩ unfailed
      · exact gone ⟨present, member⟩
    · rw [kept fun present member => called (List.mem_map_of_mem member)]
      rw [← Option.not_isSome_iff_eq_none]
      exact fun there => called (all key there)

end Keyring

namespace Credential

open Keyring (Removal Failed)

variable {keyring : Keyring (StateM σ)} {items : σ → String → Option KeyringItem}

def noted (failed : Option Error) (call : Removal) : Option Error :=
  match call.2 with
  | .ok _ => failed
  | .error error => some (asWrite error)

theorem foldl_noted {calls : List Removal} (none : ∀ key, ¬Failed calls key)
    (failed : Option Error) : calls.foldl noted failed = failed := by
  induction calls with
  | nil => rfl
  | cons call rest ih =>
    rcases call with ⟨key, error | present⟩
    · exact absurd ⟨error, List.mem_cons_self⟩ (none key)
    · exact ih fun key fails => none key (fails.imp fun _ => List.mem_cons_of_mem _)

theorem foldl_noted_eq_none (calls : List Removal) (failed : Option Error) :
    calls.foldl noted failed = none ↔ failed = none ∧ ∀ key, ¬Failed calls key := by
  induction calls generalizing failed with
  | nil => simp [Failed]
  | cons call rest ih =>
    rw [List.foldl_cons, ih]
    rcases call with ⟨first, error | present⟩
    · simp only [noted, reduceCtorEq, false_and, false_iff, not_and, not_forall, not_not]
      exact fun _ => ⟨first, error, List.mem_cons_self⟩
    · simp [noted, Failed]

theorem foldl_noted_of_last {before after : List Removal} (none : ∀ key, ¬Failed after key)
    (key : String) (error : Error) (failed : Option Error) :
    (before ++ (key, .error error) :: after).foldl noted failed = some (asWrite error) := by
  rw [List.foldl_append, List.foldl_cons, foldl_noted none]
  rfl

/-- Removing credentials tries each of them once, in order, whatever comes of it. -/
theorem removes_removeAll (removable : keyring.Removable items) (keys : List String) :
    ∀ (failed : Option Error) (world : σ), ∃ calls last,
      calls.map Prod.fst = keys ∧ keyring.Removes world calls last ∧
      (removeAll keyring keys failed).outcome world = (.ok (calls.foldl noted failed), last) := by
  induction keys with
  | nil => exact fun failed world => ⟨[], world, rfl, .done world, rfl⟩
  | cons key rest ih =>
    intro failed world
    obtain ⟨answer, middle, called⟩ := removable.outcome_remove key world
    obtain ⟨calls, last, along, removes, ended⟩ := ih (noted failed (key, answer)) middle
    refine ⟨(key, answer) :: calls, last, by rw [List.map_cons, along], .next called removes, ?_⟩
    rw [List.foldl_cons, ← ended, removeAll, Act.outcome_bind, Act.outcome_attempt, remove,
      Act.outcome_bind, Act.outcome_mapError, called]
    cases answer <;> rfl

/-- A logout tries everything: it lists the keys and removes each of them once, in order, and nothing
else, whatever the removals come to. What is left is what could not be removed, and the error is that of
the last removal that failed, if one did. If the keys cannot be listed, nothing is removed. -/
theorem logout_tries_everything (removable : keyring.Removable items) (start : σ) :
    (∃ error after, keyring.keys.outcome start = (.error (.error error), after) ∧
      items after = items start ∧
      (logout keyring).outcome start = (.error (.error (.storeRead error.message)), after)) ∨
    ∃ keys listed calls last result,
      keyring.keys.outcome start = (.ok keys, listed) ∧
      calls.map Prod.fst = keys ∧ keyring.Removes listed calls last ∧
      (logout keyring).outcome start = (result, last) ∧
      (∀ key, (Failed calls key → items last key = items start key) ∧
        (¬Failed calls key → items last key = none)) ∧
      (result = .ok () ↔ ∀ key, ¬Failed calls key) ∧
      ∀ before key error after, calls = before ++ (key, .error error) :: after →
        (∀ key, ¬Failed after key) → result = .error (.error (.storeWrite error.message)) := by
  rcases list : keyring.keys.outcome start with ⟨(error | fault) | keys, listed⟩
  · refine .inl ⟨error, listed, rfl, ?_, ?_⟩
    · have same := removable.lists start
      rwa [list] at same
    · rw [logout, Act.outcome_bind, Credential.keys, Act.outcome_mapError, list]
      rfl
  · exact absurd ⟨fault, congrArg Prod.fst list⟩ (removable.keys_faultless start)
  obtain ⟨once, all⟩ := removable.listed start keys listed list
  have same := removable.lists start
  rw [list] at same
  obtain ⟨calls, last, along, removes, ended⟩ := removes_removeAll removable keys none listed
  have loggedOut : (logout keyring).outcome start =
      ((calls.foldl noted none).elim (.ok ()) fun error => .error (.error error), last) := by
    rw [logout, Act.outcome_bind, Credential.keys, Act.outcome_mapError, list]
    simp only [Act.except_mapError_ok, Act.outcome_bind, ended]
    cases calls.foldl noted none <;> rfl
  have left := removes.left removable (along ▸ once) fun key there => by
    rw [along, all, ← same]
    exact there
  rw [same] at left
  refine .inr ⟨keys, listed, calls, last, _, rfl, along, removes, loggedOut, left, ?_, ?_⟩
  · have none_iff := foldl_noted_eq_none calls none
    cases noted : calls.foldl noted none with
    | none => simp [none_iff.mp noted]
    | some error => simpa [noted] using none_iff
  · rintro before key error after rfl none
    rw [foldl_noted_of_last none]
    rfl

end Credential

/-- Entries, and what is to come of their removals: an error, or nothing amiss, which is also what comes
when nothing is said. -/
structure Jammed where
  entries : Entries
  refusals : List (Option Error)

namespace Jammed

def remove (key : String) (jammed : Jammed) : Except Failure Bool × Jammed :=
  match jammed.refusals with
  | some error :: rest => (.error (.error error), { jammed with refusals := rest })
  | refusals => (.ok (jammed.entries.contains key),
      { entries := StringMap.erase jammed.entries key, refusals := refusals.tail })

def keyring : Keyring (StateM Jammed) where
  get key := Act.step do return (← get).entries.item? key
  set item := Act.step (modify fun jammed => { jammed with entries := jammed.entries.withItem item })
  remove key := ExceptT.mk (remove key)
  keys := Act.step do return StringMap.keys (← get).entries

theorem removable_keyring : keyring.Removable fun jammed => jammed.entries.item? where
  lists _ := rfl
  listed jammed keys after list := by
    cases list
    refine ⟨StringMap.nodup_keys jammed.entries, fun key => ?_⟩
    rw [Entries.item?, Option.isSome_map, StringMap.isSome_get?_iff]
  removed key present jammed after called other := by
    have called : remove key jammed = (.ok present, after) := called
    unfold remove at called
    split at called <;> cases called
    exact Credential.item?_erase jammed.entries key other
  left key error jammed after called := by
    have called : remove key jammed = (.error (.error error), after) := called
    unfold remove at called
    split at called <;> cases called
    rfl
  keys_faultless := Act.faultless_step _
  remove_faultless key jammed faults := by
    obtain ⟨fault, failed⟩ := faults
    have failed : (remove key jammed).1 = .error (.fault fault) := failed
    unfold remove at failed
    split at failed <;> cases failed

/-- Three items, of which the first and the last cannot be removed. -/
def stuck : Jammed where
  entries := ((Entries.withItem ∅ ⟨"a", "user", "1"⟩).withItem ⟨"b", "user", "2"⟩).withItem
    ⟨"c", "user", "3"⟩
  refusals := [some (.file "locked"), none, some (.file "busy")]

/-- All three are tried, the second one goes, and the error is that of the third. -/
theorem logout_stuck :
    keyring.Removable (fun jammed => jammed.entries.item?) ∧
      ∃ calls last, calls.map Prod.fst = ["a", "b", "c"] ∧ keyring.Removes stuck calls last ∧
        (Credential.logout keyring).outcome stuck =
          (.error (.error (.storeWrite "I/O error: busy")), last) ∧
        last.entries.item? "a" = some ⟨"a", "user", "1"⟩ ∧ last.entries.item? "b" = none ∧
        last.entries.item? "c" = some ⟨"c", "user", "3"⟩ := by
  have list : keyring.keys.outcome stuck = (.ok ["a", "b", "c"], stuck) := by rfl
  rcases Credential.logout_tries_everything removable_keyring stuck with
    ⟨error, after, unlisted, -⟩ | ⟨keys, listed, calls, last, result, found, along, removes, ended, -⟩
  · cases list.symm.trans unlisted
  · cases list.symm.trans found
    have computed : (Credential.logout keyring).outcome stuck =
        (.error (.error (.storeWrite "I/O error: busy")),
          { entries := StringMap.erase stuck.entries "b", refusals := [] }) := by rfl
    cases ended.symm.trans computed
    exact ⟨removable_keyring, calls, _, along, removes, computed, by decide, by decide, by decide⟩

end Jammed
end GrantKeeper
