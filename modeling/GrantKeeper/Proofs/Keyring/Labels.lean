import GrantKeeper.Proofs.Credential.Stored
import GrantKeeper.Proofs.Keyring.Reopening
import Mathlib.Logic.Function.Basic

/-! Labels in a keyring file of which no operation fails: what saving, asking for a user and logging out
do to them. -/
namespace GrantKeeper

abbrev Labels := String → Option String

namespace Entries

/-- Every entry holds a usable record, and they are labelled in some way. -/
structure Sound (entries : Entries) (labels : Labels) : Prop where
  usable : ∀ key entry, entries.get? key = some entry →
    ∃ record, GrantRecord.decode? entry.data = some record ∧ record.validate = .ok ()
  labelled : ∀ key, (entries.get? key).map (·.label) = labels key

variable {entries : Entries} {labels : Labels}

theorem sound_empty : (∅ : Entries).Sound fun _ => none := ⟨nofun, fun _ => rfl⟩

theorem Sound.withItem (sound : entries.Sound labels) {record : GrantRecord} (usable : record.isUsable)
    (key label : String) :
    (entries.withItem ⟨key, label, record.encode⟩).Sound (Function.update labels key (some label)) := by
  constructor
  · intro other entry found
    by_cases same : other = key
    · subst same
      rw [Entries.withItem, StringMap.get?_insert_self] at found
      cases found
      refine ⟨record.normalized, record.decode?_encode, GrantRecord.validate_eq_ok ?_⟩
      rw [GrantRecord.isUsable_normalized]
      exact usable
    · rw [Entries.withItem, StringMap.get?_insert_of_ne _ same] at found
      exact sound.usable other entry found
  · intro other
    by_cases same : other = key
    · subst same
      rw [Entries.withItem, StringMap.get?_insert_self, Function.update_self]
      rfl
    · rw [Entries.withItem, StringMap.get?_insert_of_ne _ same, Function.update_of_ne same]
      exact sound.labelled other

theorem Sound.rewritten (sound : entries.Sound labels) {record : GrantRecord}
    (usable : record.isUsable) {key label : String} (labelled : labels key = some label) :
    (entries.withItem ⟨key, label, record.encode⟩).Sound labels := by
  have written := sound.withItem usable key label
  rwa [← labelled, Function.update_eq_self] at written

theorem Sound.ofItem (sound : entries.Sound labels) {audience : String} {entry : Entry}
    (found : entries.get? (Credential.keyOf audience) = some entry) :
    ∃ grant, Credential.ofItem audience (entry.item (Credential.keyOf audience)) =
      .ok ⟨audience, entry.label, grant⟩ := by
  obtain ⟨record, decoded, valid⟩ := sound.usable _ entry found
  refine ⟨record, ?_⟩
  simp only [Credential.ofItem, Entry.item, decoded]
  rw [if_pos (GrantRecord.isUsable_of_validate valid)]

end Entries

namespace FileKeyring

variable {σ : Type} {files : Files (StateM σ)} {keyring : FileKeyring} {world : σ}

theorem ending_save_error {record : GrantRecord} {error : Error}
    (nameless : Credential.userNameOf record = .error error) (audience : String) :
    (Credential.save (FileKeyring.keyring files) audience record).ending keyring world =
      (.error (.error error), keyring, world) := by
  rw [Credential.save, nameless]
  rfl

theorem ending_save_of_named {record : GrantRecord} {user : String}
    (named : Credential.userNameOf record = .ok user) (audience : String) :
    (Credential.save (FileKeyring.keyring files) audience record).ending keyring world =
      let ended := replaced files keyring
        (keyring.entries.withItem ⟨Credential.keyOf audience, user, record.encode⟩) world
      (ended.1.mapError (Act.restated Credential.asWrite), ended.2) := by
  rw [Credential.save, named]
  rfl

theorem ending_whoAmI_of_item {audience : String} {item : KeyringItem} {credential : Credential}
    (present : keyring.entries.item? (Credential.keyOf audience) = some item)
    (read : Credential.ofItem audience item = .ok credential) :
    (Credential.whoAmI (FileKeyring.keyring files) audience).ending keyring world =
      (.ok credential.userName, keyring, world) := by
  have get_ : ((FileKeyring.keyring files).get (Credential.keyOf audience)).ending keyring world =
      (.ok (keyring.entries.item? (Credential.keyOf audience)), keyring, world) := rfl
  rw [Credential.whoAmI, Act.ending_bind, Credential.load, Act.ending_bind, Act.ending_mapError, get_,
    present]
  simp only [Act.except_mapError_ok, read, Act.ending_ofExcept, Act.ending_pure]

end FileKeyring

namespace FileKeyring.Mirrors

variable {σ : Type} {files : Files (StateM σ)} {path directory : String} {orderly ready : σ → Prop}
  {content : String → σ → Option (List UInt8)} {keyring : FileKeyring} {world : σ} {entries : Entries}
  {labels : Labels}

theorem entries_eq (mirrors : Mirrors path orderly content keyring world entries) :
    keyring.entries = entries := by
  obtain ⟨process, rfl⟩ := mirrors.opened
  rfl

theorem replaced (dependable : Dependable files path directory orderly ready content)
    (mirrors : Mirrors path orderly content keyring world entries) (changed : Entries) :
    ∃ end_, FileKeyring.replaced files keyring changed world =
        (.ok (), keyring.withEntries changed, end_) ∧
      Mirrors path orderly content (keyring.withEntries changed) end_ changed := by
  obtain ⟨process, rfl⟩ := mirrors.opened
  obtain ⟨end_, wrote, fit, holds⟩ := dependable.outcome_write process changed mirrors.orderly
  refine ⟨end_, ?_, ⟨process, rfl⟩, fit, .inl holds⟩
  rw [FileKeyring.replaced, withEntries, wrote]

theorem ending_set (dependable : Dependable files path directory orderly ready content)
    (mirrors : Mirrors path orderly content keyring world entries) (item : KeyringItem) :
    ∃ after end_, ((FileKeyring.keyring files).set item).ending keyring world = (.ok (), after, end_) ∧
      Mirrors path orderly content after end_ (entries.withItem item) := by
  have set_ : ((FileKeyring.keyring files).set item).ending keyring world =
      FileKeyring.replaced files keyring (keyring.entries.withItem item) world := rfl
  obtain ⟨end_, wrote, mirrors_⟩ := mirrors.replaced dependable (entries.withItem item)
  refine ⟨_, end_, ?_, mirrors_⟩
  rw [set_, mirrors.entries_eq, wrote]

theorem ending_whoAmI (mirrors : Mirrors path orderly content keyring world entries)
    (sound : entries.Sound labels) (audience : String) :
    (Credential.whoAmI (FileKeyring.keyring files) audience).ending keyring world =
      (match labels (Credential.keyOf audience) with
        | some user => .ok user
        | none => .error (.error .noAuthenticationData), keyring, world) := by
  have get_ : ((FileKeyring.keyring files).get (Credential.keyOf audience)).ending keyring world =
      (.ok (keyring.entries.item? (Credential.keyOf audience)), keyring, world) := rfl
  rw [← sound.labelled]
  cases found : entries.get? (Credential.keyOf audience) with
  | none =>
    rw [Credential.whoAmI, Act.ending_bind, Credential.load, Act.ending_bind, Act.ending_mapError, get_,
      mirrors.entries_eq, Entries.item?, found]
    rfl
  | some entry =>
    obtain ⟨grant, read⟩ := sound.ofItem found
    refine ending_whoAmI_of_item ?_ read
    rw [mirrors.entries_eq, Entries.item?, found, Option.map_some]

theorem ending_save (dependable : Dependable files path directory orderly ready content)
    (mirrors : Mirrors path orderly content keyring world entries) {record : GrantRecord} {user : String}
    (named : Credential.userNameOf record = .ok user) (audience : String) :
    ∃ after end_, (Credential.save (FileKeyring.keyring files) audience record).ending keyring world =
        (.ok (), after, end_) ∧
      Mirrors path orderly content after end_
        (entries.withItem ⟨Credential.keyOf audience, user, record.encode⟩) := by
  obtain ⟨end_, wrote, mirrors_⟩ := mirrors.replaced dependable
    (entries.withItem ⟨Credential.keyOf audience, user, record.encode⟩)
  refine ⟨_, end_, ?_, mirrors_⟩
  rw [ending_save_of_named named, mirrors.entries_eq, wrote]
  rfl

theorem ending_removeAll (dependable : Dependable files path directory orderly ready content)
    (keys : List String) (mirrors : Mirrors path orderly content keyring world entries)
    (nodup : keys.Nodup) (listed : ∀ key, key ∈ entries.keys ↔ key ∈ keys) :
    ∃ after end_, (Credential.removeAll (FileKeyring.keyring files) keys none).ending keyring world =
        (.ok none, after, end_) ∧ Mirrors path orderly content after end_ ∅ := by
  induction keys generalizing keyring world entries with
  | nil =>
    have empty : entries = ∅ := StringMap.eq_empty_of_keys_eq_nil <|
      List.eq_nil_iff_forall_not_mem.mpr fun key => mt (listed key).mp List.not_mem_nil
    exact ⟨keyring, world, rfl, empty ▸ mirrors⟩
  | cons key rest ih =>
    obtain ⟨fresh, nodup⟩ := List.nodup_cons.mp nodup
    obtain rfl := mirrors.entries_eq
    have present : keyring.entries.contains key :=
      (StringMap.isSome_get?_iff _ key).mpr ((listed key).mpr List.mem_cons_self)
    obtain ⟨end_, wrote, mirrors⟩ := mirrors.replaced dependable (StringMap.erase keyring.entries key)
    rw [FileKeyring.ending_removeAll key rest none keyring world present, wrote]
    -- The keys that are left are those in the file again, so the rest is removed likewise.
    refine ih mirrors nodup fun other => ?_
    rw [StringMap.keys_erase, List.mem_filter, listed, List.mem_cons, bne_iff_ne]
    constructor
    · rintro ⟨rfl | member, differs⟩
      · exact absurd rfl differs
      · exact member
    · exact fun member => ⟨.inr member, fun same => fresh (same ▸ member)⟩

theorem ending_logout (dependable : Dependable files path directory orderly ready content)
    (mirrors : Mirrors path orderly content keyring world entries) :
    ∃ after end_, (Credential.logout (FileKeyring.keyring files)).ending keyring world =
        (.ok (), after, end_) ∧ Mirrors path orderly content after end_ ∅ := by
  have keys_ : (Credential.keys (FileKeyring.keyring files)).ending keyring world =
      (.ok keyring.entries.keys, keyring, world) := rfl
  obtain ⟨after, end_, removed, empty⟩ := mirrors.ending_removeAll dependable keyring.entries.keys
    (StringMap.nodup_keys _) fun key => by rw [mirrors.entries_eq]
  refine ⟨after, end_, ?_, empty⟩
  rw [Credential.logout, Act.ending_bind, keys_]
  simp only [Act.ending_bind, removed, Act.ending_pure]

end FileKeyring.Mirrors
end GrantKeeper
