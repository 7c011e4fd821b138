import Mathlib.Data.List.TakeWhile
import IdentityConsole.Proofs.Json.Value
import IdentityConsole.Proofs.Text.Utf8
import IdentityConsole.Storage.Storage

/-!
# What a store holds

A file is read back as the dictionary that was written to it. So a store answers like a dictionary,
be it in memory or in a file; beyond that, a file may be unreadable, or not writable where it is.
-/

namespace IdentityConsole

namespace Text

/-- All of a text is blank, if it has any characters at all. -/
def Blank (text : String) : Prop :=
  ∀ c ∈ text.toList, isBlank c = true

theorem trim_eq_empty {text : String} : trim text = "" ↔ Blank text := by
  rw [trim, ← String.toList_inj, String.toList_ofList, String.toList_empty, dropEndWhile,
    List.reverse_eq_nil_iff, List.dropWhile_eq_nil_iff]
  constructor
  · intro h c hmem
    by_cases hfront : text.toList.dropWhile isBlank = []
    · exact List.dropWhile_eq_nil_iff.mp hfront c hmem
    · have hhead := List.head_dropWhile_not isBlank hfront
      have hblank := h _ (List.mem_reverse.mpr (List.head_mem hfront))
      rw [hblank] at hhead
      cases hhead
  · intro h c hmem
    exact h c ((List.dropWhile_sublist _).subset (List.mem_reverse.mp hmem))

end Text

namespace FileStore

open Json (Decoder)

theorem entries_memberDrafts (entries : List (String × String)) (depth : Nat) :
    Decoder.entries Decoder.string depth
      (Json.draft.memberDrafts (entries.map fun entry => (entry.1, .string entry.2))) =
      .ok entries := by
  rw [Json.memberDrafts_eq_map, List.map_map, Json.entries_eq_ok_iff, List.forall₂_map_left_iff,
    List.forall₂_same]
  exact fun entry _ => ⟨rfl, rfl⟩

theorem whole_strings (entries : List (String × String)) :
    Json.Whole (.object (entries.map fun entry => (entry.1, .string entry.2))) := by
  refine .object fun member hmem => ?_
  obtain ⟨entry, -, rfl⟩ := List.mem_map.mp hmem
  exact .string entry.2

theorem exists_print_eq_cons (entries : Dict String) :
    ∃ rest, (print entries).toList = '{' :: rest := by
  rw [print, Json.laidOut, String.toList_ofList]
  cases entries.toList with
  | nil => exact ⟨_, rfl⟩
  | cons entry rest => exact ⟨_, rfl⟩

/-- What is written is not taken for a file of blanks. -/
theorem trim_print_ne (entries : Dict String) : Text.trim (print entries) ≠ "" := by
  obtain ⟨rest, hprint⟩ := exists_print_eq_cons entries
  rw [Ne, Text.trim_eq_empty]
  intro hblank
  have hbrace : Text.isBlank '{' = true := hblank '{' (by rw [hprint]; exact List.mem_cons_self)
  exact absurd hbrace (by decide)

theorem parse_print (entries : Dict String) : parse (print entries) = .ok entries := by
  rw [parse, if_neg (trim_print_ne entries), print,
    Json.decode_laidOut _ (whole_strings entries.toList), Json.draft, Decoder.dict]
  have hdeeper : Json.deeper Json.nestingLimit = .ok (Json.nestingLimit - 1) := rfl
  simp only [hdeeper, ok_bind, entries_memberDrafts]
  exact congrArg Except.ok (Dict.ofList_toList entries)

/-- What keeps a file from being written. -/
def obstacle? (store : FileStore) : Option StorageError :=
  match store.slot with
  | .absent | .file _ => none
  | .directory => some (.unwritable store.path .isDirectory)
  | .blocked fault => some (.noDirectory fault)

theorem replace_of_obstacle {store : FileStore} {error : StorageError}
    (h : store.obstacle? = some error) (entries : Dict String) :
    store.replace entries = .error error := by
  obtain ⟨path, slot⟩ := store
  cases slot with
  | absent | file content => cases h
  | directory | blocked fault => cases h; rfl

theorem replace_eq {store : FileStore} (h : store.obstacle? = none) (entries : Dict String) :
    store.replace entries = .ok { store with slot := .holding (print entries) } := by
  obtain ⟨path, slot⟩ := store
  cases slot with
  | absent | file content => rfl
  | directory | blocked fault => cases h

theorem entries_holding (store : FileStore) (entries : Dict String) :
    ({ store with slot := .holding (print entries) } : FileStore).entries = .ok entries := by
  simp only [FileStore.entries, FileSlot.read, FileSlot.holding, Text.Utf8.decode?_encode,
    parse_print]
  rfl

/-- Where an entry was read nothing keeps the file from being written. -/
theorem obstacle?_of_entries {store : FileStore} {entries : Dict String} {key value : String}
    (h : store.entries = .ok entries) (hkey : entries.get? key = some value) :
    store.obstacle? = none := by
  obtain ⟨path, slot⟩ := store
  cases slot with
  | absent | file content => rfl
  | directory => cases h
  | blocked fault =>
    cases h
    cases hkey

end FileStore

namespace Store

def entries : Store → Except StorageError (Dict String)
  | .memory entries => .ok entries
  | .file store => store.entries

/-- What keeps entries from being set. -/
def obstacle? : Store → Option StorageError
  | .memory _ => none
  | .file store => store.obstacle?

theorem get_eq (key : String) (store : Store) :
    store.get key = store.entries.map (Dict.get? key) := by
  cases store with
  | memory entries => rfl
  | file store =>
    rw [get, FileStore.get, entries]
    cases store.entries <;> rfl

theorem set_of_error {store : Store} {error : StorageError} (h : store.entries = .error error)
    (key value : String) : store.set key value = .error error := by
  cases store with
  | memory entries => cases h
  | file store =>
    rw [entries] at h
    rw [set, FileStore.set, h]
    rfl

theorem set_of_obstacle {store : Store} {entries : Dict String} {error : StorageError}
    (h : store.entries = .ok entries) (hobstacle : store.obstacle? = some error)
    (key value : String) : store.set key value = .error error := by
  cases store with
  | memory entries => cases hobstacle
  | file store =>
    rw [Store.entries] at h
    rw [set, FileStore.set, h, ok_bind, FileStore.replace_of_obstacle hobstacle]
    rfl

theorem set_eq_ok {store : Store} {entries : Dict String} (h : store.entries = .ok entries)
    (hobstacle : store.obstacle? = none) (key value : String) :
    ∃ later, store.set key value = .ok later ∧
      later.entries = .ok (entries.insert key value) ∧ later.obstacle? = none := by
  cases store with
  | memory entries =>
    cases h
    exact ⟨_, rfl, rfl, rfl⟩
  | file store =>
    rw [Store.entries] at h
    rw [set, FileStore.set, h, ok_bind, FileStore.replace_eq hobstacle]
    exact ⟨_, rfl, store.entries_holding _, rfl⟩

theorem remove_of_error {store : Store} {error : StorageError} (h : store.entries = .error error)
    (key : String) : store.remove key = .error error := by
  cases store with
  | memory entries => cases h
  | file store =>
    rw [entries] at h
    rw [remove, FileStore.remove, h]
    rfl

/-- What can be read can be removed. -/
theorem remove_eq_ok {store : Store} {entries : Dict String} (h : store.entries = .ok entries)
    (key : String) :
    ∃ later, store.remove key = .ok later ∧
      later.entries = .ok (entries.erase key) ∧ later.obstacle? = store.obstacle? := by
  cases store with
  | memory entries =>
    cases h
    exact ⟨_, rfl, rfl, rfl⟩
  | file store =>
    rw [Store.entries] at h
    rw [remove, FileStore.remove, h, ok_bind]
    cases hkey : entries.get? key with
    | none =>
      rw [Option.isSome_none, if_neg (by decide), Dict.erase_of_get?_eq_none hkey]
      exact ⟨_, rfl, h, rfl⟩
    | some value =>
      have hobstacle := FileStore.obstacle?_of_entries h hkey
      rw [Option.isSome_some, if_pos rfl, FileStore.replace_eq hobstacle]
      exact ⟨_, rfl, store.entries_holding _, hobstacle.symm⟩

theorem entries_of_set {store later : Store} {key value : String}
    (h : store.set key value = .ok later) :
    ∃ entries, store.entries = .ok entries ∧ store.obstacle? = none ∧
      later.entries = .ok (entries.insert key value) ∧ later.obstacle? = none := by
  cases hentries : store.entries with
  | error error =>
    rw [set_of_error hentries] at h
    cases h
  | ok entries =>
    cases hobstacle : store.obstacle? with
    | some error =>
      rw [set_of_obstacle hentries hobstacle] at h
      cases h
    | none =>
      obtain ⟨_, hset, hlater⟩ := set_eq_ok hentries hobstacle key value
      rw [hset] at h
      cases h
      exact ⟨entries, rfl, rfl, hlater⟩

theorem entries_of_remove {store later : Store} {key : String} (h : store.remove key = .ok later) :
    ∃ entries, store.entries = .ok entries ∧ later.entries = .ok (entries.erase key) ∧
      later.obstacle? = store.obstacle? := by
  cases hentries : store.entries with
  | error error =>
    rw [remove_of_error hentries] at h
    cases h
  | ok entries =>
    obtain ⟨_, hremove, hlater⟩ := remove_eq_ok hentries key
    rw [hremove] at h
    cases h
    exact ⟨entries, rfl, hlater⟩

/-- Where an entry was read nothing keeps others from being set. -/
theorem obstacle?_of_get {store : Store} {key value : String}
    (h : store.get key = .ok (some value)) :
    ∃ entries, store.entries = .ok entries ∧ store.obstacle? = none := by
  rw [get_eq] at h
  cases hentries : store.entries with
  | error error =>
    rw [hentries] at h
    cases h
  | ok entries =>
    rw [hentries] at h
    refine ⟨entries, rfl, ?_⟩
    cases store with
    | memory kept => rfl
    | file store => exact FileStore.obstacle?_of_entries hentries (Except.ok.inj h)

end Store

/-- No operation is made to fail. -/
def Failing.never : Failing := ⟨false, false, []⟩

namespace Storage

theorem tokenKey_ne_userKey : tokenKey ≠ userKey := by decide

variable {storage later : Storage} {key other value : String}

theorem set_eq_ok_iff : storage.set key value = .ok later ↔
    key ∉ storage.failing.set ∧ storage.store.set key value = .ok later.store ∧
      later.failing = storage.failing := by
  unfold Storage.set
  split
  · next hfull => simp [hfull]
  · next hfull =>
    cases hset : storage.store.set key value with
    | error error => simp [Except.map]
    | ok store =>
      obtain ⟨store', failing'⟩ := later
      simp [Except.map, hfull, eq_comm]

theorem remove_eq_ok_iff : storage.remove key = .ok later ↔
    storage.failing.remove = false ∧ storage.store.remove key = .ok later.store ∧
      later.failing = storage.failing := by
  unfold Storage.remove
  split
  · next hfails => simp [hfails]
  · next hfails =>
    cases hremove : storage.store.remove key with
    | error error => simp [Except.map]
    | ok store =>
      obtain ⟨store', failing'⟩ := later
      simp [Except.map, hfails, eq_comm]

theorem get_of_failing_eq (h : storage.failing.get = false) :
    storage.get key = storage.store.entries.map (Dict.get? key) := by
  rw [Storage.get, h, Store.get_eq]
  rfl

theorem get_eq_of_entries (hfailing : later.failing = storage.failing)
    (hentries : later.store.entries.map (Dict.get? key) =
      storage.store.entries.map (Dict.get? key)) : later.get key = storage.get key := by
  rw [Storage.get, Storage.get, hfailing, Store.get_eq, Store.get_eq, hentries]

/-! ### What is read after a change -/

theorem get_of_set (h : storage.set key value = .ok later) (hget : storage.failing.get = false) :
    later.get key = .ok (some value) := by
  obtain ⟨-, hset, hfailing⟩ := set_eq_ok_iff.mp h
  obtain ⟨entries, -, -, hlater, -⟩ := Store.entries_of_set hset
  rw [get_of_failing_eq (hfailing ▸ hget), hlater]
  exact congrArg Except.ok (Dict.get?_insert_self key value entries)

theorem get_of_set_of_ne (h : storage.set key value = .ok later) (hne : other ≠ key) :
    later.get other = storage.get other := by
  obtain ⟨-, hset, hfailing⟩ := set_eq_ok_iff.mp h
  obtain ⟨entries, hentries, -, hlater, -⟩ := Store.entries_of_set hset
  refine get_eq_of_entries hfailing ?_
  rw [hentries, hlater]
  exact congrArg Except.ok (Dict.get?_insert_of_ne hne value entries)

theorem get_of_remove (h : storage.remove key = .ok later) (hget : storage.failing.get = false) :
    later.get key = .ok none := by
  obtain ⟨-, hremove, hfailing⟩ := remove_eq_ok_iff.mp h
  obtain ⟨entries, -, hlater, -⟩ := Store.entries_of_remove hremove
  rw [get_of_failing_eq (hfailing ▸ hget), hlater]
  exact congrArg Except.ok (Dict.get?_erase_self key entries)

theorem get_of_remove_of_ne (h : storage.remove key = .ok later) (hne : other ≠ key) :
    later.get other = storage.get other := by
  obtain ⟨-, hremove, hfailing⟩ := remove_eq_ok_iff.mp h
  obtain ⟨entries, hentries, hlater, -⟩ := Store.entries_of_remove hremove
  refine get_eq_of_entries hfailing ?_
  rw [hentries, hlater]
  exact congrArg Except.ok (Dict.get?_erase_of_ne hne entries)

/-- An entry is refused only where the storage is made to refuse it, or its file cannot be used. -/
theorem set_eq_ok_of_get {kept : String} (h : storage.get other = .ok (some kept))
    (hset : key ∉ storage.failing.set) (value : String) :
    ∃ later, storage.set key value = .ok later := by
  have hget : storage.store.get other = .ok (some kept) := by
    unfold Storage.get at h
    split at h
    · cases h
    · exact h
  obtain ⟨entries, hentries, hobstacle⟩ := Store.obstacle?_of_get hget
  obtain ⟨store, hstore, -⟩ := Store.set_eq_ok hentries hobstacle key value
  exact ⟨{ storage with store }, set_eq_ok_iff.mpr ⟨hset, hstore, rfl⟩⟩

end Storage

end IdentityConsole
