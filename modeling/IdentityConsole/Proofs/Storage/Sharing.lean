import IdentityConsole.Proofs.Storage.Entries

/-!
# Handles on one file

A handle knows where its file is, and reads it anew for every access. So any number of handles in
one directory, used in any order, answer like one store in memory; and the file is either not there
yet or holds what that store does.
-/

namespace IdentityConsole

inductive Access
  | get (key : String)
  | set (key value : String)
  | remove (key : String)
deriving DecidableEq, Repr

namespace Access

def isSet : Access → Bool
  | .set .. => true
  | .get _ | .remove _ => false

/-- What an access comes to. Only what is read has a value. -/
abbrev Answer := Except StorageError (Option String)

/-- What a change answers, and what it leaves behind: a change that fails leaves all as it was. -/
def changing {α : Type} (before : α) : Except StorageError α → Answer × α
  | .ok later => (.ok none, later)
  | .error error => (.error error, before)

end Access

def FileStore.access (store : FileStore) : Access → Access.Answer × FileStore
  | .get key => (store.get key, store)
  | .set key value => Access.changing store (store.set key value)
  | .remove key => Access.changing store (store.remove key)

def Store.access (store : Store) : Access → Access.Answer × Store
  | .get key => (store.get key, store)
  | .set key value => Access.changing store (store.set key value)
  | .remove key => Access.changing store (store.remove key)

/-- The answers of one store, in order, and the store at the end. -/
def Store.accessEach (store : Store) : List Access → List Access.Answer × Store
  | [] => ([], store)
  | access :: rest =>
    let (answer, store) := store.access access
    let (answers, store) := store.accessEach rest
    (answer :: answers, store)

/-- The same through handles, each named by the place in which it was opened: they share nothing but
the slot of the file. -/
def FileSlot.accessEach (slot : FileSlot) : List (String × Access) → List Access.Answer × FileSlot
  | [] => ([], slot)
  | (place, access) :: rest =>
    let (answer, store) := (FileStore.inDirectory place slot).access access
    let (answers, slot) := store.slot.accessEach rest
    (answer :: answers, slot)

namespace FileSlot

/-- The slot of a dictionary that was written to, or of an empty one that never was. -/
inductive Mirrors (entries : Dict String) : Bool → FileSlot → Prop
  | unwritten (hempty : entries = .empty) : Mirrors entries false .absent
  | written : Mirrors entries true (.holding (FileStore.print entries))

namespace Mirrors

variable {entries : Dict String} {written : Bool} {slot : FileSlot}

theorem entries_eq (h : Mirrors entries written slot) (path : String) :
    (⟨path, slot⟩ : FileStore).entries = .ok entries := by
  cases h with
  | unwritten hempty => exact hempty ▸ rfl
  | written => exact FileStore.entries_holding ⟨path, .absent⟩ entries

theorem replace_eq (h : Mirrors entries written slot) (path : String) (later : Dict String) :
    (⟨path, slot⟩ : FileStore).replace later =
      .ok ⟨path, .holding (FileStore.print later)⟩ := by
  refine FileStore.replace_eq ?_ later
  cases h with
  | unwritten hempty => rfl
  | written => rfl

/-- Where there is an entry, something was written. -/
theorem written_of_get? (h : Mirrors entries written slot) {key value : String}
    (hkey : entries.get? key = some value) : written = true := by
  cases h with
  | unwritten hempty =>
    rw [hempty] at hkey
    cases hkey
  | written => rfl

/-- An access through a handle answers like the same access to the dictionary, and leaves a slot for
what that leaves. -/
theorem access (h : Mirrors entries written slot) (path : String) (access : Access) :
    ∃ answer later slot',
      (Store.memory entries).access access = (answer, .memory later) ∧
      (⟨path, slot⟩ : FileStore).access access = (answer, ⟨path, slot'⟩) ∧
      Mirrors later (written || access.isSet) slot' := by
  cases access with
  | get key =>
    refine ⟨.ok (entries.get? key), entries, slot, rfl, ?_, ?_⟩
    · rw [FileStore.access, FileStore.get, h.entries_eq]
      rfl
    · rwa [Access.isSet, Bool.or_false]
  | set key value =>
    refine ⟨.ok none, entries.insert key value, ?_⟩
    rw [FileStore.access, FileStore.set, h.entries_eq, ok_bind, h.replace_eq, Access.isSet,
      Bool.or_true]
    exact ⟨_, rfl, rfl, .written⟩
  | remove key =>
    refine ⟨.ok none, entries.erase key, ?_⟩
    rw [FileStore.access, FileStore.remove, h.entries_eq, ok_bind, Access.isSet, Bool.or_false]
    cases hkey : entries.get? key with
    | none =>
      refine ⟨slot, rfl, rfl, ?_⟩
      rwa [Dict.erase_of_get?_eq_none hkey]
    | some value =>
      rw [h.written_of_get? hkey, Option.isSome_some, if_pos rfl, h.replace_eq]
      exact ⟨_, rfl, rfl, .written⟩

theorem accessEach (h : Mirrors entries written slot) (accesses : List (String × Access)) :
    ∃ later,
      (Store.memory entries).accessEach (accesses.map (·.2)) =
        ((slot.accessEach accesses).1, .memory later) ∧
      Mirrors later (written || accesses.any (·.2.isSet)) (slot.accessEach accesses).2 := by
  induction accesses generalizing entries written slot with
  | nil =>
    refine ⟨entries, rfl, ?_⟩
    rwa [List.any_nil, Bool.or_false]
  | cons first rest ih =>
    obtain ⟨place, access⟩ := first
    obtain ⟨answer, between, slot', hmemory, hfile, hbetween⟩ :=
      h.access (FileStore.inDirectory place slot).path access
    obtain ⟨later, hrest, hlater⟩ := ih hbetween
    have hshared : slot.accessEach ((place, access) :: rest) =
        (answer :: (slot'.accessEach rest).1, (slot'.accessEach rest).2) := by
      rw [FileSlot.accessEach]
      exact congrArg (fun result : Access.Answer × FileStore =>
        (result.1 :: (result.2.slot.accessEach rest).1, (result.2.slot.accessEach rest).2)) hfile
    refine ⟨later, ?_, ?_⟩
    · simp only [List.map_cons, Store.accessEach, hmemory, hrest, hshared]
    · rwa [hshared, List.any_cons, ← Bool.or_assoc]

theorem parses (h : Mirrors entries true slot) :
    ∃ text, slot.read = .ok (some text) ∧
      Json.decode (Json.Decoder.dict Json.Decoder.string) text = .ok entries := by
  cases h with
  | written =>
    refine ⟨FileStore.print entries, ?_, ?_⟩
    · simp only [FileSlot.read, holding, Text.Utf8.decode?_encode]
    · have hparse := FileStore.parse_print entries
      rwa [FileStore.parse, if_neg (FileStore.trim_print_ne entries)] at hparse

theorem eq_absent (h : Mirrors entries false slot) : slot = .absent := by
  cases h with
  | unwritten hempty => rfl

end Mirrors

/-- **Any number of handles on one file are one store in memory.** In a directory without that file,
every sequence of accesses through any handles is answered as it is by one store in memory; and at
its end the file is absent, if nothing was ever set, or is read as the entries of that store. -/
theorem accessEach_absent (accesses : List (String × Access)) :
    let single := (Store.memory .empty).accessEach (accesses.map (·.2))
    let shared := FileSlot.absent.accessEach accesses
    shared.1 = single.1 ∧
    ∃ entries, single.2 = .memory entries ∧
      (shared.2 = .absent ∧ (∀ access ∈ accesses, access.2.isSet = false) ∨
        ∃ text, shared.2.read = .ok (some text) ∧
          Json.decode (Json.Decoder.dict Json.Decoder.string) text = .ok entries) := by
  intro single shared
  have hinitial : Mirrors .empty false .absent := .unwritten rfl
  obtain ⟨entries, hsingle, hshared⟩ := hinitial.accessEach accesses
  change single = (shared.1, _) at hsingle
  rw [hsingle]
  refine ⟨rfl, entries, rfl, ?_⟩
  rw [Bool.false_or] at hshared
  cases hset : accesses.any (·.2.isSet) with
  | true =>
    rw [hset] at hshared
    exact .inr hshared.parses
  | false =>
    rw [hset] at hshared
    refine .inl ⟨hshared.eq_absent, fun access hmem => ?_⟩
    exact Bool.eq_false_iff.mpr (List.any_eq_false.mp hset access hmem)

end FileSlot

end IdentityConsole
