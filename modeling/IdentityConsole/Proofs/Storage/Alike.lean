import IdentityConsole.Proofs.Session.Change
import IdentityConsole.Proofs.Storage.Entries

/-!
# Storages that look alike

A session knows two entries. Storages that hold the same under their keys, and fail in the same way,
cannot be told apart by it, whatever else they hold, be it in memory or in a file.
-/

namespace IdentityConsole

/-- The same error twice, or two values that are related. -/
inductive Matched {ε α : Type} (related : α → α → Prop) : Except ε α → Except ε α → Prop
  | error (error : ε) : Matched related (.error error) (.error error)
  | ok {value other : α} (h : related value other) : Matched related (.ok value) (.ok other)

theorem Matched.map {ε α β : Type} {related : α → α → Prop} {mapped : β → β → Prop}
    {f g : α → β} {result result' : Except ε α} (h : Matched related result result')
    (hmapped : ∀ value other, related value other → mapped (f value) (g other)) :
    Matched mapped (result.map f) (result'.map g) := by
  cases h with
  | error error => exact .error error
  | ok h => exact .ok (hmapped _ _ h)

namespace Storage

/-- The keys under which a session is stored. -/
def sessionKeys : List String := [tokenKey, userKey]

theorem tokenKey_mem : tokenKey ∈ sessionKeys := List.mem_cons_self

theorem userKey_mem : userKey ∈ sessionKeys := List.mem_cons_of_mem _ List.mem_cons_self

end Storage

namespace Store

open Storage (sessionKeys)

structure Alike (store other : Store) : Prop where
  obstacle : store.obstacle? = other.obstacle?
  get : ∀ key ∈ sessionKeys, store.get key = other.get key

namespace Alike

variable {store other : Store}

theorem of_entries {entries entries' : Dict String} (hentries : store.entries = .ok entries)
    (hother : other.entries = .ok entries') (hobstacle : store.obstacle? = other.obstacle?)
    (hget : ∀ key ∈ sessionKeys, entries.get? key = entries'.get? key) : store.Alike other := by
  refine ⟨hobstacle, fun key hkey => ?_⟩
  rw [get_eq, get_eq, hentries, hother]
  exact congrArg Except.ok (hget key hkey)

theorem entries (h : store.Alike other) :
    Matched (fun entries entries' => ∀ key ∈ sessionKeys, entries.get? key = entries'.get? key)
      store.entries other.entries := by
  have hget : ∀ key ∈ sessionKeys,
      store.entries.map (Dict.get? key) = other.entries.map (Dict.get? key) := by
    intro key hkey
    rw [← get_eq, ← get_eq]
    exact h.get key hkey
  -- One key is enough to tell whether both can be read.
  have htoken := hget _ Storage.tokenKey_mem
  generalize store.entries = result, other.entries = result' at hget htoken ⊢
  cases result with
  | error error =>
    cases result' with
    | error error' =>
      cases htoken
      exact .error error
    | ok entries' => cases htoken
  | ok entries =>
    cases result' with
    | error error' => cases htoken
    | ok entries' => exact .ok fun key hkey => Except.ok.inj (hget key hkey)

theorem set (h : store.Alike other) (key value : String) :
    Matched Alike (store.set key value) (other.set key value) := by
  have hentries := h.entries
  generalize hstore : store.entries = result, hother : other.entries = result' at hentries
  cases hentries with
  | error error =>
    rw [set_of_error hstore, set_of_error hother]
    exact .error error
  | @ok entries entries' hget =>
    cases hobstacle : store.obstacle? with
    | some error =>
      rw [set_of_obstacle hstore hobstacle, set_of_obstacle hother (h.obstacle ▸ hobstacle)]
      exact .error error
    | none =>
      obtain ⟨later, hset, hlater, hfree⟩ := set_eq_ok hstore hobstacle key value
      obtain ⟨later', hset', hlater', hfree'⟩ := set_eq_ok hother (h.obstacle ▸ hobstacle) key value
      rw [hset, hset']
      refine .ok (of_entries hlater hlater' (hfree.trans hfree'.symm) fun kept hkept => ?_)
      by_cases hkey : kept = key
      · rw [hkey, Dict.get?_insert_self, Dict.get?_insert_self]
      · rw [Dict.get?_insert_of_ne hkey, Dict.get?_insert_of_ne hkey]
        exact hget kept hkept

theorem remove (h : store.Alike other) (key : String) :
    Matched Alike (store.remove key) (other.remove key) := by
  have hentries := h.entries
  generalize hstore : store.entries = result, hother : other.entries = result' at hentries
  cases hentries with
  | error error =>
    rw [remove_of_error hstore, remove_of_error hother]
    exact .error error
  | @ok entries entries' hget =>
    obtain ⟨later, hremove, hlater, hobstacle⟩ := remove_eq_ok hstore key
    obtain ⟨later', hremove', hlater', hobstacle'⟩ := remove_eq_ok hother key
    rw [hremove, hremove']
    have hsame : later.obstacle? = later'.obstacle? := by rw [hobstacle, hobstacle', h.obstacle]
    refine .ok (of_entries hlater hlater' hsame fun kept hkept => ?_)
    by_cases hkey : kept = key
    · rw [hkey, Dict.get?_erase_self, Dict.get?_erase_self]
    · rw [Dict.get?_erase_of_ne hkey, Dict.get?_erase_of_ne hkey]
      exact hget kept hkept

end Alike

end Store

namespace Storage

/-- Two storages whose operations fail in the same way, as long as they can be read. -/
structure FailsLike (storage other : Storage) : Prop where
  failing : storage.failing = other.failing
  obstacle : storage.store.obstacle? = other.store.obstacle?

structure Alike (storage other : Storage) : Prop where
  failing : storage.failing = other.failing
  store : storage.store.Alike other.store

namespace Alike

variable {storage other : Storage}

theorem refl (storage : Storage) : storage.Alike storage :=
  ⟨rfl, rfl, fun _ _ => rfl⟩

theorem symm (h : storage.Alike other) : other.Alike storage :=
  ⟨h.failing.symm, h.store.obstacle.symm, fun key hkey => (h.store.get key hkey).symm⟩

theorem get (h : storage.Alike other) {key : String} (hkey : key ∈ sessionKeys) :
    storage.get key = other.get key := by
  rw [Storage.get, Storage.get, h.failing, h.store.get key hkey]

theorem set (h : storage.Alike other) (key value : String) :
    Matched Alike (storage.set key value) (other.set key value) := by
  unfold Storage.set
  rw [h.failing]
  split
  · exact .error _
  · exact (h.store.set key value).map fun _ _ hstore => ⟨rfl, hstore⟩

theorem remove (h : storage.Alike other) (key : String) :
    Matched Alike (storage.remove key) (other.remove key) := by
  unfold Storage.remove
  rw [h.failing]
  split
  · exact .error _
  · exact (h.store.remove key).map fun _ _ hstore => ⟨rfl, hstore⟩

theorem without (h : storage.Alike other) (key : String) :
    (storage.without key).Alike (other.without key) := by
  have hremove := h.remove key
  unfold Storage.without
  generalize storage.remove key = result, other.remove key = result' at hremove ⊢
  cases hremove with
  | error error => exact h
  | ok hlater => exact hlater

theorem cleared (h : storage.Alike other) : storage.cleared.Alike other.cleared :=
  (h.without tokenKey).without userKey

end Alike

theorem without_eq {storage later : Storage} {key : String} (h : storage.remove key = .ok later) :
    storage.without key = later := by
  rw [Storage.without, h]

/-- Both entries of a session can be removed, one after the other. -/
def Clears (storage : Storage) : Prop :=
  ∃ between later, storage.remove tokenKey = .ok between ∧ between.remove userKey = .ok later

theorem Clears.of_isOk {storage : Storage}
    (h : (storage.remove tokenKey >>= remove userKey).isOk = true) : storage.Clears := by
  cases hclears : storage.remove tokenKey >>= remove userKey with
  | error error =>
    rw [hclears] at h
    cases h
  | ok later =>
    obtain ⟨between, htoken, huser⟩ := bind_eq_ok.mp hclears
    exact ⟨between, later, htoken, huser⟩

/-- Of a session that was cleared nothing is left, whatever was stored. -/
theorem Clears.get_cleared {storage : Storage} (h : storage.Clears) {key : String}
    (hkey : key ∈ sessionKeys) : storage.cleared.store.get key = .ok none := by
  obtain ⟨between, later, htoken, huser⟩ := h
  have hcleared : storage.cleared = later := by
    rw [Storage.cleared, without_eq htoken, without_eq huser]
  obtain ⟨entries, -, hbetween, -⟩ := Store.entries_of_remove (remove_eq_ok_iff.mp htoken).2.1
  obtain ⟨_, hentries, hlater, -⟩ := Store.entries_of_remove (remove_eq_ok_iff.mp huser).2.1
  cases hbetween.symm.trans hentries
  rw [hcleared, Store.get_eq, hlater]
  refine congrArg Except.ok ?_
  by_cases hlast : key = userKey
  · rw [hlast, Dict.get?_erase_self]
  · rw [Dict.get?_erase_of_ne hlast]
    have hfirst : key = tokenKey := by simpa [sessionKeys, hlast] using hkey
    rw [hfirst, Dict.get?_erase_self]

end Storage

end IdentityConsole
