import IdentityConsole.Storage.FileStore

/-!
# Stored entries

What outlives a run of the program: texts under keys, in memory or in a file. Operations can be made
to fail, all reads, all removals, or the writes of given keys; what is stored stays as it was then.
-/

namespace IdentityConsole

inductive Store
  | memory (entries : Dict String)
  | file (store : FileStore)
deriving DecidableEq, Repr

namespace Store

def get (key : String) : Store → Except StorageError (Option String)
  | .memory entries => .ok (entries.get? key)
  | .file store => store.get key

def set (key value : String) : Store → Except StorageError Store
  | .memory entries => .ok (.memory (entries.insert key value))
  | .file store => (store.set key value).map .file

def remove (key : String) : Store → Except StorageError Store
  | .memory entries => .ok (.memory (entries.erase key))
  | .file store => (store.remove key).map .file

end Store

structure Failing where
  get : Bool
  remove : Bool
  set : List String
deriving DecidableEq, Repr

structure Storage where
  store : Store
  failing : Failing
deriving DecidableEq, Repr

namespace Storage

/-- The entry that holds the bearer token. -/
def tokenKey : String := "access_token"

/-- The entry that holds the identity record. -/
def userKey : String := "user"

def reliable (store : Store) : Storage :=
  ⟨store, ⟨false, false, []⟩⟩

def get (key : String) (storage : Storage) : Except StorageError (Option String) :=
  if storage.failing.get then .error .unavailable else storage.store.get key

def set (key value : String) (storage : Storage) : Except StorageError Storage :=
  if key ∈ storage.failing.set then .error .full
  else (storage.store.set key value).map fun store => { storage with store }

def remove (key : String) (storage : Storage) : Except StorageError Storage :=
  if storage.failing.remove then .error .readOnly
  else (storage.store.remove key).map fun store => { storage with store }

end Storage

end IdentityConsole
