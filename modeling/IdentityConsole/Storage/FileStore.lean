import IdentityConsole.Json.Decode
import IdentityConsole.Json.Printer
import IdentityConsole.Storage.Error

/-!
# Entries in one file

The file holds one object, laid out, with the entries in order of their keys. It is read anew for
every operation, so that whoever else uses the file is heard. A file of blanks holds no entries.
-/

namespace IdentityConsole

structure FileStore where
  path : String
  slot : FileSlot
deriving DecidableEq, Repr

namespace FileStore

/-- The name of the file in its directory. -/
def fileName : String := "local_storage.json"

def inDirectory (directory : String) (slot : FileSlot) : FileStore :=
  ⟨pathIn directory fileName, slot⟩

def parse (text : String) : Except Json.Fault (Dict String) :=
  if Text.trim text = "" then .ok .empty
  else Json.decode (Json.Decoder.dict Json.Decoder.string) text

def print (entries : Dict String) : String :=
  (Json.object (entries.toList.map fun entry => (entry.1, .string entry.2))).laidOut

def entries (store : FileStore) : Except StorageError (Dict String) :=
  match store.slot.read with
  | .error fault => .error (.unreadable store.path fault)
  | .ok none => .ok .empty
  | .ok (some text) => (parse text).mapError .unparsable

def replace (entries : Dict String) (store : FileStore) : Except StorageError FileStore :=
  match store.slot.makeDirectory with
  | .error fault => .error (.noDirectory fault)
  | .ok () =>
    match store.slot.write (print entries) with
    | .error fault => .error (.unwritable store.path fault)
    | .ok slot => .ok { store with slot }

def get (key : String) (store : FileStore) : Except StorageError (Option String) := do
  return (← store.entries).get? key

def set (key value : String) (store : FileStore) : Except StorageError FileStore := do
  store.replace ((← store.entries).insert key value)

/-- Writes nothing when there is no such entry. -/
def remove (key : String) (store : FileStore) : Except StorageError FileStore := do
  let entries ← store.entries
  if (entries.get? key).isSome then store.replace (entries.erase key) else return store

end FileStore

end IdentityConsole
