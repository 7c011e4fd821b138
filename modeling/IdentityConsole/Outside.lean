import IdentityConsole.Api.Request
import IdentityConsole.Http.Address
import IdentityConsole.Log
import IdentityConsole.Storage.Storage

/-!
# What the console finds and leaves outside

The stored entries, the network, and two records of what happened: the log, and the requests that
left. Both grow at the end.
-/

namespace IdentityConsole

structure Outside where
  storage : Storage
  network : Http.Network
  log : List Event
  sent : List Sent

namespace Outside

def initial (storage : Storage) (network : Http.Network) : Outside :=
  ⟨storage, network, [], []⟩

def note (event : Event) (outside : Outside) : Outside :=
  { outside with log := outside.log ++ [event] }

def send (request : Sent) (outside : Outside) : Outside :=
  { outside with sent := outside.sent ++ [request] }

/-- Removes an entry; a failure is only noted. -/
def clear (key : String) (outside : Outside) : Outside :=
  match outside.storage.remove key with
  | .ok storage => { outside with storage }
  | .error error => outside.note (.entryNotCleared key error)

end Outside

end IdentityConsole
