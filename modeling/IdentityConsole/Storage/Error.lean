import IdentityConsole.FileSlot
import IdentityConsole.Json.Fault
import IdentityConsole.Report

/-!
# What can go wrong with stored entries
-/

namespace IdentityConsole

inductive StorageError
  | unavailable
  | readOnly
  | full
  | unreadable (path : String) (fault : FileFault)
  | unparsable (fault : Json.Fault)
  | noDirectory (fault : FileFault)
  | unwritable (path : String) (fault : FileFault)
deriving Repr

def StorageError.report : StorageError → Report
  | .unavailable => .plain "storage unavailable"
  | .readOnly => .plain "storage is read-only"
  | .full => .plain "storage is full"
  | .unreadable path fault =>
    (Report.plain fault.message).during ("Failed to read storage file " ++ path)
  | .unparsable fault => (Report.plain fault.message).during "Failed to parse storage file"
  | .noDirectory fault => .plain fault.message
  | .unwritable path fault =>
    (Report.plain fault.message).during ("Failed to write storage file " ++ path)

end IdentityConsole
