import IdentityConsole.Text.Utf8

/-!
# Files

A slot is what stands at the path of a file that is read and written as a whole.
-/

namespace IdentityConsole

inductive FileFault
  | isDirectory
  | notUtf8
  | exists
  | notDirectory
deriving DecidableEq, Repr

def FileFault.message : FileFault → String
  | .isDirectory => "Is a directory (os error 21)"
  | .notUtf8 => "stream did not contain valid UTF-8"
  | .exists => "File exists (os error 17)"
  | .notDirectory => "Not a directory (os error 20)"

/-- A blocked slot is below something that is no directory; the fault is what one gets for trying to
make its directory. -/
inductive FileSlot
  | absent
  | file (content : List UInt8)
  | directory
  | blocked (fault : FileFault)
deriving DecidableEq, Repr

namespace FileSlot

def holding (text : String) : FileSlot :=
  .file (Text.Utf8.encode text)

/-- The text of the file, or nothing where there is no file. -/
def read : FileSlot → Except FileFault (Option String)
  | .absent | .blocked _ => .ok none
  | .directory => .error .isDirectory
  | .file content =>
    match Text.Utf8.decode? content with
    | some text => .ok (some text)
    | none => .error .notUtf8

def makeDirectory : FileSlot → Except FileFault Unit
  | .blocked fault => .error fault
  | _ => .ok ()

/-- Replaces the whole file. -/
def write (text : String) : FileSlot → Except FileFault FileSlot
  | .directory => .error .isDirectory
  | .blocked fault => .error fault
  | .absent | .file _ => .ok (holding text)

/-- The content for display; what is not UTF-8 is replaced. -/
def shown? : FileSlot → Option String
  | .file content => some (Text.Utf8.decodeLossy content)
  | _ => none

end FileSlot

/-- The path of a file in a directory. -/
def pathIn (directory name : String) : String :=
  if directory = "" ∨ directory.toList.getLast? = some '/' then directory ++ name
  else directory ++ "/" ++ name

end IdentityConsole
