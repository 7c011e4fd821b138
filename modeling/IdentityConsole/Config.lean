import IdentityConsole.FileSlot
import IdentityConsole.Json.Decode
import IdentityConsole.Json.Printer
import IdentityConsole.Report

/-!
# Configuration

What is kept between runs stands in a file below the configuration directory. The base address of
the server comes from the environment.
-/

namespace IdentityConsole

structure Config where
  lastUsername : Option String
  storageDir : Option String
deriving DecidableEq, Repr

namespace Config

open Json (Decoder)

/-- The directory for this program in the directories of the user. -/
def programName : String := "cim-console"

def fileName : String := "config.json"

/-- The variable of the environment that holds the base address. -/
def addressVariable : String := "CIM_API_URL"

def defaultAddress : String := "http://localhost:30050/v1"

def initial : Config := ⟨none, none⟩

def shape : Json.Shape where
  name := "Config"
  fields := [
    Json.field "last_username" (Decoder.optional Decoder.string),
    Json.field "storage_dir" (Decoder.optional (Decoder.textFor .path))]
  undeclared := .skipped true

def decoder : Decoder Config := fun depth draft => do
  let members ← shape.members depth draft
  return {
    lastUsername := ← members.optional "last_username" Decoder.string
    storageDir := ← members.optional "storage_dir" (Decoder.textFor .path) }

def toJson (config : Config) : Json :=
  .object <|
    ("last_username", (config.lastUsername.map Json.string).getD .null) ::
    Json.optionalMember "storage_dir" (config.storageDir.map .string)

/-- Where the session is stored, given the user's directory for such things. -/
def storageDirectory (config : Config) (cache : String) : String :=
  config.storageDir.getD (pathIn cache programName)

/-- The base address for a value of the environment: without blanks around it and without slashes at
its end. -/
def baseAddress (value : Option String) : String :=
  let given := (value.map Text.trim).filter (· ≠ "")
  Text.trimEndSlashes (given.getD defaultAddress)

end Config

inductive ConfigError
  | unreadable (path : String) (fault : FileFault)
  | unparsable (fault : Json.Fault)
  | unwritable (fault : FileFault)
deriving Repr

def ConfigError.report : ConfigError → Report
  | .unreadable path fault =>
    (Report.plain fault.message).during ("Failed to read config file " ++ path)
  | .unparsable fault => (Report.plain fault.message).during "Failed to parse config file"
  | .unwritable fault => .plain fault.message

/-- The configuration file. -/
structure ConfigFile where
  path : String
  slot : FileSlot
deriving DecidableEq, Repr

namespace ConfigFile

def inHome (home : String) (slot : FileSlot) : ConfigFile :=
  ⟨pathIn (pathIn home Config.programName) Config.fileName, slot⟩

def load (file : ConfigFile) : Except ConfigError Config :=
  match file.slot.read with
  | .error fault => .error (.unreadable file.path fault)
  | .ok none => .ok .initial
  | .ok (some text) => (Json.decode Config.decoder text).mapError .unparsable

def save (config : Config) (file : ConfigFile) : Except ConfigError ConfigFile :=
  match file.slot.write config.toJson.laidOut with
  | .error fault => .error (.unwritable fault)
  | .ok slot => .ok { file with slot }

end ConfigFile

end IdentityConsole
