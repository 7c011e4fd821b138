import IdentityConsole.Json.Number
import IdentityConsole.Text.Quoted
import IdentityConsole.Timestamp

/-!
# What can be wrong with a text that should hold a value of a given form

A text is malformed when it is not JSON, and otherwise holds JSON of another form. Of several faults
the one that comes first in the text is reported.
-/

namespace IdentityConsole.Json

inductive Found
  | null
  | bool (value : Bool)
  | number (value : Number)
  | string (text : String)
  | sequence
  | map
deriving Repr

inductive Expected
  | string
  | sequence
  | map
  | record (name : String)
  | timestamp
  | path
  | unsigned64
  | signed64
  | unit
  | variant
deriving DecidableEq, Repr

inductive Fault
  | malformed
  | wrongType (found : Found) (expected : Expected)
  | wrongValue (value : Int) (expected : Expected)
  | missingField (field : String)
  | duplicateField (field : String)
  | wrongLength (length : Nat) (record : String) (fields : Nat)
  | unknownVariant (name : String) (first second : String)
  | badTimestamp (fault : Timestamp.Fault)
deriving Repr

def Found.description : Found → String
  | .null => "null"
  | .bool true => "boolean `true`"
  | .bool false => "boolean `false`"
  | .number (.int n) => "integer `" ++ Number.text (.int n) ++ "`"
  | .number (.float x) => "floating point `" ++ Number.text (.float x) ++ "`"
  | .string text => "string " ++ Text.quoted text
  | .sequence => "sequence"
  | .map => "map"

def Expected.description : Expected → String
  | .string => "a string"
  | .sequence => "a sequence"
  | .map => "a map"
  | .record name => "struct " ++ name
  | .timestamp => "a formatted date and time string"
  | .path => "path string"
  | .unsigned64 => "u64"
  | .signed64 => "i64"
  | .unit => "unit"
  | .variant => "variant identifier"

def Fault.message : Fault → String
  | .malformed => "JSON syntax error"
  | .wrongType found expected =>
    "invalid type: " ++ found.description ++ ", expected " ++ expected.description
  | .wrongValue value expected =>
    "invalid value: integer `" ++ Number.text (.int value) ++ "`, expected " ++ expected.description
  | .missingField field => "missing field `" ++ field ++ "`"
  | .duplicateField field => "duplicate field `" ++ field ++ "`"
  | .wrongLength length record fields =>
    "invalid length " ++ toString length ++ ", expected struct " ++ record ++ " with " ++
      toString fields ++ (if fields = 1 then " element" else " elements")
  | .unknownVariant name first second =>
    "unknown variant `" ++ name ++ "`, expected `" ++ first ++ "` or `" ++ second ++ "`"
  | .badTimestamp fault => fault.message

end IdentityConsole.Json
