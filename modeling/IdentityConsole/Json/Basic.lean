import IdentityConsole.Dict
import IdentityConsole.Json.Number

/-!
# JSON values

An object's members stand in the order in which they are written. `ofMembers` orders them by key and
keeps the last of several with one key.
-/

namespace IdentityConsole

inductive Json
  | null
  | bool (value : Bool)
  | number (value : Json.Number)
  | string (value : String)
  | array (items : List Json)
  | object (members : List (String × Json))
deriving Repr, Inhabited

namespace Json

def ofMembers (members : List (String × Json)) : Json :=
  .object (Dict.ofList members).toList

def ofInt (n : Int) : Json :=
  .number (.int n)

def ofNat (n : Nat) : Json :=
  .number (.int n)

def ofStrings (texts : List String) : Json :=
  .array (texts.map .string)

/-- The member of an absent option is not written at all. -/
def optionalMember (key : String) (value : Option Json) : List (String × Json) :=
  match value with
  | none => []
  | some value => [(key, value)]

end Json

end IdentityConsole
