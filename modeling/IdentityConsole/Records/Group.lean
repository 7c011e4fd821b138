import IdentityConsole.Json.Decode
import IdentityConsole.Json.Equality
import IdentityConsole.Records.Field

/-!
# Groups
-/

namespace IdentityConsole

structure Group where
  id : String
  accountId : String
  name : String
  desc : String
  createdAt : Option Timestamp
  updatedAt : Option Timestamp
  others : Dict Json
deriving DecidableEq, Repr

namespace Group

open Json (Decoder)

def shape : Json.Shape where
  name := "Group"
  fields := [
    Json.field "id" Decoder.string,
    Json.field "account_id" Decoder.string,
    Json.field "name" Decoder.string,
    Json.field "desc" Decoder.string,
    Json.field "created_at" (Decoder.optional Decoder.timestamp),
    Json.field "updated_at" (Decoder.optional Decoder.timestamp)]
  undeclared := .kept

def decoder : Decoder Group := fun depth draft => do
  let members ← shape.members depth draft
  return {
    id := ← members.required "id" Decoder.string
    accountId := ← members.withDefault "account_id" Decoder.string ""
    name := ← members.withDefault "name" Decoder.string ""
    desc := ← members.withDefault "desc" Decoder.string ""
    createdAt := ← members.optional "created_at" Decoder.timestamp
    updatedAt := ← members.optional "updated_at" Decoder.timestamp
    others := ← members.others shape }

def toJson (group : Group) : Json :=
  .ofMembers <|
    [("id", .string group.id), ("account_id", .string group.accountId),
      ("name", .string group.name), ("desc", .string group.desc)] ++
    Json.optionalMember "created_at" (group.createdAt.map (.string ·.text)) ++
    Json.optionalMember "updated_at" (group.updatedAt.map (.string ·.text)) ++ group.others.toList

def fields : List Field := [.name]

def field (group : Group) : Field → String
  | .name => group.name
  | .email => ""
  | .description => group.desc

/-- A group has no email. -/
def setField (group : Group) (field : Field) (value : String) : Group :=
  match field with
  | .name => { group with name := value }
  | .email => group
  | .description => { group with desc := value }

end Group

end IdentityConsole
