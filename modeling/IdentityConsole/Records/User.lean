import IdentityConsole.Json.Decode
import IdentityConsole.Json.Equality
import IdentityConsole.Records.Field

/-!
# Users

A record keeps the members it does not declare, so that an update sends them back.
-/

namespace IdentityConsole

structure User where
  id : String
  accountId : String
  desc : String
  name : Option String
  email : Option String
  createdAt : Option Timestamp
  updatedAt : Option Timestamp
  others : Dict Json
deriving DecidableEq, Repr

namespace User

open Json (Decoder)

def shape : Json.Shape where
  name := "User"
  fields := [
    Json.field "id" Decoder.string,
    Json.field "account_id" Decoder.string,
    Json.field "desc" Decoder.string,
    Json.field "name" (Decoder.optional Decoder.string),
    Json.field "email" (Decoder.optional Decoder.string),
    Json.field "created_at" (Decoder.optional Decoder.timestamp),
    Json.field "updated_at" (Decoder.optional Decoder.timestamp)]
  undeclared := .kept

def decoder : Decoder User := fun depth draft => do
  let members ← shape.members depth draft
  return {
    id := ← members.required "id" Decoder.string
    accountId := ← members.withDefault "account_id" Decoder.string ""
    desc := ← members.withDefault "desc" Decoder.string ""
    name := ← members.optional "name" Decoder.string
    email := ← members.optional "email" Decoder.string
    createdAt := ← members.optional "created_at" Decoder.timestamp
    updatedAt := ← members.optional "updated_at" Decoder.timestamp
    others := ← members.others shape }

def toJson (user : User) : Json :=
  .ofMembers <|
    [("id", .string user.id), ("account_id", .string user.accountId),
      ("desc", .string user.desc)] ++
    Json.optionalMember "name" (user.name.map .string) ++
    Json.optionalMember "email" (user.email.map .string) ++
    Json.optionalMember "created_at" (user.createdAt.map (.string ·.text)) ++
    Json.optionalMember "updated_at" (user.updatedAt.map (.string ·.text)) ++ user.others.toList

/-- The name, or the id where there is none or an empty one. -/
def displayName (user : User) : String :=
  match user.name with
  | some name => if name = "" then user.id else name
  | none => user.id

def fields : List Field := [.name, .email]

def field (user : User) : Field → String
  | .name => user.name.getD ""
  | .email => user.email.getD ""
  | .description => user.desc

def setField (user : User) (field : Field) (value : String) : User :=
  match field with
  | .name => { user with name := some value }
  | .email => { user with email := some value }
  | .description => { user with desc := value }

end User

end IdentityConsole
