import IdentityConsole.Json.Decode
import IdentityConsole.Json.Equality
import IdentityConsole.Json.Printer

/-!
# Who is signed in
-/

namespace IdentityConsole

structure Identity where
  id : Option String
  name : Option String
  email : Option String
  others : Dict Json
deriving DecidableEq, Repr

namespace Identity

open Json (Decoder)

def shape : Json.Shape where
  name := "Identity"
  fields := [
    Json.field "id" (Decoder.optional Decoder.string),
    Json.field "name" (Decoder.optional Decoder.string),
    Json.field "email" (Decoder.optional Decoder.string)]
  undeclared := .kept

def decoder : Decoder Identity := fun depth draft => do
  let members ← shape.members depth draft
  return {
    id := ← members.optional "id" Decoder.string
    name := ← members.optional "name" Decoder.string
    email := ← members.optional "email" Decoder.string
    others := ← members.others shape }

def named (name : String) : Identity :=
  ⟨none, some name, none, .empty⟩

/-- The members in the order in which they are declared, then the others by key. -/
def members (identity : Identity) : List (String × Json) :=
  Json.optionalMember "id" (identity.id.map .string) ++
  Json.optionalMember "name" (identity.name.map .string) ++
  Json.optionalMember "email" (identity.email.map .string) ++ identity.others.toList

def toJson (identity : Identity) : Json :=
  .ofMembers identity.members

/-- The text under which an identity is stored. -/
def stored (identity : Identity) : String :=
  (Json.object identity.members).text

/-- The first of name, email and id that is there and not empty. -/
def displayName (identity : Identity) : String :=
  (([identity.name, identity.email, identity.id].reduceOption).find? (· ≠ "")).getD "unknown"

end Identity

end IdentityConsole
