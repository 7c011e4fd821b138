import IdentityConsole.Json.Decode

/-!
# What the server answers with besides records
-/

namespace IdentityConsole

open Json (Decoder)

/-- A part of a collection. -/
structure Page (α : Type) where
  data : List α
  limit : Int
  offset : Int
  total : Int
deriving DecidableEq, Repr

namespace Page

variable {α : Type}

def shape (item : Decoder α) : Json.Shape where
  name := "List"
  fields := [
    Json.field "data" (Decoder.list item),
    Json.field "limit" Decoder.unsigned64,
    Json.field "offset" Decoder.unsigned64,
    Json.field "total" Decoder.signed64]
  undeclared := .skipped false

def decoder (item : Decoder α) : Decoder (Page α) := fun depth draft => do
  let members ← (shape item).members depth draft
  return {
    data := ← members.withDefault "data" (Decoder.list item) []
    limit := ← members.withDefault "limit" Decoder.unsigned64 0
    offset := ← members.withDefault "offset" Decoder.unsigned64 0
    total := ← members.withDefault "total" Decoder.signed64 0 }

end Page

/-- The id the server gave to a new record. -/
structure CreatedId where
  id : String
deriving DecidableEq, Repr

namespace CreatedId

def shape : Json.Shape where
  name := "CreatedId"
  fields := [Json.field "id" Decoder.string]
  undeclared := .skipped true

def decoder : Decoder CreatedId := fun depth draft => do
  let members ← shape.members depth draft
  return { id := ← members.required "id" Decoder.string }

def toJson (created : CreatedId) : Json :=
  .object [("id", .string created.id)]

end CreatedId

end IdentityConsole
