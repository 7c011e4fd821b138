import IdentityConsole.Json.Decode
import IdentityConsole.Json.Equality
import IdentityConsole.Records.Field

/-!
# Policies

A policy is a list of statements, each of which allows or denies. A statement keeps only the members
it declares; its conditions are not looked into.
-/

namespace IdentityConsole

inductive Effect
  | allow
  | deny
deriving DecidableEq, Repr

namespace Effect

open Json (Decoder Draft)

def text : Effect → String
  | .allow => "Allow"
  | .deny => "Deny"

def ofText (text : String) : Except Json.Fault Effect :=
  if text = allow.text then .ok .allow
  else if text = deny.text then .ok .deny
  else .error (.unknownVariant text allow.text deny.text)

/-- An effect is written as its name, or as an object that holds `null` under its name. -/
def decoder : Decoder Effect
  | _, .string (some name) => ofText name
  | depth, .object members closed => do
    let _ ← Json.deeper depth
    match members with
    | [] => throw .malformed
    | (.name name, value) :: rest =>
      let effect ← ofText name
      match value with
      | .null =>
        if rest.isEmpty && closed then return effect else throw .malformed
      | value => Json.mismatch .unit value
    | (.absent, value) :: _ => Json.mismatch .variant value
    | (.unpaired, _) :: _ => throw .malformed
  | _, _ => .error .malformed

end Effect

structure Statement where
  effect : Effect
  subjects : List String
  actions : List String
  resources : List String
  conditions : Option (Dict Json)
deriving DecidableEq, Repr

namespace Statement

open Json (Decoder)

def shape : Json.Shape where
  name := "Statement"
  fields := [
    Json.field "effect" Effect.decoder,
    Json.field "subjects" (Decoder.list Decoder.string),
    Json.field "actions" (Decoder.list Decoder.string),
    Json.field "resources" (Decoder.list Decoder.string),
    Json.field "conditions" (Decoder.optional (Decoder.dict Decoder.json))]
  undeclared := .skipped true

def decoder : Decoder Statement := fun depth draft => do
  let members ← shape.members depth draft
  return {
    effect := ← members.required "effect" Effect.decoder
    subjects := ← members.withDefault "subjects" (Decoder.list Decoder.string) []
    actions := ← members.withDefault "actions" (Decoder.list Decoder.string) []
    resources := ← members.withDefault "resources" (Decoder.list Decoder.string) []
    conditions := ← members.optional "conditions" (Decoder.dict Decoder.json) }

def toJson (statement : Statement) : Json :=
  .ofMembers <|
    [("effect", .string statement.effect.text), ("subjects", .ofStrings statement.subjects),
      ("actions", .ofStrings statement.actions), ("resources", .ofStrings statement.resources)] ++
    Json.optionalMember "conditions" (statement.conditions.map (.object ·.toList))

end Statement

structure Policy where
  id : String
  accountId : Option String
  desc : String
  version : String
  statements : List Statement
  createdAt : Option Timestamp
  updatedAt : Option Timestamp
  others : Dict Json
deriving DecidableEq, Repr

namespace Policy

open Json (Decoder)

def shape : Json.Shape where
  name := "Policy"
  fields := [
    Json.field "id" Decoder.string,
    Json.field "account_id" (Decoder.optional Decoder.string),
    Json.field "desc" Decoder.string,
    Json.field "version" Decoder.string,
    Json.field "statement" (Decoder.list Statement.decoder),
    Json.field "created_at" (Decoder.optional Decoder.timestamp),
    Json.field "updated_at" (Decoder.optional Decoder.timestamp)]
  undeclared := .kept

def decoder : Decoder Policy := fun depth draft => do
  let members ← shape.members depth draft
  return {
    id := ← members.required "id" Decoder.string
    accountId := ← members.optional "account_id" Decoder.string
    desc := ← members.withDefault "desc" Decoder.string ""
    version := ← members.withDefault "version" Decoder.string ""
    statements := ← members.withDefault "statement" (Decoder.list Statement.decoder) []
    createdAt := ← members.optional "created_at" Decoder.timestamp
    updatedAt := ← members.optional "updated_at" Decoder.timestamp
    others := ← members.others shape }

def toJson (policy : Policy) : Json :=
  .ofMembers <|
    [("id", .string policy.id)] ++
    Json.optionalMember "account_id" (policy.accountId.map .string) ++
    [("desc", .string policy.desc), ("version", .string policy.version),
      ("statement", .array (policy.statements.map Statement.toJson))] ++
    Json.optionalMember "created_at" (policy.createdAt.map (.string ·.text)) ++
    Json.optionalMember "updated_at" (policy.updatedAt.map (.string ·.text)) ++
    policy.others.toList

def countOf (effect : Effect) (policy : Policy) : Nat :=
  policy.statements.countP (·.effect = effect)

def summary (policy : Policy) : String :=
  toString (policy.countOf .allow) ++ " allow / " ++ toString (policy.countOf .deny) ++ " deny"

def fields : List Field := [.description]

def field (policy : Policy) : Field → String
  | .description => policy.desc
  | .name | .email => ""

/-- A policy has neither a name nor an email. -/
def setField (policy : Policy) (field : Field) (value : String) : Policy :=
  match field with
  | .description => { policy with desc := value }
  | .name | .email => policy

end Policy

end IdentityConsole
