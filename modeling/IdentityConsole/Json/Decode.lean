import IdentityConsole.Json.Basic
import IdentityConsole.Json.Draft
import IdentityConsole.Json.Fault

/-!
# Reading values of a given form

A decoder takes how many more levels of nesting are allowed and a draft. Records are described by
their declared fields. A record either keeps the members it does not declare, and is then written as
an object only, or passes over them, and may then also be written as an array of its fields in
order.
-/

namespace IdentityConsole.Json

abbrev Decoder (α : Type) := Nat → Draft → Except Fault α

/-- The levels of nesting a text may have, its outermost value included, plus one. -/
def nestingLimit : Nat := 128

/-- One level deeper. -/
def deeper (depth : Nat) : Except Fault Nat :=
  if depth ≤ 1 then .error .malformed else .ok (depth - 1)

def Draft.found : Draft → Except Fault Found
  | .null => .ok .null
  | .bool value => .ok (.bool value)
  | .number literal =>
    match literal.value? with
    | some value => .ok (.number value)
    | none => .error .malformed
  | .string (some text) => .ok (.string text)
  | .string none => .error .malformed
  | .array _ _ => .ok .sequence
  | .object _ _ => .ok .map
  | .broken => .error .malformed

def mismatch {α : Type} (expected : Expected) (draft : Draft) : Except Fault α := do
  throw (.wrongType (← draft.found) expected)

namespace Decoder

/-- A text, of which `expected` names the purpose. -/
def textFor (expected : Expected) : Decoder String
  | _, .string (some text) => .ok text
  | _, draft => mismatch expected draft

def string : Decoder String := textFor .string

def optional {α : Type} (inner : Decoder α) : Decoder (Option α)
  | _, .null => .ok none
  | depth, draft => (inner depth draft).map some

def items {α : Type} (inner : Decoder α) (depth : Nat) : List Draft → Except Fault (List α)
  | [] => .ok []
  | draft :: rest => do
    let first ← inner depth draft
    let others ← items inner depth rest
    return first :: others

def whenClosed (closed : Bool) : Except Fault Unit :=
  if closed then .ok () else .error .malformed

def list {α : Type} (inner : Decoder α) : Decoder (List α)
  | depth, .array drafts closed => do
    let values ← items inner (← deeper depth) drafts
    whenClosed closed
    return values
  | _, draft => mismatch .sequence draft

def entries {α : Type} (inner : Decoder α) (depth : Nat) :
    List (Draft.Key × Draft) → Except Fault (List (String × α))
  | [] => .ok []
  | (.name key, draft) :: rest => do
    let value ← inner depth draft
    let others ← entries inner depth rest
    return (key, value) :: others
  | _ :: _ => .error .malformed

/-- An object with values of one form. Of several members with one key the last counts. -/
def dict {α : Type} (inner : Decoder α) : Decoder (Dict α)
  | depth, .object members closed => do
    let values ← entries inner (← deeper depth) members
    whenClosed closed
    return Dict.ofList values
  | _, draft => mismatch .map draft

def timestamp (depth : Nat) (draft : Draft) : Except Fault Timestamp := do
  match Timestamp.parse (← textFor .timestamp depth draft) with
  | .ok value => return value
  | .error fault => throw (.badTimestamp fault)

def integerBetween (least greatest : Int) (expected : Expected) : Decoder Int
  | _, draft => do
    match ← draft.found with
    | .number (.int n) =>
      if least ≤ n ∧ n ≤ greatest then return n else throw (.wrongValue n expected)
    | found => throw (.wrongType found expected)

def signed64 : Decoder Int :=
  integerBetween (-0x8000000000000000) 0x7FFFFFFFFFFFFFFF .signed64

def unsigned64 : Decoder Int := integerBetween 0 0xFFFFFFFFFFFFFFFF .unsigned64

/-- Any value, with the members of its objects in order and one member a key. -/
def json : Decoder Json
  | _, .null => .ok .null
  | _, .bool value => .ok (.bool value)
  | _, .number literal =>
    match literal.value? with
    | some value => .ok (.number value)
    | none => .error .malformed
  | _, .string (some text) => .ok (.string text)
  | _, .string none => .error .malformed
  | depth, .array drafts closed => do
    let values ← jsonItems (← deeper depth) drafts
    whenClosed closed
    return .array values
  | depth, .object members closed => do
    let values ← jsonMembers (← deeper depth) members
    whenClosed closed
    return .ofMembers values
  | _, .broken => .error .malformed
where
  jsonItems (depth : Nat) : List Draft → Except Fault (List Json)
    | [] => .ok []
    | draft :: rest => do
      let first ← json depth draft
      let others ← jsonItems depth rest
      return first :: others
  jsonMembers (depth : Nat) : List (Draft.Key × Draft) → Except Fault (List (String × Json))
    | [] => .ok []
    | (.name key, draft) :: rest => do
      let value ← json depth draft
      let others ← jsonMembers depth rest
      return (key, value) :: others
    | _ :: _ => .error .malformed

/-- A value that is passed over need only be complete. -/
def complete : Draft → Bool
  | .array drafts closed => itemsComplete drafts && closed
  | .object members closed => membersComplete members && closed
  | .broken => false
  | _ => true
where
  itemsComplete : List Draft → Bool
    | [] => true
    | draft :: rest => complete draft && itemsComplete rest
  membersComplete : List (Draft.Key × Draft) → Bool
    | [] => true
    | (_, draft) :: rest => complete draft && membersComplete rest

def skip : Decoder Unit
  | _, draft => if complete draft then .ok () else .error .malformed

end Decoder

/-- A declared field: its key and the form of its value. -/
structure Field where
  key : String
  check : Decoder Unit

def field {α : Type} (key : String) (decoder : Decoder α) : Field :=
  ⟨key, fun depth draft => (decoder depth draft).map fun _ => ()⟩

/-- What becomes of undeclared members. Where they are passed over, `leading` says whether the array
form needs its first field. -/
inductive Undeclared
  | kept
  | skipped (leading : Bool)
deriving DecidableEq

structure Shape where
  name : String
  fields : List Field
  undeclared : Undeclared

/-- The members of a record whose forms have been checked. -/
structure Members where
  depth : Nat
  members : List (String × Draft)

namespace Shape

def field? (shape : Shape) (key : String) : Option Field :=
  shape.fields.find? (·.key = key)

def checkUndeclared (shape : Shape) (depth : Nat) (draft : Draft) : Except Fault Unit :=
  match shape.undeclared with
  | .kept => (Decoder.json depth draft).map fun _ => ()
  | .skipped _ => Decoder.skip depth draft

/-- Checks members in their order; `seen` holds the declared keys that came before. -/
def checkMembers (shape : Shape) (depth : Nat) (seen : List String) :
    List (Draft.Key × Draft) → Except Fault (List (String × Draft))
  | [] => .ok []
  | (.name key, draft) :: rest => do
    match shape.field? key with
    | some field =>
      if key ∈ seen then throw (.duplicateField key)
      field.check depth draft
      let others ← checkMembers shape depth (key :: seen) rest
      return (key, draft) :: others
    | none =>
      checkUndeclared shape depth draft
      let others ← checkMembers shape depth seen rest
      return (key, draft) :: others
  | _ :: _ => .error .malformed

def checkItems (depth : Nat) : List Field → List Draft → Except Fault (List (String × Draft))
  | field :: fields, draft :: rest => do
    field.check depth draft
    let others ← checkItems depth fields rest
    return (field.key, draft) :: others
  | _, _ => .ok []

def members (shape : Shape) : Decoder Members
  | depth, .object drafts closed => do
    let depth ← deeper depth
    let members ← checkMembers shape depth [] drafts
    Decoder.whenClosed closed
    return ⟨depth, members⟩
  | depth, .array drafts closed => do
    match shape.undeclared with
    | .kept => throw (.wrongType .sequence (.record shape.name))
    | .skipped leading =>
      let depth ← deeper depth
      let members ← checkItems depth shape.fields drafts
      Decoder.whenClosed closed
      if leading && drafts.isEmpty then throw (.wrongLength 0 shape.name shape.fields.length)
      if shape.fields.length < drafts.length then throw .malformed
      return ⟨depth, members⟩
  | _, draft => mismatch (.record shape.name) draft

end Shape

namespace Members

def find? (members : Members) (key : String) : Option Draft :=
  (members.members.find? (·.1 = key)).map (·.2)

def required {α : Type} (members : Members) (key : String) (decoder : Decoder α) :
    Except Fault α :=
  match members.find? key with
  | some draft => decoder members.depth draft
  | none => .error (.missingField key)

def withDefault {α : Type} (members : Members) (key : String) (decoder : Decoder α) (absent : α) :
    Except Fault α :=
  match members.find? key with
  | some draft => decoder members.depth draft
  | none => .ok absent

def optional {α : Type} (members : Members) (key : String) (decoder : Decoder α) :
    Except Fault (Option α) :=
  members.withDefault key (Decoder.optional decoder) none

/-- The members of a record that it does not declare. -/
def others (members : Members) (shape : Shape) : Except Fault (Dict Json) := do
  let undeclared := members.members.filter fun entry => (shape.field? entry.1).isNone
  let values ← undeclared.mapM fun entry => do
    return (entry.1, ← Decoder.json members.depth entry.2)
  return Dict.ofList values

end Members

/-- A whole text. What is wrong with its value comes before what is wrong with what follows it. -/
def decode {α : Type} (decoder : Decoder α) (text : String) : Except Fault α := do
  let (draft, clean) := Draft.ofText text
  let value ← decoder nestingLimit draft
  if clean then return value else throw .malformed

end IdentityConsole.Json
