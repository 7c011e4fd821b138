import IdentityConsole.Records.Group
import IdentityConsole.Records.Kind
import IdentityConsole.Records.Policy
import IdentityConsole.Records.User

/-!
# Records of any kind
-/

namespace IdentityConsole

/-- The records of a kind. -/
def Kind.Record : Kind → Type
  | .users => User
  | .groups => Group
  | .policies => Policy

namespace Record

variable {kind : Kind}

instance : DecidableEq kind.Record :=
  match kind with
  | .users => inferInstanceAs (DecidableEq User)
  | .groups => inferInstanceAs (DecidableEq Group)
  | .policies => inferInstanceAs (DecidableEq Policy)

def decoder : (kind : Kind) → Json.Decoder kind.Record
  | .users => User.decoder
  | .groups => Group.decoder
  | .policies => Policy.decoder

def toJson : {kind : Kind} → kind.Record → Json
  | .users => User.toJson
  | .groups => Group.toJson
  | .policies => Policy.toJson

def id : {kind : Kind} → kind.Record → String
  | .users => User.id
  | .groups => Group.id
  | .policies => Policy.id

/-- The fields offered for editing, in order. -/
def fields : Kind → List Field
  | .users => User.fields
  | .groups => Group.fields
  | .policies => Policy.fields

/-- A field the record does not have reads as an empty text. -/
def field : {kind : Kind} → kind.Record → Field → String
  | .users => User.field
  | .groups => Group.field
  | .policies => Policy.field

def setField : {kind : Kind} → kind.Record → Field → String → kind.Record
  | .users => User.setField
  | .groups => Group.setField
  | .policies => Policy.setField

end Record

end IdentityConsole
