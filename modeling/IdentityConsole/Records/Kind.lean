import IdentityConsole.Text.Percent

/-!
# The kinds of records

Each kind is a collection of the server. Its records are addressed by their id, which is always one
path segment.
-/

namespace IdentityConsole

inductive Kind
  | users
  | groups
  | policies
deriving DecidableEq, Repr

namespace Kind

def all : List Kind := [.users, .groups, .policies]

def segment : Kind → String
  | .users => "users"
  | .groups => "groups"
  | .policies => "policies"

def ofSegment? (segment : String) : Option Kind :=
  all.find? (·.segment = segment)

def singular : Kind → String
  | .users => "User"
  | .groups => "Group"
  | .policies => "Policy"

def plural : Kind → String
  | .users => "Users"
  | .groups => "Groups"
  | .policies => "Policies"

/-- The singular and the plural within a sentence. -/
def noun : Kind → String
  | .users => "user"
  | .groups => "group"
  | .policies => "policy"

def nouns : Kind → String := segment

def collectionPath (kind : Kind) : String :=
  "/" ++ kind.segment

def itemPath (kind : Kind) (id : String) : String :=
  "/" ++ kind.segment ++ "/" ++ Text.Percent.encode id

end Kind

end IdentityConsole
