/-!
# The fields of a record that can be edited
-/

namespace IdentityConsole

inductive Field
  | name
  | email
  | description
deriving DecidableEq, Repr

def Field.label : Field → String
  | .name => "Name"
  | .email => "Email"
  | .description => "Description"

end IdentityConsole
