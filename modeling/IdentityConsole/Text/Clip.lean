/-!
# Texts in columns of characters
-/

namespace IdentityConsole.Text

/-- At most `width` characters; a cut is marked by an ellipsis, which takes the last place. -/
def clip (text : String) (width : Nat) : String :=
  if text.length ≤ width then text
  else String.ofList (text.toList.take (width - 1) ++ ['…'])

/-- Blanks are added on the right up to `width` characters. -/
def padRight (text : String) (width : Nat) : String :=
  String.ofList (text.toList ++ List.replicate (width - text.length) ' ')

def padLeft (text : String) (width : Nat) : String :=
  String.ofList (List.replicate (width - text.length) ' ' ++ text.toList)

def blanks (count : Nat) : String :=
  String.ofList (List.replicate count ' ')

end IdentityConsole.Text
