/-!
# Text between separators
-/

namespace IdentityConsole.Text

/-- The pieces between separators: one more than there are separators. -/
def splitAt (separator : Char) : List Char → List (List Char)
  | [] => [[]]
  | c :: rest =>
    if c = separator then [] :: splitAt separator rest
    else
      match splitAt separator rest with
      | [] => [[c]]
      | first :: others => (c :: first) :: others

/-- The pieces that are not empty. -/
def segments (separator : Char) (text : List Char) : List String :=
  ((splitAt separator text).filter (!·.isEmpty)).map String.ofList

end IdentityConsole.Text
