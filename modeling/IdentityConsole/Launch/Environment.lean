import IdentityConsole.Text.Blank
import IdentityConsole.Text.Segments

/-!
# Environment files

A line assigns a value to a variable. Blank lines and comments say nothing, and a value may stand in
quotes.
-/

namespace IdentityConsole.Environment

/-- A value as it is written. Outside quotes a comment may follow it after a blank. -/
def value : List Char → List Char
  | '"' :: rest => rest.takeWhile (· != '"')
  | c :: rest =>
    if c.toNat = 0x27 then rest.takeWhile (·.toNat != 0x27)
    else
      let words := Text.splitAt '#' (c :: rest)
      match words with
      | first :: _ :: _ =>
        if first.getLast?.any Text.isBlank then Text.dropEndWhile Text.isBlank first
        else Text.dropEndWhile Text.isBlank (c :: rest)
      | _ => Text.dropEndWhile Text.isBlank (c :: rest)
  | [] => []

def assignment? (line : List Char) : Option (String × String) :=
  let line := line.dropWhile Text.isBlank
  let line :=
    if "export ".toList.isPrefixOf line then (line.drop 7).dropWhile Text.isBlank else line
  let name := line.takeWhile (· != '=')
  if line.head? = some '#' ∨ name.length = line.length then none
  else
    some (String.ofList (Text.dropEndWhile Text.isBlank name),
      String.ofList (value ((line.drop (name.length + 1)).dropWhile Text.isBlank)))

def assignments (text : String) : List (String × String) :=
  (Text.splitAt '\n' text.toList).filterMap assignment?

/-- The value under a name, which a file gives only when there is none yet. -/
def lookup (name : String) (given : Option String) (file : Option String) : Option String :=
  given.orElse fun _ => file.bind fun text => (assignments text).lookup name

end IdentityConsole.Environment
