import IdentityConsole.Text.Hex
import IdentityConsole.Text.Unprintable

/-!
# Texts quoted in messages
-/

namespace IdentityConsole.Text

def quotedChar (c : Char) : List Char :=
  if c.toNat = 0 then ['\\', '0']
  else if c = '\t' then ['\\', 't']
  else if c = '\n' then ['\\', 'n']
  else if c = '\r' then ['\\', 'r']
  else if c = '"' then ['\\', '"']
  else if c = '\\' then ['\\', '\\']
  else if isUnprintable c then '\\' :: 'u' :: '{' :: (lowerHex c.toNat ++ ['}'])
  else [c]

/-- A text between quotes, in which what does not print by itself is escaped by its number. -/
def quoted (text : String) : String :=
  String.ofList ('"' :: (text.toList.flatMap quotedChar ++ ['"']))

end IdentityConsole.Text
