import IdentityConsole.Json.Basic
import IdentityConsole.Text.Hex

/-!
# Writing JSON

The compact form has no blanks. The laid-out form puts every item and member on a line of its own,
two blanks deeper than what holds it; empty arrays and objects stay closed up.
-/

namespace IdentityConsole.Json

/-- Quotes, backslashes and control characters below U+0020 are escaped, by a letter where there is
one; everything else stands for itself. -/
def escape (c : Char) : List Char :=
  if c = '"' then ['\\', '"']
  else if c = '\\' then ['\\', '\\']
  else if c.toNat = 0x08 then ['\\', 'b']
  else if c.toNat = 0x0C then ['\\', 'f']
  else if c = '\n' then ['\\', 'n']
  else if c = '\r' then ['\\', 'r']
  else if c = '\t' then ['\\', 't']
  else if c.toNat < 0x20 then
    ['\\', 'u', '0', '0', Text.lowerHexDigit (c.toNat / 16), Text.lowerHexDigit (c.toNat % 16)]
  else [c]

def stringChars (text : String) : List Char :=
  '"' :: (text.toList.flatMap escape ++ ['"'])

def boolChars : Bool → List Char
  | true => ['t', 'r', 'u', 'e']
  | false => ['f', 'a', 'l', 's', 'e']

def chars : Json → List Char
  | .null => ['n', 'u', 'l', 'l']
  | .bool value => boolChars value
  | .number value => value.chars
  | .string value => stringChars value
  | .array items => '[' :: (itemChars items ++ [']'])
  | .object members => '{' :: (memberChars members ++ ['}'])
where
  itemChars : List Json → List Char
    | [] => []
    | [item] => chars item
    | item :: rest => chars item ++ ',' :: itemChars rest
  memberChars : List (String × Json) → List Char
    | [] => []
    | [(key, value)] => stringChars key ++ ':' :: chars value
    | (key, value) :: rest => stringChars key ++ ':' :: (chars value ++ ',' :: memberChars rest)

def text (value : Json) : String :=
  String.ofList value.chars

def newline (depth : Nat) : List Char :=
  '\n' :: List.replicate (2 * depth) ' '

def laidOutChars (depth : Nat) : Json → List Char
  | .array [] => ['[', ']']
  | .array items =>
    '[' :: (newline (depth + 1) ++ itemChars (depth + 1) items ++ newline depth ++ [']'])
  | .object [] => ['{', '}']
  | .object members =>
    '{' :: (newline (depth + 1) ++ memberChars (depth + 1) members ++ newline depth ++ ['}'])
  | .null => ['n', 'u', 'l', 'l']
  | .bool value => boolChars value
  | .number value => value.chars
  | .string value => stringChars value
where
  itemChars (depth : Nat) : List Json → List Char
    | [] => []
    | [item] => laidOutChars depth item
    | item :: rest => laidOutChars depth item ++ ',' :: (newline depth ++ itemChars depth rest)
  memberChars (depth : Nat) : List (String × Json) → List Char
    | [] => []
    | [(key, value)] => stringChars key ++ ':' :: ' ' :: laidOutChars depth value
    | (key, value) :: rest =>
      stringChars key ++ ':' :: ' ' ::
        (laidOutChars depth value ++ ',' :: (newline depth ++ memberChars depth rest))

def laidOut (value : Json) : String :=
  String.ofList (value.laidOutChars 0)

end IdentityConsole.Json
