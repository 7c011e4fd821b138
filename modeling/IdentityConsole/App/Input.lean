import IdentityConsole.Text.Blank

/-!
# What may be typed

Texts that are typed take no control characters and have a greatest length, counted in characters.
-/

namespace IdentityConsole.Input

def maxUsernameLength : Nat := 50

def maxPasswordLength : Nat := 128

def maxFieldLength : Nat := 256

def maxPathLength : Nat := 128

/-- Whether a character may follow a text of the given length. -/
def accepts (maxLength length : Nat) (c : Char) : Bool :=
  length < maxLength && !Text.isControl c

def acceptsUsername : Nat → Char → Bool := accepts maxUsernameLength

def acceptsPassword : Nat → Char → Bool := accepts maxPasswordLength

def acceptsField : Nat → Char → Bool := accepts maxFieldLength

/-- No blank can be part of a path. -/
def acceptsPath (length : Nat) (c : Char) : Bool :=
  accepts maxPathLength length c && !Text.isBlank c

/-- Appends a character where it is accepted. -/
def type (accepted : Nat → Char → Bool) (c : Char) (text : String) : String :=
  if accepted text.length c then text.push c else text

/-- Takes the last character away. -/
def erase (text : String) : String :=
  String.ofList text.toList.dropLast

end IdentityConsole.Input
