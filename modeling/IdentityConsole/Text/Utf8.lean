/-!
# UTF-8

Octets are read in steps. A step yields the character that starts there, or nothing together with
the longest run of octets that begins like a character and cannot be completed.
-/

namespace IdentityConsole.Text.Utf8

def encode (text : String) : List UInt8 :=
  text.toList.flatMap String.utf8EncodeChar

/-- What a first octet promises: its own bits, the range of the octet after it, and how many
octets follow in all. -/
structure Lead where
  bits : Nat
  low : UInt8
  high : UInt8
  following : Nat

def lead? (octet : UInt8) : Option Lead :=
  let n := octet.toNat
  if n < 0xC2 then none
  else if n < 0xE0 then some ⟨n - 0xC0, 0x80, 0xBF, 1⟩
  else if n = 0xE0 then some ⟨0, 0xA0, 0xBF, 2⟩
  else if n = 0xED then some ⟨0xD, 0x80, 0x9F, 2⟩
  else if n < 0xF0 then some ⟨n - 0xE0, 0x80, 0xBF, 2⟩
  else if n = 0xF0 then some ⟨0, 0x90, 0xBF, 3⟩
  else if n < 0xF4 then some ⟨n - 0xF0, 0x80, 0xBF, 3⟩
  else if n = 0xF4 then some ⟨4, 0x80, 0x8F, 3⟩
  else none

/-- Reads the octets that follow a lead. The first octet that does not fit is left unread. -/
def follow (code : Nat) : Nat → UInt8 → UInt8 → List UInt8 → Option Char × List UInt8
  | 0, _, _, rest => (some (Char.ofNat code), rest)
  | _ + 1, _, _, [] => (none, [])
  | n + 1, low, high, octet :: rest =>
    if low ≤ octet ∧ octet ≤ high then
      follow (code * 64 + (octet.toNat - 0x80)) n 0x80 0xBF rest
    else (none, octet :: rest)

def next (octet : UInt8) (rest : List UInt8) : Option Char × List UInt8 :=
  if octet < 0x80 then (some (Char.ofNat octet.toNat), rest)
  else
    match lead? octet with
    | none => (none, rest)
    | some lead => follow lead.bits lead.following lead.low lead.high rest

theorem length_follow_le (code n : Nat) (low high : UInt8) (octets : List UInt8) :
    (follow code n low high octets).2.length ≤ octets.length := by
  induction n generalizing code low high octets with
  | zero => simp [follow]
  | succ n ih =>
    cases octets with
    | nil => simp [follow]
    | cons octet rest =>
      simp only [follow]
      split
      · exact Nat.le_succ_of_le (ih ..)
      · exact Nat.le_refl _

theorem length_next_le (octet : UInt8) (rest : List UInt8) :
    (next octet rest).2.length ≤ rest.length := by
  simp only [next]
  split
  · exact Nat.le_refl _
  · split
    · exact Nat.le_refl _
    · exact length_follow_le ..

/-- Reads on from `octets`; `read` holds what came before, the latest first. -/
def steps (read : List (Option Char)) : Nat → List UInt8 → List (Option Char)
  | 0, _ => read.reverse
  | _ + 1, [] => read.reverse
  | fuel + 1, octet :: rest =>
    let (character, rest) := next octet rest
    steps (character :: read) fuel rest

/-- The characters of an octet string in order, `none` for each run that is no character. -/
def characters (octets : List UInt8) : List (Option Char) :=
  steps [] octets.length octets

/-- Refuses octets that are not well-formed. -/
def decode? (octets : List UInt8) : Option String :=
  let read := characters octets
  if read.all (·.isSome) then some (String.ofList (read.filterMap id)) else none

/-- Writes U+FFFD for each run that is no character. -/
def decodeLossy (octets : List UInt8) : String :=
  String.ofList ((characters octets).map (·.getD '\uFFFD'))

end IdentityConsole.Text.Utf8
