import IdentityConsole.App.Key

/-!
# What is typed at a terminal

A key arrives as one character or as a sequence that begins with an escape character. Characters
that are typed with Control arrive as control characters.
-/

namespace IdentityConsole

inductive Typed
  | key (key : Key)
  | interrupt
deriving DecidableEq, Repr

namespace Typed

def escapeChar : Char := Char.ofNat 0x1B

/-- The key of a sequence by its parameters and its last character. -/
def ofSequence? (parameters : List Char) (last : Char) : Option Key :=
  match last with
  | 'A' => some .up
  | 'B' => some .down
  | 'C' => some .right
  | 'D' => some .left
  | 'H' => some .home
  | 'F' => some .end
  | 'Z' => some .backTab
  | '~' =>
    match String.ofList (parameters.takeWhile (· != ';')) with
    | "1" | "7" => some .home
    | "2" => some .insert
    | "3" => some .delete
    | "4" | "8" => some .end
    | "5" => some .pageUp
    | "6" => some .pageDown
    | _ => none
  | _ => none

def ofFunction? : Char → Option Key
  | 'A' => some .up
  | 'B' => some .down
  | 'C' => some .right
  | 'D' => some .left
  | 'H' => some .home
  | 'F' => some .end
  | 'P' => some (.function 1)
  | 'Q' => some (.function 2)
  | 'R' => some (.function 3)
  | 'S' => some (.function 4)
  | _ => none

/-- A character by itself. -/
def ofChar (c : Char) : Typed :=
  let n := c.toNat
  if n = 0x03 then .interrupt
  else if n = 0x0D then .key .enter
  else if n = 0x09 then .key .tab
  else if n = 0x7F then .key .backspace
  else if n = 0x00 then .key (.char ' ')
  else if n ≤ 0x1A then .key (.char (Char.ofNat (n - 1 + 0x61)))
  else if n = 0x1B then .key .escape
  else if n ≤ 0x1F then .key (.char (Char.ofNat (n - 0x1C + 0x34)))
  else .key (.char c)

/-- The part of a sequence before its last character. -/
def isParameter (c : Char) : Bool :=
  c.toNat < 0x40

def sequence (read : Option Key) : List Typed :=
  read.toList.map .key

/-- Reads what was typed; each step takes at least one character and uses one unit of fuel. -/
def read : Nat → List Char → List Typed
  | 0, _ => []
  | _ + 1, [] => []
  | fuel + 1, c :: rest =>
    if c = escapeChar then
      match rest with
      | [] => [.key .escape]
      | '[' :: rest =>
        let parameters := rest.takeWhile isParameter
        match rest.drop parameters.length with
        | [] => []
        | last :: rest => sequence (ofSequence? parameters last) ++ read fuel rest
      | 'O' :: last :: rest => sequence (ofFunction? last) ++ read fuel rest
      | d :: rest => ofChar d :: read fuel rest
    else ofChar c :: read fuel rest

def ofText (text : String) : List Typed :=
  read text.toList.length text.toList

end Typed

end IdentityConsole
