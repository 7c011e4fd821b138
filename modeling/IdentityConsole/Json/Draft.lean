import IdentityConsole.Json.Number
import IdentityConsole.Text.Hex

/-!
# What a text shows of a JSON value

A draft is read from the front and ends where the text stops being JSON. Members keep their order
and their repetitions, and nothing is checked that depends on how the value will be used: the size
of numbers, the pairing of escaped surrogates and the depth of nesting.
-/

namespace IdentityConsole.Json

/-- What stands where a member's key belongs: a text, a text with an unpaired surrogate, or no text
at all. -/
inductive Draft.Key
  | name (text : String)
  | unpaired
  | absent
deriving DecidableEq, Repr

/-- A string with an unpaired surrogate has no text. An array or object that is not closed ends
where the text went wrong. Where a key is absent, the draft in its place is what was found. -/
inductive Draft
  | null
  | bool (value : Bool)
  | number (literal : Literal)
  | string (text : Option String)
  | array (items : List Draft) (closed : Bool)
  | object (members : List (Draft.Key × Draft)) (closed : Bool)
  | broken
deriving Repr, Inhabited

namespace Draft

def isSpace (c : Char) : Bool :=
  c == ' ' || c == '\n' || c == '\t' || c == '\r'

def skipSpace (text : List Char) : List Char :=
  text.dropWhile isSpace

def digit? (c : Char) : Option (Fin 10) :=
  if h : 0x30 ≤ c.toNat ∧ c.toNat ≤ 0x39 then some ⟨c.toNat - 0x30, by omega⟩ else none

/-- The digits at the front; `read` holds those that came before, the latest first. -/
def digits (read : List (Fin 10)) : List Char → List (Fin 10) × List Char
  | [] => (read.reverse, [])
  | c :: rest =>
    match digit? c with
    | some d => digits (d :: read) rest
    | none => (read.reverse, c :: rest)

def integerPart? (text : List Char) : Option (List (Fin 10) × List Char) :=
  match digits [] text with
  | ([], _) => none
  | (0 :: _ :: _, _) => none
  | (digits, rest) => some (digits, rest)

def fractionPart? : List Char → Option (Option (List (Fin 10)) × List Char)
  | '.' :: rest =>
    match digits [] rest with
    | ([], _) => none
    | (digits, rest) => some (some digits, rest)
  | rest => some (none, rest)

def exponentDigits? (negative : Bool) (text : List Char) : Option (Option Int × List Char) :=
  match digits [] text with
  | ([], _) => none
  | (digits, rest) =>
    let size : Nat := digits.foldl (fun n d => 10 * n + d.val) 0
    some (some (if negative then -(size : Int) else size), rest)

def exponentPart? : List Char → Option (Option Int × List Char)
  | c :: rest =>
    if c = 'e' ∨ c = 'E' then
      match rest with
      | '+' :: rest => exponentDigits? false rest
      | '-' :: rest => exponentDigits? true rest
      | rest => exponentDigits? false rest
    else some (none, c :: rest)
  | [] => some (none, [])

def literal? (negative : Bool) (text : List Char) : Option (Literal × List Char) := do
  let (integer, rest) ← integerPart? text
  let (fraction, rest) ← fractionPart? rest
  let (exponent, rest) ← exponentPart? rest
  return (⟨negative, integer, fraction, exponent⟩, rest)

def escaped? : Char → Option Nat
  | '"' => some 0x22
  | '\\' => some 0x5C
  | '/' => some 0x2F
  | 'b' => some 0x08
  | 'f' => some 0x0C
  | 'n' => some 0x0A
  | 'r' => some 0x0D
  | 't' => some 0x09
  | _ => none

/-- The code units of a string up to its closing quote; `read` holds those that came before, the
latest first. An unescaped character counts as one unit. -/
def units? (read : List Nat) : List Char → Option (List Nat × List Char)
  | [] => none
  | '"' :: rest => some (read.reverse, rest)
  | '\\' :: 'u' :: a :: b :: c :: d :: rest =>
    match Text.hexValue? a, Text.hexValue? b, Text.hexValue? c, Text.hexValue? d with
    | some a, some b, some c, some d => units? ((((a * 16 + b) * 16 + c) * 16 + d) :: read) rest
    | _, _, _, _ => none
  | '\\' :: c :: rest =>
    match escaped? c with
    | some n => units? (n :: read) rest
    | none => none
  | c :: rest => if c.toNat < 0x20 ∨ c = '\\' then none else units? (c.toNat :: read) rest

/-- Joins surrogates in pairs; one that stands alone makes no text. -/
def paired? (read : List Char) : List Nat → Option (List Char)
  | [] => some read.reverse
  | high :: low :: rest =>
    if 0xD800 ≤ high ∧ high < 0xDC00 then
      if 0xDC00 ≤ low ∧ low < 0xE000 then
        paired? (Char.ofNat (0x10000 + (high - 0xD800) * 0x400 + (low - 0xDC00)) :: read) rest
      else none
    else if 0xDC00 ≤ high ∧ high < 0xE000 then none
    else paired? (Char.ofNat high :: read) (low :: rest)
  | [unit] => if 0xD800 ≤ unit ∧ unit < 0xE000 then none else some (Char.ofNat unit :: read).reverse

/-- The text of a string whose opening quote has been read. -/
def string? (text : List Char) : Option (Option String × List Char) :=
  (units? [] text).map fun (units, rest) => ((paired? [] units).map String.ofList, rest)

def ofLiteral : Option (Literal × List Char) → Draft × List Char
  | some (literal, rest) => (.number literal, rest)
  | none => (.broken, [])

/-- Reads one value. Each call and each item uses one unit of fuel, and each takes at least one
character. -/
def readValue : Nat → List Char → Draft × List Char
  | 0, _ => (.broken, [])
  | fuel + 1, text =>
    match skipSpace text with
    | 'n' :: 'u' :: 'l' :: 'l' :: rest => (.null, rest)
    | 't' :: 'r' :: 'u' :: 'e' :: rest => (.bool true, rest)
    | 'f' :: 'a' :: 'l' :: 's' :: 'e' :: rest => (.bool false, rest)
    | '"' :: rest =>
      match string? rest with
      | some (text, rest) => (.string text, rest)
      | none => (.broken, [])
    | '[' :: rest =>
      match skipSpace rest with
      | ']' :: rest => (.array [] true, rest)
      | rest =>
        let (items, closed, rest) := readItems fuel rest
        (.array items closed, rest)
    | '{' :: rest =>
      match skipSpace rest with
      | '}' :: rest => (.object [] true, rest)
      | rest =>
        let (members, closed, rest) := readMembers fuel rest
        (.object members closed, rest)
    | '-' :: rest => ofLiteral (literal? true rest)
    | rest => ofLiteral (literal? false rest)
where
  readItems : Nat → List Char → List Draft × Bool × List Char
    | 0, _ => ([], false, [])
    | fuel + 1, text =>
      let (item, rest) := readValue fuel text
      match skipSpace rest with
      | ',' :: rest =>
        let (items, closed, rest) := readItems fuel rest
        (item :: items, closed, rest)
      | ']' :: rest => ([item], true, rest)
      | _ => ([item], false, [])
  readMembers : Nat → List Char → List (Key × Draft) × Bool × List Char
    | 0, _ => ([], false, [])
    | fuel + 1, text =>
      match skipSpace text with
      | '"' :: rest =>
        match string? rest with
        | none => ([], false, [])
        | some (name, rest) =>
          let key := match name with
            | some name => Key.name name
            | none => Key.unpaired
          match skipSpace rest with
          | ':' :: rest =>
            let (value, rest) := readValue fuel rest
            match skipSpace rest with
            | ',' :: rest =>
              let (members, closed, rest) := readMembers fuel rest
              ((key, value) :: members, closed, rest)
            | '}' :: rest => ([(key, value)], true, rest)
            | _ => ([(key, value)], false, [])
          | _ => ([(key, .broken)], false, [])
      | text => ([(.absent, (readValue fuel text).1)], false, [])

/-- The draft at the front of a text, and whether only blanks follow it. -/
def ofText (text : String) : Draft × Bool :=
  let (draft, rest) := readValue (text.toList.length + 1) text.toList
  (draft, (skipSpace rest).isEmpty)

end Draft

end IdentityConsole.Json
