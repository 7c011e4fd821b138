import IdentityConsole.Json.Binary64

/-!
# Numbers of JSON texts

Integers that fit 64 bits, signed or unsigned, are kept as integers; every other number is held in
binary floating point. The value of a literal is its leading digits as one natural below `2 ^ 64`,
scaled by a power of ten.
-/

namespace IdentityConsole.Json

inductive Number
  | int (value : Int)
  | float (value : Binary64)
deriving DecidableEq, Repr

/-- The parts of a number as it is written; `fraction` and `exponent` are absent when the mark that
opens them is. -/
structure Literal where
  negative : Bool
  integer : List (Fin 10)
  fraction : Option (List (Fin 10))
  exponent : Option Int
deriving DecidableEq, Repr

/-- Appends digits as long as the result stays below `2 ^ 64`; the others are returned. -/
def absorb (significand : Nat) : List (Fin 10) → Nat × List (Fin 10)
  | [] => (significand, [])
  | digit :: rest =>
    if significand * 10 + digit < 0x10000000000000000 then absorb (significand * 10 + digit) rest
    else (significand, digit :: rest)

namespace Literal

def signed (literal : Literal) (x : Binary64) : Binary64 :=
  if literal.negative then x.negate else x

def integer? (literal : Literal) : Option Int :=
  match literal.fraction, literal.exponent, absorb 0 literal.integer with
  | none, none, (significand, []) =>
    if literal.negative then
      if significand = 0 ∨ 0x8000000000000000 < significand then none
      else some (-(significand : Int))
    else some significand
  | _, _, _ => none

def float? (literal : Literal) : Option Binary64 :=
  let (significand, dropped) := absorb 0 literal.integer
  let fraction := literal.fraction.getD []
  let (significand, left) := absorb significand fraction
  let power := (dropped.length : Int) - ((fraction.length - left.length : Nat) : Int) +
    literal.exponent.getD 0
  ((Binary64.ofFraction? significand 1).bind (·.scale? power)).map literal.signed

/-- Nothing when the number is beyond all finite floating point numbers. -/
def value? (literal : Literal) : Option Number :=
  match literal.integer? with
  | some n => some (.int n)
  | none => literal.float?.map .float

end Literal

namespace Number

/-- How floating point numbers are written: with a point for these powers of ten of the first
digit, with an exponent for all others. -/
def leastPositional : Int := -5

def greatestPositional : Int := 15

def digitChar (digit : Nat) : Char :=
  Char.ofNat (0x30 + digit)

def natChars (n : Nat) : List Char :=
  Nat.toDigits 10 n

def intChars : Int → List Char
  | .ofNat n => natChars n
  | .negSucc n => '-' :: natChars (n + 1)

def positionalChars (digits : List Nat) (point : Int) : List Char :=
  let written := digits.map digitChar
  if point ≤ 0 then '0' :: '.' :: (List.replicate (-point).toNat '0' ++ written)
  else
    let point := point.toNat
    if written.length ≤ point then
      written ++ List.replicate (point - written.length) '0' ++ ['.', '0']
    else written.take point ++ '.' :: written.drop point

def scientificChars (digits : List Nat) (point : Int) : List Char :=
  let power := point - 1
  let mantissa :=
    match digits.map digitChar with
    | first :: second :: rest => first :: '.' :: second :: rest
    | written => written
  mantissa ++ 'e' :: (if power < 0 then '-' else '+') :: natChars power.natAbs

def floatChars (x : Binary64) : List Char :=
  let decimal := x.shortest
  let magnitude :=
    if leastPositional ≤ decimal.point - 1 ∧ decimal.point - 1 ≤ greatestPositional then
      positionalChars decimal.digits decimal.point
    else scientificChars decimal.digits decimal.point
  if x.negative then '-' :: magnitude else magnitude

def chars : Number → List Char
  | .int n => intChars n
  | .float x => floatChars x

def text (n : Number) : String :=
  String.ofList n.chars

end Number

end IdentityConsole.Json
