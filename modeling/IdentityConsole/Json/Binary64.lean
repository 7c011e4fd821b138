/-!
# Binary floating point with 53 bits

A finite number is `± significand · 2 ^ exponent`. Arithmetic is exact on naturals, followed by one
rounding to the nearest number that can be held; ties go to the even significand. The decimal digits
of a number are the fewest that round back to it, and of those the nearest.
-/

namespace IdentityConsole.Json

structure Binary64 where
  negative : Bool
  significand : Nat
  exponent : Int
deriving DecidableEq, Repr

namespace Binary64

def leastExponent : Int := -1074

def greatestExponent : Int := 971

/-- `2 ^ 52`, the least significand of a number that is not subnormal. -/
def leastNormal : Nat := 0x10000000000000

def zero : Binary64 := ⟨false, 0, leastExponent⟩

def isZero (x : Binary64) : Bool := x.significand == 0

def negate (x : Binary64) : Binary64 := { x with negative := !x.negative }

/-- The quotient rounded to the nearest natural, a tie to the even one. -/
def roundDiv (numerator denominator : Nat) : Nat :=
  let quotient := numerator / denominator
  let twice := 2 * (numerator % denominator)
  if twice < denominator then quotient
  else if denominator < twice then quotient + 1
  else quotient + quotient % 2

/-- `numerator / denominator · 2 ^ -exponent` as a fraction of naturals. -/
def shifted (numerator denominator : Nat) (exponent : Int) : Nat × Nat :=
  if 0 ≤ exponent then (numerator, denominator <<< exponent.toNat)
  else (numerator <<< (-exponent).toNat, denominator)

/-- The exponent at which the fraction's integer part has 53 bits, but not below the least one. -/
def fittingExponent (numerator denominator : Nat) : Int :=
  let guess : Int := (numerator.log2 : Int) - (denominator.log2 : Int) - 53
  let scaled := shifted numerator denominator guess
  let exponent := if scaled.1 / scaled.2 < 2 * leastNormal then guess else guess + 1
  if exponent < leastExponent then leastExponent else exponent

/-- The nearest number to a fraction, or nothing when that is beyond all finite numbers. -/
def ofFraction? (numerator denominator : Nat) : Option Binary64 :=
  if numerator = 0 then some zero
  else
    let exponent := fittingExponent numerator denominator
    let scaled := shifted numerator denominator exponent
    let significand := roundDiv scaled.1 scaled.2
    let (significand, exponent) :=
      if significand = 2 * leastNormal then (leastNormal, exponent + 1) else (significand, exponent)
    if greatestExponent < exponent then none else some ⟨false, significand, exponent⟩

/-- The magnitude as a fraction of naturals. -/
def fraction (x : Binary64) : Nat × Nat :=
  shifted x.significand 1 (-x.exponent)

/-- The product of the magnitudes. -/
def mul? (x y : Binary64) : Option Binary64 :=
  let (a, b) := x.fraction
  let (c, d) := y.fraction
  ofFraction? (a * c) (b * d)

/-- The quotient of the magnitudes. -/
def div? (x y : Binary64) : Option Binary64 :=
  let (a, b) := x.fraction
  let (c, d) := y.fraction
  ofFraction? (a * d) (b * c)

def powerOfTen (n : Nat) : Binary64 :=
  (ofFraction? (Nat.pow 10 n) 1).getD zero

/-- The magnitude times a power of ten. Powers up to 308 take one rounding; a smaller number is
divided by `10 ^ 308` first. -/
def scale? (x : Binary64) (power : Int) : Option Binary64 :=
  go (power.natAbs / 308 + 1) x power
where
  go : Nat → Binary64 → Int → Option Binary64
    | 0, x, _ => some x
    | fuel + 1, x, power =>
      if power.natAbs ≤ 308 then
        if 0 ≤ power then x.mul? (powerOfTen power.natAbs) else x.div? (powerOfTen power.natAbs)
      else if x.isZero then some x
      else if 0 ≤ power then none
      else
        match x.div? (powerOfTen 308) with
        | none => none
        | some y => go fuel y (power + 308)

/-- Decimal digits `d₁d₂…` for the number `0.d₁d₂… · 10 ^ point`. -/
structure Decimal where
  digits : List Nat
  point : Int
deriving DecidableEq, Repr

def digitsOf (n : Nat) : List Nat :=
  (Nat.toDigits 10 n).map fun c => c.toNat - 0x30

/-- The ends of the interval of fractions that round to the number, over a common denominator, with
the number itself in the middle. -/
structure Interval where
  low : Nat
  value : Nat
  high : Nat
  denominator : Nat
  closed : Bool

def interval (x : Binary64) : Interval :=
  let (numerator, denominator) := shifted (4 * x.significand) 4 (-x.exponent)
  let unit := (shifted 1 1 (-x.exponent)).1
  let below := if x.significand = leastNormal ∧ leastExponent < x.exponent then unit else 2 * unit
  ⟨numerator - below, numerator, numerator + 2 * unit, denominator, x.significand % 2 == 0⟩

/-- Whether `candidate · 10 ^ power` rounds to the number. -/
def Interval.contains (bounds : Interval) (candidate : Nat) (power : Int) : Bool :=
  let scaled := if 0 ≤ power then candidate * Nat.pow 10 power.toNat * bounds.denominator
    else candidate * bounds.denominator
  let factor := if 0 ≤ power then 1 else Nat.pow 10 (-power).toNat
  if bounds.closed then bounds.low * factor ≤ scaled && scaled ≤ bounds.high * factor
  else bounds.low * factor < scaled && scaled < bounds.high * factor

/-- The nearest point to the number on the grid of multiples of `10 ^ power` that rounds to it. -/
def Interval.nearest? (bounds : Interval) (power : Int) : Option Nat :=
  let numerator := if 0 ≤ power then bounds.value else bounds.value * Nat.pow 10 (-power).toNat
  let denominator :=
    if 0 ≤ power then bounds.denominator * Nat.pow 10 power.toNat else bounds.denominator
  let low := numerator / denominator
  let nearest := roundDiv numerator denominator
  let other := if nearest = low then low + 1 else low
  if bounds.contains nearest power then some nearest
  else if bounds.contains other power then some other
  else none

/-- The power of ten `p` with `10 ^ (p - 1) ≤ value < 10 ^ p`. -/
def Interval.magnitude (bounds : Interval) : Int :=
  if bounds.denominator ≤ bounds.value then
    ((digitsOf (bounds.value / bounds.denominator)).length : Int)
  else
    let leading := (bounds.denominator / bounds.value : Nat)
    let guess : Int := 1 - ((digitsOf leading).length : Int)
    if bounds.denominator ≤ bounds.value * Nat.pow 10 (-guess).toNat then guess + 1 else guess

def shortestFrom (bounds : Interval) (magnitude : Int) : Nat → Nat → Decimal
  | 0, _ => ⟨[], 0⟩
  | fuel + 1, count =>
    match bounds.nearest? (magnitude - count) with
    | some found =>
      let digits := digitsOf found
      ⟨(digits.reverse.dropWhile (· == 0)).reverse, magnitude - count + digits.length⟩
    | none => shortestFrom bounds magnitude fuel (count + 1)

/-- The fewest digits that round back to the magnitude. -/
def shortest (x : Binary64) : Decimal :=
  if x.isZero then ⟨[0], 1⟩
  else shortestFrom x.interval x.interval.magnitude 17 1

end Binary64

end IdentityConsole.Json
