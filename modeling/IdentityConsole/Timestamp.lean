import IdentityConsole.Text.Blank

/-!
# Timestamps without a zone

A timestamp is written `2024-03-01T10:00:00`, with three, six or nine decimals of the second when
there is a fraction; a year outside `0` to `9999` carries its sign. Reading is more generous: blanks
may stand before every part and at the end, parts may have fewer digits, and decimals after the
ninth are dropped.
-/

namespace IdentityConsole

/-- `second` is 60 in a leap second. -/
structure Timestamp where
  year : Int
  month : Nat
  day : Nat
  hour : Nat
  minute : Nat
  second : Nat
  nanosecond : Nat
deriving DecidableEq, Repr

namespace Timestamp

inductive Fault
  | outOfRange
  | invalid
  | tooShort
  | tooLong
deriving DecidableEq, Repr

def Fault.message : Fault → String
  | .outOfRange => "input is out of range"
  | .invalid => "input contains invalid characters"
  | .tooShort => "premature end of input"
  | .tooLong => "trailing input"

def leastYear : Int := -262143

def greatestYear : Int := 262142

def isLeapYear (year : Int) : Bool :=
  year % 4 == 0 && (year % 100 != 0 || year % 400 == 0)

def daysInMonth (year : Int) (month : Nat) : Nat :=
  if month = 2 then if isLeapYear year then 29 else 28
  else if month = 4 ∨ month = 6 ∨ month = 9 ∨ month = 11 then 30
  else 31

def isDigit (c : Char) : Bool :=
  0x30 ≤ c.toNat && c.toNat ≤ 0x39

/-- The largest count a signed 64-bit integer holds. -/
def greatestNumber : Nat := 0x7FFFFFFFFFFFFFFF

/-- A number of at least one and at most `width` digits, with the count of its digits. -/
def number (width : Nat) (text : List Char) : Except Fault (Nat × Nat × List Char) :=
  if text = [] then .error .tooShort
  else
    let digits := (text.take width).takeWhile isDigit
    let value := digits.foldl (fun n c => 10 * n + (c.toNat - 0x30)) 0
    if digits = [] then .error .invalid
    else if greatestNumber < value then .error .outOfRange
    else .ok (value, digits.length, text.drop digits.length)

def skipBlanks (text : List Char) : List Char :=
  text.dropWhile Text.isBlank

/-- A number of one or two digits between two bounds. -/
def part (least greatest : Nat) (text : List Char) : Except Fault (Nat × List Char) := do
  let (value, _, rest) ← number 2 (skipBlanks text)
  if least ≤ value ∧ value ≤ greatest then return (value, rest) else throw .outOfRange

/-- A year of up to four digits, or of any number of digits after a sign. -/
def yearPart (text : List Char) : Except Fault (Int × List Char) := do
  let fits (year : Int) (rest : List Char) : Except Fault (Int × List Char) :=
    if -0x80000000 ≤ year ∧ year < 0x80000000 then .ok (year, rest) else .error .outOfRange
  match skipBlanks text with
  | '-' :: rest =>
    let (value, _, left) ← number rest.length rest
    fits (-(value : Int)) left
  | '+' :: rest =>
    let (value, _, left) ← number rest.length rest
    fits value left
  | rest =>
    let (value, _, left) ← number 4 rest
    fits value left

/-- Blanks, then the given mark. -/
def mark (c : Char) (text : List Char) : Except Fault (List Char) :=
  match skipBlanks text with
  | [] => .error .tooShort
  | d :: rest => if d = c then .ok rest else .error .invalid

/-- A fraction of the second in nanoseconds, when a point opens one. -/
def fractionPart : List Char → Except Fault (Nat × List Char)
  | '.' :: rest => do
    let (value, count, rest) ← number 9 rest
    return (value * Nat.pow 10 (9 - count), rest.dropWhile isDigit)
  | rest => .ok (0, rest)

def parse (text : String) : Except Fault Timestamp := do
  let (year, rest) ← yearPart text.toList
  let (month, rest) ← part 1 12 (← mark '-' rest)
  let (day, rest) ← part 1 31 (← mark '-' rest)
  let (hour, rest) ← part 0 23 (← mark 'T' rest)
  let (minute, rest) ← part 0 59 (← mark ':' rest)
  let (second, rest) ← part 0 60 (← mark ':' rest)
  let (nanosecond, rest) ← fractionPart rest
  if skipBlanks rest ≠ [] then throw .tooLong
  if leastYear ≤ year ∧ year ≤ greatestYear ∧ day ≤ daysInMonth year month then
    return ⟨year, month, day, hour, minute, second, nanosecond⟩
  else throw .outOfRange

def zeroPadded (width n : Nat) : List Char :=
  let digits := Nat.toDigits 10 n
  List.replicate (width - digits.length) '0' ++ digits

/-- Four digits; outside `0` to `9999` a sign comes first. -/
def yearChars (year : Int) : List Char :=
  if 0 ≤ year ∧ year ≤ 9999 then zeroPadded 4 year.natAbs
  else (if year < 0 then '-' else '+') :: zeroPadded 4 year.natAbs

def dateChars (t : Timestamp) : List Char :=
  yearChars t.year ++ '-' :: zeroPadded 2 t.month ++ '-' :: zeroPadded 2 t.day

def fractionChars (nanosecond : Nat) : List Char :=
  if nanosecond = 0 then []
  else if nanosecond % 1000000 = 0 then '.' :: zeroPadded 3 (nanosecond / 1000000)
  else if nanosecond % 1000 = 0 then '.' :: zeroPadded 6 (nanosecond / 1000)
  else '.' :: zeroPadded 9 nanosecond

def chars (t : Timestamp) : List Char :=
  dateChars t ++ 'T' :: zeroPadded 2 t.hour ++ ':' :: zeroPadded 2 t.minute ++
    ':' :: zeroPadded 2 t.second ++ fractionChars t.nanosecond

def text (t : Timestamp) : String :=
  String.ofList t.chars

/-- Date, hour and minute, as shown on the screen. -/
def toMinutes (t : Timestamp) : String :=
  String.ofList (dateChars t ++ ' ' :: zeroPadded 2 t.hour ++ ':' :: zeroPadded 2 t.minute)

end Timestamp

end IdentityConsole
