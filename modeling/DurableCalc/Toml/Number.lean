import DurableCalc.Text.Binary64
import DurableCalc.Toml.Lexeme

/-!
# Numbers and times of TOML

Integers are read with their value, which must fit into 64 bits. Floats and times are only checked:
a float must not be too large, and a time must be one that the calendar and the clock have.
-/

namespace DurableCalc.Toml

/-- An optional sign: whether it is a minus, and the rest. -/
def sign : List Char → Bool × List Char
  | '+' :: rest => (false, rest)
  | '-' :: rest => (true, rest)
  | cs => (false, cs)

/-- Decimal digits without superfluous leading zeros. -/
def plainDigits? (cs : List Char) : Option (List Char × List Char) :=
  match cs with
  | '0' :: rest => some (['0'], rest)
  | cs => digits? isDecimal cs

def integer? (cs : List Char) : Option (Int × List Char) :=
  let within (n : Int) (rest : List Char) : Option (Int × List Char) :=
    if Int64.minValue.toInt ≤ n ∧ n ≤ Int64.maxValue.toInt then some (n, rest) else none
  match cs with
  | '0' :: 'x' :: rest => do
    let (digits, rest) ← digits? isHexadecimal rest
    within (valueIn 16 digits) rest
  | '0' :: 'o' :: rest => do
    let (digits, rest) ← digits? isOctal rest
    within (valueIn 8 digits) rest
  | '0' :: 'b' :: rest => do
    let (digits, rest) ← digits? isBinary rest
    within (valueIn 2 digits) rest
  | cs => do
    let (negative, rest) := sign cs
    let (digits, rest) ← plainDigits? rest
    let magnitude : Int := valueIn 10 digits
    within (if negative then -magnitude else magnitude) rest

def isFinite (significand : Nat) (exponent : Int) : Bool :=
  let order : Int := (Nat.toDigits 10 significand).length + exponent
  significand == 0 || order < 308 ||
    (order < 311 &&
      if 0 ≤ exponent then significand * Nat.pow 10 exponent.toNat < Binary64.overflowBound
      else significand < Binary64.overflowBound * Nat.pow 10 exponent.natAbs)

def fractionDigits? : Reader (List Char)
  | '.' :: rest => digits? isDecimal rest
  | cs => some ([], cs)

def exponentValue? (cs : List Char) : Option (Int × List Char) :=
  match cs with
  | c :: rest =>
    if c = 'e' ∨ c = 'E' then do
      let (negative, rest) := sign rest
      let (digits, rest) ← digits? isDecimal rest
      let magnitude : Int := valueIn 10 digits
      return (if negative then -magnitude else magnitude, rest)
    else some (0, cs)
  | [] => some (0, cs)

def specialFloat? (cs : List Char) : Option (List Char) :=
  match (sign cs).2 with
  | 'i' :: 'n' :: 'f' :: rest => some rest
  | 'n' :: 'a' :: 'n' :: rest => some rest
  | _ => none

def decimalFloat? (cs : List Char) : Option (List Char) := do
  let (negative, afterSign) := sign cs
  let (whole, afterWhole) ← plainDigits? afterSign
  let (fraction, afterFraction) ← fractionDigits? afterWhole
  let (exponent, rest) ← exponentValue? afterFraction
  guard (rest.length < afterWhole.length)
  guard (negative || isFinite (valueIn 10 (whole ++ fraction)) (exponent - fraction.length))
  return rest

def float? (cs : List Char) : Option (List Char) :=
  (decimalFloat? cs).or (specialFloat? cs)

def isLeapYear (year : Nat) : Bool :=
  year % 4 == 0 && (year % 100 != 0 || year % 400 == 0)

def daysIn (year month : Nat) : Nat :=
  if month = 2 then (if isLeapYear year then 29 else 28)
  else if month ∈ [4, 6, 9, 11] then 30
  else 31

def char? (expected : Char) : List Char → Option (List Char)
  | c :: rest => if c = expected then some rest else none
  | [] => none

def date? (cs : List Char) : Option (List Char) := do
  let (year, rest) ← fixed? 4 cs
  let (month, rest) ← fixed? 2 (← char? '-' rest)
  let (day, rest) ← fixed? 2 (← char? '-' rest)
  guard (1 ≤ month && month ≤ 12 && 1 ≤ day && day ≤ daysIn year month)
  return rest

def minutes? (cs : List Char) : Option (List Char) := do
  let (hour, rest) ← fixed? 2 cs
  let (minute, rest) ← fixed? 2 (← char? ':' rest)
  guard (hour ≤ 23 && minute ≤ 59)
  return rest

/-- The rest after a time of day; a leap second is one. -/
def time? (cs : List Char) : Option (List Char) := do
  let (second, rest) ← fixed? 2 (← char? ':' (← minutes? cs))
  guard (second ≤ 60)
  match rest with
  | '.' :: rest =>
    let fraction := rest.takeWhile isDecimal
    guard (!fraction.isEmpty)
    return rest.dropWhile isDecimal
  | rest => return rest

def offset? : List Char → Option (List Char)
  | 'Z' :: rest => some rest
  | 'z' :: rest => some rest
  | '+' :: rest => minutes? rest
  | '-' :: rest => minutes? rest
  | cs => some cs

def dateTime? (cs : List Char) : Option (List Char) :=
  match date? cs with
  | none => time? cs
  | some rest =>
    match rest with
    | c :: afterMark =>
      if c = 'T' ∨ c = 't' ∨ c = ' ' then
        match time? afterMark with
        | some rest => offset? rest
        | none => some rest
      else some rest
    | [] => some rest

end DurableCalc.Toml
