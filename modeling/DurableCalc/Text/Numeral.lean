/-!
# Decimal numerals of 64-bit integers

`readInt64` reads an optional sign followed by ASCII digits from left to right and stops at the
first fault: a character that is no digit, or a digit that takes the value out of the signed
64-bit range. `decimal` writes the shortest numeral of an integer.
-/

namespace DurableCalc.Text

inductive NumeralError
  | empty
  | invalidDigit
  | tooLarge
  | tooSmall
  deriving DecidableEq, Repr

def NumeralError.message : NumeralError → String
  | .empty => "cannot parse integer from empty string"
  | .invalidDigit => "invalid digit found in string"
  | .tooLarge => "number too large to fit in target type"
  | .tooSmall => "number too small to fit in target type"

def digit? (c : Char) : Option Nat :=
  if c.isDigit then some (c.toNat - '0'.toNat) else none

/-- Appends digits to a value, going up from it for a positive numeral and down for a negative
one. -/
def readDigits (negative : Bool) (value : Int) : List Char → Except NumeralError Int
  | [] => .ok value
  | c :: cs =>
    match digit? c with
    | none => .error .invalidDigit
    | some d =>
      let value := if negative then 10 * value - d else 10 * value + d
      if value < Int64.minValue.toInt then .error .tooSmall
      else if Int64.maxValue.toInt < value then .error .tooLarge
      else readDigits negative value cs

def readNumeral : List Char → Except NumeralError Int
  | [] => .error .empty
  | ['+'] => .error .invalidDigit
  | ['-'] => .error .invalidDigit
  | '+' :: cs => readDigits false 0 cs
  | '-' :: cs => readDigits true 0 cs
  | cs => readDigits false 0 cs

def readInt64 (text : String) : Except NumeralError Int64 :=
  (readNumeral text.toList).map Int64.ofInt

def decimalDigits (n : Nat) : List Char :=
  Nat.toDigits 10 n

def decimal (n : Int) : String :=
  if n < 0 then String.ofList ('-' :: decimalDigits n.natAbs)
  else String.ofList (decimalDigits n.natAbs)

end DurableCalc.Text
