import DurableCalc.Json.Scan
import DurableCalc.Text.Binary64
import DurableCalc.Text.Numeral

/-!
# JSON numbers

An integer is a number without fraction and exponent; a minus before a zero makes it a number of
another kind. `isFinite` says whether a number, read with a significand of 64 bits and one rounding
for the power of ten, stays below the largest double.
-/

namespace DurableCalc.Json

def writeInt (n : Int) : Bytes :=
  Text.encode (Text.decimal n)

def digitsValue (digits : Bytes) : Nat :=
  digits.foldl (fun value b => 10 * value + (b.toNat - 0x30)) 0

def readInt? (number : Bytes) : Option Int :=
  match number with
  | [] => none
  | 0x2d :: digits =>
    if digits.all isDigit && !digits.isEmpty && digits != [0x30] then some (-(digitsValue digits))
    else none
  | digits => if digits.all isDigit then some (digitsValue digits) else none

def readIntIn? (low high : Int) (number : Bytes) : Option Int :=
  match readInt? number with
  | some n => if low ≤ n && n ≤ high then some n else none
  | none => none

/-- A decimal significand of 64 bits with a power of ten. -/
structure Scaled where
  significand : Nat
  exponent : Int
  deriving DecidableEq, Repr

/-- Appends whole digits; from the first digit that does not fit on, each counts as a power of
ten. -/
def Scaled.appendWhole (s : Scaled) : Bytes → Scaled
  | [] => s
  | b :: rest =>
    let next := 10 * s.significand + (b.toNat - 0x30)
    if next < UInt64.size then Scaled.appendWhole ⟨next, s.exponent⟩ rest
    else ⟨s.significand, s.exponent + rest.length + 1⟩

/-- Appends digits after the point; the first that does not fit is dropped with all after it. -/
def Scaled.appendFraction (s : Scaled) : Bytes → Scaled
  | [] => s
  | b :: rest =>
    let next := 10 * s.significand + (b.toNat - 0x30)
    if next < UInt64.size then Scaled.appendFraction ⟨next, s.exponent - 1⟩ rest else s

def Scaled.isFinite (s : Scaled) : Bool :=
  s.significand == 0 || s.exponent < 0 ||
    (s.exponent ≤ 308 &&
      Binary64.nearest s.significand * Binary64.nearest (Nat.pow 10 s.exponent.toNat) <
        Binary64.overflowBound)

/-- The least exponent of more than 31 bits. -/
def exponentLimit : Nat := 2147483648

/-- Whether a number is in the range of the doubles. An exponent of more than 31 bits makes it
infinite or, if it is negative, zero. -/
def isFinite (number : Bytes) : Bool :=
  let unsigned := if number.head? = some 0x2d then number.tail else number
  let scaled := Scaled.appendWhole ⟨0, 0⟩ (unsigned.takeWhile isDigit)
  let rest := unsigned.dropWhile isDigit
  let (scaled, rest) :=
    if rest.head? = some 0x2e then
      (scaled.appendFraction (rest.tail.takeWhile isDigit), rest.tail.dropWhile isDigit)
    else (scaled, rest)
  match rest with
  | [] => scaled.isFinite
  | _ :: exponent =>
    let value := digitsValue (exponent.filter isDigit)
    if exponent.head? = some 0x2d then
      exponentLimit ≤ value || Scaled.isFinite ⟨scaled.significand, scaled.exponent - value⟩
    else if exponentLimit ≤ value then scaled.significand == 0
    else Scaled.isFinite ⟨scaled.significand, scaled.exponent + value⟩

end DurableCalc.Json
