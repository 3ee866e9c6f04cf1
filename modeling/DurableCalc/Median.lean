import DurableCalc.Text.Numeral

/-!
# Medians

The median of a list of integers is kept doubled, so that it is an integer for a list of even length
too. Its text has at most one digit after the point.
-/

namespace DurableCalc

/-- A median, doubled. -/
structure Median where
  doubled : Int
  deriving DecidableEq, Repr

namespace Median

def sorted (values : List Int64) : List Int64 :=
  values.mergeSort fun a b => a ≤ b

/-- Twice the middle value, or the sum of the two middle values; zero if there are no values. -/
def of (values : List Int64) : Median :=
  let ascending := sorted values
  let mid := ascending.length / 2
  match ascending[mid]? with
  | none => ⟨0⟩
  | some upper =>
    if ascending.length % 2 = 1 then ⟨2 * upper.toInt⟩
    else ⟨(ascending.getD (mid - 1) upper).toInt + upper.toInt⟩

def text (m : Median) : String :=
  if m.doubled % 2 = 0 then Text.decimal (m.doubled / 2)
  else if m.doubled < 0 then "-" ++ Text.decimal (m.doubled.natAbs / 2) ++ ".5"
  else Text.decimal (m.doubled / 2) ++ ".5"

/-- The double nearest to twice the median, halved. -/
def toFloat (m : Median) : Float :=
  Float.ofInt m.doubled / 2

end Median

end DurableCalc
