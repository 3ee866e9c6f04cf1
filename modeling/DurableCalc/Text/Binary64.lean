/-!
# The range of the doubles

A double has 53 significant bits, and its largest power of two is 2 ^ 1023. A number rounds past the
largest double if it is half a unit above it or more.
-/

namespace DurableCalc.Binary64

/-- The least number that rounds past the largest double. -/
def overflowBound : Nat := Nat.pow 2 1024 - Nat.pow 2 970

/-- The nearest integer with 53 significant bits, a tie going to the even one. -/
def nearest (n : Nat) : Nat :=
  let unit := Nat.pow 2 (n.log2 + 1 - 53)
  let quotient := n / unit
  let remainder := n % unit
  if unit < 2 * remainder || (unit == 2 * remainder && quotient % 2 == 1) then (quotient + 1) * unit
  else quotient * unit

end DurableCalc.Binary64
