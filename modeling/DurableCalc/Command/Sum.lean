import DurableCalc.Command.Step
import DurableCalc.Snapshot.Basic

/-!
# The command `sum`

It asks for two integers and ends with their sum, unless that is out of the 64-bit range.
-/

namespace DurableCalc.SumProgress

def fits (n : Int) : Bool :=
  Int64.minValue.toInt ≤ n && n ≤ Int64.maxValue.toInt

def next (p : SumProgress) : Step SumProgress :=
  match p.first, p.second with
  | none, _ => .ask fun line => (readInteger line).map fun value => { p with first := some value }
  | some _, none =>
    .ask fun line => (readInteger line).map fun value => { p with second := some value }
  | some first, some second =>
    let total := first.toInt + second.toInt
    if fits total then .conclude (Text.decimal total) else .reject (.overflow first second)

theorem goesOn?_next (p : SumProgress) : p.next.goesOn? = none := by
  unfold next
  split
  · rfl
  · rfl
  · dsimp only
    split <;> rfl

end DurableCalc.SumProgress
