import DurableCalc.Command.Step
import DurableCalc.Median

/-!
# The command `median`

It asks for a count and then for so many integers, and ends with their median.
-/

namespace DurableCalc.MedianProgress

def push (p : MedianProgress) (value : Int64) : MedianProgress :=
  { p with values := p.values ++ [value], nextIndex := p.nextIndex + 1 }

def next (maxCount : UInt32) (p : MedianProgress) : Step MedianProgress :=
  match p.count with
  | none => .ask fun line =>
    (readCount maxCount line).map fun count => { p with count := some count }
  | some count =>
    if p.nextIndex.toNat < count.toNat then .ask fun line => (readInteger line).map p.push
    else .conclude (Median.of p.values).text

theorem goesOn?_next (maxCount : UInt32) (p : MedianProgress) :
    (p.next maxCount).goesOn? = none := by
  unfold next
  split
  · rfl
  · split <;> rfl

end DurableCalc.MedianProgress
