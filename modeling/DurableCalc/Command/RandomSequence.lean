import DurableCalc.Command.Step
import DurableCalc.Snapshot.Basic

/-!
# The command `random-sequence`

It asks for a count and then writes so many states of the generator.
-/

namespace DurableCalc.RandomProgress

def next (maxCount : UInt32) (p : RandomProgress) : Step RandomProgress :=
  match p.count with
  | none => .ask fun line =>
    (readCount maxCount line).map fun count => { p with count := some count }
  | some count =>
    if p.nextIndex < count then .draw { p with nextIndex := p.nextIndex + 1 } else .finished

def work (p : RandomProgress) : Nat :=
  (p.count.getD 0).toNat - p.nextIndex.toNat

theorem toNat_add_one {n count : UInt32} (h : n < count) : (n + 1).toNat = n.toNat + 1 := by
  have hlt := UInt32.lt_iff_toNat_lt.1 h
  have hcount := count.toNat_lt
  rw [UInt32.toNat_add]
  apply Nat.mod_eq_of_lt
  simp
  omega

theorem work_lt {maxCount : UInt32} {p q : RandomProgress}
    (h : (p.next maxCount).goesOn? = some q) : q.work < p.work := by
  unfold next at h
  split at h
  · cases h
  · rename_i count hc
    split at h
    · rename_i hlt
      cases h
      have : p.nextIndex.toNat < count.toNat := UInt32.lt_iff_toNat_lt.1 hlt
      simp only [work, hc, Option.getD_some, toNat_add_one hlt]
      omega
    · cases h

end DurableCalc.RandomProgress
