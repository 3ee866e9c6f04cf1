import DurableCalc.Proofs.Plain.Session
import Mathlib.Tactic.ByContra

/-!
# Medians by counting are medians

The value at a place of the ascending list is the one with so many values below it, so that the
median of a list can be told by counting alone.
-/

namespace DurableCalc.Plain

/-- Whether a value has at most `k` values below it and more than `k` up to it. -/
def Ranks (values : List Int64) (k : Nat) (v : Int64) : Prop :=
  values.countP (· < v) ≤ k ∧ k < values.countP (· ≤ v)

/-- A value ranked further down is no greater. -/
theorem Ranks.le_of_le {values : List Int64} {j k : Nat} {v w : Int64} (hv : Ranks values j v)
    (hw : Ranks values k w) (hjk : j ≤ k) : v ≤ w := by
  by_contra hnot
  have hmono : values.countP (· ≤ w) ≤ values.countP (· < v) := by
    refine List.countP_mono_left fun x _ hx => ?_
    simp only [decide_eq_true_eq] at hx ⊢
    rw [Int64.le_iff_toInt_le] at hx hnot
    rw [Int64.lt_iff_toInt_lt]
    omega
  have hlow := hv.1
  have hhigh := hw.2
  omega

theorem Ranks.unique {values : List Int64} {k : Nat} {v w : Int64} (hv : Ranks values k v)
    (hw : Ranks values k w) : v = w :=
  Int64.le_antisymm (hv.le_of_le hw (Nat.le_refl k)) (hw.le_of_le hv (Nat.le_refl k))

theorem Ranks.mem {values : List Int64} {k : Nat} {v : Int64} (h : Ranks values k v) :
    v ∈ values := by
  by_contra habsent
  have hsame : values.countP (· ≤ v) = values.countP (· < v) := by
    refine List.countP_congr fun x hx => ?_
    have hne : x.toInt ≠ v.toInt := fun heq => habsent (Int64.toInt_inj.1 heq ▸ hx)
    simp only [decide_eq_true_eq, Int64.le_iff_toInt_le, Int64.lt_iff_toInt_lt]
    omega
  have hlow := h.1
  have hhigh := h.2
  omega

theorem Ranks.of_perm {values other : List Int64} {k : Nat} {v : Int64} (h : Ranks values k v)
    (hperm : values.Perm other) : Ranks other k v := by
  rwa [Ranks, ← hperm.countP_eq, ← hperm.countP_eq]

theorem ranked_eq {values : List Int64} {k : Nat} {v : Int64} (hmem : v ∈ values)
    (hv : Ranks values k v) : ranked values k = v.toInt := by
  unfold ranked
  split
  · rename_i w hw
    have hranks : Ranks values k w := by simpa [Ranks] using List.find?_some hw
    rw [hranks.unique hv]
  · rename_i hnone
    have habsent := List.find?_eq_none.1 hnone v hmem
    simp only [decide_eq_true_eq] at habsent
    exact absurd hv habsent

theorem ranks_getElem {ascending : List Int64} (hsorted : ascending.Pairwise (· ≤ ·)) {k : Nat}
    (hk : k < ascending.length) : Ranks ascending k ascending[k] := by
  have hle : ∀ i (hi : i < ascending.length), i ≤ k → ascending[i] ≤ ascending[k] := by
    intro i hi hik
    rcases Nat.lt_or_eq_of_le hik with hlt | rfl
    · exact List.pairwise_iff_getElem.1 hsorted i k hi hk hlt
    · exact Int64.le_iff_toInt_le.2 (Int.le_refl _)
  have hge : ∀ i (hi : i < ascending.length), k ≤ i → ascending[k] ≤ ascending[i] := by
    intro i hi hki
    rcases Nat.lt_or_eq_of_le hki with hlt | rfl
    · exact List.pairwise_iff_getElem.1 hsorted k i hk hi hlt
    · exact Int64.le_iff_toInt_le.2 (Int.le_refl _)
  constructor
  · have hupper : (ascending.drop k).countP (· < ascending[k]) = 0 := by
      rw [List.countP_eq_zero]
      intro x hx
      obtain ⟨i, hi, rfl⟩ := List.mem_iff_getElem.1 hx
      rw [List.length_drop] at hi
      have hki := hge (k + i) (by omega) (by omega)
      rw [Int64.le_iff_toInt_le] at hki
      rw [List.getElem_drop, decide_eq_true_eq, Int64.lt_iff_toInt_lt]
      omega
    have hlower : (ascending.take k).countP (· < ascending[k]) ≤ k :=
      Nat.le_trans List.countP_le_length (List.length_take_le k ascending)
    have hsplit : ascending.countP (· < ascending[k]) =
        (ascending.take k).countP (· < ascending[k]) +
          (ascending.drop k).countP (· < ascending[k]) := by
      rw [← List.countP_append, List.take_append_drop]
    omega
  · have hlength : (ascending.take (k + 1)).length = k + 1 := by
      rw [List.length_take]
      omega
    have hlower : (ascending.take (k + 1)).countP (· ≤ ascending[k]) =
        (ascending.take (k + 1)).length := by
      rw [List.countP_eq_length]
      intro x hx
      obtain ⟨i, hi, rfl⟩ := List.mem_iff_getElem.1 hx
      rw [hlength] at hi
      rw [List.getElem_take, decide_eq_true_eq]
      exact hle i (by omega) (by omega)
    have hsub := (List.take_sublist (k + 1) ascending).countP_le (p := (· ≤ ascending[k]))
    omega

theorem ranks_getElem_sorted {values : List Int64} {k : Nat}
    (hk : k < (Median.sorted values).length) : Ranks values k (Median.sorted values)[k] := by
  have hsorted : (Median.sorted values).Pairwise (· ≤ ·) := by
    have htrans (a b c : Int64) : decide (a ≤ b) → decide (b ≤ c) → decide (a ≤ c) := by
      simp only [decide_eq_true_eq, Int64.le_iff_toInt_le]
      omega
    have htotal (a b : Int64) : decide (a ≤ b) || decide (b ≤ a) := by
      simp only [Bool.or_eq_true, decide_eq_true_eq, Int64.le_iff_toInt_le]
      omega
    simpa [Median.sorted] using List.pairwise_mergeSort htrans htotal values
  have hperm : (Median.sorted values).Perm values := List.mergeSort_perm values _
  exact (ranks_getElem hsorted hk).of_perm hperm

theorem toInt_getElem_sorted {values : List Int64} {k : Nat}
    (hk : k < (Median.sorted values).length) :
    (Median.sorted values)[k].toInt = ranked values k := by
  have hranks := ranks_getElem_sorted hk
  exact (ranked_eq hranks.mem hranks).symm

theorem median_of (values : List Int64) : Median.of values = ⟨doubledMedian values⟩ := by
  have hlength : (Median.sorted values).length = values.length := List.length_mergeSort values
  unfold Median.of
  dsimp only
  split
  · rename_i hnone
    have hzero : values.length = 0 := by
      have hge := List.getElem?_eq_none_iff.1 hnone
      omega
    obtain rfl := List.eq_nil_of_length_eq_zero hzero
    rfl
  · rename_i upper hupper
    obtain ⟨hmid, hget⟩ := List.getElem?_eq_some_iff.1 hupper
    have hvalue : upper.toInt = ranked values (values.length / 2) := by
      rw [← hget, toInt_getElem_sorted, hlength]
    rw [hlength] at hmid ⊢
    rw [hvalue, doubledMedian]
    split
    · rename_i hodd
      have hsame : (values.length - 1) / 2 = values.length / 2 := by omega
      rw [hsame]
      congr 1
      omega
    · rename_i heven
      have hlow : values.length / 2 - 1 = (values.length - 1) / 2 := by omega
      rw [List.getD_eq_getElem?_getD, List.getElem?_eq_getElem (by omega), Option.getD_some,
        toInt_getElem_sorted, hlow]

theorem decimal_neg {n : Int} (h : n < 0) : Text.decimal n = "-" ++ Text.decimal (-n) := by
  have hpos : ¬ -n < 0 := by omega
  rw [Text.decimal, if_pos h, Text.decimal, if_neg hpos, Int.natAbs_neg]
  apply String.ext
  simp

theorem text_eq_half (n : Int) : Median.text ⟨n⟩ = half n := by
  unfold Median.text half
  dsimp only
  split
  · rename_i heven
    split
    · rename_i hneg
      have hhalf : -(n / 2) = (n.natAbs : Int) / 2 := by omega
      rw [decimal_neg (by omega), hhalf, String.append_empty]
    · rename_i hpos
      have hhalf : n / 2 = (n.natAbs : Int) / 2 := by omega
      rw [hhalf, String.empty_append, String.append_empty]
  · rename_i hodd
    split
    · rfl
    · rename_i hpos
      have hhalf : n / 2 = (n.natAbs : Int) / 2 := by omega
      rw [hhalf, String.empty_append]

example : half (doubledMedian [3, -7, 8, 9]) = "5.5" := by decide

end DurableCalc.Plain
