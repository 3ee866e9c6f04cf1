import DurableCalc.Proofs.Plain.Median
import Mathlib.Algebra.Ring.Int.Defs

/-!
# Medians are order statistics

Twice the median of some values is twice the one in the middle, or the sum of the two there. Where a
value stands among the others is told by counting, so that the order in which they were given does
not matter. A median lies between the least value and the greatest, and at least half of the values
are on either side of it.
-/

namespace DurableCalc.Median

open Plain

instance lawfulOrderLeftLeaningMax : Std.LawfulOrderLeftLeaningMax Int64 where
  max_eq_left a b h := by
    by_cases hle : a ≤ b
    · exact (if_pos hle).trans (Int64.le_antisymm h hle)
    · exact if_neg hle
  max_eq_right _ _ h := if_pos (Int64.le_of_lt (Int64.not_le.1 h))

/-- Twice the median, told by the number of the values; their places are counted from zero. -/
inductive IsTwice (values : List Int64) : Int → Prop
  | none (h : values = []) : IsTwice values 0
  | odd {v : Int64} (h : values.length % 2 = 1) (hv : Ranks values (values.length / 2) v) :
      IsTwice values (2 * v.toInt)
  | even {lower upper : Int64} (h : values.length % 2 = 0)
      (hlower : Ranks values (values.length / 2 - 1) lower)
      (hupper : Ranks values (values.length / 2) upper) :
      IsTwice values (lower.toInt + upper.toInt)

variable {values other : List Int64} {d d' : Int}

theorem isTwice_of (values : List Int64) : IsTwice values (of values).doubled := by
  have hlength : (sorted values).length = values.length := List.length_mergeSort values
  unfold of
  dsimp only
  split
  · rename_i hnone
    have hge := List.getElem?_eq_none_iff.1 hnone
    exact .none (List.eq_nil_of_length_eq_zero (by omega))
  · rename_i upper hget
    obtain ⟨hmid, hupper⟩ := List.getElem?_eq_some_iff.1 hget
    have hranks : Ranks values (values.length / 2) upper := by
      rw [← hlength, ← hupper]
      exact ranks_getElem_sorted hmid
    rw [hlength] at hmid ⊢
    split
    · rename_i hodd
      exact .odd hodd hranks
    · have hbelow : values.length / 2 - 1 < (sorted values).length := by omega
      rw [List.getD_eq_getElem?_getD, List.getElem?_eq_getElem hbelow, Option.getD_some]
      exact .even (by omega) (ranks_getElem_sorted hbelow) hranks

namespace IsTwice

/-- The two values in the middle, which are the same one if the number of values is odd. -/
theorem exists_pair (h : IsTwice values d) (hne : values ≠ []) :
    ∃ lower upper, Ranks values ((values.length - 1) / 2) lower ∧
      Ranks values (values.length / 2) upper ∧ d = lower.toInt + upper.toInt := by
  cases h with
  | none h => exact absurd h hne
  | @odd v h hv =>
    have hsame : (values.length - 1) / 2 = values.length / 2 := by omega
    exact ⟨v, v, hsame.symm ▸ hv, hv, Int.two_mul _⟩
  | @even lower upper h hlower hupper =>
    have hbelow : (values.length - 1) / 2 = values.length / 2 - 1 := by omega
    exact ⟨lower, upper, hbelow.symm ▸ hlower, hupper, rfl⟩

theorem of_perm (h : IsTwice values d) (hperm : values.Perm other) : IsTwice other d := by
  have hlength := hperm.length_eq
  cases h with
  | none h =>
    subst h
    exact .none hperm.nil_eq.symm
  | odd h hv => exact .odd (hlength ▸ h) (hlength ▸ hv.of_perm hperm)
  | even h hlower hupper =>
    exact .even (hlength ▸ h) (hlength ▸ hlower.of_perm hperm) (hlength ▸ hupper.of_perm hperm)

theorem eq_zero (h : IsTwice [] d) : d = 0 := by
  cases h with
  | none => rfl
  | odd h => cases h
  | even _ _ hupper => cases hupper.mem

theorem unique (h : IsTwice values d) (h' : IsTwice values d') : d = d' := by
  by_cases hne : values = []
  · subst hne
    rw [h.eq_zero, h'.eq_zero]
  · obtain ⟨lower, upper, hlower, hupper, rfl⟩ := h.exists_pair hne
    obtain ⟨lower', upper', hlower', hupper', rfl⟩ := h'.exists_pair hne
    rw [hlower.unique hlower', hupper.unique hupper']

theorem range (h : IsTwice values d) : -2 ^ 64 ≤ d ∧ d ≤ 2 ^ 64 - 2 := by
  have hword (v : Int64) := And.intro v.le_toInt v.toInt_lt
  cases h with
  | none => decide
  | @odd v =>
    have := hword v
    omega
  | @even lower upper =>
    have hlower := hword lower
    have hupper := hword upper
    omega

theorem min?_le (h : IsTwice values d) {least : Int64} (hleast : values.min? = some least) :
    2 * least.toInt ≤ d := by
  obtain ⟨hmem, hle⟩ := List.min?_eq_some_iff.1 hleast
  obtain ⟨lower, upper, hlower, hupper, rfl⟩ := h.exists_pair (List.ne_nil_of_mem hmem)
  have hlow := Int64.le_iff_toInt_le.1 (hle lower hlower.mem)
  have hhigh := Int64.le_iff_toInt_le.1 (hle upper hupper.mem)
  omega

theorem le_max? (h : IsTwice values d) {greatest : Int64}
    (hgreatest : values.max? = some greatest) : d ≤ 2 * greatest.toInt := by
  obtain ⟨hmem, hge⟩ := List.max?_eq_some_iff.1 hgreatest
  obtain ⟨lower, upper, hlower, hupper, rfl⟩ := h.exists_pair (List.ne_nil_of_mem hmem)
  have hlow := Int64.le_iff_toInt_le.1 (hge lower hlower.mem)
  have hhigh := Int64.le_iff_toInt_le.1 (hge upper hupper.mem)
  omega

theorem length_le_countP_le (h : IsTwice values d) :
    values.length ≤ 2 * values.countP fun v => 2 * v.toInt ≤ d := by
  by_cases hne : values = []
  · simp [hne]
  · obtain ⟨lower, upper, hlower, hupper, rfl⟩ := h.exists_pair hne
    have horder := Int64.le_iff_toInt_le.1 (hlower.le_of_le hupper (by omega))
    have hmono : values.countP (· ≤ lower) ≤
        values.countP fun v => 2 * v.toInt ≤ lower.toInt + upper.toInt := by
      refine List.countP_mono_left fun v _ hv => ?_
      simp only [decide_eq_true_eq, Int64.le_iff_toInt_le] at hv ⊢
      omega
    have hcount := hlower.2
    omega

theorem length_le_countP_ge (h : IsTwice values d) :
    values.length ≤ 2 * values.countP fun v => d ≤ 2 * v.toInt := by
  by_cases hne : values = []
  · simp [hne]
  · obtain ⟨lower, upper, hlower, hupper, rfl⟩ := h.exists_pair hne
    have horder := Int64.le_iff_toInt_le.1 (hlower.le_of_le hupper (by omega))
    -- The values that are not below the upper one in the middle are no less than the median.
    have hsplit := List.length_eq_countP_add_countP (· < upper) (l := values)
    have hmono : (values.countP fun v => ¬ v < upper) ≤
        values.countP fun v => lower.toInt + upper.toInt ≤ 2 * v.toInt := by
      refine List.countP_mono_left fun v _ hv => ?_
      simp only [decide_eq_true_eq, Int64.lt_iff_toInt_lt] at hv ⊢
      omega
    have hcount := hupper.1
    simp only [decide_eq_true_eq] at hsplit
    omega

end IsTwice

/-- The median of some values is twice their middle order statistic, or the sum of the two there,
and nothing else. It is the same for every order of the values, lies between the least and the
greatest of them, and has at least half of them on either side. -/
theorem isTwice_iff_doubled (values : List Int64) :
    (∀ d, IsTwice values d ↔ d = (of values).doubled) ∧
      (∀ other, values.Perm other → of other = of values) ∧
      (∀ least ∈ values.min?, 2 * least.toInt ≤ (of values).doubled) ∧
      (∀ greatest ∈ values.max?, (of values).doubled ≤ 2 * greatest.toInt) ∧
      values.length ≤ 2 * (values.countP fun v => 2 * v.toInt ≤ (of values).doubled) ∧
      values.length ≤ 2 * (values.countP fun v => (of values).doubled ≤ 2 * v.toInt) := by
  have htwice := isTwice_of values
  refine ⟨fun d => ⟨fun h => h.unique htwice, fun h => h ▸ htwice⟩, ?_, fun least => htwice.min?_le,
    fun greatest => htwice.le_max?, htwice.length_le_countP_le, htwice.length_le_countP_ge⟩
  intro other hperm
  have hdoubled := (isTwice_of other).unique (htwice.of_perm hperm)
  rw [← Median.mk.injEq] at hdoubled
  exact hdoubled

end DurableCalc.Median
