import DurableCalc.Proofs.Median.OrderStatistic
import DurableCalc.Proofs.Text.Numeral
import Mathlib.Algebra.Field.Rat
import Mathlib.Tactic.NormNum
import Mathlib.Tactic.Ring

/-!
# The text of a median

A median is written as a numeral of a half: a sign if it is negative, its whole part without zeros
that could be left out, and a five after the point if it is no whole number. The numeral has just
the value of the median, so that medians with the same text are the same, and the text of a whole
one is read as an integer again.
-/

namespace DurableCalc

open Text

/-- The numeral of half an integer, in the only way that it is written: no zero in front that could
be left out, and no sign of a zero. -/
structure HalfNumeral where
  negative : Bool
  digits : List Char
  half : Bool
  isDigit : ∀ c ∈ digits, c.isDigit = true
  ne_nil : digits ≠ []
  eq_zero_of_head : digits.head? = some '0' → digits = ['0']
  half_of_negative_zero : negative = true → digits = ['0'] → half = true

namespace HalfNumeral

def text (a : HalfNumeral) : String :=
  String.ofList
    ((if a.negative then ['-'] else []) ++ a.digits ++ if a.half then ['.', '5'] else [])

def value (a : HalfNumeral) : ℚ :=
  (if a.negative then -1 else 1) *
    (Nat.ofDigitChars 10 a.digits 0 + if a.half then 1 / 2 else 0)

theorem decimalDigits_eq_zero_iff {n : Nat} : decimalDigits n = ['0'] ↔ n = 0 := by
  constructor
  · intro h
    rw [← ofDigitChars_decimalDigits n, h]
    rfl
  · rintro rfl
    rfl

def ofDoubled (n : Int) : HalfNumeral where
  negative := n < 0
  digits := decimalDigits (n.natAbs / 2)
  half := n % 2 ≠ 0
  isDigit _ := isDigit_of_mem_decimalDigits
  ne_nil := decimalDigits_ne_nil _
  eq_zero_of_head := by
    intro hhead
    by_contra hne
    rw [decimalDigits_eq_zero_iff] at hne
    obtain ⟨c, cs, hdigits, hc⟩ := exists_decimalDigits_eq_cons (Nat.pos_of_ne_zero hne)
    rw [hdigits, List.head?_cons, Option.some.injEq] at hhead
    exact hc hhead
  half_of_negative_zero := by
    intro hneg hzero
    rw [decimalDigits_eq_zero_iff] at hzero
    rw [decide_eq_true_eq] at hneg ⊢
    omega

theorem text_ofDoubled (n : Int) : (ofDoubled n).text = Plain.half n := by
  have hwhole : ((n.natAbs : Int) / 2).natAbs = n.natAbs / 2 := by omega
  have hnonneg : ¬ (n.natAbs : Int) / 2 < 0 := by omega
  apply String.ext
  rw [text, Plain.half, decimal, if_neg hnonneg, hwhole]
  by_cases hneg : n < 0 <;> by_cases heven : n % 2 = 0 <;> simp [ofDoubled, hneg, heven]

theorem two_mul_value_ofDoubled (n : Int) : 2 * (ofDoubled n).value = n := by
  generalize hwhole : n.natAbs / 2 = q
  have hsplit : (if n < 0 then -1 else 1) * (2 * q + if n % 2 ≠ 0 then 1 else 0) = n := by
    split <;> split <;> omega
  calc 2 * (ofDoubled n).value
      = (if n < 0 then -1 else 1) * (2 * q + if n % 2 ≠ 0 then 1 else 0) := by
        simp only [value, ofDoubled, ofDigitChars_decimalDigits, decide_eq_true_eq, hwhole]
        split <;> split <;> ring
    _ = ((if n < 0 then -1 else 1) * (2 * q + if n % 2 ≠ 0 then 1 else 0) : Int) := by
        push_cast
        rfl
    _ = n := by rw [hsplit]

theorem text_eq_median (m : Median) : m.text = (ofDoubled m.doubled).text := by
  rw [text_ofDoubled]
  exact Plain.text_eq_half m.doubled

theorem value_eq_of_text_eq {a b : HalfNumeral} (h : a.text = b.text) : a.value = b.value := by
  have hfirst (a : HalfNumeral) : ∃ c cs, a.digits = c :: cs ∧ c ≠ '-' := by
    obtain ⟨c, cs, hcs⟩ := List.exists_cons_of_ne_nil a.ne_nil
    refine ⟨c, cs, hcs, ?_⟩
    rintro rfl
    exact absurd (a.isDigit '-' (hcs ▸ List.mem_cons_self)) (by decide)
  have hwhole (a : HalfNumeral) :
      (a.digits ++ if a.half then ['.', '5'] else []).takeWhile Char.isDigit = a.digits := by
    rw [List.takeWhile_append_of_pos a.isDigit]
    cases a.half <;> simp
  have hrest {a b : HalfNumeral} (hsign : a.negative = b.negative)
      (h : a.digits ++ (if a.half then ['.', '5'] else []) =
        b.digits ++ if b.half then ['.', '5'] else []) : a.value = b.value := by
    have hdigits : a.digits = b.digits := by rw [← hwhole a, h, hwhole b]
    have hhalf : a.half = b.half := by
      rw [hdigits, List.append_cancel_left_eq] at h
      cases ha : a.half <;> cases hb : b.half <;> simp [ha, hb] at h ⊢
    rw [value, value, hsign, hdigits, hhalf]
  obtain ⟨c, cs, hcs, hc⟩ := hfirst a
  obtain ⟨d, ds, hds, hd⟩ := hfirst b
  rw [text, text, String.ofList_inj] at h
  cases ha : a.negative <;> cases hb : b.negative <;> simp only [ha, hb] at h
  · exact hrest (ha.trans hb.symm) (by simpa using h)
  · simp [hcs] at h
    exact absurd h.1 hc
  · simp [hds] at h
    exact absurd h.1.symm hd
  · exact hrest (ha.trans hb.symm) (by simpa using h)

end HalfNumeral

namespace Median

theorem text_inj {m m' : Median} (h : m.text = m'.text) : m = m' := by
  rw [HalfNumeral.text_eq_median, HalfNumeral.text_eq_median] at h
  have hvalue := congrArg (2 * ·) (HalfNumeral.value_eq_of_text_eq h)
  simp only [HalfNumeral.two_mul_value_ofDoubled, Int.cast_inj] at hvalue
  rw [← Median.mk.injEq] at hvalue
  exact hvalue

theorem exists_text_eq_decimal {values : List Int64} (heven : (of values).doubled % 2 = 0) :
    ∃ v : Int64, 2 * v.toInt = (of values).doubled ∧ (of values).text = decimal v.toInt := by
  obtain ⟨hlow, hhigh⟩ := (isTwice_of values).range
  have hv : (Int64.ofInt ((of values).doubled / 2)).toInt = (of values).doubled / 2 :=
    Int64.toInt_ofInt_of_le (by omega) (by omega)
  refine ⟨Int64.ofInt ((of values).doubled / 2), by rw [hv]; omega, ?_⟩
  rw [hv]
  exact if_pos heven

/-- A median is written as a numeral of its exact value, medians with the same text are the same,
and the text of a whole one is read as the 64-bit integer that it is. -/
theorem exists_numeral_text (values : List Int64) :
    (∃ a : HalfNumeral, a.text = (of values).text ∧ 2 * a.value = (of values).doubled) ∧
      (∀ other, (of values).text = (of other).text ↔ of values = of other) ∧
      ((of values).doubled % 2 = 0 → ∃ v : Int64, 2 * v.toInt = (of values).doubled ∧
        readInteger (of values).text = .ok v) := by
  refine ⟨⟨.ofDoubled (of values).doubled, (HalfNumeral.text_eq_median _).symm,
    HalfNumeral.two_mul_value_ofDoubled _⟩, fun other => ⟨text_inj, fun h => by rw [h]⟩, ?_⟩
  intro heven
  obtain ⟨v, hv, htext⟩ := exists_text_eq_decimal heven
  exact ⟨v, hv, by rw [htext, readInteger_decimal]⟩

end Median

end DurableCalc
