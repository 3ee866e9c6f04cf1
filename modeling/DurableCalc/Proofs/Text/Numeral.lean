import DurableCalc.Command.Step
import Mathlib.Algebra.Ring.Int.Defs
import Mathlib.Data.List.DropRight

/-!
# Decimal numerals

A numeral is at least one digit with a sign in front of it or without one. Digits are read as long
as the value stays within 64 bits; as it only grows on the way, the last value decides, so that a
text is read as an integer just if it is a numeral of it. The numeral that is written for an integer
is one of them, it has no blanks to be trimmed, and no two integers have the same one.
-/

namespace DurableCalc.Text

theorem isDigit_of_mem_decimalDigits {n : Nat} {c : Char} (h : c ∈ decimalDigits n) :
    c.isDigit = true :=
  Nat.isDigit_of_mem_toDigits (by decide) (by decide) h

theorem toNat_of_isDigit {c : Char} (h : c.isDigit = true) : 0x30 ≤ c.toNat ∧ c.toNat ≤ 0x39 := by
  simpa [Char.isDigit, UInt32.le_iff_toNat_le] using h

theorem decimalDigits_ne_nil (n : Nat) : decimalDigits n ≠ [] := Nat.toDigits_ne_nil

@[simp] theorem ofDigitChars_decimalDigits (n : Nat) :
    Nat.ofDigitChars 10 (decimalDigits n) 0 = n :=
  Nat.ofDigitChars_ten_toDigits

theorem exists_decimalDigits_eq_cons {n : Nat} (hn : 0 < n) :
    ∃ c cs, decimalDigits n = c :: cs ∧ c ≠ '0' := by
  unfold decimalDigits
  induction n using Nat.strongRecOn with
  | ind n ih =>
    by_cases h : n < 10
    · have hne : ∀ m < 10, 0 < m → Nat.digitChar m ≠ '0' := by decide
      exact ⟨_, [], Nat.toDigits_of_lt_base h, hne n h hn⟩
    · obtain ⟨c, cs, hcs, hc⟩ := ih (n / 10) (by omega) (by omega)
      exact ⟨c, _, by rw [Nat.toDigits_of_base_le (by decide) (by omega), hcs]; rfl, hc⟩

theorem decimal_inj {m n : Int} (h : decimal m = decimal n) : m = n := by
  have hdigits {a b : Nat} (heq : decimalDigits a = decimalDigits b) : a = b := by
    rw [← ofDigitChars_decimalDigits a, heq, ofDigitChars_decimalDigits]
  have hsign {a b : Nat} (heq : '-' :: decimalDigits a = decimalDigits b) : False := by
    have hmem : '-' ∈ decimalDigits b := heq ▸ List.mem_cons_self
    exact absurd (isDigit_of_mem_decimalDigits hmem) (by decide)
  unfold decimal at h
  split at h <;> split at h <;> rw [String.ofList_inj] at h
  · have habs := hdigits (List.cons.inj h).2
    omega
  · exact (hsign h).elim
  · exact (hsign h.symm).elim
  · have habs := hdigits h
    omega

def signed (negative : Bool) (n : Nat) : Int :=
  if negative then -n else n

@[simp] theorem signed_true (n : Nat) : signed true n = -n := rfl

@[simp] theorem signed_false (n : Nat) : signed false n = n := rfl

theorem signed_append (negative : Bool) (n d : Nat) :
    signed negative (10 * n + d) =
      if negative then 10 * signed negative n - d else 10 * signed negative n + d := by
  cases negative with
  | false => simp
  | true =>
    simp
    omega

theorem le_ofDigitChars (cs : List Char) (n : Nat) : n ≤ Nat.ofDigitChars 10 cs n := by
  induction cs generalizing n with
  | nil => exact Nat.le_refl n
  | cons c cs ih =>
    rw [Nat.ofDigitChars_cons]
    exact Nat.le_trans (by omega) (ih _)

/-- Digits are read up to the last one just if the value after it is in range. -/
theorem readDigits_eq_ok_iff {negative : Bool} {n : Nat} {cs : List Char} {m : Int}
    (hn : -2 ^ 63 ≤ signed negative n ∧ signed negative n < 2 ^ 63) :
    readDigits negative (signed negative n) cs = .ok m ↔
      (∀ c ∈ cs, c.isDigit = true) ∧ signed negative (Nat.ofDigitChars 10 cs n) = m ∧
        -2 ^ 63 ≤ m ∧ m < 2 ^ 63 := by
  induction cs generalizing n with
  | nil =>
    rw [readDigits, Except.ok.injEq]
    exact ⟨fun h => ⟨by simp, h, h ▸ hn⟩, fun h => h.2.1⟩
  | cons c cs ih =>
    rw [readDigits, List.forall_mem_cons, Nat.ofDigitChars_cons]
    by_cases hdigit : c.isDigit = true
    · have hread : digit? c = some (c.toNat - '0'.toNat) := if_pos hdigit
      simp only [hread, hdigit, true_and]
      generalize c.toNat - '0'.toNat = d
      have hgrows := le_ofDigitChars cs (10 * n + d)
      rw [← signed_append, Int64.toInt_minValue, Int64.toInt_maxValue]
      by_cases hrange : -2 ^ 63 ≤ signed negative (10 * n + d) ∧
          signed negative (10 * n + d) < 2 ^ 63
      · rw [if_neg (by omega), if_neg (by omega)]
        exact ih hrange
      · -- The value has left the range and only gets further away from it.
        have hout : ¬ (signed negative (Nat.ofDigitChars 10 cs (10 * n + d)) = m ∧
            -2 ^ 63 ≤ m ∧ m < 2 ^ 63) := by
          cases negative with
          | false =>
            simp only [signed_false] at hrange ⊢
            omega
          | true =>
            simp only [signed_true] at hrange ⊢
            omega
        split
        · simpa using fun _ => hout
        · rw [if_pos (by omega)]
          simpa using fun _ => hout
    · have hread : digit? c = none := if_neg hdigit
      simp [hread, hdigit]

theorem readDigits_zero_eq_ok_iff {negative : Bool} {digits : List Char} {n : Int} :
    readDigits negative 0 digits = .ok n ↔
      (∀ c ∈ digits, c.isDigit = true) ∧ signed negative (Nat.ofDigitChars 10 digits 0) = n ∧
        -2 ^ 63 ≤ n ∧ n < 2 ^ 63 := by
  have hzero : signed negative 0 = 0 := by cases negative <;> rfl
  rw [← readDigits_eq_ok_iff (by rw [hzero]; decide), hzero]

/-- The numerals of an integer: at least one digit, with a sign in front of it or without one. -/
inductive IsNumeral : List Char → Int → Prop
  | unsigned {digits : List Char} (hne : digits ≠ []) (hdigits : ∀ c ∈ digits, c.isDigit = true) :
      IsNumeral digits (Nat.ofDigitChars 10 digits 0)
  | plus {digits : List Char} (hne : digits ≠ []) (hdigits : ∀ c ∈ digits, c.isDigit = true) :
      IsNumeral ('+' :: digits) (Nat.ofDigitChars 10 digits 0)
  | minus {digits : List Char} (hne : digits ≠ []) (hdigits : ∀ c ∈ digits, c.isDigit = true) :
      IsNumeral ('-' :: digits) (-Nat.ofDigitChars 10 digits 0)

theorem readNumeral_plus {digits : List Char} (hne : digits ≠ []) :
    readNumeral ('+' :: digits) = readDigits false 0 digits := by
  obtain ⟨c, cs, rfl⟩ := List.exists_cons_of_ne_nil hne
  rfl

theorem readNumeral_minus {digits : List Char} (hne : digits ≠ []) :
    readNumeral ('-' :: digits) = readDigits true 0 digits := by
  obtain ⟨c, cs, rfl⟩ := List.exists_cons_of_ne_nil hne
  rfl

theorem readNumeral_unsigned {c : Char} {cs : List Char} (hplus : c ≠ '+') (hminus : c ≠ '-') :
    readNumeral (c :: cs) = readDigits false 0 (c :: cs) := by
  simp [readNumeral, hplus, hminus]

theorem isNumeral_of_readNumeral {cs : List Char} {n : Int} (h : readNumeral cs = .ok n) :
    IsNumeral cs n ∧ -2 ^ 63 ≤ n ∧ n < 2 ^ 63 := by
  cases cs with
  | nil => cases h
  | cons c cs =>
    by_cases hplus : c = '+'
    · subst hplus
      have hne : cs ≠ [] := by
        rintro rfl
        cases h
      rw [readNumeral_plus hne] at h
      obtain ⟨hdigits, rfl, hrange⟩ := readDigits_zero_eq_ok_iff.1 h
      exact ⟨.plus hne hdigits, hrange⟩
    by_cases hminus : c = '-'
    · subst hminus
      have hne : cs ≠ [] := by
        rintro rfl
        cases h
      rw [readNumeral_minus hne] at h
      obtain ⟨hdigits, rfl, hrange⟩ := readDigits_zero_eq_ok_iff.1 h
      exact ⟨.minus hne hdigits, hrange⟩
    · rw [readNumeral_unsigned hplus hminus] at h
      obtain ⟨hdigits, rfl, hrange⟩ := readDigits_zero_eq_ok_iff.1 h
      exact ⟨.unsigned (List.cons_ne_nil _ _) hdigits, hrange⟩

theorem readNumeral_of_isNumeral {cs : List Char} {n : Int} (h : IsNumeral cs n)
    (hrange : -2 ^ 63 ≤ n ∧ n < 2 ^ 63) : readNumeral cs = .ok n := by
  cases h with
  | unsigned hne hdigits =>
    obtain ⟨c, cs, rfl⟩ := List.exists_cons_of_ne_nil hne
    have hdigit := hdigits c List.mem_cons_self
    have hplus : c ≠ '+' := by
      rintro rfl
      exact absurd hdigit (by decide)
    have hminus : c ≠ '-' := by
      rintro rfl
      exact absurd hdigit (by decide)
    rw [readNumeral_unsigned hplus hminus]
    exact readDigits_zero_eq_ok_iff.2 ⟨hdigits, rfl, hrange⟩
  | plus hne hdigits =>
    rw [readNumeral_plus hne]
    exact readDigits_zero_eq_ok_iff.2 ⟨hdigits, rfl, hrange⟩
  | minus hne hdigits =>
    rw [readNumeral_minus hne]
    exact readDigits_zero_eq_ok_iff.2 ⟨hdigits, rfl, hrange⟩

/-- A text is read as a 64-bit integer just if it is a numeral of that integer. -/
theorem readInt64_eq_ok_iff {text : String} {v : Int64} :
    readInt64 text = .ok v ↔ IsNumeral text.toList v.toInt := by
  unfold readInt64
  constructor
  · intro h
    cases hread : readNumeral text.toList with
    | error error =>
      rw [hread] at h
      cases h
    | ok n =>
      rw [hread] at h
      cases h
      obtain ⟨hnumeral, hlow, hhigh⟩ := isNumeral_of_readNumeral hread
      rwa [Int64.toInt_ofInt_of_le hlow hhigh]
  · intro h
    rw [readNumeral_of_isNumeral h ⟨v.le_toInt, v.toInt_lt⟩]
    exact congrArg Except.ok (Int64.ofInt_toInt v)

theorem isNumeral_decimal (n : Int) : IsNumeral (decimal n).toList n := by
  have hdigits : ∀ c ∈ decimalDigits n.natAbs, c.isDigit = true := fun _ =>
    isDigit_of_mem_decimalDigits
  have hvalue := ofDigitChars_decimalDigits n.natAbs
  unfold decimal
  split <;> rw [String.toList_ofList]
  · have h := IsNumeral.minus (decimalDigits_ne_nil _) hdigits
    have habs : -(n.natAbs : Int) = n := by omega
    rwa [hvalue, habs] at h
  · have h := IsNumeral.unsigned (decimalDigits_ne_nil _) hdigits
    have habs : (n.natAbs : Int) = n := by omega
    rwa [hvalue, habs] at h

theorem readInt64_decimal (v : Int64) : readInt64 (decimal v.toInt) = .ok v :=
  readInt64_eq_ok_iff.2 (isNumeral_decimal v.toInt)

theorem dropWhile_isBlank {cs : List Char} (h : ∀ c ∈ cs, isBlank c = false) :
    cs.dropWhile isBlank = cs := by
  cases cs with
  | nil => rfl
  | cons c cs => exact List.dropWhile_cons_of_neg (by simp [h c List.mem_cons_self])

/-- Blanks around characters none of which is blank are what trimming takes away. -/
theorem trimChars_append {before cs after : List Char} (hbefore : ∀ c ∈ before, isBlank c = true)
    (hcs : ∀ c ∈ cs, isBlank c = false) (hafter : ∀ c ∈ after, isBlank c = true) :
    trimChars (before ++ cs ++ after) = cs := by
  have hback : (cs ++ after).reverse.dropWhile isBlank = cs.reverse := by
    rw [List.reverse_append,
      List.dropWhile_append_of_pos fun c hc => hafter c (List.mem_reverse.1 hc),
      dropWhile_isBlank fun c hc => hcs c (List.mem_reverse.1 hc)]
  rw [trimChars, List.append_assoc, List.dropWhile_append_of_pos hbefore]
  cases cs with
  | nil =>
    rw [List.nil_append, List.dropWhile_eq_nil_iff.2 hafter]
    rfl
  | cons c cs =>
    have hfront : (c :: cs ++ after).dropWhile isBlank = c :: cs ++ after :=
      List.dropWhile_cons_of_neg (by simp [hcs c List.mem_cons_self])
    rw [hfront, hback, List.reverse_reverse]

theorem exists_trimChars (cs : List Char) :
    ∃ before after, cs = before ++ trimChars cs ++ after ∧ (∀ c ∈ before, isBlank c = true) ∧
      ∀ c ∈ after, isBlank c = true := by
  refine ⟨cs.takeWhile isBlank, (cs.dropWhile isBlank).rtakeWhile isBlank, ?_, ?_, ?_⟩
  · have hright : trimChars cs ++ (cs.dropWhile isBlank).rtakeWhile isBlank =
        cs.dropWhile isBlank := List.rdropWhile_append_rtakeWhile
    rw [List.append_assoc, hright, List.takeWhile_append_dropWhile]
  · exact fun c => List.mem_takeWhile_imp
  · exact fun c => List.mem_rtakeWhile_imp

theorem trim_eq_self {text : String} (h : ∀ c ∈ text.toList, isBlank c = false) :
    trim text = text := by
  have hnone : ∀ c ∈ ([] : List Char), isBlank c = true := by simp
  have htrim := trimChars_append hnone h hnone
  rw [List.nil_append, List.append_nil] at htrim
  rw [trim, htrim, String.ofList_toList]

theorem isBlank_of_isDigit {c : Char} (h : c.isDigit = true) : isBlank c = false := by
  obtain ⟨hlow, hhigh⟩ := toNat_of_isDigit h
  have hval : c.val.toNat = c.toNat := rfl
  simp only [isBlank, Bool.or_eq_false_iff, Bool.and_eq_false_iff, decide_eq_false_iff_not,
    beq_eq_false_iff_ne, ne_eq, ← UInt32.toNat_inj, UInt32.le_iff_toNat_le, hval]
  simp
  omega

theorem IsNumeral.isBlank_eq_false {cs : List Char} {n : Int} (h : IsNumeral cs n) :
    ∀ c ∈ cs, isBlank c = false := by
  cases h with
  | unsigned hne hdigits => exact fun c hc => isBlank_of_isDigit (hdigits c hc)
  | plus hne hdigits =>
    rw [List.forall_mem_cons]
    exact ⟨by decide, fun c hc => isBlank_of_isDigit (hdigits c hc)⟩
  | minus hne hdigits =>
    rw [List.forall_mem_cons]
    exact ⟨by decide, fun c hc => isBlank_of_isDigit (hdigits c hc)⟩

theorem trim_decimal (n : Int) : trim (decimal n) = decimal n :=
  trim_eq_self (isNumeral_decimal n).isBlank_eq_false

end DurableCalc.Text

namespace DurableCalc

theorem readInteger_decimal (v : Int64) : readInteger (Text.decimal v.toInt) = .ok v := by
  rw [readInteger, Text.trim_decimal, Text.readInt64_decimal]

end DurableCalc
