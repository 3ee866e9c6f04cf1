import DurableCalc.Json.Number
import DurableCalc.Proofs.Json.Text
import DurableCalc.Proofs.Text.Numeral
import Mathlib.Data.List.Basic
import Mathlib.Data.List.TakeWhile

/-!
# JSON integers read back

The decimal numeral of an integer is read as that integer. Numerals of 64 bits also pass for finite
doubles, which a value has to before its kind is known.
-/

namespace DurableCalc.Json

open Text

def digits (n : Nat) : Bytes :=
  (decimalDigits n).map fun c => c.toNat.toUInt8

theorem toNat_lt_of_mem_decimalDigits {n : Nat} {c : Char} (h : c ∈ decimalDigits n) :
    0x30 ≤ c.toNat ∧ c.toNat ≤ 0x39 :=
  toNat_of_isDigit (isDigit_of_mem_decimalDigits h)

theorem toNat_toUInt8_of_mem_decimalDigits {n : Nat} {c : Char} (h : c ∈ decimalDigits n) :
    c.toNat.toUInt8.toNat = c.toNat := by
  have hle := (toNat_lt_of_mem_decimalDigits h).2
  apply UInt8.toNat_ofNat_of_lt'
  exact Nat.lt_of_le_of_lt hle (by decide)

theorem encode_decimalDigits (n : Nat) :
    (decimalDigits n).flatMap String.utf8EncodeChar = digits n := by
  rw [digits, List.map_eq_flatMap, List.flatMap_def, List.flatMap_def, List.map_congr_left]
  intro c hc
  exact utf8EncodeChar_of_lt (by have := toNat_lt_of_mem_decimalDigits hc; omega)

theorem writeInt_of_nonneg {n : Int} (h : 0 ≤ n) : writeInt n = digits n.natAbs := by
  have : ¬ n < 0 := by omega
  simp [writeInt, decimal, this, encode, encode_decimalDigits]

theorem writeInt_of_neg {n : Int} (h : n < 0) : writeInt n = 0x2d :: digits n.natAbs := by
  have hminus : String.utf8EncodeChar '-' = [0x2d] := by decide
  simp [writeInt, decimal, h, encode, encode_decimalDigits, hminus]

theorem isDigit_of_mem_digits {n : Nat} {b : UInt8} (h : b ∈ digits n) : isDigit b = true := by
  obtain ⟨c, hc, rfl⟩ := List.mem_map.1 h
  simp only [isDigit, Bool.and_eq_true, decide_eq_true_eq, UInt8.le_iff_toNat_le,
    toNat_toUInt8_of_mem_decimalDigits hc]
  exact toNat_lt_of_mem_decimalDigits hc

theorem digits_ne_nil (n : Nat) : digits n ≠ [] := by
  simp [digits, decimalDigits]

theorem digitsValue_digits (n : Nat) : digitsValue (digits n) = n := by
  have h := Nat.ofDigitChars_ten_toDigits (n := n)
  rw [Nat.ofDigitChars_eq_foldl] at h
  rw [digitsValue, digits, List.foldl_map]
  refine (List.foldl_ext _ _ 0 fun value c hc => ?_).trans h
  rw [toNat_toUInt8_of_mem_decimalDigits hc]
  rfl

theorem digits_zero : digits 0 = [0x30] := by decide

theorem head_digits {n : Nat} (hn : 0 < n) : ∃ b rest, digits n = b :: rest ∧ b ≠ 0x30 := by
  obtain ⟨c, cs, h, hc⟩ := exists_decimalDigits_eq_cons hn
  have hmem : c ∈ decimalDigits n := h ▸ List.mem_cons_self
  have hnat := toNat_toUInt8_of_mem_decimalDigits hmem
  refine ⟨c.toNat.toUInt8, cs.map fun c => c.toNat.toUInt8, by simp [digits, h], ?_⟩
  intro he
  apply hc
  exact Char.toNat_inj.1 (hnat.symm.trans (congrArg UInt8.toNat he))

theorem isWhole_digits (n : Nat) : IsWhole (digits n) := by
  by_cases hn : n = 0
  · subst hn
    rw [digits_zero]
    exact .zero
  · obtain ⟨b, rest, hd, hzero⟩ := head_digits (Nat.pos_of_ne_zero hn)
    have hall : ∀ b' ∈ b :: rest, isDigit b' = true := fun b' hb' =>
      isDigit_of_mem_digits (hd ▸ hb')
    rw [hd]
    exact .digits (hall b (by simp)) hzero fun b' hb' => hall b' (by simp [hb'])

theorem IsWhole.isNumber {w : Bytes} (h : IsWhole w) : IsNumber w := by
  simpa using IsNumber.parts (.inl rfl) h .absent .absent

theorem isNumber_writeInt (n : Int) : IsNumber (writeInt n) := by
  have hwhole := isWhole_digits n.natAbs
  by_cases hn : n < 0
  · rw [writeInt_of_neg hn]
    simpa using IsNumber.parts (.inr rfl) hwhole .absent .absent
  · rw [writeInt_of_nonneg (by omega)]
    exact hwhole.isNumber

theorem IsWhole.exists_cons {w : Bytes} (h : IsWhole w) :
    ∃ b rest, w = b :: rest ∧ AllDigits (b :: rest) := by
  cases h with
  | zero => exact ⟨_, _, rfl, by simp [AllDigits, isDigit]⟩
  | digits hb _ hrest => exact ⟨_, _, rfl, List.forall_mem_cons.2 ⟨hb, hrest⟩⟩

theorem readInt?_of_isWhole {w : Bytes} (h : IsWhole w) :
    readInt? w = some (digitsValue w : Int) := by
  obtain ⟨b, rest, rfl, hdigits⟩ := h.exists_cons
  have hminus : ∀ digits : Bytes, b :: rest = 0x2d :: digits → False := by
    intro digits heq
    cases heq
    exact absurd (hdigits 0x2d (by simp)) (by decide)
  rw [readInt?.eq_3 _ (by simp) hminus, List.all_eq_true.2 hdigits]
  rfl

theorem readInt?_writeInt (n : Int) : readInt? (writeInt n) = some n := by
  by_cases h : n < 0
  · have hall : (digits n.natAbs).all isDigit = true :=
      List.all_eq_true.2 fun b hb => isDigit_of_mem_digits hb
    have hzero : digits n.natAbs ≠ [0x30] := by
      obtain ⟨b, rest, hd, hb⟩ := head_digits (n := n.natAbs) (by omega)
      simp [hd, hb]
    have hread : readInt? (0x2d :: digits n.natAbs) =
        some (-(digitsValue (digits n.natAbs) : Int)) := by
      simp [readInt?, hall, digits_ne_nil, hzero]
    rw [writeInt_of_neg h, hread, digitsValue_digits]
    congr 1
    omega
  · rw [writeInt_of_nonneg (by omega), readInt?_of_isWhole (isWhole_digits _), digitsValue_digits]
    congr 1
    omega

theorem nearest_le {n : Nat} (h : n < 18446744073709551616) : Binary64.nearest n ≤ n + 2048 := by
  have hlog : n.log2 < 64 := by
    by_cases hn : n = 0
    · simp [hn]
    · exact (Nat.log2_lt hn).2 h
  have hunit : Nat.pow 2 (n.log2 + 1 - 53) ≤ 2048 :=
    Nat.pow_le_pow_right (by decide) (by omega : n.log2 + 1 - 53 ≤ 11)
  have hdiv := Nat.div_mul_le_self n (Nat.pow 2 (n.log2 + 1 - 53))
  unfold Binary64.nearest
  dsimp only
  split
  · rw [Nat.add_mul]
    omega
  · omega

theorem isFinite_scaled {n : Nat} (h : n < 18446744073709551616) :
    Scaled.isFinite ⟨n, 0⟩ = true := by
  have hone : Binary64.nearest 1 = 1 := by decide
  have hbound : 2 ^ 65 < Binary64.overflowBound := by decide +kernel
  have := nearest_le h
  have hlt : Binary64.nearest n < Binary64.overflowBound := by omega
  simp [Scaled.isFinite, hone, hlt]

theorem le_foldl_digits (value : Nat) (bytes : Bytes) :
    value ≤ bytes.foldl (fun value b => 10 * value + (b.toNat - 0x30)) value := by
  induction bytes generalizing value with
  | nil => exact Nat.le_refl _
  | cons b bytes ih =>
    rw [List.foldl_cons]
    exact Nat.le_trans (by omega) (ih _)

theorem appendWhole_eq (value : Nat) (e : Int) (bytes : Bytes)
    (h : bytes.foldl (fun value b => 10 * value + (b.toNat - 0x30)) value < 18446744073709551616) :
    Scaled.appendWhole ⟨value, e⟩ bytes =
      ⟨bytes.foldl (fun value b => 10 * value + (b.toNat - 0x30)) value, e⟩ := by
  induction bytes generalizing value with
  | nil => rfl
  | cons b bytes ih =>
    have hlt : 10 * value + (b.toNat - 0x30) < UInt64.size :=
      Nat.lt_of_le_of_lt (le_foldl_digits _ bytes) h
    rw [Scaled.appendWhole, if_pos hlt]
    exact ih _ h

theorem isFinite_writeInt {n : Int} (h : n.natAbs < 18446744073709551616) :
    isFinite (writeInt n) = true := by
  have hall : ∀ b ∈ digits n.natAbs, isDigit b = true := fun b hb => isDigit_of_mem_digits hb
  have hunsigned : (if (writeInt n).head? = some 0x2d then (writeInt n).tail else writeInt n) =
      digits n.natAbs := by
    by_cases hn : n < 0
    · rw [writeInt_of_neg hn]
      rfl
    · rw [writeInt_of_nonneg (by omega), if_neg]
      intro hhead
      exact absurd (hall 0x2d (List.mem_of_mem_head? hhead)) (by decide)
  have hvalue := digitsValue_digits n.natAbs
  unfold digitsValue at hvalue
  have hscaled := appendWhole_eq 0 0 (digits n.natAbs) (by omega)
  rw [hvalue] at hscaled
  unfold isFinite
  rw [hunsigned]
  simp only [List.takeWhile_eq_self_iff.2 hall, List.dropWhile_eq_nil_iff.2 hall, hscaled]
  exact isFinite_scaled h

end DurableCalc.Json
