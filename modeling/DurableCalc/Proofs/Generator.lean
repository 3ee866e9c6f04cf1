import DurableCalc.Generator
import Mathlib.Algebra.Ring.Int.Defs
import Mathlib.RingTheory.Coprime.Lemmas

/-!
# The generator in integers

No product of the generator leaves 64 bits, so that its states are those of the multiplication by
16807 modulo 2147483647 in the integers. That is a permutation of the residues other than zero.
-/

namespace DurableCalc.Generator

theorem toInt_modulus : modulus.toInt = 2147483647 := by decide

theorem toInt_multiplier : multiplier.toInt = 16807 := by decide

theorem toInt_residue (state : Int64) : (residue state).toInt = state.toInt % 2147483647 := by
  have hmod : (state % modulus).toInt = state.toInt.tmod 2147483647 := by
    rw [Int64.toInt_mod, toInt_modulus]
  have htmod : state.toInt.tmod 2147483647 = state.toInt % 2147483647 ∨
      state.toInt.tmod 2147483647 = state.toInt % 2147483647 - 2147483647 := by
    rw [Int.tmod_eq_emod]
    split
    · exact .inl (by simp)
    · exact .inr rfl
  have hneg : state % modulus < 0 ↔ state.toInt.tmod 2147483647 < 0 := by
    rw [Int64.lt_iff_toInt_lt, hmod, show (0 : Int64).toInt = 0 by decide]
  have hnonneg := Int.emod_nonneg state.toInt (b := 2147483647) (by decide)
  have hlt := Int.emod_lt_of_pos state.toInt (b := 2147483647) (by decide)
  unfold residue
  dsimp only
  split
  · rename_i h
    have hbelow := hneg.1 h
    rw [Int64.toInt_add, hmod, toInt_modulus, Int.bmod_eq_of_le (by omega) (by omega)]
    omega
  · rename_i h
    have habove := mt hneg.2 h
    rw [hmod]
    omega

theorem toInt_residue_mul (state : Int64) :
    (residue state * multiplier).toInt = (residue state).toInt * multiplier.toInt := by
  have hnonneg := Int.emod_nonneg state.toInt (b := 2147483647) (by decide)
  have hlt := Int.emod_lt_of_pos state.toInt (b := 2147483647) (by decide)
  rw [Int64.toInt_mul, toInt_residue, toInt_multiplier]
  exact Int.bmod_eq_of_le (by omega) (by omega)

theorem toInt_next (state : Int64) :
    (next state).toInt = 16807 * (state.toInt % 2147483647) % 2147483647 := by
  have hnonneg := Int.emod_nonneg state.toInt (b := 2147483647) (by decide)
  unfold next
  rw [Int64.toInt_mod, toInt_residue_mul, toInt_residue, toInt_modulus, toInt_multiplier,
    Int.tmod_eq_emod_of_nonneg (by omega), Int.mul_comm]

/-- The multiplier has no divisor in common with the modulus. -/
theorem modulus_dvd_mul_pow_iff {a : Int} (n : Nat) :
    2147483647 ∣ a * 16807 ^ n ↔ 2147483647 ∣ a := by
  have hcoprime : IsCoprime (2147483647 : Int) 16807 := by
    rw [Int.isCoprime_iff_gcd_eq_one]
    decide
  exact ⟨hcoprime.pow_right.dvd_of_dvd_mul_right, fun h => h.mul_right _⟩

/-- The states from 1 to 2147483646 lead to each other. -/
theorem next_range {state : Int64} (h : 1 ≤ state.toInt ∧ state.toInt ≤ 2147483646) :
    1 ≤ (next state).toInt ∧ (next state).toInt ≤ 2147483646 := by
  have hne : ¬ 2147483647 ∣ 16807 * (state.toInt % 2147483647) := by
    rw [Int.mul_comm, ← pow_one 16807, modulus_dvd_mul_pow_iff]
    omega
  rw [toInt_next]
  generalize 16807 * (state.toInt % 2147483647) = product at hne
  omega

def value (n : Nat) : Int :=
  420 * 16807 ^ n % 2147483647

theorem toInt_next_of_eq_value {state : Int64} {n : Nat}
    (h : state.toInt = value n) : (next state).toInt = value (n + 1) := by
  rw [toInt_next, h, value, value, pow_succ]
  omega

end DurableCalc.Generator
