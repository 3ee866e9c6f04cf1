import DurableCalc.Proofs.Session.Checked
import Mathlib.Data.Int.ModEq

/-!
# States as residues

The generator is computed without overflow from every state, also from those that are no residues.
The state after some steps is the residue of the first one times so many multipliers; it is zero
only for a multiple of the modulus. No two residues lead to the same one.
-/

namespace DurableCalc

namespace Checked

def mul? (x y : Int64) : Option Int64 :=
  int64? (x.toInt * y.toInt)

def add? (x y : Int64) : Option Int64 :=
  int64? (x.toInt + y.toInt)

/-- The remainder of a division that rounds toward zero, if the divisor is not zero and the quotient
fits. -/
def rem? (x y : Int64) : Option Int64 :=
  if y.toInt = 0 then none
  else (int64? (x.toInt.tdiv y.toInt)).bind fun _ => int64? (x.toInt.tmod y.toInt)

def residue? (state : Int64) : Option Int64 :=
  (rem? state Generator.modulus).bind fun r => if r < 0 then add? r Generator.modulus else some r

def advance? (state : Int64) : Option Int64 :=
  (residue? state).bind fun r =>
    (mul? r Generator.multiplier).bind fun product => rem? product Generator.modulus

theorem rem?_modulus (x : Int64) : rem? x Generator.modulus = some (x % Generator.modulus) := by
  have hlow := x.le_toInt
  have hhigh := x.toInt_lt
  have hquotient : -2 ^ 63 ≤ x.toInt.tdiv 2147483647 ∧ x.toInt.tdiv 2147483647 < 2 ^ 63 := by
    have habs : (x.toInt.tdiv 2147483647).natAbs = x.toInt.natAbs / 2147483647 :=
      Int.natAbs_tdiv x.toInt 2147483647
    omega
  have hrem : (x % Generator.modulus).toInt = x.toInt.tmod 2147483647 := by
    rw [Int64.toInt_mod, Generator.toInt_modulus]
  rw [rem?, Generator.toInt_modulus, if_neg (by decide), int64?, if_pos hquotient, Option.bind_some,
    int64?_eq_some hrem]

theorem residue?_eq (state : Int64) : residue? state = some (Generator.residue state) := by
  rw [residue?, rem?_modulus, Option.bind_some, Generator.residue]
  split
  · rename_i hneg
    have hrem : -2147483647 < (state % Generator.modulus).toInt := by
      rw [Int64.toInt_mod, Generator.toInt_modulus]
      exact Int.lt_tmod_of_pos state.toInt (by decide)
    rw [Int64.lt_iff_toInt_lt, Int64.toInt_zero] at hneg
    have hsum : (state % Generator.modulus + Generator.modulus).toInt =
        (state % Generator.modulus).toInt + Generator.modulus.toInt := by
      rw [Int64.toInt_add, Generator.toInt_modulus]
      exact Int.bmod_eq_of_le (by omega) (by omega)
    exact int64?_eq_some hsum
  · rfl

theorem advance?_eq (state : Int64) : advance? state = some (Generator.next state) := by
  rw [advance?, residue?_eq, Option.bind_some, mul?,
    int64?_eq_some (Generator.toInt_residue_mul state), Option.bind_some, rem?_modulus]
  rfl

end Checked

namespace Generator

variable {x y : Int64}

theorem toInt_iterate_next (x : Int64) (n : Nat) :
    (next^[n + 1] x).toInt = x.toInt * 16807 ^ (n + 1) % 2147483647 := by
  have hstep (state : Int64) : (next state).toInt = state.toInt * 16807 % 2147483647 := by
    rw [toInt_next, Int.mul_emod, Int.emod_emod, ← Int.mul_emod, Int.mul_comm]
  induction n with
  | zero => exact hstep x
  | succ n ih =>
    rw [Function.iterate_succ_apply', hstep, ih, Int.mul_emod, Int.emod_emod, ← Int.mul_emod,
      Int.mul_assoc, ← pow_succ]

theorem modEq_of_next_eq (h : next x = next y) : x.toInt ≡ y.toInt [ZMOD 2147483647] := by
  have hproduct : 16807 * (x.toInt % 2147483647) ≡ 16807 * (y.toInt % 2147483647)
      [ZMOD 2147483647] := by
    have hvalue := congrArg Int64.toInt h
    rwa [toInt_next, toInt_next] at hvalue
  have hdvd := hproduct.dvd
  rw [← Int.mul_sub, Int.mul_comm, ← pow_one 16807, modulus_dvd_mul_pow_iff] at hdvd
  have hresidues := Int.modEq_iff_dvd.2 hdvd
  exact ((Int.mod_modEq _ _).symm.trans hresidues).trans (Int.mod_modEq _ _)

theorem next_inj (hx : 0 ≤ x.toInt ∧ x.toInt < 2147483647)
    (hy : 0 ≤ y.toInt ∧ y.toInt < 2147483647) (h : next x = next y) : x = y := by
  have hsame := modEq_of_next_eq h
  rw [Int.ModEq, Int.emod_eq_of_lt hx.1 hx.2, Int.emod_eq_of_lt hy.1 hy.2] at hsame
  exact Int64.toInt_inj.1 hsame

/-- From every state, with no overflow on the way, some steps lead to the one residue that is
congruent to the state times so many multipliers. It is zero just for the multiples of the modulus,
and a residue is the next state of one residue only. -/
theorem iterate_next_modEq (x : Int64) (n : Nat) :
    (∀ state, Checked.advance? state = some (next state)) ∧
      (∀ r : Int, (next^[n + 1] x).toInt = r ↔
        (0 ≤ r ∧ r < 2147483647) ∧ r ≡ x.toInt * 16807 ^ (n + 1) [ZMOD 2147483647]) ∧
      ((next^[n + 1] x).toInt = 0 ↔ 2147483647 ∣ x.toInt) ∧
      ∀ a b : Int64, 0 ≤ a.toInt ∧ a.toInt < 2147483647 → 0 ≤ b.toInt ∧ b.toInt < 2147483647 →
        next a = next b → a = b := by
  refine ⟨Checked.advance?_eq, fun r => ?_, ?_, fun a b => next_inj⟩
  · rw [toInt_iterate_next, Int.ModEq]
    omega
  · rw [toInt_iterate_next, ← Int.dvd_iff_emod_eq_zero, modulus_dvd_mul_pow_iff]

end Generator

end DurableCalc
