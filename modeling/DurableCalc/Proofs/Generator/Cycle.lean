import DurableCalc.Proofs.Generator.Residues
import DurableCalc.Proofs.Session.Stream
import DurableCalc.Proofs.Text.Numeral
import Mathlib.FieldTheory.Finite.Basic
import Mathlib.NumberTheory.LucasPrimality
import Mathlib.RingTheory.RootsOfUnity.PrimitiveRoots
import Mathlib.Tactic.NormNum.Prime
import Mathlib.Tactic.ReduceModChar

/-!
# The generator has full period

The modulus is a prime, and the multiplier is a primitive root of it: the factors of 2147483646 show
both. So the generator runs through all residues but zero before it comes back to the first one, and
so many lines that a session draws one after the other are all different.
-/

namespace DurableCalc.Generator

def periodFactors : List Nat :=
  [2, 3, 3, 7, 11, 31, 151, 331]

theorem prod_periodFactors : periodFactors.prod = 2147483646 := by decide

theorem prime_of_mem_periodFactors : ∀ q ∈ periodFactors, q.Prime := by
  simp only [periodFactors, List.forall_mem_cons, List.not_mem_nil, false_imp_iff, implies_true]
  norm_num

theorem mem_periodFactors {q : Nat} (hq : q.Prime) (hdvd : q ∣ 2147483646) :
    q ∈ periodFactors := by
  rw [← prod_periodFactors, Prime.dvd_prod_iff hq.prime] at hdvd
  obtain ⟨p, hp, hqp⟩ := hdvd
  rwa [(Nat.prime_dvd_prime_iff_eq hq (prime_of_mem_periodFactors p hp)).1 hqp]

theorem multiplier_pow_eq_one : (16807 : ZMod 2147483647) ^ 2147483646 = 1 := by
  reduce_mod_char

theorem multiplier_pow_ne_one :
    ∀ q ∈ periodFactors, (16807 : ZMod 2147483647) ^ (2147483646 / q) ≠ 1 := by
  simp only [periodFactors, List.forall_mem_cons, List.not_mem_nil, false_imp_iff, implies_true,
    Nat.reduceDiv]
  refine ⟨?_, ?_, ?_, ?_, ?_, ?_, ?_, ?_, trivial⟩ <;> reduce_mod_char <;> decide

theorem prime_modulus : Nat.Prime 2147483647 :=
  lucas_primality _ 16807 multiplier_pow_eq_one fun q hq hdvd =>
    multiplier_pow_ne_one q (mem_periodFactors hq hdvd)

instance fact_prime_modulus : Fact (Nat.Prime 2147483647) := ⟨prime_modulus⟩

theorem orderOf_multiplier : orderOf (16807 : ZMod 2147483647) = 2147483646 :=
  orderOf_eq_of_pow_and_pow_div_prime (by decide) multiplier_pow_eq_one fun q hq hdvd =>
    multiplier_pow_ne_one q (mem_periodFactors hq hdvd)

def cycle : Set Int64 :=
  {x | 1 ≤ x.toInt ∧ x.toInt ≤ 2147483646}

variable {x y : Int64}

theorem mapsTo_cycle : Set.MapsTo next cycle cycle := fun _ => next_range

theorem iterate_mem_cycle (hx : x ∈ cycle) (n : Nat) : next^[n] x ∈ cycle :=
  mapsTo_cycle.iterate n hx

theorem cast_iterate_next (x : Int64) (n : Nat) :
    ((next^[n] x).toInt : ZMod 2147483647) = x.toInt * 16807 ^ n := by
  cases n with
  | zero => simp
  | succ n =>
    have hsame : (next^[n + 1] x).toInt ≡ x.toInt * 16807 ^ (n + 1) [ZMOD (2147483647 : Nat)] := by
      rw [toInt_iterate_next]
      exact Int.mod_modEq _ _
    rw [(ZMod.intCast_eq_intCast_iff _ _ _).2 hsame]
    push_cast
    rfl

theorem cast_inj (hx : x ∈ cycle) (hy : y ∈ cycle)
    (h : (x.toInt : ZMod 2147483647) = y.toInt) : x = y := by
  have hsame : x.toInt % 2147483647 = y.toInt % 2147483647 :=
    (ZMod.intCast_eq_intCast_iff _ _ _).1 h
  obtain ⟨hlow, hhigh⟩ := hx
  obtain ⟨hlow', hhigh'⟩ := hy
  exact Int64.toInt_inj.1 (by omega)

theorem cast_ne_zero (hx : x ∈ cycle) : (x.toInt : ZMod 2147483647) ≠ 0 := by
  obtain ⟨hlow, hhigh⟩ := hx
  rw [ne_eq, ZMod.intCast_zmod_eq_zero_iff_dvd]
  omega

theorem iterate_next_eq_self_iff (hx : x ∈ cycle) (n : Nat) :
    next^[n] x = x ↔ 2147483646 ∣ n := by
  have hcast : next^[n] x = x ↔ (x.toInt : ZMod 2147483647) * 16807 ^ n = x.toInt := by
    rw [← cast_iterate_next]
    exact ⟨fun h => by rw [h], cast_inj (iterate_mem_cycle hx n) hx⟩
  rw [hcast, mul_eq_left₀ (cast_ne_zero hx), ← orderOf_dvd_iff_pow_eq_one, orderOf_multiplier]

theorem exists_iterate_next_eq (hx : x ∈ cycle) (hy : y ∈ cycle) :
    ∃ n < 2147483646, next^[n] x = y := by
  have hx₀ := cast_ne_zero hx
  have hroot : IsPrimitiveRoot (16807 : ZMod 2147483647) 2147483646 :=
    orderOf_multiplier ▸ IsPrimitiveRoot.orderOf _
  -- The quotient of two residues is a root of unity, so that it is a power of the multiplier.
  have hquotient : ((y.toInt : ZMod 2147483647) / x.toInt) ^ 2147483646 = 1 :=
    ZMod.pow_card_sub_one_eq_one (div_ne_zero (cast_ne_zero hy) hx₀)
  obtain ⟨n, hn, hpow⟩ := hroot.eq_pow_of_pow_eq_one hquotient
  refine ⟨n, hn, cast_inj (iterate_mem_cycle hx n) hy ?_⟩
  rw [cast_iterate_next, hpow, mul_div_cancel₀ _ hx₀]

theorem bijOn_cycle : Set.BijOn next cycle cycle := by
  refine ⟨mapsTo_cycle, ?_, ?_⟩
  · rintro x ⟨hlow, hhigh⟩ y ⟨hlow', hhigh'⟩ h
    exact next_inj ⟨by omega, by omega⟩ ⟨by omega, by omega⟩ h
  · -- A state comes after the one that a period less one step leads to.
    intro y hy
    refine ⟨next^[2147483645] y, iterate_mem_cycle hy _, ?_⟩
    rw [← Function.iterate_succ_apply' next, iterate_next_eq_self_iff hy]

theorem seed_mem_cycle : Snapshot.fresh.rngState ∈ cycle := ⟨by decide, by decide⟩

theorem toInt_iterate_seed (n : Nat) : (next^[n] Snapshot.fresh.rngState).toInt = value n := by
  induction n with
  | zero => decide
  | succ n ih =>
    rw [Function.iterate_succ_apply']
    exact toInt_next_of_eq_value ih

/-- A value comes back after a whole period only. -/
theorem value_ne {j k : Nat} (hjk : j < k) (hk : k < j + 2147483646) : value j ≠ value k := by
  rw [← toInt_iterate_seed, ← toInt_iterate_seed, ne_eq, Int64.toInt_inj]
  intro hsame
  have hback : next^[k - j] (next^[j] Snapshot.fresh.rngState) =
      next^[j] Snapshot.fresh.rngState := by
    rw [← Function.iterate_add_apply, Nat.sub_add_cancel hjk.le, hsame]
  rw [iterate_next_eq_self_iff (iterate_mem_cycle seed_mem_cycle j)] at hback
  have hle := Nat.le_of_dvd (by omega) hback
  omega

theorem nodup_firstLines (n i : Nat) : (((firstLines n).drop i).take 2147483646).Nodup := by
  rw [List.nodup_iff_getElem?_ne_getElem?]
  intro j k hjk hk
  rw [List.length_take, List.length_drop, firstLines, List.length_map, List.length_range] at hk
  have hline (m : Nat) (hm : m ≤ k) : (((firstLines n).drop i).take 2147483646)[m]? =
      some (Text.decimal (value (i + m))) := by
    rw [List.getElem?_take_of_lt (by omega), List.getElem?_drop, firstLines, List.getElem?_map,
      List.getElem?_range (by omega), Option.map_some]
  rw [hline j hjk.le, hline k le_rfl, ne_eq, Option.some.injEq]
  exact fun h => value_ne (by omega) (by omega) (Text.decimal_inj h)

/-- The generator comes back to a state from 1 to 2147483646 just after every 2147483646 steps. So
it takes these states to each other in a single cycle and never comes from the seed to zero, and so
many lines that random sequences write one after the other, in a session that was started at the
seed, are all different. -/
theorem full_period :
    (∀ x ∈ cycle, ∀ n, next^[n] x = x ↔ 2147483646 ∣ n) ∧
      Set.BijOn next cycle cycle ∧
      (∀ x ∈ cycle, ∀ y ∈ cycle, ∃ n < 2147483646, next^[n] x = y) ∧
      (∀ n, next^[n] Snapshot.fresh.rngState ≠ 0) ∧
      ∀ (visits : List GentleVisit) (n i : Nat),
        let t := ((history [] (visits.map GentleVisit.visit)).take n).foldl Tally.note {}
        ((t.drawn.drop i).take 2147483646).Nodup := by
  refine ⟨fun x => iterate_next_eq_self_iff, bijOn_cycle,
    fun x hx y hy => exists_iterate_next_eq hx hy, ?_, ?_⟩
  · intro n hzero
    obtain ⟨hlow, -⟩ := iterate_mem_cycle seed_mem_cycle n
    rw [hzero, Int64.toInt_zero] at hlow
    omega
  · intro visits n i t
    have hdrawn : t.drawn = firstLines t.drawn.length :=
      ((inStream_history visits Tally.fits_fresh).take n).1
    rw [hdrawn]
    exact nodup_firstLines _ i

theorem full_period_seed : (420 : Int64) ∈ cycle ∧
    (∀ n, next^[n] 420 = 420 ↔ 2147483646 ∣ n) ∧ ∃ n < 2147483646, next^[n] 420 = 1 :=
  ⟨seed_mem_cycle, full_period.1 420 seed_mem_cycle,
    full_period.2.2.1 420 seed_mem_cycle 1 ⟨by decide, by decide⟩⟩

end DurableCalc.Generator
