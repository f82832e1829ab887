import Mathlib.Algebra.Order.Field.Power
import Mathlib.Order.Monotone.Basic
import Mathlib.Tactic.NormNum
import Mathlib.Tactic.Positivity
import Mathlib.Tactic.Ring
import ServiceContract.Numeral.Binary64

/-!
# Magnitudes of doubles

Doubles are compared by their ranks. The order of ranks is that of the rational numbers that the
doubles stand for.
-/

namespace ServiceContract.Numeral

/-! ## The magnitude of a rank -/

/-- The magnitude of a rank, counted in the least magnitude above zero. -/
def units (rank : Nat) : Nat :=
  (if rank < binade then rank else rank % binade + binade) * 2 ^ (max (rank / binade) 1 - 1)

theorem binade_pos : 0 < binade := by decide

/-- In one binade the magnitudes lie evenly. The first binade is as fine as that below it. -/
theorem units_eq {k i : Nat} (hi : i < binade) :
    units (k * binade + i) = if k = 0 then i else (i + binade) * 2 ^ (k - 1) := by
  have hdiv : (k * binade + i) / binade = k := by
    rw [Nat.mul_comm, Nat.mul_add_div binade_pos, Nat.div_eq_of_lt hi, Nat.add_zero]
  have hmod : (k * binade + i) % binade = i := by
    rw [Nat.mul_comm, Nat.mul_add_mod, Nat.mod_eq_of_lt hi]
  unfold units
  rw [hdiv, hmod]
  by_cases hk : k = 0
  · subst hk
    simp [hi]
  · have hge : ¬ k * binade + i < binade := by
      have hle := Nat.le_mul_of_pos_left binade (Nat.pos_of_ne_zero hk)
      omega
    rw [if_neg hge, if_neg hk, Nat.max_eq_left (Nat.one_le_iff_ne_zero.mpr hk)]

theorem units_lt_succ (rank : Nat) : units rank < units (rank + 1) := by
  obtain ⟨k, i, hi, rfl⟩ : ∃ k i, i < binade ∧ rank = k * binade + i :=
    ⟨rank / binade, rank % binade, Nat.mod_lt _ binade_pos, (Nat.div_add_mod' _ _).symm⟩
  by_cases hlast : i + 1 < binade
  · -- the next magnitude lies in the same binade
    rw [Nat.add_assoc, units_eq hi, units_eq hlast]
    split
    · omega
    · exact Nat.mul_lt_mul_of_pos_right (by omega) (by positivity)
  · -- the next magnitude is the first of the next binade
    have hnext : k * binade + i + 1 = (k + 1) * binade + 0 := by
      rw [Nat.succ_mul]
      omega
    rw [hnext, units_eq hi, units_eq binade_pos, if_neg (Nat.succ_ne_zero k), Nat.zero_add,
      Nat.add_sub_cancel]
    cases k with
    | zero => simpa using hi
    | succ k =>
        have hdouble : binade * 2 ^ (k + 1) = (binade + binade) * 2 ^ k := by ring
        rw [if_neg (Nat.succ_ne_zero k), Nat.add_sub_cancel, hdouble]
        exact Nat.mul_lt_mul_of_pos_right (by omega) (by positivity)

theorem units_strictMono : StrictMono units := strictMono_nat_of_lt_succ units_lt_succ

/-! ## Doubles as rational numbers -/

namespace FiniteDouble

/-- The number that a finite double stands for. -/
def toRat (x : FiniteDouble) : ℚ := (if x.negative then -1 else 1) * (x.mantissa * 2 ^ x.exponent)

theorem magnitude_eq (x : FiniteDouble) :
    (x.mantissa * 2 ^ x.exponent : ℚ) = units x.rank / 2 ^ 1074 := by
  have hexponent : x.exponent = ((max (x.rank / binade) 1 - 1 : Nat) : Int) - (1074 : Nat) := by
    rw [exponent]
    omega
  rw [hexponent, zpow_sub₀ (by norm_num), zpow_natCast, zpow_natCast, units, mantissa,
    Nat.cast_mul, Nat.cast_pow, Nat.cast_ofNat, mul_div_assoc]

/-- A double of a rank that stands for a natural number is below it just if its rank is lower. -/
theorem magnitude_lt_iff (x : FiniteDouble) {bound rank : Nat}
    (hbound : units rank = bound * 2 ^ 1074) :
    (x.mantissa * 2 ^ x.exponent : ℚ) < bound ↔ x.rank < rank := by
  rw [magnitude_eq, div_lt_iff₀ (by positivity), ← units_strictMono.lt_iff_lt, hbound]
  exact_mod_cast Iff.rfl

theorem magnitude_eq_zero_iff (x : FiniteDouble) :
    (x.mantissa * 2 ^ x.exponent : ℚ) = 0 ↔ x.isZero := by
  have hunits : units 0 = 0 := by simp [units]
  have hpow : (2 ^ 1074 : ℚ) ≠ 0 := pow_ne_zero _ (by norm_num)
  rw [magnitude_eq, div_eq_zero_iff, or_iff_left hpow, Nat.cast_eq_zero, ← hunits,
    units_strictMono.injective.eq_iff, isZero, beq_iff_eq]

theorem toRat_nonneg_iff (x : FiniteDouble) :
    0 ≤ x.toRat ↔ x.negative = false ∨ x.isZero := by
  have hmagnitude : (0 : ℚ) ≤ x.mantissa * 2 ^ x.exponent := by positivity
  rw [← magnitude_eq_zero_iff, toRat]
  cases x.negative with
  | false => simpa using hmagnitude
  | true =>
      simp only [if_true, neg_mul, one_mul, Left.nonneg_neg_iff, Bool.true_eq_false, false_or]
      exact ⟨fun h => le_antisymm h hmagnitude, fun h => h.le⟩

theorem toRat_eq_of_nonneg {x : FiniteDouble} (h : 0 ≤ x.toRat) :
    x.toRat = x.mantissa * 2 ^ x.exponent := by
  rcases x.toRat_nonneg_iff.mp h with hsign | hzero
  · simp [toRat, hsign]
  · simp [toRat, x.magnitude_eq_zero_iff.mpr hzero]

end FiniteDouble

namespace Double

/-- A double is within a bound just if it is a number that is not negative, and below it. -/
theorem isWithin_iff (bound : Nat) (hbound : units (nearestRank bound 1) = bound * 2 ^ 1074)
    {d : Double} :
    d.isWithin bound ↔ ∃ x, d = .finite x ∧ 0 ≤ x.toRat ∧ x.toRat < bound := by
  cases d with
  | infinite negative => simp [isWithin]
  | notANumber => simp [isWithin]
  | finite x =>
      have hwithin : (finite x).isWithin bound ↔ 0 ≤ x.toRat ∧ x.toRat < bound := by
        rw [isWithin, Bool.and_eq_true, decide_eq_true_eq, ← x.magnitude_lt_iff hbound,
          Bool.or_eq_true, Bool.not_eq_true', ← x.toRat_nonneg_iff]
        exact and_congr_right fun h => by rw [FiniteDouble.toRat_eq_of_nonneg h]
      rw [hwithin]
      constructor
      · exact fun h => ⟨x, rfl, h⟩
      · rintro ⟨y, hy, h⟩
        cases hy
        exact h

theorem isWithin_one_iff {d : Double} :
    d.isWithin 1 ↔ ∃ x, d = .finite x ∧ 0 ≤ x.toRat ∧ x.toRat < 1 := by
  exact_mod_cast isWithin_iff 1 (by decide +kernel)

theorem isWithin_hundred_iff {d : Double} :
    d.isWithin 100 ↔ ∃ x, d = .finite x ∧ 0 ≤ x.toRat ∧ x.toRat < 100 := by
  exact_mod_cast isWithin_iff 100 (by decide +kernel)

end Double

end ServiceContract.Numeral
