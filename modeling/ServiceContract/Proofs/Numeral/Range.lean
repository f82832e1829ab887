import Mathlib.Algebra.Order.Ring.Nat
import Mathlib.Tactic.Ring
import ServiceContract.Numeral.Binary64

/-!
# Integers as doubles

An integer of at most 64 bits is far below the greatest double.
-/

namespace ServiceContract.Numeral

theorem roundHalfEven_le (num den : Nat) : roundHalfEven num den ≤ num / den + 1 := by
  unfold roundHalfEven
  dsimp only
  split
  · omega
  · split
    · omega
    · split <;> omega

/-- The last place of an integer is at most 53 places below its first. -/
theorem placeExponent_bounds (n : Nat) :
    (n.log2 : Int) - 53 ≤ placeExponent n 1 ∧
      placeExponent n 1 ≤ max ((n.log2 : Int) - 52) (-1074) := by
  have hone : Nat.log2 1 = 0 := by decide
  unfold placeExponent
  rw [hone]
  dsimp only
  split <;> omega

theorem nearestRank_lt {n : Nat} (h : n ≤ bitLimit 64) : nearestRank n 1 < rankLimit := by
  unfold nearestRank
  split
  · decide
  next hn =>
    dsimp only
    obtain ⟨hlow, hhigh⟩ := placeExponent_bounds n
    generalize placeExponent n 1 = e at hlow hhigh
    have hlog : n.log2 ≤ 64 := by
      have hpow : n < 2 ^ 65 := lt_of_le_of_lt h (by decide)
      have hlt := (Nat.log2_lt hn).mpr hpow
      omega
    have hn_lt : n < 2 ^ (n.log2 + 1) := Nat.lt_log2_self
    -- the digits that are kept are at most 54 bits
    have hdigits : (if 0 ≤ e then roundHalfEven n (1 * Nat.pow 2 e.toNat)
        else roundHalfEven (n * Nat.pow 2 (-e).toNat) 1) ≤ 2 ^ 54 := by
      split
      · next he =>
          refine (roundHalfEven_le _ _).trans (Nat.succ_le_of_lt ?_)
          have hsplit : n < 2 ^ 54 * 2 ^ e.toNat := by
            rw [← pow_add]
            exact hn_lt.trans_le (Nat.pow_le_pow_right (by omega) (by omega))
          rw [Nat.one_mul]
          exact Nat.div_lt_of_lt_mul (by rwa [Nat.mul_comm])
      · next he =>
          refine (roundHalfEven_le _ _).trans (Nat.succ_le_of_lt ?_)
          rw [Nat.div_one]
          have hpos : 0 < 2 ^ (-e).toNat := Nat.two_pow_pos _
          calc n * Nat.pow 2 (-e).toNat
              < 2 ^ (n.log2 + 1) * 2 ^ (-e).toNat := Nat.mul_lt_mul_of_pos_right hn_lt hpos
            _ = 2 ^ (n.log2 + 1 + (-e).toNat) := (pow_add _ _ _).symm
            _ ≤ 2 ^ 54 := Nat.pow_le_pow_right (by omega) (by omega)
    have hplaces : (e + 1074).toNat ≤ 1086 := by omega
    calc _ ≤ 1086 * binade + 2 ^ 54 := Nat.add_le_add (Nat.mul_le_mul_right _ hplaces) hdigits
      _ < rankLimit := by decide

/-- An integer of at most 64 bits is rounded to a finite number. -/
theorem Double.exists_ofInt_eq {n : Int} (h : isSigned 64 n || isUnsigned 64 n) :
    ∃ x, Double.ofInt n = .finite x := by
  have hbound : n.natAbs ≤ bitLimit 64 := by
    have hsigned : bitLimit (64 - 1) ≤ bitLimit 64 := by decide
    simp only [isSigned, isUnsigned, Bool.or_eq_true, Bool.and_eq_true, decide_eq_true_eq] at h
    omega
  exact ⟨⟨_, _, nearestRank_lt hbound⟩, dif_pos (nearestRank_lt hbound)⟩

end ServiceContract.Numeral
