import Mathlib.Tactic.Ring
import RpcSession.Proofs.Decimal.Rounding
import RpcSession.Session.Indexing

/-!
# Percentages of indexed files

The percentage goes through two roundings to doubles. It never decreases from one file to the
next, and of up to `2 ^ 53` files it is a hundred for all of them and for no fewer.
-/

namespace RpcSession.Session

open Decimal

/-- The most files that are all counted exactly. -/
def mostFiles : ℕ := 2 ^ 53

variable {indexed more files : ℕ}

theorem le_wholePart_iff (whole significand : ℕ) (exponent : ℤ) :
    whole ≤ (wholePart significand exponent).1 ↔ (whole : ℚ) ≤ valueOf (significand, exponent) := by
  have ratio := ratio_unscale significand 1 (-exponent)
  have positive := unscale_positive significand Nat.one_pos (-exponent)
  simp only [unscale, neg_neg, one_mul, Nat.cast_one, div_one] at ratio positive
  have scale : (0 : ℚ) < (Nat.pow 2 (-exponent).toNat : ℕ) := by exact_mod_cast positive
  have same : valueOf (significand, exponent) =
      ((significand * Nat.pow 2 exponent.toNat : ℕ) : ℚ) / (Nat.pow 2 (-exponent).toNat : ℕ) := by
    rw [ratio, valueOf, zpow_neg, div_inv_eq_mul]
  unfold wholePart
  rw [Nat.le_div_iff_mul_le positive, same, le_div_iff₀ scale]
  exact_mod_cast Iff.rfl

def hundredfold (double : ℕ × ℤ) : ℕ × ℤ :=
  nearest (double.1 * 100 * Nat.pow 2 double.2.toNat) (Nat.pow 2 (-double.2).toNat)

theorem positivePercentage_eq (some : 0 < indexed) :
    positivePercentage indexed files =
      wholePart (hundredfold (nearest indexed files)).1
        (hundredfold (nearest indexed files)).2 := by
  rw [positivePercentage, if_neg (Nat.ne_of_gt some)]
  generalize nearest indexed files = rounded
  rfl

theorem ratio_hundredfold (double : ℕ × ℤ) :
    ((double.1 * 100 * Nat.pow 2 double.2.toNat : ℕ) : ℚ) / (Nat.pow 2 (-double.2).toNat : ℕ) =
      100 * valueOf double := by
  have ratio := ratio_unscale (double.1 * 100) 1 (-double.2)
  simp only [unscale, neg_neg, one_mul, Nat.cast_one, div_one] at ratio
  rw [ratio, valueOf, zpow_neg, div_inv_eq_mul]
  push_cast
  ring

theorem hundredfold_mono {first second : ℕ × ℤ} (positive : 0 < first.1)
    (ordered : valueOf first ≤ valueOf second) :
    valueOf (hundredfold first) ≤ valueOf (hundredfold second) := by
  have value : 0 < valueOf second := by
    refine lt_of_lt_of_le ?_ ordered
    unfold valueOf
    positivity
  have nonzero : 0 < second.1 := by
    rcases Nat.eq_zero_or_pos second.1 with zero | nonzero
    · rw [valueOf, zero, Nat.cast_zero, zero_mul] at value
      exact absurd value (lt_irrefl 0)
    · exact nonzero
  have positive' (number : ℕ) (given : 0 < number) (power : ℕ) :
      0 < number * 100 * Nat.pow 2 power := by
    simp only [Nat.pow_eq]
    positivity
  have scale (power : ℕ) : 0 < Nat.pow 2 power := by
    simp only [Nat.pow_eq]
    positivity
  refine valueOf_nearest_mono (positive' _ positive _) (scale _) (positive' _ nonzero _)
    (scale _) ?_
  rw [ratio_hundredfold, ratio_hundredfold]
  linarith

theorem nearest_positive (some : 0 < indexed) (any : 0 < files) (few : files ≤ mostFiles) :
    0 < (nearest indexed files).1 := by
  have least : (0 : ℚ) < valueOf (nearest 1 mostFiles) := by
    have same : nearest 1 mostFiles = (2 ^ 52, -105) := by decide +kernel
    rw [same, valueOf]
    positivity
  have ordered : valueOf (nearest 1 mostFiles) ≤ valueOf (nearest indexed files) := by
    refine valueOf_nearest_mono Nat.one_pos (by decide) some any ?_
    have one : ((1 : ℕ) : ℚ) ≤ indexed := by exact_mod_cast some
    have bound : (files : ℚ) ≤ mostFiles := by exact_mod_cast few
    have nonzero : (0 : ℚ) < files := by exact_mod_cast any
    gcongr
  rcases Nat.eq_zero_or_pos (nearest indexed files).1 with zero | positive
  · have nothing : valueOf (nearest indexed files) = 0 := by
      rw [valueOf, zero, Nat.cast_zero, zero_mul]
    linarith
  · exact positive

theorem positivePercentage_mono (some : 0 < indexed) (ordered : indexed ≤ more) (any : 0 < files)
    (few : files ≤ mostFiles) :
    (positivePercentage indexed files).1 ≤ (positivePercentage more files).1 := by
  have quotients : valueOf (nearest indexed files) ≤ valueOf (nearest more files) := by
    refine valueOf_nearest_mono some any (by omega) any ?_
    have cast : (indexed : ℚ) ≤ more := by exact_mod_cast ordered
    gcongr
  have products := hundredfold_mono (nearest_positive some any few) quotients
  rw [positivePercentage_eq some, positivePercentage_eq (Nat.lt_of_lt_of_le some ordered),
    le_wholePart_iff]
  generalize hundredfold (nearest indexed files) = less at *
  generalize hundredfold (nearest more files) = greater at *
  exact le_trans ((le_wholePart_iff _ _ _).mp (Nat.le_refl _)) products

theorem positivePercentage_all (any : 0 < files) : (positivePercentage files files).1 = 100 := by
  have one : nearest files files = nearest 1 1 := by
    refine nearest_eq_of_ratio any any Nat.one_pos ?_
    have nonzero : (files : ℚ) ≠ 0 := by exact_mod_cast Nat.ne_of_gt any
    rw [div_self nonzero, Nat.cast_one, div_one]
  rw [positivePercentage_eq any, one]
  decide +kernel

/-- Fewer files than all are less than a hundred percent: the greatest quotient below one rounds to
the double below one, and its hundredfold to the double below a hundred. -/
theorem positivePercentage_lt (less : indexed < files) (few : files ≤ mostFiles) :
    (positivePercentage indexed files).1 < 100 := by
  rcases Nat.eq_zero_or_pos indexed with rfl | some
  · exact Nat.zero_lt_succ 99
  have any : 0 < files := by omega
  have quotients : valueOf (nearest indexed files) ≤
      valueOf (nearest (mostFiles - 1) mostFiles) := by
    refine valueOf_nearest_mono some any (by decide) (by decide) ?_
    have nonzero : (0 : ℚ) < files := by exact_mod_cast any
    have bound : (files : ℚ) ≤ mostFiles := by exact_mod_cast few
    have step : (indexed : ℚ) + 1 ≤ files := by exact_mod_cast less
    have all : ((mostFiles - 1 : ℕ) : ℚ) = mostFiles - 1 := by
      rw [Nat.cast_sub (by decide), Nat.cast_one]
    rw [all, div_le_div_iff₀ nonzero (by linarith)]
    nlinarith
  have products := hundredfold_mono (nearest_positive some any few) quotients
  rw [positivePercentage_eq some, ← Nat.not_le, le_wholePart_iff, not_le]
  refine lt_of_le_of_lt products ?_
  have same : hundredfold (nearest (mostFiles - 1) mostFiles) = (7036874417766399, -46) := by
    decide +kernel
  rw [same, valueOf]
  norm_num

theorem hundredfold_zero (place : ℤ) : valueOf (hundredfold (0, place)) = 0 := by
  have nothing (denominator : ℕ) : valueOf (nearest 0 denominator) = 0 := by
    rw [nearest]
    simp [unscale, roundQuotient, valueOf]
  rw [hundredfold, Nat.zero_mul, Nat.zero_mul]
  exact nothing _

theorem positivePercentage_le (ordered : indexed ≤ files) :
    (positivePercentage indexed files).1 ≤ 100 := by
  rcases Nat.eq_zero_or_pos indexed with rfl | some
  · exact Nat.zero_le 100
  have any : 0 < files := by omega
  rw [← Nat.lt_succ_iff, ← Nat.not_le, positivePercentage_eq some, le_wholePart_iff, not_le]
  have quotients : valueOf (nearest indexed files) ≤ valueOf (nearest 1 1) := by
    refine valueOf_nearest_mono some any Nat.one_pos Nat.one_pos ?_
    have nonzero : (0 : ℚ) < files := by exact_mod_cast any
    have cast : (indexed : ℚ) ≤ files := by exact_mod_cast ordered
    rw [Nat.cast_one, div_one, div_le_one nonzero]
    exact cast
  generalize nearest indexed files = rounded at *
  rcases rounded with ⟨significand, place⟩
  rcases Nat.eq_zero_or_pos significand with rfl | positive
  · rw [hundredfold_zero]
    norm_num
  · have same : hundredfold (nearest 1 1) = (7036874417766400, -46) := by decide +kernel
    have products := hundredfold_mono positive quotients
    rw [same] at products
    refine lt_of_le_of_lt products ?_
    rw [valueOf]
    norm_num

/-! ## Of a number of files that there are -/

theorem percentageOf_eq (any : 0 < files) (indexed : ℕ) :
    percentageOf indexed files = .ok ((positivePercentage indexed files).1 : ℤ) := by
  unfold percentageOf
  rw [if_neg (by omega), Int.natAbs_natCast]
  exact if_pos (by omega)

/-- The roundings may take one off the exact percentage. -/
example : (positivePercentage 29 100).1 = 28 := by decide +kernel

end RpcSession.Session
