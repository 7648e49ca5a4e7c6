import Mathlib.Tactic.Ring
import RpcSession.Decimal.Shortest
import RpcSession.Proofs.Decimal.Doubles
import RpcSession.Proofs.Decimal.Rounding

/-!
# Numbers around a double

Every number in the neighbourhood of a double rounds to the double, and the search on a decimal
grid finds numbers of the neighbourhood only.
-/

namespace RpcSession.Decimal

/-! ## Numbers in a neighbourhood -/

/-- Whether a number lies in the neighbourhood of a double with the given exponent. -/
structure Neighbourhood.Holds (neighbourhood : Neighbourhood) (exponent : ℤ) (number : ℚ) :
    Prop where
  lower : (neighbourhood.lower : ℚ) * 2 ^ (exponent - 2) ≤ number
  upper : number ≤ (neighbourhood.upper : ℚ) * 2 ^ (exponent - 2)
  inside : neighbourhood.closed = false →
    (neighbourhood.lower : ℚ) * 2 ^ (exponent - 2) < number ∧
      number < (neighbourhood.upper : ℚ) * 2 ^ (exponent - 2)

variable {neighbourhood : Neighbourhood} {significand : ℕ} {exponent power : ℤ} {number : ℚ}

theorem Neighbourhood.Holds.of_strict
    (after : (neighbourhood.lower : ℚ) * 2 ^ (exponent - 2) < number)
    (before : number < (neighbourhood.upper : ℚ) * 2 ^ (exponent - 2)) :
    neighbourhood.Holds exponent number :=
  ⟨after.le, before.le, fun _ => ⟨after, before⟩⟩

theorem two_zpow_quarter (exponent : ℤ) (places : ℕ) :
    (2 : ℚ) ^ (exponent + places) = 2 ^ (places + 2) * 2 ^ (exponent - 2) := by
  have split : exponent + places = ((places + 2 : ℕ) : ℤ) + (exponent - 2) := by
    push_cast
    ring
  rw [split, zpow_add₀ (by norm_num), zpow_natCast]

theorem two_zpow_whole (exponent : ℤ) : (2 : ℚ) ^ exponent = 4 * 2 ^ (exponent - 2) := by
  have split := two_zpow_quarter exponent 0
  norm_num at split
  exact split

theorem commonMeasure_eq (exponent power : ℤ) :
    ∃ scale : ℚ, 0 < scale ∧
      ((commonMeasure exponent power).1 : ℚ) = scale * 2 ^ (exponent - 2) ∧
      ((commonMeasure exponent power).2 : ℚ) = scale * 10 ^ power := by
  have split (base : ℚ) (nonzero : base ≠ 0) (place : ℤ) :
      base ^ place.toNat = base ^ (-place).toNat * base ^ place := by
    rw [← zpow_natCast, ← zpow_natCast, ← zpow_add₀ nonzero]
    congr 1
    omega
  refine ⟨2 ^ (-(exponent - 2)).toNat * 10 ^ (-power).toNat, by positivity, ?_, ?_⟩
  · simp only [commonMeasure, Nat.pow_eq]
    push_cast
    rw [split 2 (by norm_num) (exponent - 2)]
    ring
  · simp only [commonMeasure, Nat.pow_eq]
    push_cast
    rw [split 10 (by norm_num) power]
    ring

theorem contains_iff (candidate : ℕ) :
    neighbourhood.contains (commonMeasure exponent power).1 (commonMeasure exponent power).2
        candidate = true ↔ neighbourhood.Holds exponent (candidate * 10 ^ power) := by
  rcases commonMeasure_eq exponent power with ⟨scale, positive, quarters, units⟩
  have compare (bound : ℕ) :
      (bound * (commonMeasure exponent power).1 ≤ candidate * (commonMeasure exponent power).2 ↔
        (bound : ℚ) * 2 ^ (exponent - 2) ≤ candidate * 10 ^ power) ∧
      (candidate * (commonMeasure exponent power).2 ≤ bound * (commonMeasure exponent power).1 ↔
        (candidate : ℚ) * 10 ^ power ≤ bound * 2 ^ (exponent - 2)) := by
    have quarter : ((bound * (commonMeasure exponent power).1 : ℕ) : ℚ) =
        scale * (bound * 2 ^ (exponent - 2)) := by
      rw [Nat.cast_mul, quarters]
      ring
    have unit : ((candidate * (commonMeasure exponent power).2 : ℕ) : ℚ) =
        scale * (candidate * 10 ^ power) := by
      rw [Nat.cast_mul, units]
      ring
    rw [← Nat.cast_le (α := ℚ), ← Nat.cast_le (α := ℚ), quarter, unit]
    exact ⟨mul_le_mul_iff_right₀ positive, mul_le_mul_iff_right₀ positive⟩
  rcases compare neighbourhood.lower with ⟨lower, lower'⟩
  rcases compare neighbourhood.upper with ⟨upper', upper⟩
  unfold Neighbourhood.contains
  dsimp only
  cases closed : neighbourhood.closed with
  | true =>
      simp only [if_true, Bool.and_eq_true, decide_eq_true_eq, lower, upper]
      exact ⟨fun ⟨below, above⟩ => ⟨below, above, by simp [closed]⟩,
        fun holds => ⟨holds.lower, holds.upper⟩⟩
  | false =>
      simp only [Bool.false_eq_true, if_false, Bool.and_eq_true, decide_eq_true_eq, ← not_le,
        lower', upper']
      constructor
      · rintro ⟨below, above⟩
        exact ⟨(not_le.mp below).le, (not_le.mp above).le,
          fun _ => ⟨not_le.mp below, not_le.mp above⟩⟩
      · intro holds
        rcases holds.inside closed with ⟨below, above⟩
        exact ⟨not_le.mpr below, not_le.mpr above⟩

/-! ## Bounds of a neighbourhood -/

namespace Neighbourhood

@[simp] theorem upper_ofSignificand (significand : ℕ) (exponent : ℤ) :
    ((ofSignificand significand exponent).upper : ℚ) = 4 * significand + 2 := by
  unfold ofSignificand
  push_cast
  rfl

theorem lower_ofSignificand (positive : 0 < significand)
    (other : ¬(significand = 2 ^ 52 ∧ leastExponent < exponent)) :
    ((ofSignificand significand exponent).lower : ℚ) = 4 * significand - 2 := by
  have notPower : ¬(significand = Nat.pow 2 52 ∧ leastExponent < exponent) := other
  simp only [ofSignificand, if_neg notPower]
  rw [Nat.cast_sub (by omega)]
  push_cast
  rfl

/-- The double below a power of two is only half as far away as the one above. -/
theorem lower_ofSignificand_power (normal : leastExponent < exponent) :
    ((ofSignificand (2 ^ 52) exponent).lower : ℚ) = 2 ^ 54 - 1 := by
  have isPower : 2 ^ 52 = Nat.pow 2 52 ∧ leastExponent < exponent := ⟨rfl, normal⟩
  simp only [ofSignificand, if_pos isPower]
  norm_num

theorem lower_ofSignificand_bounds (positive : 0 < significand) (exponent : ℤ) :
    (4 * significand - 2 : ℚ) ≤ (ofSignificand significand exponent).lower ∧
      ((ofSignificand significand exponent).lower : ℚ) ≤ 4 * significand - 1 := by
  by_cases power : significand = 2 ^ 52 ∧ leastExponent < exponent
  · rcases power with ⟨rfl, normal⟩
    rw [lower_ofSignificand_power normal]
    norm_num
  · rw [lower_ofSignificand positive power]
    constructor <;> linarith

theorem lower_ofSignificand_pos (positive : 0 < significand) (exponent : ℤ) :
    0 < (ofSignificand significand exponent).lower := by
  have one : (1 : ℚ) ≤ significand := by exact_mod_cast positive
  have bound := (lower_ofSignificand_bounds positive exponent).1
  have cast : (0 : ℚ) < (ofSignificand significand exponent).lower := by linarith
  exact_mod_cast cast

/-- Counted in quarters of the last place, a number is at most half a place away from a double in
whose neighbourhood it lies. -/
theorem Holds.quarters (holds : (ofSignificand significand exponent).Holds exponent number) :
    (4 * significand - 2 : ℚ) ≤ number / 2 ^ (exponent - 2) ∧
      number / 2 ^ (exponent - 2) ≤ 4 * significand + 2 := by
  have quarter : (0 : ℚ) < 2 ^ (exponent - 2) := by positivity
  constructor
  · rw [le_div_iff₀ quarter]
    refine le_trans ?_ holds.lower
    gcongr
    rcases Nat.eq_zero_or_pos significand with rfl | positive
    · refine le_trans ?_ (Nat.cast_nonneg _)
      norm_num
    · exact (lower_ofSignificand_bounds positive exponent).1
  · rw [div_le_iff₀ quarter, ← upper_ofSignificand significand exponent]
    exact holds.upper

private theorem Holds.quarters_of_odd
    (holds : (ofSignificand significand exponent).Holds exponent number)
    (odd : significand % 2 = 1) :
    (4 * significand - 2 : ℚ) < number / 2 ^ (exponent - 2) ∧
      number / 2 ^ (exponent - 2) < 4 * significand + 2 := by
  have quarter : (0 : ℚ) < 2 ^ (exponent - 2) := by positivity
  have apart : (ofSignificand significand exponent).closed = false := by
    simp [ofSignificand, odd]
  have notPower : ¬(significand = 2 ^ 52 ∧ leastExponent < exponent) := by omega
  rcases holds.inside apart with ⟨lower, upper⟩
  rw [lower_ofSignificand (by omega) notPower] at lower
  rw [upper_ofSignificand] at upper
  exact ⟨(lt_div_iff₀ quarter).mpr lower, (div_lt_iff₀ quarter).mpr upper⟩

end Neighbourhood

/-! ## Rounding in a neighbourhood

Whatever lies in the neighbourhood of a double is rounded to it, also below a power of two, where
the doubles are twice as close. -/

private theorem isNearestWhole_of_holds
    (holds : (Neighbourhood.ofSignificand significand exponent).Holds exponent number) :
    IsNearestWhole (number / 2 ^ exponent) significand := by
  have scaled : number / 2 ^ exponent * 4 = number / 2 ^ (exponent - 2) := by
    rw [two_zpow_whole exponent]
    field_simp
  rcases Nat.mod_two_eq_zero_or_one significand with even | odd
  · have within := holds.quarters
    rw [← scaled] at within
    rcases within with ⟨below, above⟩
    exact .of_even (by linarith) (by linarith) even
  · have within := holds.quarters_of_odd odd
    rw [← scaled] at within
    rcases within with ⟨below, above⟩
    exact .of_strict (by linarith) (by linarith)

private theorem isNearest_of_holds (double : IsDouble significand exponent)
    (holds : (Neighbourhood.ofSignificand significand exponent).Holds exponent number)
    (range : exponent = leastExponent ∨ 2 ^ (exponent + 52) ≤ number) :
    IsNearest number (significand, exponent) := by
  refine ⟨⟨double.least, ?_, range⟩, isNearestWhole_of_holds holds⟩
  have quarter : (0 : ℚ) < 2 ^ (exponent - 2) := by positivity
  have upper := (div_le_iff₀ quarter).mp holds.quarters.2
  have small : (significand : ℚ) + 1 ≤ 2 ^ 53 := by exact_mod_cast double.small
  have power := two_zpow_quarter exponent 53
  norm_num at power small
  rw [power]
  nlinarith

/-- Only the neighbourhood of a power of two, the least significand of its binary range, reaches
below that range. -/
private theorem significand_of_holds_below (double : IsDouble significand exponent)
    (holds : (Neighbourhood.ofSignificand significand exponent).Holds exponent number)
    (normal : leastExponent < exponent) (below : number < 2 ^ (exponent + 52)) :
    significand = 2 ^ 52 := by
  have leading : 2 ^ 52 ≤ significand := by
    rcases double.leading with leading | least
    · exact leading
    · omega
  by_contra other
  have more : 2 ^ 52 + 1 ≤ significand := by omega
  have cast : (2 : ℚ) ^ 52 + 1 ≤ significand := by exact_mod_cast more
  have bound := holds.lower
  rw [Neighbourhood.lower_ofSignificand (by omega) fun power => other power.1] at bound
  have grown : (18014398509481984 : ℚ) * 2 ^ (exponent - 2) ≤
      (4 * (significand : ℚ) - 2) * 2 ^ (exponent - 2) := by
    gcongr
    linarith
  have power := two_zpow_quarter exponent 52
  norm_num at power
  rw [power] at below
  linarith

private theorem isNearest_of_holds_below (double : IsDouble significand exponent)
    (holds : (Neighbourhood.ofSignificand significand exponent).Holds exponent number)
    (normal : leastExponent < exponent) (below : number < 2 ^ (exponent + 52)) :
    significand = 2 ^ 52 ∧ IsNearest number (2 ^ 53, exponent - 1) := by
  have same := significand_of_holds_below double holds normal below
  refine ⟨same, ?_⟩
  have quarter : (0 : ℚ) < 2 ^ (exponent - 2) := by positivity
  have power := two_zpow_quarter exponent 52
  norm_num at power
  have bound : (2 ^ 54 - 1 : ℚ) * 2 ^ (exponent - 2) ≤ number := by
    have lower := holds.lower
    rw [same, Neighbourhood.lower_ofSignificand_power normal] at lower
    exact lower
  have half : (2 : ℚ) ^ (exponent - 1) = 2 * 2 ^ (exponent - 2) := by
    rw [show exponent - 1 = 1 + (exponent - 2) by ring, zpow_add₀ (by norm_num), zpow_one]
  refine ⟨⟨by dsimp only; omega, ?_, .inr ?_⟩, ?_⟩
  · dsimp only
    rw [show exponent - 1 + 53 = exponent + 52 by ring]
    exact below
  · dsimp only
    have lower := two_zpow_quarter (exponent - 1) 52
    rw [show exponent - 1 - 2 = (exponent - 2) - 1 by ring, zpow_sub₀ (by norm_num)] at lower
    norm_num at lower bound
    rw [lower]
    nlinarith
  · have scaled : number / 2 ^ (exponent - 1) * 2 = number / 2 ^ (exponent - 2) := by
      rw [half]
      field_simp
    have lower : (2 ^ 54 - 1 : ℚ) ≤ number / 2 ^ (exponent - 1) * 2 := by
      rw [scaled, le_div_iff₀ quarter]
      exact bound
    have upper : number / 2 ^ (exponent - 1) * 2 < 2 ^ 54 := by
      rw [scaled, div_lt_iff₀ quarter]
      rw [power] at below
      norm_num
      exact below
    refine .of_even ?_ ?_ (by norm_num) <;> push_cast <;> norm_num at lower upper ⊢ <;> linarith

/-- Every quotient in the neighbourhood of a double is rounded to the double. -/
theorem assemble_nearest_of_holds {numerator denominator : ℕ} (nonzero : 0 < numerator)
    (positive : 0 < denominator) (double : IsDouble significand exponent)
    (holds : (Neighbourhood.ofSignificand significand exponent).Holds exponent
      ((numerator : ℚ) / denominator)) (negative : Bool) :
    assemble negative (nearest numerator denominator).1 (nearest numerator denominator).2 =
      assemble negative significand exponent := by
  have near := isNearest_nearest nonzero positive
  by_cases range : exponent = leastExponent ∨
      (2 : ℚ) ^ (exponent + 52) ≤ (numerator : ℚ) / denominator
  · rw [near.unique (isNearest_of_holds double holds range)]
  · rw [not_or, not_le] at range
    have least := double.least
    rcases isNearest_of_holds_below double holds (by omega) range.2 with ⟨rfl, below⟩
    rw [near.unique below]
    exact assemble_carry negative exponent

end RpcSession.Decimal
