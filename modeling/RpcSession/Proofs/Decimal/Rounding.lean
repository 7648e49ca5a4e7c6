import Mathlib.Algebra.Order.Field.Basic
import Mathlib.Algebra.Order.Field.Power
import Mathlib.Data.Rat.Cast.Order
import Mathlib.Tactic.FieldSimp
import Mathlib.Tactic.Linarith
import Mathlib.Tactic.NormNum
import Mathlib.Tactic.Positivity
import RpcSession.Decimal.Exact

/-!
# Rounding to the nearest double

Rounding a quotient depends on the number that it stands for and on nothing else, it never turns
the order of two numbers round, and a number that is a double stays as it is.
-/

namespace RpcSession.Decimal

/-! ## Nearest whole numbers -/

/-- A whole number that is nearest to a number, and even when another one is as near. -/
structure IsNearestWhole (number : ℚ) (whole : ℕ) : Prop where
  lower : 2 * (whole : ℚ) - 1 ≤ 2 * number
  upper : 2 * number ≤ 2 * (whole : ℚ) + 1
  tieBelow : 2 * (whole : ℚ) - 1 = 2 * number → whole % 2 = 0
  tieAbove : 2 * number = 2 * (whole : ℚ) + 1 → whole % 2 = 0

namespace IsNearestWhole

variable {first second : ℚ} {one other : ℕ}

theorem of_strict {number : ℚ} {whole : ℕ} (lower : 2 * (whole : ℚ) - 1 < 2 * number)
    (upper : 2 * number < 2 * (whole : ℚ) + 1) : IsNearestWhole number whole :=
  ⟨lower.le, upper.le, fun tie => absurd tie lower.ne, fun tie => absurd tie upper.ne⟩

theorem of_even {number : ℚ} {whole : ℕ} (lower : 2 * (whole : ℚ) - 1 ≤ 2 * number)
    (upper : 2 * number ≤ 2 * (whole : ℚ) + 1) (even : whole % 2 = 0) :
    IsNearestWhole number whole :=
  ⟨lower, upper, fun _ => even, fun _ => even⟩

theorem of_whole (whole : ℕ) : IsNearestWhole whole whole :=
  of_strict (by linarith) (by linarith)

theorem mono (ordered : first ≤ second) (nearFirst : IsNearestWhole first one)
    (nearSecond : IsNearestWhole second other) : one ≤ other := by
  by_contra less
  have step : other + 1 ≤ one := by omega
  have apart : (other : ℚ) + 1 ≤ one := by exact_mod_cast step
  have below := nearFirst.lower
  have above := nearSecond.upper
  -- Both are half-way between two neighbours, which cannot both be even.
  have tieFirst : 2 * (one : ℚ) - 1 = 2 * first := by linarith
  have tieSecond : 2 * second = 2 * (other : ℚ) + 1 := by linarith
  have evenFirst := nearFirst.tieBelow tieFirst
  have evenSecond := nearSecond.tieAbove tieSecond
  have neighbours : (one : ℚ) = other + 1 := by linarith
  have same : one = other + 1 := by exact_mod_cast neighbours
  omega

private theorem unique (nearFirst : IsNearestWhole first one)
    (nearSecond : IsNearestWhole first other) :
    one = other :=
  Nat.le_antisymm (nearFirst.mono (le_refl first) nearSecond)
    (nearSecond.mono (le_refl first) nearFirst)

end IsNearestWhole

private theorem isNearestWhole_of_remainder {quotient remainder denominator : ℕ} {fraction : ℚ}
    (small : remainder < denominator) (bounds : 0 ≤ fraction)
    (part : fraction * denominator = remainder) :
    IsNearestWhole (quotient + fraction)
      (if 2 * remainder < denominator then quotient
      else if denominator < 2 * remainder then quotient + 1
      else quotient + quotient % 2) := by
  have scale : (0 : ℚ) < denominator := by exact_mod_cast (Nat.zero_le remainder).trans_lt small
  have next : ((quotient + 1 : ℕ) : ℚ) = quotient + 1 := by push_cast; rfl
  rcases Nat.lt_trichotomy (2 * remainder) denominator with less | same | more
  · have half : 2 * fraction < 1 := by
      have cast : 2 * (remainder : ℚ) < denominator := by exact_mod_cast less
      nlinarith
    rw [if_pos less]
    exact .of_strict (by linarith) (by linarith)
  · have half : 2 * fraction = 1 := by
      have cast : 2 * (remainder : ℚ) = denominator := by exact_mod_cast same
      rw [← part] at cast
      have factored : (2 * fraction - 1) * denominator = 0 := by linarith
      rcases mul_eq_zero.mp factored with done | zero
      · linarith
      · exact absurd zero scale.ne'
    rw [if_neg (by omega), if_neg (by omega)]
    rcases Nat.mod_two_eq_zero_or_one quotient with even | odd
    · rw [even, Nat.add_zero]
      exact .of_even (by linarith) (by linarith) even
    · rw [odd]
      exact .of_even (by linarith) (by linarith) (by omega)
  · have half : 1 < 2 * fraction := by
      have cast : (denominator : ℚ) < 2 * remainder := by exact_mod_cast more
      nlinarith
    have whole : fraction < 1 := by
      have cast : (remainder : ℚ) < denominator := by exact_mod_cast small
      nlinarith
    rw [if_neg (by omega), if_pos more]
    exact .of_strict (by linarith) (by linarith)

private theorem isNearestWhole_roundQuotient (numerator : ℕ) {denominator : ℕ}
    (positive : 0 < denominator) :
    IsNearestWhole ((numerator : ℚ) / denominator) (roundQuotient numerator denominator) := by
  have division : denominator * (numerator / denominator) + numerator % denominator = numerator :=
    Nat.div_add_mod numerator denominator
  have small : numerator % denominator < denominator := Nat.mod_lt numerator positive
  have scale : (0 : ℚ) < denominator := by exact_mod_cast positive
  have ratio : (numerator : ℚ) / denominator =
      (numerator / denominator : ℕ) + ((numerator % denominator : ℕ) : ℚ) / denominator := by
    generalize numerator / denominator = quotient at division ⊢
    generalize numerator % denominator = remainder at division ⊢
    rw [← division]
    push_cast
    field_simp
  rw [ratio]
  exact isNearestWhole_of_remainder small (by positivity) (div_mul_cancel₀ _ scale.ne')

/-! ## Last places -/

structure IsLastPlace (number : ℚ) (place : ℤ) : Prop where
  least : leastExponent ≤ place
  above : number < 2 ^ (place + 53)
  below : place = leastExponent ∨ 2 ^ (place + 52) ≤ number

theorem two_zpow_le {first second : ℤ} (ordered : first ≤ second) :
    (2 : ℚ) ^ first ≤ 2 ^ second := zpow_le_zpow_right₀ (by norm_num) ordered

theorem two_zpow_lt {first second : ℤ} (ordered : first < second) :
    (2 : ℚ) ^ first < 2 ^ second := zpow_lt_zpow_right₀ (by norm_num) ordered

namespace IsLastPlace

variable {first second : ℚ} {one other : ℤ}

theorem mono (ordered : first ≤ second) (lastFirst : IsLastPlace first one)
    (lastSecond : IsLastPlace second other) : one ≤ other := by
  by_contra less
  have higher : other < one := by omega
  rcases lastFirst.below with least | reached
  · have bound := lastSecond.least
    omega
  · have between : (2 : ℚ) ^ (other + 53) ≤ 2 ^ (one + 52) := two_zpow_le (by omega)
    have above := lastSecond.above
    linarith

private theorem unique (lastFirst : IsLastPlace first one) (lastSecond : IsLastPlace first other) :
    one = other :=
  le_antisymm (lastFirst.mono (le_refl first) lastSecond)
    (lastSecond.mono (le_refl first) lastFirst)

end IsLastPlace

theorem ratio_unscale (numerator denominator : ℕ) (exponent : ℤ) :
    ((unscale numerator denominator exponent).1 : ℚ) /
        (unscale numerator denominator exponent).2 =
      (numerator : ℚ) / denominator / 2 ^ exponent := by
  unfold unscale
  simp only [Nat.pow_eq, Nat.cast_mul, Nat.cast_pow, Nat.cast_ofNat]
  rcases Int.le_total 0 exponent with up | down
  · rw [Int.toNat_eq_zero.mpr (by omega : -exponent ≤ 0), pow_zero, mul_one,
      ← zpow_natCast, Int.toNat_of_nonneg up, div_div]
  · rw [Int.toNat_eq_zero.mpr down, pow_zero, mul_one, ← zpow_natCast,
      Int.toNat_of_nonneg (by omega : 0 ≤ -exponent), zpow_neg]
    field_simp

theorem unscale_positive (numerator : ℕ) {denominator : ℕ} (positive : 0 < denominator)
    (exponent : ℤ) : 0 < (unscale numerator denominator exponent).2 := by
  unfold unscale
  simp only [Nat.pow_eq]
  positivity

theorem unscaled_le_iff {numerator denominator : ℕ} (positive : 0 < denominator)
    (exponent : ℤ) :
    (unscale numerator denominator exponent).2 ≤ (unscale numerator denominator exponent).1 ↔
      (2 : ℚ) ^ exponent ≤ (numerator : ℚ) / denominator := by
  have ratio := ratio_unscale numerator denominator exponent
  have scale := unscale_positive numerator positive exponent
  generalize unscale numerator denominator exponent = scaled at ratio scale
  have cast : (0 : ℚ) < scaled.2 := by exact_mod_cast scale
  have power : (0 : ℚ) < 2 ^ exponent := by positivity
  rw [← one_le_div₀ power, ← ratio, one_le_div₀ cast]
  exact_mod_cast Iff.rfl

private theorem log2_bounds {number : ℕ} (positive : 0 < number) :
    (2 : ℚ) ^ (number.log2 : ℤ) ≤ number ∧ (number : ℚ) < 2 ^ ((number.log2 : ℤ) + 1) := by
  constructor
  · rw [zpow_natCast]
    exact_mod_cast Nat.log2_self_le (Nat.ne_of_gt positive)
  · have below : number < 2 ^ (number.log2 + 1) := Nat.lt_log2_self
    have same : (number.log2 : ℤ) + 1 = ((number.log2 + 1 : ℕ) : ℤ) := by push_cast; rfl
    rw [same, zpow_natCast]
    exact_mod_cast below

private theorem isLastPlace_lastPlace {numerator denominator : ℕ} (nonzero : 0 < numerator)
    (positive : 0 < denominator) :
    IsLastPlace ((numerator : ℚ) / denominator) (lastPlace numerator denominator) := by
  rcases log2_bounds nonzero with ⟨numeratorLower, numeratorUpper⟩
  rcases log2_bounds positive with ⟨denominatorLower, denominatorUpper⟩
  have scale : (0 : ℚ) < denominator := by exact_mod_cast positive
  generalize estimated : (numerator.log2 : ℤ) - denominator.log2 = estimate
  have upper : (numerator : ℚ) / denominator < 2 ^ (estimate + 1) := by
    rw [div_lt_iff₀ scale]
    calc (numerator : ℚ) < 2 ^ ((numerator.log2 : ℤ) + 1) := numeratorUpper
      _ = 2 ^ (estimate + 1) * 2 ^ (denominator.log2 : ℤ) := by
        rw [← zpow_add₀ (by norm_num)]
        congr 1
        omega
      _ ≤ 2 ^ (estimate + 1) * denominator := by gcongr
  have lower : (2 : ℚ) ^ (estimate - 1) ≤ (numerator : ℚ) / denominator := by
    rw [le_div_iff₀ scale]
    calc (2 : ℚ) ^ (estimate - 1) * denominator
        ≤ 2 ^ (estimate - 1) * 2 ^ ((denominator.log2 : ℤ) + 1) := by gcongr
      _ = 2 ^ (numerator.log2 : ℤ) := by
        rw [← zpow_add₀ (by norm_num)]
        congr 1
        omega
      _ ≤ numerator := numeratorLower
  have leading : ∃ leading : ℤ, (2 : ℚ) ^ leading ≤ (numerator : ℚ) / denominator ∧
      (numerator : ℚ) / denominator < 2 ^ (leading + 1) ∧
      lastPlace numerator denominator = max leastExponent (leading - 52) := by
    unfold lastPlace
    dsimp only
    rw [estimated]
    by_cases reached : (2 : ℚ) ^ estimate ≤ (numerator : ℚ) / denominator
    · exact ⟨estimate, reached, upper, by rw [if_pos ((unscaled_le_iff positive _).mpr reached)]⟩
    · refine ⟨estimate - 1, lower, ?_, ?_⟩
      · rw [sub_add_cancel]
        exact not_le.mp reached
      · rw [if_neg fun scaled => reached ((unscaled_le_iff positive _).mp scaled)]
  rcases leading with ⟨leading, reached, bounded, same⟩
  rw [same]
  refine ⟨Int.le_max_left _ _, bounded.trans_le (two_zpow_le (by omega)), ?_⟩
  rcases Int.le_total (leading - 52) leastExponent with low | high
  · exact .inl (Int.max_eq_left low)
  · right
    rw [Int.max_eq_right high, sub_add_cancel]
    exact reached

/-! ## Nearest doubles -/

/-- A significand and a power of two that are nearest to a number. -/
structure IsNearest (number : ℚ) (double : ℕ × ℤ) : Prop where
  place : IsLastPlace number double.2
  significand : IsNearestWhole (number / 2 ^ double.2) double.1

theorem isNearest_nearest {numerator denominator : ℕ} (nonzero : 0 < numerator)
    (positive : 0 < denominator) :
    IsNearest ((numerator : ℚ) / denominator) (nearest numerator denominator) := by
  refine ⟨isLastPlace_lastPlace nonzero positive, ?_⟩
  rw [← ratio_unscale]
  exact isNearestWhole_roundQuotient _ (unscale_positive _ positive _)

def valueOf (double : ℕ × ℤ) : ℚ := double.1 * 2 ^ double.2

theorem valueOf_le_of_place_lt {one other : ℕ × ℤ} (small : one.1 ≤ 2 ^ 53)
    (leading : 2 ^ 52 ≤ other.1) (lower : one.2 < other.2) : valueOf one ≤ valueOf other := by
  have upper : (one.1 : ℚ) ≤ 2 ^ 53 := by exact_mod_cast small
  have least : (2 : ℚ) ^ 52 ≤ other.1 := by exact_mod_cast leading
  unfold valueOf
  calc (one.1 : ℚ) * 2 ^ one.2 ≤ 2 ^ 53 * 2 ^ one.2 := by gcongr
    _ = 2 ^ (one.2 + 53) := by
      rw [add_comm, zpow_add₀ (by norm_num)]
      norm_num
    _ ≤ 2 ^ (other.2 + 52) := two_zpow_le (by omega)
    _ = 2 ^ 52 * 2 ^ other.2 := by
      rw [add_comm, zpow_add₀ (by norm_num)]
      norm_num
    _ ≤ other.1 * 2 ^ other.2 := by gcongr

namespace IsNearest

variable {first second : ℚ} {one other : ℕ × ℤ}

theorem unique (nearFirst : IsNearest first one) (nearSecond : IsNearest first other) :
    one = other := by
  have place := nearFirst.place.unique nearSecond.place
  refine Prod.ext (nearFirst.significand.unique ?_) place
  rw [place]
  exact nearSecond.significand

theorem significand_le (near : IsNearest first one) : one.1 ≤ 2 ^ 53 := by
  have power : (0 : ℚ) < 2 ^ one.2 := by positivity
  refine near.significand.mono ?_ (IsNearestWhole.of_whole (2 ^ 53))
  rw [div_le_iff₀ power]
  refine near.place.above.le.trans (le_of_eq ?_)
  rw [add_comm, zpow_add₀ (by norm_num)]
  norm_num

theorem le_significand (near : IsNearest first one) (high : leastExponent < one.2) :
    2 ^ 52 ≤ one.1 := by
  have power : (0 : ℚ) < 2 ^ one.2 := by positivity
  refine (IsNearestWhole.of_whole (2 ^ 52)).mono ?_ near.significand
  rcases near.place.below with least | reached
  · omega
  · rw [le_div_iff₀ power]
    refine le_trans (le_of_eq ?_) reached
    rw [add_comm, zpow_add₀ (by norm_num)]
    norm_num

theorem mono (ordered : first ≤ second) (nearFirst : IsNearest first one)
    (nearSecond : IsNearest second other) : valueOf one ≤ valueOf other := by
  have places := nearFirst.place.mono ordered nearSecond.place
  rcases eq_or_lt_of_le places with same | lower
  · have significands : one.1 ≤ other.1 := by
      refine nearFirst.significand.mono ?_ nearSecond.significand
      rw [same]
      gcongr
    unfold valueOf
    rw [same]
    gcongr
  · have least := nearFirst.place.least
    exact valueOf_le_of_place_lt nearFirst.significand_le
      (nearSecond.le_significand (by omega)) lower

end IsNearest

/-- Rounding depends on the number that a quotient stands for. -/
theorem nearest_eq_of_ratio {numerator denominator otherNumerator otherDenominator : ℕ}
    (nonzero : 0 < numerator) (positive : 0 < denominator)
    (otherPositive : 0 < otherDenominator)
    (same : (numerator : ℚ) / denominator = (otherNumerator : ℚ) / otherDenominator) :
    nearest numerator denominator = nearest otherNumerator otherDenominator := by
  have otherNonzero : 0 < otherNumerator := by
    have scale : (0 : ℚ) < otherDenominator := by exact_mod_cast otherPositive
    have ratio : (0 : ℚ) < (otherNumerator : ℚ) / otherDenominator := by
      rw [← same]
      positivity
    have cast := (div_pos_iff_of_pos_right scale).mp ratio
    exact_mod_cast cast
  have near := isNearest_nearest otherNonzero otherPositive
  rw [← same] at near
  exact (isNearest_nearest nonzero positive).unique near

theorem valueOf_nearest_mono {numerator denominator otherNumerator otherDenominator : ℕ}
    (nonzero : 0 < numerator) (positive : 0 < denominator)
    (otherNonzero : 0 < otherNumerator) (otherPositive : 0 < otherDenominator)
    (ordered : (numerator : ℚ) / denominator ≤ (otherNumerator : ℚ) / otherDenominator) :
    valueOf (nearest numerator denominator) ≤ valueOf (nearest otherNumerator otherDenominator) :=
  (isNearest_nearest nonzero positive).mono ordered (isNearest_nearest otherNonzero otherPositive)

end RpcSession.Decimal
