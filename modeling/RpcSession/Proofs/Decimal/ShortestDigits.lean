import RpcSession.Proofs.Decimal.Neighbourhood

/-!
# The shortest decimal of a double

The search for a shortest decimal always ends with a decimal that rounds to the double: on the
grid of seventeen digits one of the two points around the double is near enough.
-/

namespace RpcSession.Decimal

variable {neighbourhood : Neighbourhood} {significand : ℕ} {exponent power : ℤ}

/-! ## Points of a grid -/

def pointBelow (neighbourhood : Neighbourhood) (quarter unit : ℕ) : ℕ :=
  neighbourhood.centre * quarter / unit

private theorem contains_of_bestOnGrid {quarter unit best : ℕ}
    (found : bestOnGrid neighbourhood quarter unit = some best) :
    neighbourhood.contains quarter unit best = true := by
  unfold bestOnGrid at found
  dsimp only at found
  split at found
  · cases found
  · cases found
    assumption
  · cases found
    assumption
  · rename_i below above
    split at found
    · cases found
      exact below
    · split at found
      · cases found
        exact above
      · cases found
        rcases Nat.mod_two_eq_zero_or_one (neighbourhood.centre * quarter / unit) with even | odd
        · rw [even]
          exact below
        · rw [odd]
          exact above

private theorem bestOnGrid_isSome {quarter unit : ℕ}
    (near : neighbourhood.contains quarter unit (pointBelow neighbourhood quarter unit) = true ∨
      neighbourhood.contains quarter unit (pointBelow neighbourhood quarter unit + 1) = true) :
    (bestOnGrid neighbourhood quarter unit).isSome = true := by
  unfold bestOnGrid
  dsimp only
  unfold pointBelow at near
  split
  · simp_all
  · rfl
  · rfl
  · split
    · rfl
    · split <;> rfl

/-! ## The grid of seventeen digits -/

private theorem commonMeasure_pos (exponent power : ℤ) : 0 < (commonMeasure exponent power).2 := by
  rcases commonMeasure_eq exponent power with ⟨scale, scaled, _, units⟩
  have cast : (0 : ℚ) < (commonMeasure exponent power).2 := by
    rw [units]
    positivity
  exact_mod_cast cast

private theorem pointBelow_around (significand : ℕ) (exponent power : ℤ) :
    let below := pointBelow (.ofSignificand significand exponent) (commonMeasure exponent power).1
      (commonMeasure exponent power).2
    (below : ℚ) * 10 ^ power ≤ 4 * significand * 2 ^ (exponent - 2) ∧
      4 * significand * 2 ^ (exponent - 2) < ((below : ℚ) + 1) * 10 ^ power := by
  intro below
  rcases commonMeasure_eq exponent power with ⟨scale, scaled, quarters, units⟩
  constructor
  · have natural : below * (commonMeasure exponent power).2 ≤
        4 * significand * (commonMeasure exponent power).1 := Nat.div_mul_le_self _ _
    have cast : (below : ℚ) * (commonMeasure exponent power).2 ≤
        4 * significand * (commonMeasure exponent power).1 := by exact_mod_cast natural
    rw [quarters, units] at cast
    refine le_of_mul_le_mul_left ?_ scaled
    linarith
  · have natural : 4 * significand * (commonMeasure exponent power).1 <
        (below + 1) * (commonMeasure exponent power).2 :=
      Nat.lt_mul_of_div_lt (Nat.lt_succ_self _) (commonMeasure_pos exponent power)
    have cast : (4 : ℚ) * significand * (commonMeasure exponent power).1 <
        ((below : ℚ) + 1) * (commonMeasure exponent power).2 := by exact_mod_cast natural
    rw [quarters, units] at cast
    refine lt_of_mul_lt_mul_left ?_ scaled.le
    linarith

/-- On a grid that is finer than the double's last place, one of the two points around the double
is nearer than half of that place. -/
private theorem exists_contained (positive : 0 < significand)
    (fine : (10 : ℚ) ^ power < 2 ^ exponent)
    (finer : significand = 2 ^ 52 → (10 : ℚ) ^ power * 2 < 2 ^ exponent) :
    let neighbourhood := Neighbourhood.ofSignificand significand exponent
    let below := pointBelow neighbourhood (commonMeasure exponent power).1
      (commonMeasure exponent power).2
    neighbourhood.Holds exponent (below * 10 ^ power) ∨
      neighbourhood.Holds exponent ((below + 1 : ℕ) * 10 ^ power) := by
  intro neighbourhood below
  have unit : (0 : ℚ) < 10 ^ power := by positivity
  have quarter : (0 : ℚ) < 2 ^ (exponent - 2) := by positivity
  have upper := Neighbourhood.upper_ofSignificand significand exponent
  rcases pointBelow_around significand exponent power with ⟨centreAbove, centreBelow⟩
  rw [two_zpow_whole exponent] at fine finer
  by_cases isPower : significand = 2 ^ 52
  · have half := finer isPower
    have least := (Neighbourhood.lower_ofSignificand_bounds positive exponent).2
    right
    apply Neighbourhood.Holds.of_strict
    · push_cast
      nlinarith
    · rw [upper]
      push_cast
      linarith
  · have other : ¬(significand = 2 ^ 52 ∧ leastExponent < exponent) :=
      fun both => isPower both.1
    have lower := Neighbourhood.lower_ofSignificand positive other
    by_cases near : (4 * (significand : ℚ) - 2) * 2 ^ (exponent - 2) < (below : ℚ) * 10 ^ power
    · left
      apply Neighbourhood.Holds.of_strict
      · rw [lower]
        exact near
      · rw [upper]
        linarith
    · right
      apply Neighbourhood.Holds.of_strict
      · rw [lower]
        push_cast
        linarith
      · rw [upper]
        push_cast
        linarith

/-! ## The leading digit -/

theorem toDigits_bounds {number : ℕ} (positive : 0 < number) :
    10 ^ ((Nat.toDigits 10 number).length - 1) ≤ number ∧
      number < 10 ^ (Nat.toDigits 10 number).length := by
  have some : 0 < (Nat.toDigits 10 number).length := Nat.length_toDigits_pos
  constructor
  · rcases Nat.eq_or_lt_of_le some with one | more
    · rw [← one]
      exact positive
    · by_contra less
      have short := (Nat.length_toDigits_le_iff (b := 10) (by decide)
        (k := (Nat.toDigits 10 number).length - 1) (by omega)).mpr (Nat.not_le.mp less)
      omega
  · exact (Nat.length_toDigits_le_iff (by decide) some).mp (Nat.le_refl _)

private theorem ten_zpow_leadingPower {numerator denominator : ℕ} (nonzero : 0 < numerator)
    (positive : 0 < denominator) :
    (10 : ℚ) ^ leadingPower numerator denominator ≤ (numerator : ℚ) / denominator := by
  have scale : (0 : ℚ) < denominator := by exact_mod_cast positive
  unfold leadingPower
  dsimp only
  generalize estimated : ((Nat.toDigits 10 numerator).length : ℤ) -
    (Nat.toDigits 10 denominator).length = estimate
  have split : (10 : ℚ) ^ estimate.toNat = 10 ^ (-estimate).toNat * 10 ^ estimate := by
    rw [← zpow_natCast, ← zpow_natCast, ← zpow_add₀ (by norm_num)]
    congr 1
    omega
  rw [le_div_iff₀ scale]
  split
  · rename_i reached
    have cast : (denominator : ℚ) * 10 ^ estimate.toNat ≤ numerator * 10 ^ (-estimate).toNat := by
      simp only [Nat.pow_eq] at reached
      exact_mod_cast reached
    rw [split] at cast
    have power : (0 : ℚ) < 10 ^ (-estimate).toNat := by positivity
    refine le_of_mul_le_mul_left ?_ power
    linarith
  · -- One digit fewer is always reached, whatever the digits are.
    have lower : (10 : ℚ) ^ (((Nat.toDigits 10 numerator).length : ℤ) - 1) ≤ numerator := by
      have some : 0 < (Nat.toDigits 10 numerator).length := Nat.length_toDigits_pos
      have same : ((Nat.toDigits 10 numerator).length : ℤ) - 1 =
          (((Nat.toDigits 10 numerator).length - 1 : ℕ) : ℤ) := by omega
      rw [same, zpow_natCast]
      exact_mod_cast (toDigits_bounds nonzero).1
    have upper : (denominator : ℚ) ≤ 10 ^ ((Nat.toDigits 10 denominator).length : ℤ) := by
      rw [zpow_natCast]
      exact_mod_cast (toDigits_bounds positive).2.le
    calc (10 : ℚ) ^ (estimate - 1) * denominator
        ≤ 10 ^ (estimate - 1) * 10 ^ ((Nat.toDigits 10 denominator).length : ℤ) := by gcongr
      _ = 10 ^ (((Nat.toDigits 10 numerator).length : ℤ) - 1) := by
        rw [← zpow_add₀ (by norm_num)]
        congr 1
        omega
      _ ≤ numerator := lower

/-! ## The search

The shortest decimal is found at the latest on the grid of seventeen digits, which is finer than
the last place of any double. -/

def Digits.value (digits : Digits) : ℚ := digits.digits * 10 ^ digits.exponent

private theorem value_dropTrailingZeros (fuel : ℕ) (digits : Digits) :
    (dropTrailingZeros fuel digits).value = digits.value := by
  induction fuel generalizing digits with
  | zero => rfl
  | succ fuel induction =>
      unfold dropTrailingZeros
      split
      · rename_i whole
        rw [induction]
        have divided : digits.digits = 10 * (digits.digits / 10) := by omega
        have cast : (digits.digits : ℚ) = 10 * (digits.digits / 10 : ℕ) := by
          exact_mod_cast divided
        unfold Digits.value
        dsimp only
        rw [cast, zpow_add₀ (by norm_num), zpow_one]
        ring
      · rfl

/-- The grid of seventeen digits has a point in the neighbourhood of a double. -/
private theorem bestOnGrid_seventeen (positive : 0 < significand)
    (double : IsDouble significand exponent) :
    let leading := leadingPower (significand * Nat.pow 2 exponent.toNat)
      (Nat.pow 2 (-exponent).toNat)
    let measure := commonMeasure exponent (leading - 16)
    (bestOnGrid (.ofSignificand significand exponent) measure.1 measure.2).isSome = true := by
  intro leading measure
  have bound : (10 : ℚ) ^ leading ≤ significand * 2 ^ exponent := by
    have power (places : ℕ) : 0 < Nat.pow 2 places := Nat.pow_pos (by decide)
    have reached := ten_zpow_leadingPower (Nat.mul_pos positive (power exponent.toNat))
      (power (-exponent).toNat)
    have ratio := ratio_unscale significand 1 (-exponent)
    simp only [unscale, neg_neg, one_mul, Nat.cast_one, div_one] at ratio
    rw [ratio, zpow_neg, div_inv_eq_mul] at reached
    exact reached
  have step : (10 : ℚ) ^ (leading - 16) * 10 ^ 16 ≤ significand * 2 ^ exponent := by
    rw [← zpow_natCast, ← zpow_add₀ (by norm_num)]
    refine le_trans (le_of_eq ?_) bound
    congr 1
    omega
  have place : (0 : ℚ) < 2 ^ exponent := by positivity
  have small : (significand : ℚ) < 2 ^ 53 := by exact_mod_cast double.small
  apply bestOnGrid_isSome
  rw [contains_iff, contains_iff]
  refine exists_contained positive ?_ ?_
  · have product : (significand : ℚ) * 2 ^ exponent < 10 ^ 16 * 2 ^ exponent := by
      gcongr
      linarith
    linarith
  · rintro rfl
    norm_num at step
    linarith

/-- The shortest decimal of a double lies in its neighbourhood. -/
theorem holds_shortest (positive : 0 < significand) (double : IsDouble significand exponent) :
    (Neighbourhood.ofSignificand significand exponent).Holds exponent
      (shortest significand exponent).value := by
  unfold shortest
  dsimp only
  split
  · rename_i number found
    rw [value_dropTrailingZeros]
    rcases List.exists_of_findSome?_eq_some found with ⟨count, _, picked⟩
    rcases Option.map_eq_some_iff.mp picked with ⟨best, chosen, rfl⟩
    exact (contains_iff best).mp (contains_of_bestOnGrid chosen)
  · rename_i none
    have some := bestOnGrid_seventeen positive double
    have missing := List.findSome?_eq_none_iff.mp none 16 (List.mem_range.mpr (by decide))
    rw [Option.map_eq_none_iff] at missing
    rw [show ((16 : ℕ) : ℤ) = 16 from rfl] at missing
    dsimp only at some
    rw [missing] at some
    cases some

theorem shortest_positive (positive : 0 < significand) (double : IsDouble significand exponent) :
    0 < (shortest significand exponent).digits := by
  have holds := holds_shortest positive double
  have lower := Neighbourhood.lower_ofSignificand_pos positive exponent
  rcases Nat.eq_zero_or_pos (shortest significand exponent).digits with zero | some
  · have bound := holds.lower
    rw [Digits.value, zero, Nat.cast_zero, zero_mul] at bound
    have quarter : (0 : ℚ) < 2 ^ (exponent - 2) := by positivity
    have cast : (0 : ℚ) < (Neighbourhood.ofSignificand significand exponent).lower := by
      exact_mod_cast lower
    have product := mul_pos cast quarter
    linarith
  · exact some

end RpcSession.Decimal
