import RpcSession.Proofs.Decimal.Doubles
import RpcSession.Proofs.Decimal.Rounding

/-!
# Doubles that are not finite

There is one double that is not a number and one infinity of either sign. All doubles but the one
that is not a number are ordered, and a whole number is rounded to an infinity from half a last
place above the greatest finite double on.
-/

namespace RpcSession.Decimal

open Float.Model Float.Model.UnpackedFloat

/-! ## Bits -/

private theorem toNat_unpackExponent (bits : BitVec Format.binary64.numBits) :
    (unpackExponent bits).toNat = bits.toNat / 2 ^ 52 % 2 ^ 11 := by
  simp only [unpackExponent, BitVec.toNat_cast, BitVec.extractLsb_toNat, Nat.shiftRight_eq_div_pow]

private theorem toNat_unpackMantissa (bits : BitVec Format.binary64.numBits) :
    (unpackMantissa bits).toNat = bits.toNat % 2 ^ 52 := by
  simp only [unpackMantissa, BitVec.toNat_cast, BitVec.extractLsb_toNat, Nat.shiftRight_zero]

theorem unpackExponent_eq_iff (bits : BitVec Format.binary64.numBits) :
    unpackExponent bits = -BitVec.ofNat Format.binary64.exponentBits 1 ↔
      bits.toNat / 2 ^ 52 % 2 ^ 11 = 2 ^ 11 - 1 := by
  rw [← toNat_unpackExponent, ← BitVec.toNat_inj]
  exact Iff.rfl

theorem unpackMantissa_eq_iff (bits : BitVec Format.binary64.numBits) :
    unpackMantissa bits = BitVec.ofNat Format.binary64.mantissaBitsWithoutImplicit 0 ↔
      bits.toNat % 2 ^ 52 = 0 := by
  rw [← toNat_unpackMantissa, ← BitVec.toNat_inj]
  exact Iff.rfl

private theorem toBits_ofBits {bits : UInt64}
    (bounded : bits.toNat % 2 ^ 63 ≤ (2 ^ 11 - 1) * 2 ^ 52) :
    (Float.ofBits bits).toBits = bits := by
  have valid : Format.binary64.Valid bits.toBitVec := by
    refine ⟨fun full some => absurd ((unpackMantissa_eq_iff _).mpr ?_) some⟩
    have scale := (unpackExponent_eq_iff _).mp full
    have same : bits.toBitVec.toNat = bits.toNat := rfl
    rw [same] at scale ⊢
    omega
  exact congrArg UInt64.ofBitVec (pack_unpack_of_valid valid)

/-! ## Kinds -/

variable {number : Float} {negative : Bool}

theorem kind_cases (number : Float) :
    (Exact.ofFloat number = .nan ∧ number.toModel.unpack = .notANumber) ∨
    (∃ negative sign, Exact.ofFloat number = .infinite negative ∧
      number.toModel.unpack = .infinity sign) ∨
    (∃ negative significand exponent,
      Exact.ofFloat number = .finite negative significand exponent ∧
      number.toModel.unpack.isNaN = false ∧ number.toModel.unpack.isInf = false) := by
  have exponent := unpackExponent_eq_iff number.toBits.toBitVec
  have mantissa := unpackMantissa_eq_iff number.toBits.toBitVec
  have same : number.toBits.toBitVec.toNat = number.toBits.toNat := rfl
  have unpacked : number.toModel.unpack =
      UnpackedFloat.unpack Format.binary64 number.toBits.toBitVec := rfl
  rw [same] at exponent mantissa
  rw [unpacked]
  unfold Exact.ofFloat UnpackedFloat.unpack
  simp only [exponent, mantissa, Nat.pow_eq]
  split_ifs <;> simp [UnpackedFloat.isNaN, UnpackedFloat.isInf]

theorem isNaN_iff : number.isNaN = true ↔ Exact.ofFloat number = .nan := by
  have kind : number.isNaN = number.toModel.unpack.isNaN := rfl
  rw [kind]
  rcases kind_cases number with ⟨parts, same⟩ | ⟨_, _, parts, same⟩ | ⟨_, _, _, parts, same, _⟩ <;>
    simp [parts, same]

theorem isInf_iff :
    number.isInf = true ↔ ∃ negative, Exact.ofFloat number = .infinite negative := by
  have kind : number.isInf = number.toModel.unpack.isInf := rfl
  rw [kind]
  rcases kind_cases number with ⟨parts, same⟩ | ⟨_, _, parts, same⟩ | ⟨_, _, _, parts, _, same⟩ <;>
    simp [parts, same]
  · rfl
  · rfl

/-- There is one double that is not a number. -/
theorem eq_of_nan (parts : Exact.ofFloat number = .nan) : number = Float.nan := by
  have kind := isNaN_iff.mpr parts
  rw [Float.isNaN_eq_decide_eq_nan] at kind
  exact of_decide_eq_true kind

theorem eq_of_infinite (parts : Exact.ofFloat number = .infinite negative) :
    number = Float.ofBits (if negative then 0xfff0000000000000 else 0x7ff0000000000000) := by
  have range : number.toBits.toNat < 2 ^ 64 := number.toBits.toNat_lt
  have same : number.toBits = if negative then 0xfff0000000000000 else 0x7ff0000000000000 := by
    apply UInt64.toNat.inj
    unfold Exact.ofFloat at parts
    simp only [Nat.pow_eq] at parts
    split_ifs at parts with scale fraction
    cases parts
    by_cases sign : 2 ^ 63 ≤ number.toBits.toNat
    · rw [if_pos (decide_eq_true sign)]
      show number.toBits.toNat = 0xfff0000000000000
      omega
    · rw [if_neg (by simpa using sign)]
      show number.toBits.toNat = 0x7ff0000000000000
      omega
  rw [← same, Float.ofBits_toBits]

/-! ## Order -/

private theorem compare_swap (first second : UnpackedFloat) :
    second.compare first = (first.compare second).map Ordering.swap := by
  cases first with
  | notANumber => cases second <;> rfl
  | infinity sign =>
      cases second with
      | infinity other => cases sign <;> cases other <;> rfl
      | notANumber | zero | finite => cases sign <;> rfl
  | zero sign =>
      cases second with
      | notANumber | zero => rfl
      | infinity other | finite other => cases other <;> rfl
  | finite sign significand exponent =>
      cases second with
      | notANumber => rfl
      | infinity other => cases sign <;> cases other <;> rfl
      | zero => cases sign <;> rfl
      | finite other otherSignificand otherExponent =>
          have exponents := Int.compare_swap exponent otherExponent
          have significands := Nat.compare_swap significand otherSignificand
          cases sign <;> cases other <;>
            simp [UnpackedFloat.compare, Ordering.swap_then, exponents, significands]

theorem compare_eq_none_iff {first second : UnpackedFloat} :
    first.compare second = none ↔ first.isNaN = true ∨ second.isNaN = true := by
  cases first with
  | notANumber => cases second <;> simp [UnpackedFloat.compare, UnpackedFloat.isNaN]
  | infinity sign | zero sign | finite sign =>
      cases second with
      | notANumber => cases sign <;> simp [UnpackedFloat.compare, UnpackedFloat.isNaN]
      | infinity mark | zero mark | finite mark =>
          cases sign <;> cases mark <;> simp [UnpackedFloat.compare, UnpackedFloat.isNaN]

section Order

variable {first second : Float}

/-- What two doubles are to each other: nothing if one of them is not a number. -/
def order (first second : Float) : Option Ordering :=
  first.toModel.unpack.compare second.toModel.unpack

theorem order_swap (first second : Float) :
    order second first = (order first second).map Ordering.swap :=
  compare_swap _ _

theorem order_eq_none_iff : order first second = none ↔ first.isNaN = true ∨ second.isNaN = true :=
  compare_eq_none_iff

theorem lt_iff : first < second ↔ order first second = some .lt := by
  have less : first < second ↔ (order first second == some .lt) = true := decide_eq_true_iff
  rw [less, beq_iff_eq]

theorem le_iff : first ≤ second ↔ (order first second).any (·.isLE) = true :=
  decide_eq_true_iff

theorem isNaN_of_lt (less : first < second) : first.isNaN = false ∧ second.isNaN = false := by
  rw [lt_iff] at less
  have ordered : order first second ≠ none := by simp [less]
  simpa [order_eq_none_iff] using ordered

theorem isNaN_of_le (less : first ≤ second) : first.isNaN = false ∧ second.isNaN = false := by
  rw [le_iff] at less
  have ordered : order first second ≠ none := fun none => by simp [none] at less
  simpa [order_eq_none_iff] using ordered

theorem not_lt_iff :
    ¬first < second ↔ second ≤ first ∨ first.isNaN = true ∨ second.isNaN = true := by
  rw [← order_eq_none_iff, lt_iff, le_iff, order_swap first second]
  cases order first second with
  | none => decide
  | some ordering => cases ordering <;> decide

theorem not_le_iff :
    ¬first ≤ second ↔ second < first ∨ first.isNaN = true ∨ second.isNaN = true := by
  rw [← order_eq_none_iff, lt_iff, le_iff, order_swap first second]
  cases order first second with
  | none => decide
  | some ordering => cases ordering <;> decide

end Order

/-! ## Whole numbers beyond the doubles -/

theorem isInf_ofBits_iff {bits : UInt64} (bounded : bits.toNat % 2 ^ 63 ≤ (2 ^ 11 - 1) * 2 ^ 52) :
    (Float.ofBits bits).isInf = true ↔ bits.toNat % 2 ^ 63 = (2 ^ 11 - 1) * 2 ^ 52 := by
  rw [isInf_iff]
  unfold Exact.ofFloat
  rw [toBits_ofBits bounded]
  simp only [Nat.pow_eq]
  generalize bits.toNat = number at bounded ⊢
  split_ifs with scale fraction zero <;> simp <;> omega

theorem isInf_assemble_iff {significand : ℕ} {exponent : ℤ} (negative : Bool)
    (small : significand ≤ 2 ^ 53) (leading : leastExponent < exponent → 2 ^ 52 ≤ significand) :
    (assemble negative significand exponent).isInf = true ↔
      971 < exponent ∨ significand = 2 ^ 53 ∧ exponent = 971 := by
  have least : leastExponent = -1074 := rfl
  rw [least] at leading
  have whole : ∀ {significand : ℕ} {exponent : ℤ}, significand < 2 ^ 53 →
      (-1074 < exponent → 2 ^ 52 ≤ significand) →
      ((assemble negative significand exponent).isInf = true ↔ 971 < exponent) := by
    intro significand exponent small leading
    rw [assemble_of_ne negative exponent (Nat.ne_of_lt small), isInf_ofBits_iff] <;>
      rw [UInt64.toNat_ofNat'] <;> split_ifs <;> omega
  rcases Nat.eq_or_lt_of_le small with rfl | small
  · have carried := assemble_carry negative (exponent + 1)
    rw [Int.add_sub_cancel] at carried
    rw [carried, whole (by decide) fun _ => Nat.le_refl _]
    omega
  · rw [whole small leading]
    omega

/-- Half a last place of the greatest finite double. -/
@[irreducible]
def halfPlace : ℚ := 2 ^ (970 : ℤ)

theorem one_le_halfPlace : 1 ≤ halfPlace := by
  rw [halfPlace]
  exact one_le_zpow₀ (by norm_num) (by norm_num)

theorem two_zpow_eq {place : ℤ} (power : ℕ) (same : place = power + 970) :
    (2 : ℚ) ^ place = 2 ^ power * halfPlace := by
  rw [same, zpow_add₀ (by norm_num), zpow_natCast, halfPlace]

theorem le_valueOf_iff {number : ℚ} {significand : ℕ} {exponent : ℤ}
    (near : IsNearest number (significand, exponent)) :
    2 ^ 54 * halfPlace ≤ valueOf (significand, exponent) ↔
      971 < exponent ∨ significand = 2 ^ 53 ∧ exponent = 971 := by
  have small : (significand : ℚ) ≤ 2 ^ 53 := by exact_mod_cast near.significand_le
  have unit := one_le_halfPlace
  unfold valueOf
  dsimp only
  rcases Int.lt_trichotomy exponent 971 with less | rfl | more
  · refine iff_of_false (not_le.mpr ?_) (by omega)
    have power : (2 : ℚ) ^ exponent ≤ 2 ^ (970 : ℤ) := two_zpow_le (by omega)
    rw [← halfPlace] at power
    calc (significand : ℚ) * 2 ^ exponent ≤ 2 ^ 53 * halfPlace := by gcongr
      _ < 2 ^ 54 * halfPlace := by linarith
  · rw [two_zpow_eq 1 (by norm_num)]
    constructor
    · intro large
      have least : (2 : ℚ) ^ 53 ≤ significand := by nlinarith
      exact .inr ⟨by exact_mod_cast le_antisymm small least, rfl⟩
    · rintro (impossible | ⟨rfl, _⟩)
      · omega
      · push_cast
        linarith
  · refine iff_of_true ?_ (.inl more)
    have leading : (2 : ℚ) ^ 52 ≤ significand := by
      exact_mod_cast near.le_significand (by unfold leastExponent; dsimp only; omega)
    have power : (2 : ℚ) ^ (972 : ℤ) ≤ 2 ^ exponent := two_zpow_le (by omega)
    rw [two_zpow_eq 2 (by norm_num)] at power
    calc 2 ^ 54 * halfPlace = 2 ^ 52 * (2 ^ 2 * halfPlace) := by ring
      _ ≤ (significand : ℚ) * 2 ^ exponent := by gcongr

/-- The least whole number that is rounded beyond the doubles: it lies half a last place above the
greatest finite one. -/
def leastBeyond : ℕ := (2 ^ 54 - 1) * 2 ^ 970

theorem cast_leastBeyond : (leastBeyond : ℚ) = (2 ^ 54 - 1) * halfPlace := by
  have unit : ((2 ^ 970 : ℕ) : ℚ) = halfPlace := by
    rw [halfPlace, Nat.cast_pow]
    exact (zpow_natCast 2 970).symm
  rw [leastBeyond, Nat.cast_mul, unit]
  norm_num

theorem isLastPlace_of_halfPlace {number : ℚ} (least : 2 ^ 53 * halfPlace ≤ number)
    (most : number < 2 ^ 54 * halfPlace) : IsLastPlace number 971 := by
  refine ⟨by decide, most.trans_le ?_, .inr (le_trans ?_ least)⟩
  · rw [two_zpow_eq 54 (by norm_num)]
  · rw [two_zpow_eq 53 (by norm_num)]

private theorem isNearest_leastBeyond : IsNearest leastBeyond (2 ^ 53, 971) := by
  have unit := one_le_halfPlace
  have same : (2 ^ 54 - 1) * halfPlace / (2 ^ 1 * halfPlace) = (2 ^ 54 - 1) / 2 := by field_simp
  rw [cast_leastBeyond]
  refine ⟨isLastPlace_of_halfPlace (by linarith) (by linarith), ?_⟩
  rw [two_zpow_eq 1 (by norm_num), same]
  exact .of_even (by norm_num) (by norm_num) (by norm_num)

private theorem isNearest_below_leastBeyond :
    IsNearest ((leastBeyond : ℚ) - 1) (2 ^ 53 - 1, 971) := by
  have unit := one_le_halfPlace
  rw [cast_leastBeyond]
  refine ⟨isLastPlace_of_halfPlace (by linarith) (by linarith), ?_⟩
  rw [two_zpow_eq 1 (by norm_num)]
  refine .of_strict ?_ ?_
  · rw [← mul_div_assoc, lt_div_iff₀ (by positivity)]
    norm_num
    linarith
  · rw [← mul_div_assoc, div_lt_iff₀ (by positivity)]
    norm_num
    linarith

private theorem valueOf_greatestPlace (significand : ℕ) :
    valueOf (significand, 971) = significand * (2 * halfPlace) := by
  rw [valueOf, two_zpow_eq 1 (by norm_num), pow_one]

theorem le_valueOf_nearest_iff {number : ℕ} {double : ℕ × ℤ} (near : IsNearest number double) :
    2 ^ 54 * halfPlace ≤ valueOf double ↔ leastBeyond ≤ number := by
  have unit := one_le_halfPlace
  constructor
  · intro large
    by_contra less
    have ordered : (number : ℚ) ≤ (leastBeyond : ℚ) - 1 := by
      have step : (number : ℚ) + 1 ≤ leastBeyond := by exact_mod_cast Nat.not_le.mp less
      linarith
    have most := near.mono ordered isNearest_below_leastBeyond
    rw [valueOf_greatestPlace, Nat.cast_sub (by norm_num)] at most
    push_cast at most
    linarith
  · intro large
    have most := isNearest_leastBeyond.mono (Nat.cast_le.mpr large) near
    rw [valueOf_greatestPlace, Nat.cast_pow, Nat.cast_ofNat] at most
    linarith only [unit, most]

/-- A whole number has no finite double from half a last place above the greatest one on. -/
theorem isInf_floatOfInt_iff (number : ℤ) :
    (floatOfInt number).isInf = true ↔ leastBeyond ≤ number.natAbs := by
  unfold floatOfInt nearestFloat
  by_cases zero : number.natAbs = 0
  · rw [if_pos zero, isInf_assemble_iff _ (Nat.zero_le _) fun more => absurd more (lt_irrefl _),
      zero]
    decide +kernel
  · rw [if_neg zero]
    have near := isNearest_nearest (Nat.pos_of_ne_zero zero) Nat.one_pos
    rw [Nat.cast_one, div_one] at near
    rw [← le_valueOf_nearest_iff near]
    generalize nearest number.natAbs 1 = double at near ⊢
    rcases double with ⟨significand, exponent⟩
    rw [isInf_assemble_iff _ near.significand_le near.le_significand, le_valueOf_iff near]

end RpcSession.Decimal
