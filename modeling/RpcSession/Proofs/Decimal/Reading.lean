import RpcSession.Decimal.Numeral
import RpcSession.Proofs.Decimal.ShortestDigits

/-!
# Doubles read from decimals

Digits and a power of ten that lie in the neighbourhood of a finite double are read as the double,
however many zeros the digits begin or end with.
-/

namespace RpcSession.Decimal

/-! ## Digits -/

def digitValues (characters : List Char) : List ℕ := characters.map (·.toNat - 0x30)

@[simp] theorem digitValues_append (first second : List Char) :
    digitValues (first ++ second) = digitValues first ++ digitValues second := List.map_append

@[simp] theorem length_digitValues (characters : List Char) :
    (digitValues characters).length = characters.length := List.length_map _

private theorem ofDigits_digitValues (characters : List Char) :
    ofDigits (digitValues characters) = Nat.ofDigitChars 10 characters 0 := by
  rw [ofDigits, digitValues, List.foldl_map, Nat.ofDigitChars_eq_foldl]
  rfl

theorem ofDigits_toDigits (number : ℕ) :
    ofDigits (digitValues (Nat.toDigits 10 number)) = number := by
  rw [ofDigits_digitValues, Nat.ofDigitChars_ten_toDigits]

theorem isDigit_of_mem_toDigits {number : ℕ} {character : Char}
    (member : character ∈ Nat.toDigits 10 number) : character.isDigit = true :=
  Nat.isDigit_of_mem_toDigits (by decide) (by decide) member

theorem isDigit_of_mem_replicate {count : ℕ} {character : Char}
    (member : character ∈ List.replicate count '0') : character.isDigit = true := by
  rw [List.eq_of_mem_replicate member]
  rfl

theorem digitValues_lt {characters : List Char}
    (digits : ∀ character ∈ characters, character.isDigit = true) :
    ∀ digit ∈ digitValues characters, digit < 10 := by
  intro digit member
  rcases List.mem_map.mp member with ⟨character, inside, rfl⟩
  have range := Char.isDigit_iff_toNat.mp (digits character inside)
  have last : '9'.toNat = 0x39 := rfl
  omega

theorem ofDigits_append (first second : List ℕ) :
    ofDigits (first ++ second) = ofDigits first * 10 ^ second.length + ofDigits second := by
  unfold ofDigits
  rw [List.foldl_append]
  generalize first.foldl (fun number digit => 10 * number + digit) 0 = start
  induction second using List.reverseRecOn with
  | nil => simp
  | append_singleton digits digit induction =>
      rw [List.foldl_append, List.foldl_append, List.foldl_cons, List.foldl_nil, List.foldl_cons,
        List.foldl_nil, induction, List.length_append, List.length_singleton, pow_succ]
      ring

theorem ofDigits_cons (digit : ℕ) (digits : List ℕ) :
    ofDigits (digit :: digits) = digit * 10 ^ digits.length + ofDigits digits := by
  have split := ofDigits_append [digit] digits
  rwa [List.singleton_append, show ofDigits [digit] = digit by simp [ofDigits]] at split

theorem ofDigits_zeros (count : ℕ) (digits : List ℕ) :
    ofDigits (List.replicate count 0 ++ digits) = ofDigits digits := by
  induction count with
  | zero => rfl
  | succ count induction =>
      rw [List.replicate_succ, List.cons_append, ofDigits_cons, zero_mul, zero_add, induction]

private theorem ofDigits_dropWhile (digits : List ℕ) :
    ofDigits (digits.dropWhile (· == 0)) = ofDigits digits := by
  induction digits with
  | nil => rfl
  | cons digit digits induction =>
      rw [List.dropWhile_cons]
      split
      · rename_i zero
        rw [induction, ofDigits_cons, beq_iff_eq.mp zero, zero_mul, zero_add]
      · rfl

theorem ofDigits_lt {digits : List ℕ} (below : ∀ digit ∈ digits, digit < 10) :
    ofDigits digits < 10 ^ digits.length := by
  induction digits with
  | nil => exact Nat.one_pos
  | cons digit digits induction =>
      have rest := induction fun other member => below other (List.mem_cons_of_mem _ member)
      have first := below digit List.mem_cons_self
      rw [ofDigits_cons, List.length_cons, pow_succ]
      have bound : digit * 10 ^ digits.length ≤ 9 * 10 ^ digits.length := by gcongr; omega
      omega

private theorem le_ofDigits {digit : ℕ} {digits : List ℕ} (nonzero : digit ≠ 0) :
    10 ^ digits.length ≤ ofDigits (digit :: digits) := by
  rw [ofDigits_cons]
  have bound : 1 * 10 ^ digits.length ≤ digit * 10 ^ digits.length := by gcongr; omega
  omega

/-! ## Doubles of decimals -/

variable {significand : ℕ} {exponent : ℤ} {number : Float} {negative : Bool}

private theorem ten_pow_split (place : ℤ) :
    (10 : ℚ) ^ place.toNat / 10 ^ (-place).toNat = 10 ^ place := by
  rw [← zpow_natCast, ← zpow_natCast, ← zpow_sub₀ (by norm_num)]
  congr 1
  omega

theorem floatOfDecimal_eq {digits : List ℕ} {place : ℤ} (below : ∀ digit ∈ digits, digit < 10)
    (least : (10 : ℚ) ^ (-400 : ℤ) ≤ ofDigits digits * 10 ^ place)
    (greatest : (ofDigits digits : ℚ) * 10 ^ place < 10 ^ (400 : ℤ)) (negative : Bool) :
    floatOfDecimal negative digits place =
      assemble negative
        (nearest (ofDigits digits * 10 ^ place.toNat) (10 ^ (-place).toNat)).1
        (nearest (ofDigits digits * 10 ^ place.toNat) (10 ^ (-place).toNat)).2 := by
  have same := ofDigits_dropWhile digits
  have below' : ∀ digit ∈ digits.dropWhile (· == 0), digit < 10 := fun digit member =>
    below digit ((List.dropWhile_sublist _).mem member)
  have heads : ∀ digit ∈ (digits.dropWhile (· == 0)).head?, digit ≠ 0 := by
    intro digit member zero
    have stopped := List.head?_dropWhile_not (· == 0) digits
    rw [Option.mem_def.mp member] at stopped
    simp [zero] at stopped
  rw [← same] at least greatest ⊢
  unfold floatOfDecimal
  dsimp only
  generalize digits.dropWhile (· == 0) = significant at *
  cases significant with
  | nil =>
      have power : (0 : ℚ) < 10 ^ (-400 : ℤ) := by positivity
      simp only [ofDigits, List.foldl_nil, Nat.cast_zero, zero_mul] at least
      linarith
  | cons digit rest =>
      have nonzero := heads digit rfl
      have lower : (10 : ℚ) ^ ((rest.length : ℤ) + place) ≤
          ofDigits (digit :: rest) * 10 ^ place := by
        rw [zpow_add₀ (by norm_num), zpow_natCast]
        gcongr
        exact_mod_cast le_ofDigits nonzero
      have upper : (ofDigits (digit :: rest) : ℚ) * 10 ^ place <
          10 ^ ((rest.length : ℤ) + 1 + place) := by
        rw [zpow_add₀ (by norm_num), show (rest.length : ℤ) + 1 = ((rest.length + 1 : ℕ) : ℤ) by
          push_cast; rfl, zpow_natCast]
        gcongr
        exact_mod_cast ofDigits_lt below'
      have high : -400 < (rest.length : ℤ) + 1 + place :=
        (zpow_lt_zpow_iff_right₀ (by norm_num : (1 : ℚ) < 10)).mp (least.trans_lt upper)
      have low : (rest.length : ℤ) + place < 400 :=
        (zpow_lt_zpow_iff_right₀ (by norm_num : (1 : ℚ) < 10)).mp (lower.trans_lt greatest)
      have positive : 0 < ofDigits (digit :: rest) :=
        Nat.lt_of_lt_of_le (Nat.pow_pos (by decide)) (le_ofDigits nonzero)
      simp only [Nat.pow_eq, List.isEmpty_cons, Bool.false_eq_true, false_or, List.length_cons]
      push_cast
      rw [if_neg (by omega), if_neg (by omega), nearestFloat, if_neg (by positivity)]

private theorem two_pow_le_ten_pow : (2 : ℚ) ^ (1076 : ℤ) ≤ 10 ^ (400 : ℤ) := by
  have natural : 2 ^ 1076 ≤ 10 ^ 400 := by decide +kernel
  exact_mod_cast natural

/-- A decimal in the neighbourhood of a finite double is read as the double. -/
theorem floatOfDecimal_of_holds
    (finite : Exact.ofFloat number = .finite negative significand exponent)
    (positive : 0 < significand) {digits : List ℕ} {place : ℤ}
    (below : ∀ digit ∈ digits, digit < 10)
    (holds : (Neighbourhood.ofSignificand significand exponent).Holds exponent
      (ofDigits digits * 10 ^ place)) :
    floatOfDecimal negative digits place = number := by
  have double := isDouble_of_finite finite
  have some := Neighbourhood.lower_ofSignificand_pos positive exponent
  have least : (10 : ℚ) ^ (-400 : ℤ) ≤ ofDigits digits * 10 ^ place := by
    refine le_trans ?_ holds.lower
    have one : (1 : ℚ) ≤ (Neighbourhood.ofSignificand significand exponent).lower := by
      exact_mod_cast some
    have bottom := double.least
    unfold leastExponent at bottom
    calc (10 : ℚ) ^ (-400 : ℤ) ≤ 2 ^ (-1076 : ℤ) := by
          rw [zpow_neg, zpow_neg, inv_le_inv₀ (by positivity) (by positivity)]
          exact two_pow_le_ten_pow
      _ ≤ 2 ^ (exponent - 2) := two_zpow_le (by omega)
      _ ≤ _ := le_mul_of_one_le_left (by positivity) one
  have greatest : (ofDigits digits : ℚ) * 10 ^ place < 10 ^ (400 : ℤ) := by
    refine lt_of_le_of_lt holds.upper ?_
    have small : (significand : ℚ) < 2 ^ 53 := by exact_mod_cast double.small
    have top := double.greatest
    calc _ ≤ (2 : ℚ) ^ (56 : ℤ) * 2 ^ (exponent - 2) := by
          gcongr
          rw [Neighbourhood.upper_ofSignificand]
          linarith
      _ = 2 ^ (exponent + 54) := by
          rw [← zpow_add₀ (by norm_num)]
          congr 1
          omega
      _ < 2 ^ (1076 : ℤ) := two_zpow_lt (by omega)
      _ ≤ 10 ^ (400 : ℤ) := two_pow_le_ten_pow
  rw [floatOfDecimal_eq below least greatest]
  have value : ((ofDigits digits * 10 ^ place.toNat : ℕ) : ℚ) / (10 ^ (-place).toNat : ℕ) =
      ofDigits digits * 10 ^ place := by
    push_cast
    rw [mul_div_assoc, ten_pow_split]
  have nonzero : 0 < ofDigits digits * 10 ^ place.toNat := by
    rcases Nat.eq_zero_or_pos (ofDigits digits) with zero | nonzero
    · have power : (0 : ℚ) < 10 ^ (-400 : ℤ) := by positivity
      rw [zero, Nat.cast_zero, zero_mul] at least
      linarith
    · positivity
  rw [assemble_nearest_of_holds nonzero (by positivity) double (by rw [value]; exact holds),
    assemble_of_finite finite]

end RpcSession.Decimal
