import RpcSession.Json.Reader
import RpcSession.Json.Writer
import RpcSession.Proofs.Decimal.Reading

/-!
# Numbers read back

The text that is written for a whole number or for a finite double is read as the same number,
wherever the layout puts the point.
-/

namespace RpcSession.Json

open Decimal

/-! ## Where a number ends -/

def continuesNumber (character : Char) : Bool :=
  character.isDigit || character == '.' || character == 'e' || character == 'E'

/-- Whether a text begins with nothing that could go on a number before it. -/
def Stops (rest : List Char) : Prop := ∀ character ∈ rest.head?, continuesNumber character = false

namespace Stops

variable {rest : List Char}

theorem cons {character : Char} (other : continuesNumber character = false) :
    Stops (character :: rest) := by
  intro first member
  cases member
  exact other

theorem takeAsciiDigits_append {digits : List Char} (stops : ∀ c ∈ rest.head?, c.isDigit = false)
    (all : ∀ character ∈ digits, character.isDigit = true) :
    takeAsciiDigits (digits ++ rest) = (digitValues digits, rest) := by
  unfold takeAsciiDigits
  rw [List.takeWhile_append_of_pos all, List.dropWhile_append_of_pos all]
  cases rest with
  | nil => simp [digitValues]
  | cons first rest =>
      have other := stops first rfl
      rw [List.takeWhile_cons_of_neg (by simp [other]),
        List.dropWhile_cons_of_neg (by simp [other]),
        List.append_nil]
      rfl

theorem isDigit (stops : Stops rest) : ∀ c ∈ rest.head?, c.isDigit = false := by
  intro character member
  have other := stops character member
  simp only [continuesNumber, Bool.or_eq_false_iff] at other
  exact other.1.1.1

theorem takePower_eq (stops : Stops rest) : takePower rest = (none, rest) := by
  cases rest with
  | nil => rfl
  | cons first rest =>
      have other := stops first rfl
      simp only [continuesNumber, Bool.or_eq_false_iff] at other
      simp [takePower, other.1.2, other.2]

theorem takeFraction_eq (stops : Stops rest) : takeFraction rest = ([], rest) := by
  unfold takeFraction
  split
  · rename_i following
    exact absurd (stops '.' rfl) (by decide)
  · rfl

end Stops

/-! ## Parts of a number -/

/-- Whether characters are digits that a number may begin with: no zero before another digit. -/
structure IsWhole (digits : List Char) : Prop where
  some : digits ≠ []
  all : ∀ character ∈ digits, character.isDigit = true
  leading : digits = ['0'] ∨ ∀ character ∈ digits.head?, character ≠ '0'

theorem isWhole_toDigits (number : ℕ) : IsWhole (Nat.toDigits 10 number) := by
  refine ⟨Nat.toDigits_ne_nil, fun _ member => isDigit_of_mem_toDigits member, ?_⟩
  rcases Nat.eq_zero_or_pos number with rfl | positive
  · exact .inl (Nat.toDigits_zero 10)
  · right
    intro character member zero
    have bounds := (toDigits_bounds positive).1
    have value := ofDigits_toDigits number
    have digits : ∀ c ∈ Nat.toDigits 10 number, c.isDigit = true :=
      fun _ inside => isDigit_of_mem_toDigits inside
    cases split : Nat.toDigits 10 number with
    | nil => exact Nat.toDigits_ne_nil split
    | cons first rest =>
        rw [split] at member bounds value digits
        cases member
        rw [zero, show '0' :: rest = ['0'] ++ rest from rfl, digitValues_append, ofDigits_append]
          at value
        have bound := ofDigits_lt (digitValues_lt fun character inside =>
          digits character (List.mem_cons_of_mem _ inside))
        rw [length_digitValues] at bound
        have nothing : ofDigits (digitValues ['0']) = 0 := rfl
        rw [nothing, zero_mul, zero_add] at value
        rw [List.length_cons, Nat.add_sub_cancel] at bounds
        omega

theorem takeWhole_append {digits rest : List Char} (whole : IsWhole digits)
    (stops : ∀ c ∈ rest.head?, c.isDigit = false) :
    takeWhole (digits ++ rest) = (digitValues digits, rest) := by
  rcases whole.leading with rfl | leading
  · rfl
  · cases digits with
    | nil => exact absurd rfl whole.some
    | cons first digits =>
        have nonzero := leading first rfl
        unfold takeWhole
        split
        · rename_i same
          cases same
          exact absurd rfl nonzero
        · exact Stops.takeAsciiDigits_append stops whole.all

theorem takeFraction_append {digits rest : List Char} (some : digits ≠ [])
    (all : ∀ character ∈ digits, character.isDigit = true)
    (stops : ∀ c ∈ rest.head?, c.isDigit = false) :
    takeFraction ('.' :: digits ++ rest) = (digitValues digits, rest) := by
  unfold takeFraction
  rw [List.cons_append]
  simp only [Stops.takeAsciiDigits_append stops all]
  cases digits with
  | nil => exact absurd rfl some
  | cons first digits => rfl

def signOf (negative : Bool) : Char := if negative then '-' else '+'

theorem takePower_append {digits rest : List Char} (negative : Bool) (some : digits ≠ [])
    (all : ∀ character ∈ digits, character.isDigit = true)
    (stops : ∀ c ∈ rest.head?, c.isDigit = false) :
    takePower ('e' :: signOf negative :: digits ++ rest) =
      (Option.some (if negative then -(ofDigits (digitValues digits) : ℤ)
        else ofDigits (digitValues digits)), rest) := by
  have sign : takeSign (signOf negative :: (digits ++ rest)) = (negative, digits ++ rest) := by
    cases negative <;> rfl
  unfold takePower
  rw [List.cons_append, List.cons_append]
  simp only [beq_self_eq_true, Bool.true_or, if_true]
  rw [sign]
  dsimp only
  rw [Stops.takeAsciiDigits_append stops all]
  cases digits with
  | nil => exact absurd rfl some
  | cons first digits => rfl

/-! ## Texts of numbers -/

/-- A text with a point or an exponent, the digits in it, and the exponent of the last one. -/
inductive IsDecimal : List Char → List ℕ → ℤ → Prop
  | point {whole fraction : List Char} (isWhole : IsWhole whole) (some : fraction ≠ [])
      (all : ∀ character ∈ fraction, character.isDigit = true) :
      IsDecimal (whole ++ '.' :: fraction) (digitValues whole ++ digitValues fraction)
        (-(fraction.length : ℤ))
  /-- A digit, a fraction if there are more digits, and an exponent. -/
  | exponent {first : Char} {fraction power : List Char} (negativePower : Bool)
      (digit : first.isDigit = true)
      (all : ∀ character ∈ fraction, character.isDigit = true) (some : power ≠ [])
      (digits : ∀ character ∈ power, character.isDigit = true) :
      IsDecimal ([first] ++ (if fraction.isEmpty then [] else '.' :: fraction) ++
          'e' :: signOf negativePower :: power)
        (digitValues [first] ++ digitValues fraction)
        ((if negativePower then -(ofDigits (digitValues power) : ℤ)
          else ofDigits (digitValues power)) - fraction.length)

theorem IsWhole.begins {digits rest : List Char} (whole : IsWhole digits) :
    ∃ first others, digits ++ rest = first :: others ∧ first.isDigit = true := by
  cases digits with
  | nil => exact absurd rfl whole.some
  | cons first digits => exact ⟨first, digits ++ rest, rfl, whole.all first List.mem_cons_self⟩

theorem IsDecimal.begins {text : List Char} {digits : List ℕ} {place : ℤ}
    (decimal : IsDecimal text digits place) :
    ∃ first rest, text = first :: rest ∧ first.isDigit = true := by
  cases decimal with
  | point isWhole => exact isWhole.begins
  | exponent _ digit => exact ⟨_, _, rfl, digit⟩

private theorem takeNumber_of_float {start characters afterWhole afterFraction rest : List Char}
    {negative : Bool} {whole fraction : List ℕ} {power : Option ℤ}
    (some : whole ≠ []) (wholly : takeWhole characters = (whole, afterWhole))
    (partly : takeFraction afterWhole = (fraction, afterFraction))
    (powered : takePower afterFraction = (power, rest))
    (isFloat : fraction ≠ [] ∨ power.isSome = true) :
    takeNumber start negative characters =
      .ok (.float (floatOfDecimal negative (whole ++ fraction)
        (power.getD 0 - fraction.length)), rest) := by
  unfold takeNumber
  rw [wholly]
  cases whole with
  | nil => exact absurd rfl some
  | cons first whole =>
      dsimp only
      rw [partly]
      dsimp only
      rw [powered]
      dsimp only
      cases fraction with
      | nil =>
          cases power with
          | none => simp at isFloat
          | some power => rfl
      | cons digit fraction => rfl

theorem isWhole_digit {first : Char} (digit : first.isDigit = true) : IsWhole [first] := by
  refine ⟨List.cons_ne_nil _ _, by simpa using digit, ?_⟩
  by_cases zero : first = '0'
  · exact .inl (by rw [zero])
  · right
    intro character member
    cases member
    exact zero

theorem IsDecimal.takeNumber_eq {text rest : List Char} {digits : List ℕ} {place : ℤ}
    (decimal : IsDecimal text digits place) (start : List Char) (negative : Bool)
    (stops : Stops rest) :
    takeNumber start negative (text ++ rest) =
      .ok (.float (floatOfDecimal negative digits place), rest) := by
  cases decimal with
  | @point whole fraction isWhole some all =>
      have wholly : takeWhole (whole ++ '.' :: fraction ++ rest) =
          (digitValues whole, '.' :: fraction ++ rest) := by
        rw [List.append_assoc]
        exact takeWhole_append isWhole (by simp)
      rw [takeNumber_of_float (by simpa [digitValues] using isWhole.some) wholly
        (takeFraction_append some all stops.isDigit) stops.takePower_eq
        (.inl (by simpa [digitValues] using some)), length_digitValues]
      simp
  | @exponent first fraction power negativePower digit all some digits =>
      have isWhole := isWhole_digit digit
      have powered := takePower_append negativePower some digits stops.isDigit
      cases fraction with
      | nil =>
          have wholly : takeWhole ([first] ++ [] ++ 'e' :: signOf negativePower :: power ++ rest) =
              (digitValues [first], 'e' :: signOf negativePower :: power ++ rest) := by
            rw [List.append_nil, List.append_assoc]
            exact takeWhole_append isWhole (by simp)
          have partly : takeFraction ('e' :: signOf negativePower :: power ++ rest) =
              (digitValues [], 'e' :: signOf negativePower :: power ++ rest) := rfl
          have read : takeNumber start negative ([first] ++ [] ++
                'e' :: signOf negativePower :: power ++ rest) = _ :=
            takeNumber_of_float (List.cons_ne_nil _ _) wholly partly powered (.inr rfl)
          rw [length_digitValues] at read
          exact read
      | cons next fraction =>
          have wholly : takeWhole ([first] ++ '.' :: next :: fraction ++
                'e' :: signOf negativePower :: power ++ rest) =
              (digitValues [first], '.' :: (next :: fraction) ++
                ('e' :: signOf negativePower :: power ++ rest)) := by
            rw [List.append_assoc, List.append_assoc]
            exact takeWhole_append isWhole (by simp)
          have partly : takeFraction ('.' :: (next :: fraction) ++
                ('e' :: signOf negativePower :: power ++ rest)) =
              (digitValues (next :: fraction), 'e' :: signOf negativePower :: power ++ rest) :=
            takeFraction_append (List.cons_ne_nil next fraction) all (by simp)
          have read : takeNumber start negative ([first] ++ '.' :: next :: fraction ++
                'e' :: signOf negativePower :: power ++ rest) = _ :=
            takeNumber_of_float (List.cons_ne_nil _ _) wholly partly powered (.inr rfl)
          rw [length_digitValues] at read
          exact read

/-! ## Texts of doubles

Zeros stand before the digits of a number below one. The point of a greater one stands among its
digits or after zeros behind them, and beyond that an exponent is written. -/

def WritesValue (text : List Char) (value : ℚ) : Prop :=
  ∃ digits place, IsDecimal text digits place ∧ (∀ digit ∈ digits, digit < 10) ∧
    (ofDigits digits : ℚ) * 10 ^ place = value

private theorem IsDecimal.digits_lt {text : List Char} {digits : List ℕ} {place : ℤ}
    (decimal : IsDecimal text digits place) : ∀ digit ∈ digits, digit < 10 := by
  intro digit member
  cases decimal with
  | point isWhole some all =>
      rcases List.mem_append.mp member with front | back
      · exact digitValues_lt isWhole.all digit front
      · exact digitValues_lt all digit back
  | exponent _ leads all some powers =>
      rcases List.mem_append.mp member with front | back
      · exact digitValues_lt (isWhole_digit leads).all digit front
      · exact digitValues_lt all digit back

theorem IsDecimal.writes {text : List Char} {digits : List ℕ} {place : ℤ} {value : ℚ}
    (decimal : IsDecimal text digits place) (same : (ofDigits digits : ℚ) * 10 ^ place = value) :
    WritesValue text value :=
  ⟨digits, place, decimal, decimal.digits_lt, same⟩

variable {number : ℕ} {place leading : ℤ}

private theorem toDigits_leading (positive : 0 < number) :
    ∀ character ∈ (Nat.toDigits 10 number).head?, character ≠ '0' := by
  rcases (isWhole_toDigits number).leading with zero | leading
  · have value := ofDigits_toDigits number
    rw [zero] at value
    have nothing : ofDigits (digitValues ['0']) = 0 := rfl
    omega
  · exact leading

theorem digitValues_zeros (count : ℕ) :
    digitValues (List.replicate count '0') = List.replicate count 0 := by
  simp [digitValues]

theorem isDigit_of_mem_zeros {count number : ℕ} {character : Char}
    (member : character ∈ List.replicate count '0' ++ Nat.toDigits 10 number) :
    character.isDigit = true := by
  rcases List.mem_append.mp member with zero | digit
  · exact isDigit_of_mem_replicate zero
  · exact isDigit_of_mem_toDigits digit

private theorem writesValue_small (small : leading < 0)
    (same : leading = place + (Nat.toDigits 10 number).length - 1) :
    WritesValue (positional (Nat.toDigits 10 number) leading) (number * 10 ^ place) := by
  have shown : positional (Nat.toDigits 10 number) leading =
      ['0'] ++ '.' :: (List.replicate (-leading - 1).toNat '0' ++ Nat.toDigits 10 number) :=
    if_pos small
  have whole : IsWhole ['0'] := isWhole_toDigits 0
  rw [shown]
  refine (IsDecimal.point whole (by simp [Nat.toDigits_ne_nil]) fun _ =>
    isDigit_of_mem_zeros).writes ?_
  rw [ofDigits_append, digitValues_append, digitValues_zeros, ofDigits_zeros, ofDigits_toDigits]
  have nothing : ofDigits (digitValues ['0']) = 0 := rfl
  rw [nothing, zero_mul, zero_add, List.length_append, List.length_replicate]
  congr 2
  push_cast
  omega

private theorem isWhole_padded {characters : List Char} (whole : IsWhole characters)
    (leads : ∀ character ∈ characters.head?, character ≠ '0') (count : ℕ) :
    IsWhole (characters.take (count + 1) ++
      List.replicate (count + 1 - characters.length) '0') := by
  cases characters with
  | nil => exact absurd rfl whole.some
  | cons first rest =>
      refine ⟨List.cons_ne_nil _ _, fun character member => ?_, .inr leads⟩
      rcases List.mem_append.mp member with digit | zero
      · exact whole.all character (List.mem_of_mem_take digit)
      · exact isDigit_of_mem_replicate zero

private theorem writesValue_large (positive : 0 < number) (large : 0 ≤ leading)
    (same : leading = place + (Nat.toDigits 10 number).length - 1) :
    WritesValue (positional (Nat.toDigits 10 number) leading) (number * 10 ^ place) := by
  have whole := isWhole_toDigits number
  have padded := isWhole_padded whole (toDigits_leading positive) leading.toNat
  have value := ofDigits_toDigits number
  generalize Nat.toDigits 10 number = characters at *
  generalize wholes : leading.toNat + 1 = count at padded
  have shown : positional characters leading = characters.take count ++
      List.replicate (count - characters.length) '0' ++
      '.' :: (if (characters.drop count).isEmpty then ['0'] else characters.drop count) := by
    rw [← wholes]
    exact if_neg (by omega)
  rw [shown]
  rcases Nat.lt_or_ge count characters.length with inside | behind
  · have rest : characters.drop count ≠ [] := by simpa using inside
    rw [if_neg (by simpa using inside)]
    refine (IsDecimal.point padded rest fun character member =>
      whole.all character (List.mem_of_mem_drop member)).writes ?_
    rw [Nat.sub_eq_zero_of_le inside.le, List.replicate_zero, List.append_nil,
      ← digitValues_append, List.take_append_drop, value, List.length_drop]
    congr 2
    omega
  · have nothing : characters.drop count = [] := List.drop_eq_nil_of_le behind
    rw [nothing, List.isEmpty_nil, if_pos rfl]
    refine (IsDecimal.point padded (List.cons_ne_nil _ _) (by simp)).writes ?_
    rw [List.take_of_length_le behind, digitValues_append, ofDigits_append, ofDigits_append, value,
      digitValues_zeros]
    have zeros : ofDigits (List.replicate (count - characters.length) 0) = 0 := by
      have plain := ofDigits_zeros (count - characters.length) []
      rwa [List.append_nil] at plain
    have zero : ofDigits (digitValues ['0']) = 0 := rfl
    rw [zeros, zero, length_digitValues, List.length_replicate, List.length_singleton]
    have shift : place = ((count - characters.length : ℕ) : ℤ) := by omega
    rw [shift, zpow_natCast]
    push_cast
    rw [zpow_neg, zpow_one]
    ring

private theorem writesValue_exponential
    (same : leading = place + (Nat.toDigits 10 number).length - 1) :
    WritesValue (exponential (Nat.toDigits 10 number) leading) (number * 10 ^ place) := by
  have whole := isWhole_toDigits number
  have value := ofDigits_toDigits number
  generalize Nat.toDigits 10 number = characters at *
  cases characters with
  | nil => exact absurd rfl whole.some
  | cons first fraction =>
      generalize padded : List.replicate (2 - (Nat.toDigits 10 leading.natAbs).length) '0' ++
        Nat.toDigits 10 leading.natAbs = power
      have shown : exponential (first :: fraction) leading =
          [first] ++ (if fraction.isEmpty then [] else '.' :: fraction) ++
            'e' :: signOf (decide (leading < 0)) :: power := by
        rw [← padded]
        by_cases negative : leading < 0 <;> simp [exponential, signOf, negative] <;> rfl
      have powers : ∀ character ∈ power, character.isDigit = true := by
        rw [← padded]
        exact fun _ => isDigit_of_mem_zeros
      have powerValue : ofDigits (digitValues power) = leading.natAbs := by
        rw [← padded, digitValues_append, digitValues_zeros, ofDigits_zeros, ofDigits_toDigits]
      have digit := whole.all first List.mem_cons_self
      have fractions : ∀ character ∈ fraction, character.isDigit = true :=
        fun character member => whole.all character (List.mem_cons_of_mem _ member)
      have decimal := IsDecimal.exponent (decide (leading < 0)) digit fractions
        (by rw [← padded]; simp [Nat.toDigits_ne_nil]) powers
      rw [shown]
      refine decimal.writes ?_
      rw [← digitValues_append, powerValue, show [first] ++ fraction = first :: fraction from rfl,
        value]
      congr 2
      rw [List.length_cons] at same
      by_cases negative : leading < 0
      · rw [if_pos (by simpa using negative)]
        omega
      · rw [if_neg (by simpa using negative)]
        omega

private theorem writesValue_magnitude (layout : Layout) {significand : ℕ} {exponent : ℤ}
    (double : IsDouble significand exponent) (positive : 0 < significand) :
    WritesValue (layout.magnitude significand exponent) (shortest significand exponent).value := by
  have some := shortest_positive positive double
  unfold Layout.magnitude
  rw [if_neg (Nat.ne_of_gt positive)]
  dsimp only
  split
  · rcases Int.lt_or_le ((shortest significand exponent).exponent +
        (Nat.toDigits 10 (shortest significand exponent).digits).length - 1) 0 with small | large
    · exact writesValue_small small rfl
    · exact writesValue_large some large rfl
  · exact writesValue_exponential rfl

def signed (negative : Bool) (text : List Char) : List Char :=
  if negative then '-' :: text else text

/-- The text of a finite double is a decimal, next to which there is that double. -/
theorem characters_eq_signed (layout : Layout) {number : Float} {negative : Bool}
    {significand : ℕ} {exponent : ℤ}
    (finite : Exact.ofFloat number = .finite negative significand exponent) :
    ∃ text digits place, layout.characters number = signed negative text ∧
      IsDecimal text digits place ∧ floatOfDecimal negative digits place = number := by
  have double := isDouble_of_finite finite
  have shown : layout.characters number =
      signed negative (layout.magnitude significand exponent) := by
    unfold Layout.characters
    rw [finite]
    rfl
  rw [shown]
  rcases Nat.eq_zero_or_pos significand with rfl | positive
  · have least : exponent = leastExponent := by
      rcases double.leading with leading | least
      · omega
      · exact least
    have decimal := IsDecimal.point (isWhole_toDigits 0) (List.cons_ne_nil '0' []) (by simp)
    refine ⟨_, _, _, rfl, decimal, ?_⟩
    rw [← assemble_of_finite finite, least]
    rfl
  · rcases writesValue_magnitude layout double positive with ⟨digits, place, decimal, below, value⟩
    have holds := holds_shortest positive double
    rw [← value] at holds
    exact ⟨_, digits, place, rfl, decimal, floatOfDecimal_of_holds finite positive below holds⟩

theorem characters_of_nan {number : Float} (parts : Exact.ofFloat number = .nan) :
    numberLayout.characters number = ['N', 'a', 'N'] := by
  rw [Layout.characters, parts]
  rfl

theorem characters_of_infinite {number : Float} {negative : Bool}
    (parts : Exact.ofFloat number = .infinite negative) :
    numberLayout.characters number = signed negative ['I', 'n', 'f', 'i', 'n', 'i', 't', 'y'] := by
  rw [Layout.characters, parts]
  rfl

/-! ## Scalars -/

theorem takeNamed_eq_none {text : List Char}
    (absent : ∀ named ∈ namedValues, after? named.1 text = none) :
    (namedValues.findSome? fun (name, value) => (after? name text).map (value, ·)) = none := by
  rw [List.findSome?_eq_none_iff]
  intro named member
  exact Option.map_eq_none_iff.mpr (absent named member)

private theorem takeScalar_of_digit {first : Char} {rest : List Char}
    (digit : first.isDigit = true) :
    takeScalar (first :: rest) = takeNumber (first :: rest) false (first :: rest) := by
  have other (character : Char) (plain : character.isDigit = false) : character ≠ first := by
    rintro rfl
    rw [plain] at digit
    cases digit
  have absent : ∀ named ∈ namedValues, after? named.1 (first :: rest) = none := by
    simp [namedValues, after?, other _ (show 'n'.isDigit = false from rfl),
      other _ (show 't'.isDigit = false from rfl), other _ (show 'f'.isDigit = false from rfl),
      other _ (show 'N'.isDigit = false from rfl), other _ (show 'I'.isDigit = false from rfl),
      other _ (show '-'.isDigit = false from rfl)]
  unfold takeScalar
  rw [takeNamed_eq_none absent]
  dsimp only
  split
  · rename_i same
    cases same
    cases digit
  · rename_i same
    cases same
    cases digit
  · rfl

private theorem takeScalar_of_minus {first : Char} {rest : List Char}
    (digit : first.isDigit = true) :
    takeScalar ('-' :: first :: rest) = takeNumber ('-' :: first :: rest) true (first :: rest) := by
  have other : 'I' ≠ first := by
    rintro rfl
    cases digit
  have absent : ∀ named ∈ namedValues, after? named.1 ('-' :: first :: rest) = none := by
    simp [namedValues, after?, other]
  unfold takeScalar
  rw [takeNamed_eq_none absent]
  rfl

theorem takeScalar_signed (negative : Bool) {first : Char} (text : List Char)
    (digit : first.isDigit = true) :
    ∃ start, takeScalar (signed negative (first :: text)) =
      takeNumber start negative (first :: text) := by
  cases negative with
  | true => exact ⟨_, takeScalar_of_minus digit⟩
  | false => exact ⟨_, takeScalar_of_digit digit⟩

theorem signed_append (negative : Bool) (text rest : List Char) :
    signed negative text ++ rest = signed negative (text ++ rest) := by
  cases negative <;> rfl

/-- A finite double is read back from its text, whatever the layout is. -/
theorem takeScalar_characters (layout : Layout) {number : Float} {negative : Bool}
    {significand : ℕ} {exponent : ℤ}
    (finite : Exact.ofFloat number = .finite negative significand exponent) {rest : List Char}
    (stops : Stops rest) :
    takeScalar (layout.characters number ++ rest) = .ok (.float number, rest) := by
  rcases characters_eq_signed layout finite with ⟨text, digits, place, shown, decimal, value⟩
  have taken (start : List Char) := decimal.takeNumber_eq start negative stops
  rcases decimal.begins with ⟨first, others, rfl, digit⟩
  rcases takeScalar_signed negative (others ++ rest) digit with ⟨start, same⟩
  rw [shown, signed_append, List.cons_append, same, ← List.cons_append, taken start, value]

theorem toString_eq_signed (number : ℤ) :
    (toString number).toList = signed (decide (number < 0)) (Nat.toDigits 10 number.natAbs) := by
  rw [Int.toString_eq_repr, Int.repr_eq_if, signed]
  by_cases negative : number < 0
  · have size : (-number).toNat = number.natAbs := by omega
    rw [if_neg (by omega), if_pos (by simpa using negative), Nat.repr_eq_ofList_toDigits, size]
    simp
  · have size : number.toNat = number.natAbs := by omega
    rw [if_pos (by omega), if_neg (by simpa using negative), Nat.repr_eq_ofList_toDigits, size]
    simp

private theorem takeNumber_whole {digits rest : List Char} (whole : IsWhole digits)
    (short : digits.length ≤ mostIntegerDigits) (start : List Char) (negative : Bool)
    (stops : Stops rest) :
    takeNumber start negative (digits ++ rest) =
      .ok (.int (if negative then -(ofDigits (digitValues digits) : ℤ)
          else ofDigits (digitValues digits)),
        rest) := by
  have some : digitValues digits ≠ [] := by simpa [digitValues] using whole.some
  have count := length_digitValues digits
  rw [takeNumber, takeWhole_append whole stops.isDigit]
  generalize digitValues digits = numbers at *
  cases numbers with
  | nil => exact absurd rfl some
  | cons first numbers =>
      dsimp only
      rw [stops.takeFraction_eq]
      dsimp only
      rw [stops.takePower_eq]
      dsimp only
      rw [integerOfDigits, if_neg (by omega)]

/-- A whole number is read back from its text unless it has too many digits. -/
theorem takeScalar_toString {number : ℤ}
    (short : (Nat.toDigits 10 number.natAbs).length ≤ mostIntegerDigits) {rest : List Char}
    (stops : Stops rest) :
    takeScalar ((toString number).toList ++ rest) = .ok (.int number, rest) := by
  have whole := isWhole_toDigits number.natAbs
  have taken (start : List Char) := takeNumber_whole whole short start (decide (number < 0)) stops
  have value := ofDigits_toDigits number.natAbs
  rcases whole.begins with ⟨first, others, split, digit⟩
  rcases takeScalar_signed (decide (number < 0)) others digit with ⟨start, same⟩
  rw [toString_eq_signed, signed_append, split, same, ← split, taken start, value]
  congr 3
  by_cases negative : number < 0
  · rw [if_pos (by simpa using negative)]
    omega
  · rw [if_neg (by simpa using negative)]
    omega

end RpcSession.Json
