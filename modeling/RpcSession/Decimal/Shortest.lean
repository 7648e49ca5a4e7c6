import RpcSession.Decimal.Exact

/-!
# Shortest decimals

The shortest decimal of a positive double is the one with the fewest digits that lies among the
numbers which round to the double; of several it is the nearest, and a tie goes to the even digit.
-/

namespace RpcSession.Decimal

structure Digits where
  digits : Nat
  exponent : Int
  deriving DecidableEq, Repr

/-- The numbers that round to a double, in quarters of its last place: the open interval between
two bounds, or the closed one when the significand is even. Just above a power of two the doubles
below are twice as dense. -/
structure Neighbourhood where
  lower : Nat
  centre : Nat
  upper : Nat
  closed : Bool

namespace Neighbourhood

def ofSignificand (significand : Nat) (exponent : Int) : Neighbourhood where
  lower := if significand = Nat.pow 2 52 ∧ leastExponent < exponent then 4 * significand - 1
    else 4 * significand - 2
  centre := 4 * significand
  upper := 4 * significand + 2
  closed := significand % 2 == 0

/-- Whether `candidate` of the decimal unit lies in the neighbourhood, when `unit` and `quarter`
are the decimal unit and the quarter of the last place in a common measure. -/
def contains (neighbourhood : Neighbourhood) (quarter unit candidate : Nat) : Bool :=
  let point := candidate * unit
  let lower := neighbourhood.lower * quarter
  let upper := neighbourhood.upper * quarter
  if neighbourhood.closed then lower ≤ point && point ≤ upper
  else lower < point && point < upper

end Neighbourhood

/-- The best point of the decimal grid with the given unit, if one rounds to the double. -/
def bestOnGrid (neighbourhood : Neighbourhood) (quarter unit : Nat) : Option Nat :=
  let centre := neighbourhood.centre * quarter
  let below := centre / unit
  let above := below + 1
  match neighbourhood.contains quarter unit below, neighbourhood.contains quarter unit above with
  | false, false => none
  | true, false => some below
  | false, true => some above
  | true, true =>
      let fromBelow := centre - below * unit
      let fromAbove := above * unit - centre
      if fromBelow < fromAbove then some below
      else if fromAbove < fromBelow then some above
      else some (below + below % 2)

/-- A common measure for quarters of `2 ^ exponent` and units of `10 ^ power`. -/
def commonMeasure (exponent power : Int) : Nat × Nat :=
  let place := exponent - 2
  (Nat.pow 2 place.toNat * Nat.pow 10 (-power).toNat,
    Nat.pow 10 power.toNat * Nat.pow 2 (-place).toNat)

/-- The decimal exponent of the leading digit of `numerator / denominator`. -/
def leadingPower (numerator denominator : Nat) : Int :=
  let digitCount (number : Nat) : Int := (Nat.toDigits 10 number).length
  let estimate := digitCount numerator - digitCount denominator
  if denominator * Nat.pow 10 estimate.toNat ≤ numerator * Nat.pow 10 (-estimate).toNat then
    estimate
  else estimate - 1

/-- A double is determined by seventeen digits. -/
def mostDigits : Nat := 17

def dropTrailingZeros (fuel : Nat) (number : Digits) : Digits :=
  match fuel with
  | 0 => number
  | fuel + 1 =>
      if number.digits % 10 = 0 ∧ number.digits ≠ 0 then
        dropTrailingZeros fuel ⟨number.digits / 10, number.exponent + 1⟩
      else number

/-- The shortest decimal of the double `significand * 2 ^ exponent`, for a positive significand. -/
def shortest (significand : Nat) (exponent : Int) : Digits :=
  let neighbourhood := Neighbourhood.ofSignificand significand exponent
  let leading := leadingPower (significand * Nat.pow 2 exponent.toNat) (Nat.pow 2 (-exponent).toNat)
  let onGrid (count : Nat) : Option Digits :=
    let power := leading - count
    let (quarter, unit) := commonMeasure exponent power
    (bestOnGrid neighbourhood quarter unit).map (⟨·, power⟩)
  match (List.range mostDigits).findSome? onGrid with
  | some number => dropTrailingZeros mostDigits number
  | none => ⟨significand * Nat.pow 2 exponent.toNat, 0⟩

example : shortest 1 (-1074) = ⟨5, -324⟩ := by decide +kernel

example : shortest 0x1999999999999a (-56) = ⟨1, -1⟩ := by decide +kernel

end RpcSession.Decimal
