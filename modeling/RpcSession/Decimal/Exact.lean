/-!
# Doubles as exact numbers

A finite double is a whole significand times a power of two. `Exact.ofFloat` reads it off the
bits, `nearest` finds the double next to a quotient of whole numbers, and `toFloat` goes back.
-/

namespace RpcSession.Decimal

inductive Exact where
  | nan
  | infinite (negative : Bool)
  | finite (negative : Bool) (significand : Nat) (exponent : Int)
  deriving DecidableEq, Repr

def leastExponent : Int := -1074

namespace Exact

def ofFloat (number : Float) : Exact :=
  let bits := number.toBits.toNat
  let negative := decide (Nat.pow 2 63 ≤ bits)
  let fraction := bits % Nat.pow 2 52
  let scale : Nat := bits / Nat.pow 2 52 % Nat.pow 2 11
  if scale = Nat.pow 2 11 - 1 then
    if fraction = 0 then infinite negative else nan
  else if scale = 0 then finite negative fraction leastExponent
  else finite negative (Nat.pow 2 52 + fraction) ((scale : Int) - 1075)

end Exact

/-! ## Rounding to the nearest double -/

/-- The whole number nearest to a quotient; a half goes to the even neighbour. -/
def roundQuotient (numerator denominator : Nat) : Nat :=
  let quotient := numerator / denominator
  let remainder := numerator % denominator
  if 2 * remainder < denominator then quotient
  else if denominator < 2 * remainder then quotient + 1
  else quotient + quotient % 2

/-- The numerator and denominator of a quotient divided by a power of two. -/
def unscale (numerator denominator : Nat) (exponent : Int) : Nat × Nat :=
  (numerator * Nat.pow 2 (-exponent).toNat, denominator * Nat.pow 2 exponent.toNat)

/-- The exponent of the last binary place that a double has near the quotient. -/
def lastPlace (numerator denominator : Nat) : Int :=
  let estimate : Int := (numerator.log2 : Int) - denominator.log2
  let (scaledNumerator, scaledDenominator) := unscale numerator denominator estimate
  let leading := if scaledDenominator ≤ scaledNumerator then estimate else estimate - 1
  max leastExponent (leading - 52)

/-- The double nearest to a quotient of whole numbers, were the exponents unbounded above: a
significand and the power of two it counts. -/
def nearest (numerator denominator : Nat) : Nat × Int :=
  let place := lastPlace numerator denominator
  let (scaledNumerator, scaledDenominator) := unscale numerator denominator place
  (roundQuotient scaledNumerator scaledDenominator, place)

/-- The double of a rounded significand, infinite when it lies beyond the largest. -/
def assemble (negative : Bool) (significand : Nat) (exponent : Int) : Float :=
  let (significand, exponent) :=
    if significand = Nat.pow 2 53 then (Nat.pow 2 52, exponent + 1) else (significand, exponent)
  let magnitude :=
    if significand < Nat.pow 2 52 then significand
    else if 971 < exponent then (Nat.pow 2 11 - 1) * Nat.pow 2 52
    else (exponent + 1075).toNat * Nat.pow 2 52 + (significand - Nat.pow 2 52)
  Float.ofBits (UInt64.ofNat (magnitude + if negative then Nat.pow 2 63 else 0))

def nearestFloat (negative : Bool) (numerator denominator : Nat) : Float :=
  if numerator = 0 then assemble negative 0 leastExponent
  else
    let (significand, exponent) := nearest numerator denominator
    assemble negative significand exponent

def floatOfInt (number : Int) : Float :=
  nearestFloat (number < 0) number.natAbs 1

example : (nearestFloat false 1 10).toBits = 0x3fb999999999999a := by decide +kernel

example : (floatOfInt (-3)).toBits = 0xc008000000000000 := by decide +kernel

end RpcSession.Decimal
