import RpcSession.Decimal.Shortest

/-!
# Doubles with a number of places

A double is written with a given number of places after the point, or with a given number of
digits and a power of ten; a half goes to the even neighbour. The general form takes a number of
digits, writes them positionally while the leading digit is not too far from the point, and drops
zeros at the end.
-/

namespace RpcSession.Decimal

private def places (count : Nat) (number : Nat) : List Char :=
  let digits := Nat.toDigits 10 number
  List.replicate (count - digits.length) '0' ++ digits

/-- A number of places after which no double has any digits but zeros, counted from its first digit
or from the point. -/
def mostPlaces : Nat := 1100

private def quotient (significand : Nat) (exponent : Int) : Nat × Nat :=
  (significand * Nat.pow 2 exponent.toNat, Nat.pow 2 (-exponent).toNat)

/-- The first digits of a positive double, as a whole number, and the power of ten of the first. -/
def leadingDigits (count significand : Nat) (exponent : Int) : Nat × Int :=
  let (numerator, denominator) := quotient significand exponent
  let leading := leadingPower numerator denominator
  let unit := leading - (count - 1 : Nat)
  let digits :=
    roundQuotient (numerator * Nat.pow 10 (-unit).toNat) (denominator * Nat.pow 10 unit.toNat)
  if digits = Nat.pow 10 count then (Nat.pow 10 (count - 1), leading + 1) else (digits, leading)

/-- A whole and a fractional part; the point may be kept although nothing follows. -/
private def joined (whole fraction : List Char) (keepPoint : Bool) : List Char :=
  whole ++ if fraction.isEmpty && !keepPoint then [] else '.' :: fraction

private def filled (count : Nat) (digits : List Char) : List Char :=
  digits ++ List.replicate (count - mostPlaces) '0'

def fixedText (count : Nat) (keepPoint : Bool) (significand : Nat) (exponent : Int) : List Char :=
  let (numerator, denominator) := quotient significand exponent
  let exact := min count mostPlaces
  let digits := places (exact + 1) (roundQuotient (numerator * Nat.pow 10 exact) denominator)
  joined (digits.take (digits.length - exact))
    (filled count (digits.drop (digits.length - exact))) keepPoint

private def powerText (mark : Char) (power : Int) : List Char :=
  mark :: (if power < 0 then '-' else '+') :: places 2 power.natAbs

private def digitsOf (count significand : Nat) (exponent : Int) : List Char × Int :=
  let exact := min count mostPlaces
  let (digits, leading) :=
    if significand = 0 then (0, 0) else leadingDigits exact significand exponent
  (places exact digits, leading)

def scientificText (mark : Char) (count : Nat) (keepPoint : Bool) (significand : Nat)
    (exponent : Int) : List Char :=
  let (digits, leading) := digitsOf (count + 1) significand exponent
  joined (digits.take 1) (filled (count + 1) (digits.drop 1)) keepPoint ++ powerText mark leading

private def dropLastZeros (digits : List Char) : List Char :=
  (digits.reverse.dropWhile (· == '0')).reverse

/-- A double with a number of digits in the general form; zeros at the end may be kept. -/
def generalText (mark : Char) (count : Nat) (keepZeros : Bool) (significand : Nat)
    (exponent : Int) : List Char :=
  let count := max count 1
  let (digits, leading) := digitsOf count significand exponent
  let trimmed (fraction : List Char) :=
    if keepZeros then filled count fraction else dropLastZeros fraction
  if leading < -4 ∨ (count : Int) ≤ leading then
    joined (digits.take 1) (trimmed (digits.drop 1)) keepZeros ++ powerText mark leading
  else if leading < 0 then
    joined ['0'] (trimmed (List.replicate (-leading - 1).toNat '0' ++ digits)) keepZeros
  else
    joined (digits.take (leading.toNat + 1)) (trimmed (digits.drop (leading.toNat + 1))) keepZeros

example : fixedText 2 false 5 (-2) = ['1', '.', '2', '5'] := by decide +kernel

example : fixedText 0 false 5 (-1) = ['2'] := by decide +kernel

example : scientificText 'e' 1 false 999 0 = ['1', '.', '0', 'e', '+', '0', '3'] := by
  decide +kernel

example : generalText 'e' 3 false 5 (-2) = ['1', '.', '2', '5'] := by decide +kernel

end RpcSession.Decimal
