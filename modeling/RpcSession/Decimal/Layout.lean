import RpcSession.Decimal.Shortest

/-!
# Texts of doubles

A double is written with its shortest digits, positionally while its leading digit is not too far
from the point and with an exponent otherwise. A positional whole number keeps one zero after the
point, and an exponent has a sign and at least two digits.
-/

namespace RpcSession.Decimal

/-- The choices that differ between places where doubles are written. -/
structure Layout where
  /-- Leading digits at this power of ten or above are written positionally … -/
  leastPositional : Int
  /-- … below this power. -/
  firstExponential : Int
  notANumber : String
  infinity : String

def displayLayout : Layout := ⟨-4, 16, "nan", "inf"⟩

private def zeros (count : Nat) : List Char := List.replicate count '0'

def positional (digits : List Char) (leading : Int) : List Char :=
  if leading < 0 then
    '0' :: '.' :: zeros (-leading - 1).toNat ++ digits
  else
    let whole := leading.toNat + 1
    let fraction := digits.drop whole
    digits.take whole ++ zeros (whole - digits.length) ++
      '.' :: (if fraction.isEmpty then ['0'] else fraction)

def exponential (digits : List Char) (leading : Int) : List Char :=
  let fraction := digits.drop 1
  let power := Nat.toDigits 10 leading.natAbs
  digits.take 1 ++ (if fraction.isEmpty then [] else '.' :: fraction) ++
    'e' :: (if leading < 0 then '-' else '+') :: zeros (2 - power.length) ++ power

namespace Layout

def magnitude (layout : Layout) (significand : Nat) (exponent : Int) : List Char :=
  if significand = 0 then ['0', '.', '0']
  else
    let number := shortest significand exponent
    let digits := Nat.toDigits 10 number.digits
    let leading := number.exponent + digits.length - 1
    if layout.leastPositional ≤ leading ∧ leading < layout.firstExponential then
      positional digits leading
    else exponential digits leading

def characters (layout : Layout) (number : Float) : List Char :=
  let signed (negative : Bool) (text : List Char) := if negative then '-' :: text else text
  match Exact.ofFloat number with
  | .nan => layout.notANumber.toList
  | .infinite negative => signed negative layout.infinity.toList
  | .finite negative significand exponent =>
      signed negative (layout.magnitude significand exponent)

def text (layout : Layout) (number : Float) : String :=
  String.ofList (layout.characters number)

end Layout

example : displayLayout.characters (Float.ofBits 0x4341c37937e08000) =
    ['1', 'e', '+', '1', '6'] := by decide +kernel

example : displayLayout.characters (Float.ofBits 0x8000000000000000) =
    ['-', '0', '.', '0'] := by decide +kernel

end RpcSession.Decimal
