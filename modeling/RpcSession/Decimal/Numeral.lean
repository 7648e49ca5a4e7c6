import RpcSession.Decimal.Exact
import RpcSession.Text.Numeral

/-!
# Reading numerals

Whole numbers and doubles as people write them: blanks around, a sign, decimal digits of any
script, and single underscores between digits. A double may also be named: `inf`, `infinity` and
`nan` in any case.
-/

namespace RpcSession.Decimal

open Text (digitValue? trimBlanks)

def mostIntegerDigits : Nat := 4300

inductive IntegerFault where
  | malformed
  | tooLong (digits : Nat)
  deriving DecidableEq, Repr

def ofDigits (digits : List Nat) : Nat :=
  digits.foldl (fun number digit => 10 * number + digit) 0

/-- The digits before anything else, single underscores between them left out, and the rest. -/
def takeDigits : List Char → List Nat × List Char
  | [] => ([], [])
  | '_' :: next :: rest =>
      match digitValue? next with
      | some digit =>
          let (digits, rest) := takeDigits rest
          (digit :: digits, rest)
      | none => ([], '_' :: next :: rest)
  | character :: rest =>
      match digitValue? character with
      | some digit =>
          let (digits, rest) := takeDigits rest
          (digit :: digits, rest)
      | none => ([], character :: rest)

/-- A run of digits that does not begin with an underscore. -/
def takeNumeral : List Char → List Nat × List Char
  | '_' :: rest => ([], '_' :: rest)
  | characters => takeDigits characters

def takeSign : List Char → Bool × List Char
  | '-' :: rest => (true, rest)
  | '+' :: rest => (false, rest)
  | characters => (false, characters)

def integerOfDigits (negative : Bool) (digits : List Nat) : Except IntegerFault Int :=
  if mostIntegerDigits < digits.length then .error (.tooLong digits.length)
  else
    let number : Int := ofDigits digits
    .ok (if negative then -number else number)

def readInteger (text : String) : Except IntegerFault Int :=
  let (negative, unsigned) := takeSign (trimBlanks text.toList)
  match takeNumeral unsigned with
  | ([], _) => .error .malformed
  | (digits, []) => integerOfDigits negative digits
  | (_, _ :: _) => .error .malformed

/-! ## Doubles -/

/-- The double nearest to `digits * 10 ^ exponent`. Far beyond the range of doubles the powers of
ten are not computed. -/
def floatOfDecimal (negative : Bool) (digits : List Nat) (exponent : Int) : Float :=
  let significant := digits.dropWhile (· == 0)
  let leading := exponent + significant.length
  if significant.isEmpty ∨ leading < -400 then nearestFloat negative 0 1
  else if 400 < leading then assemble negative (Nat.pow 2 52) 972
  else
    nearestFloat negative (ofDigits significant * Nat.pow 10 exponent.toNat)
      (Nat.pow 10 (-exponent).toNat)

def takeExponent (characters : List Char) : Int × List Char :=
  match characters with
  | mark :: rest =>
      if mark == 'e' || mark == 'E' then
        let (negative, unsigned) := takeSign rest
        match takeNumeral unsigned with
        | ([], _) => (0, characters)
        | (digits, rest) =>
            (if negative then -(ofDigits digits : Int) else ofDigits digits, rest)
      else (0, characters)
  | [] => (0, [])

def takeFraction : List Char → List Nat × List Char
  | '.' :: rest => takeNumeral rest
  | characters => ([], characters)

private def named? (negative : Bool) (characters : List Char) : Option Float :=
  let name := String.ofList (characters.map Char.toLower)
  if name == "inf" || name == "infinity" then some (assemble negative (Nat.pow 2 52) 972)
  else if name == "nan" then some (Float.ofBits 0x7ff8000000000000)
  else none

def readFloat? (text : String) : Option Float :=
  let (negative, unsigned) := takeSign (trimBlanks text.toList)
  match named? negative unsigned with
  | some number => some number
  | none =>
      let (whole, rest) := takeNumeral unsigned
      let (fraction, rest) := takeFraction rest
      let (power, rest) := takeExponent rest
      if (whole.isEmpty && fraction.isEmpty) || !rest.isEmpty then none
      else some (floatOfDecimal negative (whole ++ fraction) (power - fraction.length))

example : readInteger " 1_0 " = .ok 10 ∧ readInteger "1__0" = .error .malformed := by
  constructor <;> rfl

example : (readFloat? "-1.5e1").map Float.toBits = some 0xc02e000000000000 := by decide +kernel

end RpcSession.Decimal
