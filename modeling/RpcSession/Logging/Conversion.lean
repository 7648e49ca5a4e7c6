import RpcSession.Decimal.Numeral
import RpcSession.Decimal.Rounded
import RpcSession.Logging.Fault

/-!
# Conversions of values

A conversion says how a value is written into a template: as which kind of text or number, how
wide at least, with how many digits or characters, and with which sign.
-/

namespace RpcSession.Logging

structure Conversion where
  leftAligned : Bool := false
  signed : Bool := false
  spaced : Bool := false
  alternate : Bool := false
  zeroFilled : Bool := false
  width : Nat := 0
  precision : Option Nat := none
  kind : Char := 's'
  /-- Where the kind stands in the template. -/
  index : Nat := 0

namespace Conversion

/-! ## Reading conversions -/

def setFlag? (conversion : Conversion) : Char → Option Conversion
  | '-' => some { conversion with leftAligned := true }
  | '+' => some { conversion with signed := true }
  | ' ' => some { conversion with spaced := true }
  | '#' => some { conversion with alternate := true }
  | '0' => some { conversion with zeroFilled := true }
  | _ => none

def takeFlags (conversion : Conversion) : List Char → Conversion × List Char
  | [] => (conversion, [])
  | character :: rest =>
      match conversion.setFlag? character with
      | some conversion => takeFlags conversion rest
      | none => (conversion, character :: rest)

/-- A number in digits, or the next value in place of a star, with the values and the text that are
left. Values go from one below the negative limit up to the limit, as machine words do. -/
def takeMeasure (limit : Nat) (tooBig : Fault) (values : List Value) :
    List Char → Except Fault (Option Int × List Value × List Char)
  | '*' :: rest =>
      let measured (number : Int) (values : List Value) :=
        if -(limit : Int) - 1 ≤ number ∧ number ≤ limit then .ok (some number, values, rest)
        else .error .beyondWords
      match values with
      | [] => .error .fewArguments
      | .int number :: values => measured number values
      | .bool truth :: values => measured truth.toInt values
      | _ => .error .starNotWhole
  | characters =>
      let digits := characters.takeWhile Char.isDigit
      let number := Decimal.ofDigits (digits.map (·.toNat - 0x30))
      if digits.isEmpty then .ok (none, values, characters)
      else if limit < number then .error tooBig
      else .ok (some number, values, characters.drop digits.length)

def mostWidth : Nat := Nat.pow 2 63 - 1

def mostPrecision : Nat := Nat.pow 2 31 - 1

/-- A negative width asks for alignment at the left, except that the least one, whose opposite is no
word, asks for no width. -/
def takeWidth (conversion : Conversion) (values : List Value) (characters : List Char) :
    Except Fault (Conversion × List Value × List Char) := do
  let (width, values, rest) ← takeMeasure mostWidth .widthTooBig values characters
  let width := width.getD 0
  return ({ conversion with
    leftAligned := conversion.leftAligned || width < 0
    width := if width.natAbs ≤ mostWidth then width.natAbs else 0 }, values, rest)

def takePrecision (conversion : Conversion) (values : List Value) :
    List Char → Except Fault (Conversion × List Value × List Char)
  | '.' :: characters => do
      let (precision, values, rest) ← takeMeasure mostPrecision .precisionTooBig values characters
      return ({ conversion with precision := some (precision.getD 0).toNat }, values, rest)
  | characters => .ok (conversion, values, characters)

def dropSize : List Char → List Char
  | 'h' :: rest | 'l' :: rest | 'L' :: rest => rest
  | characters => characters

/-- The conversion at the front of the text, given the values for stars, with the values and the
text that are left. -/
def take (length : Nat) (values : List Value) (characters : List Char) :
    Except Fault (Conversion × List Value × List Char) := do
  let (conversion, rest) := takeFlags {} characters
  let (conversion, values, rest) ← conversion.takeWidth values rest
  let (conversion, values, rest) ← conversion.takePrecision values rest
  match dropSize rest with
  | [] => throw .incompleteConversion
  | kind :: rest =>
      return ({ conversion with kind, index := length - rest.length - 1 }, values, rest)

/-! ## Writing values -/

/-- What is written of a value apart from its padding. -/
structure Parts where
  zeroFilled : Bool := false
  sign : List Char := []
  base : List Char := []
  body : List Char

/-- The longest filling, with blanks or zeros, for which there is room. -/
def room : Nat := Nat.pow 2 27

def requireRoom (length : Nat) : Except Fault Unit :=
  if room < length then .error .noRoom else .ok ()

/-- The parts in their width: zeros go after the sign and the base, blanks around. -/
def padded (conversion : Conversion) (parts : Parts) : List Char :=
  let text := parts.sign ++ parts.base ++ parts.body
  let missing := conversion.width - text.length
  if conversion.leftAligned then text ++ List.replicate missing ' '
  else if parts.zeroFilled then
    parts.sign ++ parts.base ++ List.replicate missing '0' ++ parts.body
  else List.replicate missing ' ' ++ text

def ofText (conversion : Conversion) (text : String) : Parts where
  body := match conversion.precision with
    | none => text.toList
    | some most => text.toList.take most

def ofNumber (conversion : Conversion) (negative : Bool) (base body : List Char) : Parts where
  zeroFilled := conversion.zeroFilled
  sign :=
    if negative then ['-']
    else if conversion.signed then ['+']
    else if conversion.spaced then [' ']
    else []
  base := base
  body := body

def asciiText (text : List Char) : List Char :=
  text.flatMap fun character =>
    if character.toNat < 0x80 then [character] else Text.Quoted.escapeCode character.toNat

/-- A value as a whole number; a double loses its fraction. -/
def whole (kind : Char) : Value → Except Fault Int
  | .int number => .ok number
  | .bool truth => .ok truth.toInt
  | .float number =>
      match Decimal.Exact.ofFloat number with
      | .nan => .error .wholeOfNan
      | .infinite _ => .error .wholeOfInfinity
      | .finite negative significand exponent =>
          let magnitude : Int :=
            significand * Nat.pow 2 exponent.toNat / Nat.pow 2 (-exponent).toNat
          .ok (if negative then -magnitude else magnitude)
  | value => .error (.notANumber kind value.typeName)

/-- The digits of a number, at least as many as the precision, which must leave room for a sign and
a base. -/
def wholeDigits (conversion : Conversion) (base : Nat) (number : Int) :
    Except Fault (List Char) := do
  let least := conversion.precision.getD 0
  if mostPrecision - 3 < least then throw .precisionTooLarge
  requireRoom least
  let digits := Nat.toDigits base number.natAbs
  return List.replicate (least - digits.length) '0' ++ digits

def ofWhole (conversion : Conversion) (value : Value) : Except Fault Parts := do
  let number ← whole conversion.kind value
  return conversion.ofNumber (number < 0) [] (← conversion.wholeDigits 10 number)

def ofBased (conversion : Conversion) (base : Nat) (value : Value) : Except Fault Parts := do
  let number ← match value with
    | .int number => pure number
    | .bool truth => pure truth.toInt
    | _ => throw (.notAnInteger conversion.kind value.typeName)
  let mark := if conversion.alternate then ['0', conversion.kind] else []
  let digits ← conversion.wholeDigits base number
  return conversion.ofNumber (number < 0) mark
    (if conversion.kind = 'X' then digits.map Char.toUpper else digits)

def doubleOf : Value → Except Fault Float
  | .float number => .ok number
  | .bool truth => .ok (Decimal.floatOfInt truth.toInt)
  | .int number =>
      let converted := Decimal.floatOfInt number
      if converted.isInf then .error .beyondDoubles else .ok converted
  | value => .error (.notADouble value.typeName)

/-- With a power of ten, the largest precision leaves no place for the first digit and counts as
none. General texts that drop their last zeros fit any precision. -/
def ofDouble (conversion : Conversion) (value : Value) : Except Fault Parts := do
  let form := conversion.kind.toLower
  let count := conversion.precision.getD 6
  let count := if form = 'e' ∧ count = mostPrecision then 0 else count
  let capital := conversion.kind.isUpper
  let named (name : List Char) := if capital then name.map Char.toUpper else name
  let mark := if capital then 'E' else 'e'
  match Decimal.Exact.ofFloat (← doubleOf value) with
  | .nan => return conversion.ofNumber false [] (named ['n', 'a', 'n'])
  | .infinite negative => return conversion.ofNumber negative [] (named ['i', 'n', 'f'])
  | .finite negative significand exponent =>
      unless form = 'g' ∧ !conversion.alternate do requireRoom count
      let body := match form with
        | 'f' => Decimal.fixedText count conversion.alternate significand exponent
        | 'e' => Decimal.scientificText mark count conversion.alternate significand exponent
        | _ => Decimal.generalText mark count conversion.alternate significand exponent
      return conversion.ofNumber negative [] body

def characterOf (value : Value) : Except Fault Char :=
  let coded (code : Int) :=
    if 0 ≤ code ∧ code < 0x110000 then .ok (Char.ofNat code.toNat) else .error .noCharacter
  match value with
  | .int code => coded code
  | .bool truth => coded truth.toInt
  | .string text =>
      match text.toList with
      | [character] => .ok character
      | _ => .error .notACharacter
  | _ => .error .notACharacter

def parts (conversion : Conversion) (value : Value) : Except Fault Parts :=
  match conversion.kind with
  | 's' => .ok (conversion.ofText value.display)
  | 'r' => .ok (conversion.ofText value.literal)
  | 'a' => .ok (conversion.ofText (String.ofList (asciiText value.literal.toList)))
  | 'd' | 'i' | 'u' => conversion.ofWhole value
  | 'o' => conversion.ofBased 8 value
  | 'x' | 'X' => conversion.ofBased 16 value
  | 'e' | 'E' | 'f' | 'F' | 'g' | 'G' => conversion.ofDouble value
  | 'c' => do return { body := [← characterOf value] }
  | kind => .error (.unknownConversion kind conversion.index)

def write (conversion : Conversion) (value : Value) : Except Fault (List Char) := do
  let parts ← conversion.parts value
  requireRoom conversion.width
  return conversion.padded parts

end Conversion

end RpcSession.Logging
